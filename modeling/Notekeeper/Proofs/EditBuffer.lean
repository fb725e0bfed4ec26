import Notekeeper.Note
import Notekeeper.Proofs.Text.Search

/-!
# Edit buffers read back

A buffer is shown as its title on a line, an empty line and its content.  The text is read by
cutting it at the first newline: what stands before it is the title, less the carriage returns at
its end, and what stands behind it is the content, less one empty line at the front.

So the title has to stand on one line.  A title with a newline would be cut, and a title that ends
in a carriage return would lose it; any other title comes back, and the content comes back whatever
it is, because the empty line that is dropped is the one that was added.  Every title that was read
from a text is of this kind: it was cut at the first newline, and was trimmed.  From these two facts
it follows that reading, showing and reading again gives what was read first.

Line ends of the other kind are read alike.  The carriage return that they leave behind the title is
trimmed, and the one that they leave in the empty line is part of that line.

The program compares buffers by the fingerprints of their texts.  This is sound only if a text tells
which buffer it is of, and it does as long as the title holds no newline: the first newline of the
text is then the end of the title (`format_inj`), also where the title would not read back.

* `EditBuffer.parse_format_iff` : a buffer reads back just if its title fits on a line.
* `EditBuffer.parse_format_parse` : so does every buffer that was read from a text.
* `EditBuffer.parse_crlf` : line ends of either kind are read alike.
* `EditBuffer.format_inj` : buffers with one text are the same.
* `buffers_read_back` : all of this together.
-/

namespace Notekeeper

/-! ## 1. Trimmed ends -/

namespace Text

/-- Trimming a text leaves no character behind that could be trimmed. -/
theorem trimEndWhile_of_getLast? {p : Char → Bool} {cs : List Char}
    (h : ∀ c ∈ cs.getLast?, p c = false) : trimEndWhile p cs = cs := by
  rw [trimEndWhile]
  rw [List.getLast?_eq_head?_reverse] at h
  cases hr : cs.reverse with
  | nil => simp [List.reverse_eq_nil_iff.1 hr]
  | cons c rest =>
    have hc : p c = false := h c (by rw [hr]; rfl)
    rw [List.dropWhile_cons, hc, ← hr]
    simp

theorem getLast?_trimEndWhile {p : Char → Bool} {cs : List Char} :
    ∀ c ∈ (trimEndWhile p cs).getLast?, p c = false := by
  intro c hc
  rw [trimEndWhile, List.getLast?_reverse] at hc
  have hhead := List.head?_dropWhile_not p cs.reverse
  rw [Option.mem_def.1 hc] at hhead
  simpa using hhead

theorem mem_of_mem_trimEndWhile {p : Char → Bool} {cs : List Char} {c : Char}
    (h : c ∈ trimEndWhile p cs) : c ∈ cs := by
  rw [trimEndWhile, List.mem_reverse] at h
  exact List.mem_reverse.1 ((List.dropWhile_suffix p).subset h)

end Text

/-! ## 2. Titles on a line of their own

A title fits if it is what a line is once its end is trimmed. -/

namespace EditBuffer

/-- **Whether a title can stand on the first line**: no line ends in it, nor does a carriage
return that would be taken for part of a line end. -/
structure TitleFits (title : String) : Prop where
  newline : '\n' ∉ title.toList
  carriageReturn : ∀ c ∈ title.toList.getLast?, c ≠ '\r'

/-- **What is read from a text with a first line.**  Both parts are trimmed on the side where they
were cut. -/
theorem parse_of_line {text : String} {line rest : List Char} (hline : '\n' ∉ line)
    (htext : text.toList = line ++ '\n' :: rest) :
    parse text = { title := String.ofList (Text.trimEndWhile (· = '\r') line)
                   content := String.ofList (dropBlankLine rest) } := by
  unfold parse
  rw [htext, Text.splitAt_append hline]
  rfl

theorem toList_format (b : EditBuffer) :
    b.format.toList = b.title.toList ++ '\n' :: '\n' :: b.content.toList := by
  simp [format, separator]

/-- **A buffer whose title fits on a line reads back** as exactly what it was, whatever its content
is. -/
theorem parse_format {b : EditBuffer} (h : TitleFits b.title) : parse b.format = b := by
  have htrim : Text.trimEndWhile (· = '\r') b.title.toList = b.title.toList :=
    Text.trimEndWhile_of_getLast? fun c hc => decide_eq_false (h.carriageReturn c hc)
  rw [parse_of_line h.newline b.toList_format, htrim]
  simp [dropBlankLine]

/-- The title that is read from a text fits on a line. -/
theorem titleFits_parse (text : String) : TitleFits (parse text).title := by
  -- What stands before the first newline holds none, and is all of a text that has none.
  have hline : '\n' ∉ ((Text.splitAt '\n' text.toList).getD (text.toList, [])).1 := by
    cases h : Text.splitAt '\n' text.toList with
    | none => exact Text.splitAt_eq_none.1 h
    | some parts => exact (Text.splitAt_eq_some h).2
  constructor
  · intro hmem
    have hmem' := String.toList_ofList ▸ hmem
    exact hline (Text.mem_of_mem_trimEndWhile hmem')
  · intro c hc
    have hc' := String.toList_ofList ▸ hc
    exact of_decide_eq_false (Text.getLast?_trimEndWhile c hc')

/-- **What was read from a text comes back from its own text**, though that need not be the text it
was read from. -/
theorem parse_format_parse (text : String) : parse (parse text).format = parse text :=
  parse_format (titleFits_parse text)

/-- **A buffer reads back just if its title fits on a line.** -/
theorem parse_format_iff {b : EditBuffer} : parse b.format = b ↔ TitleFits b.title := by
  constructor
  · intro h
    have hfits := titleFits_parse b.format
    rwa [h] at hfits
  · exact parse_format

/-! ## 3. Line ends -/

/-- A carriage return behind a title is part of the end of its line. -/
theorem trimEndWhile_append_carriageReturn (line : List Char) :
    Text.trimEndWhile (· = '\r') (line ++ ['\r']) = Text.trimEndWhile (· = '\r') line := by
  simp [Text.trimEndWhile]

/-- **Line ends of either kind are read alike**, after a title that holds no newline. -/
theorem parse_crlf {title : String} (h : '\n' ∉ title.toList) (content : String) :
    parse (title ++ "\r\n\r\n" ++ content) = parse (title ++ "\n\n" ++ content) := by
  have hcrlf : (title ++ "\r\n\r\n" ++ content).toList
      = (title.toList ++ ['\r']) ++ '\n' :: '\r' :: '\n' :: content.toList := by
    simp
  have hlf : (title ++ "\n\n" ++ content).toList
      = title.toList ++ '\n' :: '\n' :: content.toList := by
    simp
  have hline : '\n' ∉ title.toList ++ ['\r'] := by
    simp [h]
  rw [parse_of_line hline hcrlf, parse_of_line h hlf, trimEndWhile_append_carriageReturn]
  rfl

/-! ## 4. Telling buffers apart

Here the title may end in a carriage return.  Such a buffer does not read back, but its text is
still the text of no other one. -/

/-- **Buffers with one text are the same**, if their titles hold no newline. -/
theorem format_inj {b b' : EditBuffer} (h : '\n' ∉ b.title.toList) (h' : '\n' ∉ b'.title.toList) :
    b.format = b'.format ↔ b = b' := by
  constructor
  · intro hsame
    -- The first newline of the text ends the title of the one as of the other.
    have hcut := Text.splitAt_append h ('\n' :: b.content.toList)
    have hcut' := Text.splitAt_append h' ('\n' :: b'.content.toList)
    rw [← toList_format] at hcut hcut'
    rw [hsame, hcut'] at hcut
    obtain ⟨htitle, hrest⟩ := Prod.mk.inj (Option.some.inj hcut)
    have hcontent := (List.cons.inj hrest).2
    cases b
    cases b'
    rw [String.toList_inj] at htitle hcontent
    exact (congr (congrArg EditBuffer.mk htitle) hcontent).symm
  · rintro rfl
    rfl

end EditBuffer

namespace Note

/-- **Whether two texts have one fingerprint** only if they are the same.  A fingerprint is shorter
than a text, so this cannot hold of all pairs. -/
def ToldByFingerprint (text text' : String) : Prop :=
  Fingerprint.ofText text = Fingerprint.ofText text' → text = text'

variable {n n' : Note} {raw raw' : Bool}

/-- Notes have one text if what is edited of them is the same. -/
theorem format_buffer_inj (h : '\n' ∉ n.title.toList) (h' : '\n' ∉ n'.title.toList) :
    (n.buffer raw).format = (n'.buffer raw').format
      ↔ n.title = n'.title ∧ n.editableContent raw = n'.editableContent raw' := by
  have hline : '\n' ∉ (n.buffer raw).title.toList := h
  have hline' : '\n' ∉ (n'.buffer raw').title.toList := h'
  rw [EditBuffer.format_inj hline hline', buffer, buffer, EditBuffer.mk.injEq]

/-- **Comparing the fingerprints** that loaded notes remember is comparing what is edited of
them. -/
theorem mdHash_markLoaded_inj (h : '\n' ∉ n.title.toList) (h' : '\n' ∉ n'.title.toList)
    (htold : ToldByFingerprint (n.buffer raw).format (n'.buffer raw').format) :
    (n.markLoaded raw).mdHash = (n'.markLoaded raw').mdHash
      ↔ n.title = n'.title ∧ n.editableContent raw = n'.editableContent raw' := by
  rw [← format_buffer_inj h h', markLoaded, markLoaded, Option.some.injEq]
  exact ⟨htold, congrArg Fingerprint.ofText⟩

end Note

/-- **Edit buffers read back** just if their titles fit on a line; what was read once is read the
same again, whichever its line ends; and titles without a newline are told from their contents, by
the texts of the buffers and so by their fingerprints. -/
theorem buffers_read_back :
    (∀ title content, EditBuffer.parse (EditBuffer.format ⟨title, content⟩) = ⟨title, content⟩
      ↔ EditBuffer.TitleFits title)
    ∧ (∀ text, EditBuffer.parse (EditBuffer.parse text).format = EditBuffer.parse text)
    ∧ (∀ title content, '\n' ∉ title.toList →
      EditBuffer.parse (title ++ "\r\n\r\n" ++ content)
        = EditBuffer.parse (title ++ "\n\n" ++ content))
    ∧ ∀ (n n' : Note) (raw raw' : Bool), '\n' ∉ n.title.toList → '\n' ∉ n'.title.toList →
      ((n.buffer raw).format = (n'.buffer raw').format
        ↔ n.title = n'.title ∧ n.editableContent raw = n'.editableContent raw')
      ∧ (Note.ToldByFingerprint (n.buffer raw).format (n'.buffer raw').format →
        ((n.markLoaded raw).mdHash = (n'.markLoaded raw').mdHash
          ↔ n.title = n'.title ∧ n.editableContent raw = n'.editableContent raw')) :=
  ⟨fun _ _ => EditBuffer.parse_format_iff, EditBuffer.parse_format_parse,
    fun _ content h => EditBuffer.parse_crlf h content,
    fun _ _ _ _ h h' => ⟨Note.format_buffer_inj h h', Note.mdHash_markLoaded_inj h h'⟩⟩

/-- A title that ends in a carriage return does not read back, but line ends of both kinds are
read alike behind it, and its text is not taken for that of the title without it. -/
theorem carriage_return_read_back :
    let title := "Foo\r"
    let n : Note := { title := title, body := "\na", md := "b" }
    let n' : Note := { title := "Foo", body := "a", md := "\na" }
    EditBuffer.parse (EditBuffer.format ⟨title, "\na"⟩) ≠ ⟨title, "\na"⟩
      ∧ EditBuffer.parse (title ++ "\r\n\r\n" ++ "\na")
        = EditBuffer.parse (title ++ "\n\n" ++ "\na")
      ∧ (n.buffer true).format ≠ (n'.buffer false).format
      ∧ (n.markLoaded true).mdHash ≠ (n'.markLoaded false).mdHash := by
  intro title n n'
  obtain ⟨hfits, -, hlines, hnotes⟩ := buffers_read_back
  obtain ⟨htexts, hhashes⟩ := hnotes n n' true false (by decide) (by decide)
  have htitles : n.title ≠ n'.title := by decide
  have hdiffers : Fingerprint.ofText (n.buffer true).format
      ≠ Fingerprint.ofText (n'.buffer false).format := by
    decide +kernel
  refine ⟨fun h => ?_, hlines title "\na" (by decide), fun h => htitles (htexts.1 h).1, fun h => ?_⟩
  · exact ((hfits title "\na").1 h).carriageReturn '\r' (by decide) rfl
  · exact htitles ((hhashes fun h => absurd h hdiffers).1 h).1

end Notekeeper
