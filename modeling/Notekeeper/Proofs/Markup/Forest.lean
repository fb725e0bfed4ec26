import Notekeeper.Markup.PlainText
import Notekeeper.Proofs.EditBuffer

/-!
# The plain text of well-formed markup

Well-formed markup is a forest of texts and elements that is written out, with entities for those
characters of a text that would be taken for markup.  It reads as the content of the forest: the
texts as they are, and a new line wherever a tag starts one, without new lines at its ends.

The statement is about the scan and by induction on the forest.  For the induction it has to be
about a forest that something follows: scanning what the forest is written as, with any text behind
it, gives the content and goes on with that text (`scan_written`).  The text need not be well-formed
and the scan of it may fail, so the equation is one of results.

Three kinds of pieces make up what is written.  A tag is skipped and may leave a new line, which the
scan decides by the name that it reads there.  It reads the tag up to a blank or a slash, in lower
case, and `Tag` asks what it takes for this to be the name of the tag: no blank, slash, bracket or
ampersand in it, and attributes that begin with a blank.  Attributes may hold anything else but a
closing bracket.  An entity is read for its character, which is not looked at again, so that a
text with an entity's name in it reads as itself.  And any other character is kept.

Opening tags start a new line only where the name is that of a break; closing tags start one behind
blocks too.  A tag that closes itself counts as an opening one.

* `Tag` : what tags may say; `Tag.of` builds one from names that fit.
* `Forest.markup`, `Forest.content` : a forest as markup, and the text in it.
* `scan_written` : the scan of what a forest is written as.
* `Forest.reads_as_content` : what its markup reads as.
* `page_reads_as_content` : a page with attributes, blocks, breaks and entities.
-/

namespace Notekeeper.PlainText

open Text

/-! ## 1. Tags

What a tag is taken for is decided by its name, up to the first blank or slash.  The conditions on a
tag make sure that the name is read as a whole and that the tag ends at its own bracket. -/

/-- **What the tags of an element say**: its name, and attributes that only the first tag has.  The
conditions are those under which the name that is read of a tag is this one. -/
structure Tag where
  name : String
  attributes : String
  name_ne : name ≠ ""
  name_plain : ∀ c ∈ name.toList, isBlank c = false ∧ c ∉ ['/', '<', '>', '&']
  /-- Attributes are kept apart from the name. -/
  attributes_apart : ∀ c ∈ attributes.toList.head?, isBlank c = true
  attributes_plain : '>' ∉ attributes.toList

namespace Tag

/-- Whether a name and attributes are those of a tag. -/
def fits (name attributes : String) : Bool :=
  name != "" && name.toList.all (fun c => !isBlank c && !(['/', '<', '>', '&'].contains c))
    && attributes.toList.head?.all isBlank && !attributes.toList.contains '>'

theorem fits_iff {name attributes : String} : fits name attributes = true
    ↔ name ≠ "" ∧ (∀ c ∈ name.toList, isBlank c = false ∧ c ∉ ['/', '<', '>', '&'])
      ∧ (∀ c ∈ attributes.toList.head?, isBlank c = true) ∧ '>' ∉ attributes.toList := by
  simp only [fits, Bool.and_eq_true, bne_iff_ne, List.all_eq_true, Option.all_eq_true,
    Bool.not_eq_true', List.contains_eq_mem, decide_eq_false_iff_not, and_assoc, Option.mem_def]

/-- The tag that they are of. -/
def of (name attributes : String) (h : fits name attributes = true) : Tag :=
  ⟨name, attributes, (fits_iff.1 h).1, (fits_iff.1 h).2.1, (fits_iff.1 h).2.2.1,
    (fits_iff.1 h).2.2.2⟩

end Tag

/-- A tag in its brackets. -/
def bracketed (inside : List Char) : List Char := '<' :: (inside ++ ['>'])

/-- The new line that a tag starts, if it does. -/
def lineBreak (breaks : Prop) [Decidable breaks] : List Char := if breaks then ['\n'] else []

namespace Tag

variable (t : Tag)

/-- The opening tag, between its brackets. -/
def opening : List Char := t.name.toList ++ t.attributes.toList

/-- The closing tag. -/
def closing : List Char := '/' :: t.name.toList

/-- The tag of an element that holds nothing, which opens and closes at once. -/
def selfClosing : List Char := t.name.toList ++ (t.attributes.toList ++ ['/'])

/-- The name in lower case. -/
def kind : String := String.ofList (t.name.toList.map Char.toLower)

/-- **Whether an opening tag starts a new line**, or one that closes itself. -/
def BreaksOpening : Prop := t.kind = "br"

/-- **Whether a closing tag starts a new line.** -/
def BreaksClosing : Prop := t.kind = "br" ∨ t.kind ∈ blockTags

instance : Decidable t.BreaksOpening := inferInstanceAs (Decidable (_ = _))

instance : Decidable t.BreaksClosing := inferInstanceAs (Decidable (_ ∨ _))

/-- A name begins with a character that is no slash. -/
theorem exists_name_eq_cons : ∃ c cs, t.name.toList = c :: cs ∧ c ≠ '/' := by
  cases hname : t.name.toList with
  | nil => exact absurd (String.toList_eq_nil_iff.1 hname) t.name_ne
  | cons c cs =>
    refine ⟨c, cs, rfl, ?_⟩
    rintro rfl
    have hplain := t.name_plain '/' (hname ▸ List.mem_cons_self)
    simp at hplain

/-- What is read of a tag is its name, in lower case, as long as something else follows it. -/
theorem tagName_append (rest : List Char) (h : ∀ c ∈ rest.head?, isBlank c = true ∨ c = '/') :
    tagName (t.name.toList ++ rest) = t.kind := by
  obtain ⟨c, cs, hname, hc⟩ := t.exists_name_eq_cons
  have hslashes : (t.name.toList ++ rest).dropWhile (· = '/') = t.name.toList ++ rest := by
    simp [hname, hc]
  have hletters : ∀ c ∈ t.name.toList, (!isBlank c && c != '/') = true := by
    intro c hmem
    obtain ⟨hblank, hother⟩ := t.name_plain c hmem
    simp_all
  have hrest : rest.takeWhile (fun c => !isBlank c && c != '/') = [] := by
    cases rest with
    | nil => rfl
    | cons r rest =>
      have hr := h r rfl
      simp only [List.takeWhile_cons]
      rcases hr with hblank | rfl
      · simp [hblank]
      · simp
  rw [tagName, hslashes, List.takeWhile_append_of_pos hletters, hrest, List.append_nil, kind]

theorem breaksLine_opening : breaksLine t.opening = decide t.BreaksOpening := by
  obtain ⟨c, cs, hname, hc⟩ := t.exists_name_eq_cons
  have hkind : tagName t.opening = t.kind :=
    t.tagName_append _ fun c hmem => .inl (t.attributes_apart c hmem)
  have hhead : (t.opening.head? == some '/') = false := by
    simp [opening, hname, hc]
  rw [breaksLine, hkind, hhead, Bool.false_and, Bool.or_false]
  rfl

theorem breaksLine_selfClosing : breaksLine t.selfClosing = decide t.BreaksOpening := by
  obtain ⟨c, cs, hname, hc⟩ := t.exists_name_eq_cons
  have hkind : tagName t.selfClosing = t.kind := by
    refine t.tagName_append _ fun c hmem => ?_
    cases hattributes : t.attributes.toList with
    | nil =>
      rw [hattributes] at hmem
      exact .inr (Option.some.inj hmem).symm
    | cons a as =>
      rw [hattributes] at hmem
      obtain rfl : a = c := Option.some.inj hmem
      exact .inl (t.attributes_apart a (hattributes ▸ rfl))
  have hhead : (t.selfClosing.head? == some '/') = false := by
    simp [selfClosing, hname, hc]
  rw [breaksLine, hkind, hhead, Bool.false_and, Bool.or_false]
  rfl

theorem breaksLine_closing : breaksLine t.closing = decide t.BreaksClosing := by
  have hslash : tagName t.closing = tagName t.name.toList := by
    simp [tagName, closing]
  have hkind : tagName t.closing = t.kind := by
    have hname := t.tagName_append [] (by simp)
    rw [List.append_nil] at hname
    exact hslash.trans hname
  have hhead : (t.closing.head? == some '/') = true := by
    simp [closing]
  rw [breaksLine, hkind, hhead, Bool.true_and, Bool.eq_iff_iff, decide_eq_true_iff]
  simp [BreaksClosing]

theorem bracket_not_mem_name : '>' ∉ t.name.toList := by
  intro hmem
  have hplain := t.name_plain '>' hmem
  simp at hplain

end Tag

/-! ## 2. Forests -/

/-- **A forest of texts and elements**: what comes first, and the forest that follows it.  Texts are
kept as they are meant, and are only escaped when they are written. -/
inductive Forest
  | nil
  | text (s : String) (rest : Forest)
  | element (tag : Tag) (inner rest : Forest)
  /-- An element that holds nothing, of one tag that closes itself. -/
  | void (tag : Tag) (rest : Forest)

/-- A character of a text, as an entity if it would be taken for markup. -/
def escaped (c : Char) : List Char :=
  if c = '&' then "&amp;".toList
  else if c = '<' then "&lt;".toList
  else if c = '>' then "&gt;".toList
  else if c = '"' then "&quot;".toList
  else [c]

namespace Forest

/-- What a forest is written as. -/
def written : Forest → List Char
  | nil => []
  | text s rest => s.toList.flatMap escaped ++ rest.written
  | element tag inner rest =>
    bracketed tag.opening ++ (inner.written ++ (bracketed tag.closing ++ rest.written))
  | void tag rest => bracketed tag.selfClosing ++ rest.written

/-- **The markup of a forest.** -/
def markup (f : Forest) : String := String.ofList f.written

/-- **The text in a forest**, with the new lines that its tags start. -/
def content : Forest → List Char
  | nil => []
  | text s rest => s.toList ++ rest.content
  | element tag inner rest =>
    lineBreak tag.BreaksOpening ++ (inner.content ++ (lineBreak tag.BreaksClosing ++ rest.content))
  | void tag rest => lineBreak tag.BreaksOpening ++ rest.content

end Forest

/-! ## 3. The scan of a forest

Every equation here has a rest behind what is scanned, and the result of the rest comes out of it
unchanged, be it a text or an error. -/

/-- The text of two pieces of markup, one after the other. -/
theorem map_append_map (before between : List Char) (result : Except Error (List Char)) :
    (result.map (between ++ ·)).map (before ++ ·) = result.map ((before ++ between) ++ ·) := by
  cases result <;> simp [Except.map]

section Scanning

variable (rest : List Char)

theorem scan_bracketed {inside : List Char} (h : '>' ∉ inside) :
    scan (bracketed inside ++ rest)
      = (scan rest).map (lineBreak (breaksLine inside = true) ++ ·) := by
  have hwritten : bracketed inside ++ rest = '<' :: (inside ++ '>' :: rest) := by
    simp [bracketed]
  have hsplit : splitAt '>' (inside ++ '>' :: rest) = some (inside, rest) := splitAt_append h rest
  rw [hwritten, scan]
  split
  · next hnone => cases hnone.symm.trans hsplit
  · next tag after hsome =>
    cases hsome.symm.trans hsplit
    unfold lineBreak
    cases breaksLine inside <;> rfl

/-- An entity is read for its character, and is not looked at again. -/
theorem scan_entity (name : List Char) {c : Char} (hname : ';' ∉ name)
    (hsize : Utf8.size name ≤ maxEntityLength) (hentity : entity? name = some c) :
    scan ('&' :: (name ++ ';' :: rest)) = (scan rest).map ([c] ++ ·) := by
  have hread : readEntity (name ++ ';' :: rest) = some (c, rest) := by
    rw [readEntity, splitAt_append hname]
    simp only [if_pos hsize, hentity, Option.map_some]
  rw [scan]
  split
  · next d after hsome =>
    cases hsome.symm.trans hread
    rfl
  · next hnone => cases hnone.symm.trans hread

theorem scan_escaped (c : Char) : scan (escaped c ++ rest) = (scan rest).map ([c] ++ ·) := by
  by_cases hamp : c = '&'
  · subst hamp
    exact scan_entity rest ['a', 'm', 'p'] (by decide) (by decide) rfl
  by_cases hlt : c = '<'
  · subst hlt
    exact scan_entity rest ['l', 't'] (by decide) (by decide) rfl
  by_cases hgt : c = '>'
  · subst hgt
    exact scan_entity rest ['g', 't'] (by decide) (by decide) rfl
  by_cases hquot : c = '"'
  · subst hquot
    exact scan_entity rest ['q', 'u', 'o', 't'] (by decide) (by decide) rfl
  have hescaped : escaped c = [c] := by
    simp only [escaped, if_neg hamp, if_neg hlt, if_neg hgt, if_neg hquot]
  rw [hescaped, List.singleton_append, scan]
  · rfl
  · exact hlt
  · exact hamp

/-- **A text is read as it is.** -/
theorem scan_text (cs : List Char) :
    scan (cs.flatMap escaped ++ rest) = (scan rest).map (cs ++ ·) := by
  induction cs with
  | nil => cases hscan : scan rest <;> simp [hscan, Except.map]
  | cons c cs ih =>
    rw [List.flatMap_cons, List.append_assoc, scan_escaped, ih, map_append_map]
    rfl

end Scanning

/-- **The scan of a forest** gives its content, and goes on with what follows.  The induction is on
the forest; what follows is whatever stands behind it. -/
theorem scan_written (f : Forest) (rest : List Char) :
    scan (f.written ++ rest) = (scan rest).map (f.content ++ ·) := by
  induction f generalizing rest with
  | nil => cases hscan : scan rest <;> simp [Forest.written, Forest.content, hscan, Except.map]
  | text s f ih =>
    rw [Forest.written, List.append_assoc, scan_text, ih, map_append_map]
    rfl
  | element tag inner f ihinner ih =>
    have hopening : '>' ∉ tag.opening := by
      simp [Tag.opening, tag.bracket_not_mem_name, tag.attributes_plain]
    have hclosing : '>' ∉ tag.closing := by
      simp [Tag.closing, tag.bracket_not_mem_name]
    simp only [Forest.written, List.append_assoc]
    rw [scan_bracketed _ hopening, ihinner, scan_bracketed _ hclosing, ih, map_append_map,
      map_append_map, map_append_map]
    simp only [tag.breaksLine_opening, tag.breaksLine_closing, decide_eq_true_eq, Forest.content,
      List.append_assoc]
  | void tag f ih =>
    have hselfClosing : '>' ∉ tag.selfClosing := by
      simp [Tag.selfClosing, tag.bracket_not_mem_name, tag.attributes_plain]
    rw [Forest.written, List.append_assoc, scan_bracketed _ hselfClosing, ih, map_append_map]
    simp only [tag.breaksLine_selfClosing, decide_eq_true_eq, Forest.content]

/-! ## 4. The plain text of a forest

New lines at the ends of the text are trimmed at last, also those that stand in a text of the
forest. -/

/-- **Whether a text is what is left of another one without the new lines at its ends.** -/
structure Trims (whole text : List Char) : Prop where
  cut : ∃ before after, whole = List.replicate before '\n' ++ text ++ List.replicate after '\n'
  front : text.head? ≠ some '\n'
  back : text.getLast? ≠ some '\n'

/-- New lines at the front of a text. -/
theorem takeWhile_eq_replicate (cs : List Char) :
    cs.takeWhile (· = '\n') = List.replicate (cs.takeWhile (· = '\n')).length '\n' := by
  refine List.eq_replicate_of_mem fun c hc => ?_
  have hall := List.all_takeWhile (p := (· = '\n')) (l := cs)
  simpa using List.all_eq_true.1 hall c hc

/-- What is trimmed off the end of a text are new lines. -/
theorem exists_trimEndWhile (cs : List Char) :
    ∃ after, cs = trimEndWhile (· = '\n') cs ++ List.replicate after '\n' := by
  refine ⟨(cs.reverse.takeWhile (· = '\n')).length, ?_⟩
  rw [trimEndWhile, ← List.reverse_replicate, ← takeWhile_eq_replicate, ← List.reverse_append,
    List.takeWhile_append_dropWhile, List.reverse_reverse]

theorem trims_trimWhile (whole : List Char) : Trims whole (trimWhile (· = '\n') whole) := by
  obtain ⟨after, hend⟩ := exists_trimEndWhile (whole.dropWhile (· = '\n'))
  refine ⟨⟨(whole.takeWhile (· = '\n')).length, after, ?_⟩, ?_, ?_⟩
  · rw [← takeWhile_eq_replicate, List.append_assoc, trimWhile, ← hend]
    exact List.takeWhile_append_dropWhile.symm
  · intro hhead
    -- What is left begins as the text did before its end was trimmed.
    have hfront : (whole.dropWhile (· = '\n')).head? = some '\n' := by
      rw [hend, List.head?_append]
      change (trimWhile (· = '\n') whole).head?.or _ = _
      rw [hhead]
      rfl
    have hdropped := List.head?_dropWhile_not (· = '\n') whole
    rw [hfront] at hdropped
    simp at hdropped
  · intro hlast
    have hkept := getLast?_trimEndWhile '\n' hlast
    simp at hkept

/-- **Well-formed markup reads as its content**, without new lines at its ends.  This is so for
every forest, however deep and whatever its texts say. -/
theorem Forest.reads_as_content (f : Forest) :
    ∃ text, read f.markup = .ok text ∧ Trims f.content text.toList := by
  have hscan : scan f.written = .ok f.content := by
    have hall := scan_written f []
    rw [List.append_nil] at hall
    rw [hall, scan]
    simp [Except.map]
  refine ⟨String.ofList (trimWhile (· = '\n') f.content), ?_, ?_⟩
  · rw [read, markup, String.toList_ofList, hscan]
    rfl
  · rw [String.toList_ofList]
    exact trims_trimWhile f.content

namespace Sample

/-- A page of two lines in a block, and of a text that looks like an entity. -/
def page : Forest :=
  .element (.of "div" " class=\"note\"" rfl)
    (.text "R & D" (.void (.of "BR" "" rfl) (.text "a < \"b\"" .nil)))
    (.element (.of "b" "" rfl) (.text "&lt;" .nil) (.void (.of "br" "" rfl) .nil))

end Sample

/-- The page reads line by line, each entity once, and without the new line at its end. -/
theorem page_reads_as_content :
    Sample.page.markup = "<div class=\"note\">R &amp; D<BR/>a &lt; &quot;b&quot;</div>"
        ++ "<b>&amp;lt;</b><br/>"
      ∧ Sample.page.content = "R & D\na < \"b\"\n&lt;\n".toList
      ∧ ∃ text, read Sample.page.markup = .ok text ∧ Trims Sample.page.content text.toList
        ∧ text = "R & D\na < \"b\"\n&lt;" := by
  obtain ⟨text, hread, htrims⟩ := Sample.page.reads_as_content
  have htext : (read Sample.page.markup).toOption = some "R & D\na < \"b\"\n&lt;" := by
    decide +kernel
  rw [hread] at htext
  exact ⟨by decide +kernel, by decide +kernel, text, hread, htrims, Option.some.inj htext⟩

end Notekeeper.PlainText
