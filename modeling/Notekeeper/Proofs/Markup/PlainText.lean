import Notekeeper.Markup.PlainText

/-!
# When markup can be read

Reading markup as plain text fails for one reason only: a tag that never ends.  The scan goes from
the front: a tag is skipped up to its closing bracket, an entity is replaced by its character, and
anything else is kept.  An opening bracket without a closing one behind it leaves nothing to skip
to, and this is the error.

Whether the scan comes to such a bracket is not quite whether the text has one.  The scan passes
over whole tags and entities, and a bracket that is inside of one is not looked at.  Inside of a tag
it does no harm, for the closing bracket of the tag stands behind it as well
(`hasOpenTag_append_close`).  Inside of an entity it cannot be, because no name of an entity holds
one: the names are a few words, or numerals, which hold digits and at most a sign
(`lt_not_mem_of_entity?`).

So at each turn of the scan the rest of the text has a tag that never ends just if the text has, and
the equivalence follows by induction along the scan.  Trimming the ends of the text afterwards never
fails.

* `PlainText.HasOpenTag` : the reason.
* `PlainText.scan_eq_error_iff` : the scan fails just at such a tag.
* `PlainText.read_eq_error_iff` : so does the reading, and for no other reason.
-/

namespace Notekeeper.PlainText

open Text

/-! ## 1. Tags that never end

The lemmas say how this changes when something is taken off the front of a text: a character, a
whole tag, or text without an opening bracket. -/

/-- **Whether a text has a tag that never ends**: no closing bracket follows its opening one.  It
need not be a tag otherwise. -/
def HasOpenTag (cs : List Char) : Prop := ∃ before after, cs = before ++ '<' :: after ∧ '>' ∉ after

theorem not_hasOpenTag_nil : ¬ HasOpenTag [] := by
  rintro ⟨before, after, h, -⟩
  exact absurd h.symm (by simp)

theorem hasOpenTag_cons {c : Char} {cs : List Char} :
    HasOpenTag (c :: cs) ↔ (c = '<' ∧ '>' ∉ cs) ∨ HasOpenTag cs := by
  constructor
  · rintro ⟨before, after, h, hafter⟩
    cases before with
    | nil =>
      obtain ⟨rfl, rfl⟩ := List.cons.inj h
      exact .inl ⟨rfl, hafter⟩
    | cons b before =>
      obtain ⟨-, rfl⟩ := List.cons.inj h
      exact .inr ⟨before, after, rfl, hafter⟩
  · rintro (⟨rfl, hcs⟩ | ⟨before, after, rfl, hafter⟩)
    · exact ⟨[], cs, rfl, hcs⟩
    · exact ⟨c :: before, after, rfl, hafter⟩

/-- What stands before a closing bracket has no tag that never ends. -/
theorem hasOpenTag_append_close (before after : List Char) :
    HasOpenTag (before ++ '>' :: after) ↔ HasOpenTag after := by
  induction before with
  | nil => simp [hasOpenTag_cons]
  | cons b before ih =>
    rw [List.cons_append, hasOpenTag_cons, ih]
    simp

theorem hasOpenTag_append {before : List Char} (h : '<' ∉ before) (after : List Char) :
    HasOpenTag (before ++ after) ↔ HasOpenTag after := by
  induction before with
  | nil => rfl
  | cons b before ih =>
    obtain ⟨hb, hbefore⟩ := not_or.1 (mt List.mem_cons.2 h)
    rw [List.cons_append, hasOpenTag_cons, ih hbefore, or_iff_right]
    exact fun hopen => hb hopen.1.symm

/-! ## 2. Names of entities

An entity stands between an ampersand and a semicolon.  If a bracket could be in between, the scan
would pass it over. -/

theorem lt_not_mem_of_digitsFrom {base acc n : Nat} {cs : List Char}
    (h : digitsFrom base acc cs = some n) : '<' ∉ cs := by
  induction cs generalizing acc with
  | nil => simp
  | cons c cs ih =>
    rw [digitsFrom] at h
    split at h
    · next d hd =>
      have hc : '<' ≠ c := by
        rintro rfl
        simp [digit?, digitValue?] at hd
      exact fun hmem => (List.mem_cons.1 hmem).elim hc (ih h)
    · cases h

theorem lt_not_mem_of_unsigned? {base bound n : Nat} {cs : List Char}
    (h : unsigned? base bound cs = some n) : '<' ∉ cs := by
  have hdigits {ds : List Char} (hds : digits? base ds = some n) : '<' ∉ ds := by
    cases ds with
    | nil => simp
    | cons d ds => exact lt_not_mem_of_digitsFrom hds
  unfold unsigned? at h
  have hread := (Option.filter_eq_some_iff.1 h).1
  split at hread
  · exact fun hmem => (List.mem_cons.1 hmem).elim (by decide) (hdigits hread)
  · exact hdigits hread

/-- No name of an entity holds an opening bracket. -/
theorem lt_not_mem_of_entity? {name : List Char} {c : Char} (h : entity? name = some c) :
    '<' ∉ name := by
  unfold entity? at h
  split at h
  · next ds =>
    obtain ⟨n, hn, -⟩ := Option.bind_eq_some_iff.1 h
    have hds : '<' ∉ ds := by
      unfold numeric? at hn
      split at hn
      · exact fun hmem => (List.mem_cons.1 hmem).elim (by decide) (lt_not_mem_of_unsigned? hn)
      · exact fun hmem => (List.mem_cons.1 hmem).elim (by decide) (lt_not_mem_of_unsigned? hn)
      · exact lt_not_mem_of_unsigned? hn
    exact fun hmem => (List.mem_cons.1 hmem).elim (by decide) hds
  · -- The other names are written out.
    iterate 6 (split at h; · next hname => rw [hname]; decide)
    cases h

theorem readEntity_eq_some {cs after : List Char} {c : Char}
    (h : readEntity cs = some (c, after)) :
    ∃ name, cs = name ++ ';' :: after ∧ entity? name = some c := by
  unfold readEntity at h
  split at h
  · next name rest hsplit =>
    split at h
    · obtain ⟨d, hd, he⟩ := Option.map_eq_some_iff.1 h
      cases he
      exact ⟨name, (splitAt_eq_some hsplit).1, hd⟩
    · cases h
  · cases h

/-! ## 3. Reading -/

theorem map_eq_error_iff {α β : Type} {result : Except Error α} {f : α → β} {e : Error} :
    result.map f = .error e ↔ result = .error e := by
  cases result <;> simp [Except.map]

/-- **Scanning fails just at a tag that never ends**, and there is one error that it fails with. -/
theorem scan_eq_error_iff {cs : List Char} {e : Error} :
    scan cs = .error e ↔ e = unterminated ∧ HasOpenTag cs := by
  fun_induction scan cs with
  | case1 => simp [not_hasOpenTag_nil]
  | case2 rest hsplit =>
    have hopen : HasOpenTag ('<' :: rest) := ⟨[], rest, rfl, splitAt_eq_none.1 hsplit⟩
    simp [hopen, eq_comm]
  | case3 rest tag after hsplit hlength ih =>
    obtain ⟨rfl, -⟩ := splitAt_eq_some hsplit
    rw [map_eq_error_iff, ih, hasOpenTag_cons, hasOpenTag_append_close, or_iff_right]
    simp
  | case4 rest c after hentity hlength ih =>
    obtain ⟨name, rfl, hname⟩ := readEntity_eq_some hentity
    have hname' : '<' ∉ name ++ [';'] := by
      simp [lt_not_mem_of_entity? hname]
    have happend : name ++ ';' :: after = (name ++ [';']) ++ after := by simp
    rw [map_eq_error_iff, ih, hasOpenTag_cons, happend, hasOpenTag_append hname', or_iff_right]
    simp
  | case5 rest hentity ih =>
    rw [map_eq_error_iff, ih, hasOpenTag_cons, or_iff_right]
    simp
  | case6 c rest hlt hamp ih =>
    rw [map_eq_error_iff, ih, hasOpenTag_cons, or_iff_right]
    exact fun h => hlt h.1

/-- **Markup is read just if no tag is left open.** -/
theorem read_eq_error_iff {body : String} {e : Error} :
    read body = .error e ↔ e = unterminated ∧ HasOpenTag body.toList := by
  rw [read, map_eq_error_iff, scan_eq_error_iff]

end Notekeeper.PlainText
