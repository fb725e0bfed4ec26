import Notekeeper.Markup.Envelope
import Notekeeper.Proofs.Text.Search

/-!
# Markup out of its envelope

A document holds markup if it has the element: the first opening mark begins its opening tag, the
tag ends with the next bracket, and the last closing tag after that ends the element.  A tag that
closes itself holds nothing.  Every other document is malformed: it has no opening tag, its opening
tag never ends, or its element never does.

The program cuts the document three times, and each cut is at an occurrence that the lemmas on
searching describe (`Text/Search`): the first one of the opening mark, the first bracket behind it,
and the last closing tag behind that.  So the conditions that make up `Holds` are these occurrences,
and since each is unique, so is the markup that a document holds.  Going through the cuts in order
gives the rest: where one fails, the document is refused, and otherwise it holds what comes out.

Taking the markup out of an envelope gives back what was put in, whatever it is.  The header has no
opening tag of its own, and the tag of the envelope has no attributes, so the markup begins where it
was put.  It may hold closing tags, but the last closing tag is that of the envelope, as nothing
follows it.

* `Envelope.Opens` : the documents that have an opening tag.
* `Envelope.Holds` : the documents that hold markup, and which.
* `Envelope.unwrap_wrap` : what was put into an envelope comes out of it.
* `Envelope.unwrap_exactly` : no other documents are accepted, and what was put in comes out.
-/

namespace Notekeeper.Envelope

open Text

/-! ## 1. Documents with an element

Each of the three cuts is described by the occurrence that it is made at, so that nothing here
depends on how a text is searched. -/

/-- **Whether a document has an opening tag**: the first opening mark of the document goes on with
`attributes` up to a bracket, and `inner` follows. -/
structure Opens (content : String) (attributes inner : List Char) : Prop where
  first : ∃ before, FirstAt openMark.toList content.toList before (attributes ++ '>' :: inner)
  bracket : '>' ∉ attributes

/-- **Whether a document holds this markup.**  The cuts are unique, and so no document holds two. -/
inductive Holds (content : String) : (body : String) → Prop
  /-- An opening tag that closes itself holds none. -/
  | nothing {attributes inner : List Char} (hopens : Opens content attributes inner)
      (hcloses : attributes.getLast? = some '/') : Holds content ""
  /-- Another one holds what stands before the last closing tag. -/
  | inside {attributes inner after : List Char} {body : String}
      (hopens : Opens content attributes inner) (hcloses : attributes.getLast? ≠ some '/')
      (hlast : LastAt closeTag.toList inner body.toList after) : Holds content body

variable {content : String} {attributes inner : List Char}

/-- What comes out of a document with an opening tag. -/
theorem Opens.unwrap_eq (h : Opens content attributes inner) :
    unwrap content = if attributes.getLast? = some '/' then .ok ""
      else (splitLast closeTag.toList inner).elim (.error unclosed) fun found =>
        .ok (String.ofList found.1) := by
  obtain ⟨⟨before, hfirst⟩, hbracket⟩ := h
  unfold unwrap
  rw [splitFirst_eq_some_iff.2 hfirst]
  simp only [splitAt_append hbracket]
  cases splitLast closeTag.toList inner with
  | none => rfl
  | some found => rfl

/-- A document has an opening tag, or its markup is missed. -/
theorem opens_or_missing (content : String) :
    (∃ attributes inner, Opens content attributes inner) ∨ unwrap content = .error missing := by
  cases hfirst : splitFirst openMark.toList content.toList with
  | none =>
    right
    unfold unwrap
    rw [hfirst]
  | some found =>
    obtain ⟨before, element⟩ := found
    cases hbracket : splitAt '>' element with
    | none =>
      right
      unfold unwrap
      rw [hfirst]
      simp only [hbracket]
    | some parts =>
      obtain ⟨attributes, inner⟩ := parts
      obtain ⟨rfl, hunclosed⟩ := splitAt_eq_some hbracket
      exact .inl ⟨attributes, inner, ⟨before, splitFirst_eq_some_iff.1 hfirst⟩, hunclosed⟩

/-- What a document holds comes out of it. -/
theorem Holds.unwrap_eq {body : String} (h : Holds content body) : unwrap content = .ok body := by
  cases h with
  | nothing hopens hcloses => rw [hopens.unwrap_eq, if_pos hcloses]
  | inside hopens hcloses hlast =>
    rw [hopens.unwrap_eq, if_neg hcloses, splitLast_eq_some_iff.2 hlast, Option.elim_some,
      String.ofList_toList]

/-- A document with an opening tag holds markup, or its element never ends. -/
theorem Opens.holds_or_unclosed (h : Opens content attributes inner) :
    (∃ body, Holds content body) ∨ unwrap content = .error unclosed := by
  by_cases hcloses : attributes.getLast? = some '/'
  · exact .inl ⟨"", .nothing h hcloses⟩
  · cases hlast : splitLast closeTag.toList inner with
    | none =>
      right
      rw [h.unwrap_eq, if_neg hcloses, hlast, Option.elim_none]
    | some found =>
      obtain ⟨body, after⟩ := found
      have hbody : LastAt closeTag.toList inner (String.ofList body).toList after := by
        rw [String.toList_ofList]
        exact splitLast_eq_some_iff.1 hlast
      exact .inl ⟨String.ofList body, .inside h hcloses hbody⟩

/-- **A document that holds no markup is refused.** -/
theorem holds_or_refused (content : String) :
    (∃ body, Holds content body) ∨ ∃ text, unwrap content = .error (.markup text) := by
  rcases opens_or_missing content with ⟨attributes, inner, hopens⟩ | hmissing
  · rcases hopens.holds_or_unclosed with hholds | hunclosed
    · exact .inl hholds
    · exact .inr ⟨_, hunclosed⟩
  · exact .inr ⟨_, hmissing⟩

/-! ## 2. Envelopes -/

/-- The opening tag of an envelope is the first one. -/
theorem splitFirst_wrap (rest : List Char) :
    splitFirst openMark.toList (header.toList ++ (openMark.toList ++ rest))
      = some (header.toList, rest) := by rfl

/-- An envelope holds what was put into it. -/
theorem holds_wrap (body : String) : Holds (wrap body) body := by
  have hcontent : (wrap body).toList = header.toList
      ++ (openMark.toList ++ ([] ++ '>' :: (body.toList ++ closeTag.toList))) := by
    simp [wrap]
  have hopens : Opens (wrap body) [] (body.toList ++ closeTag.toList) := by
    refine ⟨⟨header.toList, splitFirst_eq_some_iff.1 ?_⟩, List.not_mem_nil⟩
    rw [hcontent]
    exact splitFirst_wrap _
  exact .inside hopens (by simp) (lastAt_end closeTag.toList body.toList)

/-- **What was put into an envelope comes out of it.** -/
theorem unwrap_wrap (body : String) : unwrap (wrap body) = .ok body :=
  (holds_wrap body).unwrap_eq

/-- **Documents that hold markup are accepted, and no others.**  What comes out is the markup that
the document holds, every other document is refused as malformed, and whatever was put into an
envelope comes out of it. -/
theorem unwrap_exactly (content : String) :
    (∀ body, unwrap content = .ok body ↔ Holds content body)
    ∧ ((∃ body, Holds content body) ∨ ∃ text, unwrap content = .error (.markup text))
    ∧ ∀ body, unwrap (wrap body) = .ok body := by
  refine ⟨fun body => ⟨fun hok => ?_, Holds.unwrap_eq⟩, holds_or_refused content, unwrap_wrap⟩
  rcases holds_or_refused content with ⟨body', hholds⟩ | ⟨text, hrefused⟩
  · obtain rfl : body' = body := Except.ok.inj (hholds.unwrap_eq.symm.trans hok)
    exact hholds
  · cases hrefused.symm.trans hok

end Notekeeper.Envelope
