/-!
# Entries

A finite map as a list of pairs, no key twice.

* `get?_set`, `get?_erase` : what is found under a key after a change.
-/

namespace Notekeeper.Entries

variable {κ ν : Type} [DecidableEq κ]

/-- The value under a key. -/
def get? (k : κ) : List (κ × ν) → Option ν
  | [] => none
  | (k', v) :: rest => if k' = k then some v else get? k rest

/-- The entries with a value under a key, in the place of an earlier one. -/
def set (k : κ) (v : ν) : List (κ × ν) → List (κ × ν)
  | [] => [(k, v)]
  | (k', v') :: rest => if k' = k then (k, v) :: rest else (k', v') :: set k v rest

/-- The entries without a key. -/
def erase (k : κ) (es : List (κ × ν)) : List (κ × ν) := es.filter (·.1 ≠ k)

theorem get?_set (k k' : κ) (v : ν) (es : List (κ × ν)) :
    get? k (set k' v es) = if k' = k then some v else get? k es := by
  induction es with
  | nil => simp [set, get?]
  | cons e es ih =>
    obtain ⟨a, b⟩ := e
    by_cases h : a = k' <;> by_cases h' : a = k <;> by_cases h'' : k' = k <;>
      simp_all [set, get?]

theorem get?_erase (k k' : κ) (es : List (κ × ν)) :
    get? k (erase k' es) = if k' = k then none else get? k es := by
  induction es with
  | nil => simp [erase, get?]
  | cons e es ih =>
    obtain ⟨a, b⟩ := e
    by_cases h : a = k' <;> by_cases h' : a = k <;> by_cases h'' : k' = k <;>
      simp_all [erase, get?]

end Notekeeper.Entries
