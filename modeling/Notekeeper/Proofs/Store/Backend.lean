import Notekeeper.Store.Buckets
import Notekeeper.Store.Tables

/-!
# The laws of a store

What a store holds is what was put last: an operation changes the one entry that it names, and
buckets are made but never taken away.  Both kinds of store obey these laws, in every state.

The laws say how each operation shows through each of the two ways to look at a store, by bucket and
by key.  Nothing else of a store is ever used in what follows, so that a result which is proved from
the laws holds of nested maps and of tables alike.  No state is excluded.  A store that lists a key
twice, which none ever does that started empty, still obeys them: a look finds the first one, and
putting and deleting deal with what a look would find.

* `LawfulBackend` : the laws, one for each operation and each way to look.
-/

namespace Notekeeper

/-- **A kind of store that keeps what is put into it.** -/
class LawfulBackend (σ : Type) [Backend σ] : Prop where
  get_createBucket (s : σ) (b b' : String) (k : Bytes) :
    Backend.get (Backend.createBucket s b) b' k = Backend.get s b' k
  hasBucket_createBucket (s : σ) (b b' : String) :
    Backend.hasBucket (Backend.createBucket s b) b' = (b == b' || Backend.hasBucket s b')
  /-- Only the bucket is needed to put a value. -/
  isSome_put (s : σ) (b : String) (k v : Bytes) :
    (Backend.put s b k v).isSome = Backend.hasBucket s b
  get_put {s s' : σ} {b : String} {k v : Bytes} (h : Backend.put s b k v = some s')
    (b' : String) (k' : Bytes) :
    Backend.get s' b' k' = if b = b' ∧ k = k' then some v else Backend.get s b' k'
  hasBucket_put {s s' : σ} {b : String} {k v : Bytes} (h : Backend.put s b k v = some s')
    (b' : String) : Backend.hasBucket s' b' = Backend.hasBucket s b'
  get_delete (s : σ) (b b' : String) (k k' : Bytes) :
    Backend.get (Backend.delete s b k) b' k'
      = if b = b' ∧ k = k' then none else Backend.get s b' k'
  hasBucket_delete (s : σ) (b b' : String) (k : Bytes) :
    Backend.hasBucket (Backend.delete s b k) b' = Backend.hasBucket s b'

/-! ## 1. Nested maps -/

namespace Buckets

theorem entries?_withEntries (s : Buckets) (b b' : String) (es : List (Bytes × Bytes)) :
    (s.withEntries b es).entries? b' = if b = b' then some es else s.entries? b' :=
  Entries.get?_set b' b es s.buckets

instance : LawfulBackend Buckets where
  get_createBucket s b b' k := by
    simp only [Backend.get, Backend.createBucket]
    cases h : s.entries? b with
    | some es => rfl
    | none =>
      rw [entries?_withEntries]
      split
      · next hb => subst hb; rw [h]; rfl
      · rfl
  hasBucket_createBucket s b b' := by
    simp only [Backend.hasBucket, Backend.createBucket]
    cases h : s.entries? b with
    | some es => by_cases hb : b = b' <;> simp_all
    | none => by_cases hb : b = b' <;> simp [entries?_withEntries, hb]
  isSome_put s b k v := by simp [Backend.put, Backend.hasBucket]
  get_put {s s' b k v} h b' k' := by
    obtain ⟨es, he, rfl⟩ := Option.map_eq_some_iff.1 h
    simp only [Backend.get, entries?_withEntries]
    by_cases hb : b = b'
    · subst hb
      simp [he, Entries.get?_set]
    · simp [hb]
  hasBucket_put {s s' b k v} h b' := by
    obtain ⟨es, he, rfl⟩ := Option.map_eq_some_iff.1 h
    simp only [Backend.hasBucket, entries?_withEntries]
    by_cases hb : b = b'
    · subst hb
      simp [he]
    · simp [hb]
  get_delete s b b' k k' := by
    simp only [Backend.get, Backend.delete]
    cases h : s.entries? b with
    | some es => by_cases hb : b = b' <;> simp_all [entries?_withEntries, Entries.get?_erase]
    | none => by_cases hb : b = b' <;> simp_all
  hasBucket_delete s b b' k := by
    simp only [Backend.hasBucket, Backend.delete]
    cases h : s.entries? b with
    | some es => by_cases hb : b = b' <;> simp_all [entries?_withEntries]
    | none => rfl

end Buckets

/-! ## 2. Two tables -/

namespace Tables

theorem isFor_iff {b : String} {k : Bytes} {r : Row} :
    isFor b k r = true ↔ r.bucket = b ∧ r.key = k := by
  simp [isFor]

/-- Taking out the row for one key leaves the row for any other key. -/
theorem find?_without (rows : List Row) (b b' : String) (k k' : Bytes) :
    (without rows b k).find? (isFor b' k')
      = if b = b' ∧ k = k' then none else rows.find? (isFor b' k') := by
  unfold without
  split
  · next h =>
    obtain ⟨rfl, rfl⟩ := h
    simp
  · next h =>
    rw [List.find?_filter]
    congr 1
    funext r
    by_cases hr : isFor b' k' r = true
    · obtain ⟨rfl, rfl⟩ := isFor_iff.1 hr
      have hr' : isFor b k r = false := by
        rw [Bool.eq_false_iff, ne_eq, isFor_iff]
        exact fun he => h ⟨he.1.symm, he.2.symm⟩
      simp [hr']
    · simp [hr]

instance : LawfulBackend Tables where
  get_createBucket s b b' k := by
    simp only [Backend.get, Backend.createBucket]
    split <;> rfl
  hasBucket_createBucket s b b' := by
    simp only [Backend.hasBucket, Backend.createBucket]
    by_cases hb : b = b'
    · subst hb
      split
      · next h => simpa using h
      · simp
    · have hb' : ¬ b' = b := fun h => hb h.symm
      split <;> simp [hb, hb']
  isSome_put s b k v := by
    simp only [Backend.put, Backend.hasBucket]
    split <;> simp_all
  get_put {s s' b k v} h b' k' := by
    simp only [Backend.put] at h
    split at h
    · cases h
      simp only [Backend.get, List.find?_append, find?_without]
      by_cases hk : b = b' ∧ k = k'
      · simp [hk, isFor]
      · have hr : isFor b' k' ⟨b, k, v⟩ = false := by
          rw [Bool.eq_false_iff, ne_eq, isFor_iff]
          exact hk
        simp [hk, hr]
    · cases h
  hasBucket_put {s s' b k v} h b' := by
    simp only [Backend.put] at h
    split at h
    · cases h
      rfl
    · cases h
  get_delete s b b' k k' := by
    simp only [Backend.get, Backend.delete, find?_without]
    split <;> rfl
  hasBucket_delete s b b' k := rfl

end Tables
end Notekeeper
