import Mathlib.Algebra.BigOperators.Group.Finset.Basic
import Mathlib.Algebra.BigOperators.Ring.Finset
import Mathlib.Tactic.Ring
import Notekeeper.Store.Schema

/-!
# Variable-length numbers read back

The version of the store is kept as groups of seven bits, the lowest first, and the number ends at
the first byte with its high bit clear.  Ten bytes are enough for a word, but the tenth has room
for one bit only.

The codec is written on natural numbers with division and remainder, and the bytes that it takes are
told without it: a number ends at the first place where a high bit is clear (`EndsAt`), and its
value is the sum of the low bits, each byte seven places further up (`valueTo`).  The induction is
on the bytes, where a number whose first byte is not its last one ends where the number in the rest
does.  Ten bytes with no more than one bit in the last one make a number below `2 ^ 64`, so that
nothing is cut off when it becomes a word.

A word is really read and written by a loop with shifts and masks, and a shift that reaches the
width of a word would be refused.  The loops are written down as such, and shown to do the same as
the codec.  After `i` bytes the bits read so far are below `2 ^ (7 * i)`, so that the next ones are
put beside them and an `or` adds them; and a tenth byte of more than one bit is refused before it is
shifted.

* `Varint.decodeFrom_eq_some_iff` : which bytes are read, and as what number.
* `Varint.encode_eq_wordBytes`, `Varint.readWord_eq` : the same is done on words, bit by bit, and
  no shift reaches the width of a word.
* `Schema.versions_read_exactly` : what becomes of any bytes that stand for a version.
-/

namespace Notekeeper

namespace Varint

/-! ## 1. The bits of a byte

Seven bits of a byte count, and the high one says whether more bytes follow. -/

/-- The seven low bits of a byte. -/
def lowBits (b : UInt8) : Nat := (b &&& 0x7F).toNat

/-- **Whether a number ends with this byte**: its high bit is clear. -/
def Ends (b : UInt8) : Prop := b &&& 0x80 = 0

instance (b : UInt8) : Decidable (Ends b) := inferInstanceAs (Decidable (_ = _))

theorem lowBits_eq (b : UInt8) : lowBits b = b.toNat % 128 := by
  rw [lowBits, UInt8.toNat_and]
  exact Nat.and_two_pow_sub_one_eq_mod b.toNat 7

theorem ends_iff {b : UInt8} : Ends b ↔ b.toNat < 128 := by
  have hbyte : ∀ n : Fin 256, n.val &&& 128 = 0 ↔ n.val < 128 := by decide +kernel
  rw [Ends, ← UInt8.toNat_inj, UInt8.toNat_and]
  exact hbyte ⟨b.toNat, b.toNat_lt⟩

/-- Setting the high bit of a byte adds it to the low ones. -/
theorem toNat_or_high (b : UInt8) : (b ||| 0x80).toNat = b.toNat % 128 + 128 := by
  have hbyte : ∀ n : Fin 256, n.val ||| 128 = n.val % 128 + 128 := by decide +kernel
  rw [UInt8.toNat_or]
  exact hbyte ⟨b.toNat, b.toNat_lt⟩

/-- The low bits of a last byte are all there is to it. -/
theorem Ends.lowBits_eq {b : UInt8} (h : Ends b) : lowBits b = b.toNat := by
  rw [Varint.lowBits_eq, Nat.mod_eq_of_lt (ends_iff.1 h)]

theorem lowBits_of_not_ends {b : UInt8} (h : ¬ Ends b) : lowBits b = b.toNat - 128 := by
  have hlt := b.toNat_lt
  rw [ends_iff] at h
  rw [lowBits_eq]
  omega

/-! ## 2. Writing -/

/-- **A number reads back where there is room for it**, whatever follows. -/
theorem decodeFrom_encodeNat (room n : Nat) (h : n < 2 * 128 ^ room) (rest : Bytes) :
    decodeFrom (room + 1) (encodeNat n ++ rest) = some n := by
  induction room generalizing n with
  | zero =>
    have hn : n < 128 := by omega
    have hb : (UInt8.ofNat n).toNat = n := by simp; omega
    rw [encodeNat, if_pos hn, List.singleton_append, decodeFrom, hb, if_pos hn, if_neg (by omega)]
  | succ room ih =>
    rw [encodeNat]
    split
    · next hn =>
      have hb : (UInt8.ofNat n).toNat = n := by simp; omega
      rw [List.singleton_append, decodeFrom, hb, if_pos hn, if_neg (by omega)]
    · next hn =>
      have hb : (UInt8.ofNat (n % 128 + 128)).toNat = n % 128 + 128 := by simp; omega
      have hrest : n / 128 < 2 * 128 ^ room := by
        rw [pow_succ] at h
        omega
      rw [List.cons_append, decodeFrom, hb, if_neg (by omega), ih _ hrest]
      simp only [Option.map_some, Option.some.injEq]
      omega

theorem length_encodeNat_le (room n : Nat) (h : n < 128 ^ (room + 1)) :
    (encodeNat n).length ≤ room + 1 := by
  induction room generalizing n with
  | zero =>
    rw [encodeNat, if_pos (by simpa using h)]
    exact Nat.le_refl 1
  | succ room ih =>
    rw [encodeNat]
    split
    · exact Nat.succ_le_succ (Nat.zero_le _)
    · have hrest : n / 128 < 128 ^ (room + 1) := by
        rw [pow_succ] at h
        omega
      exact Nat.succ_le_succ (ih _ hrest)

theorem isEmpty_encode_append (v : UInt64) (rest : Bytes) :
    (encode v ++ rest).isEmpty = false := by
  rw [encode, encodeNat]
  split <;> rfl

/-- **A number of 64 bits reads back**, whatever follows. -/
theorem decode?_encode_append (v : UInt64) (rest : Bytes) :
    decode? (encode v ++ rest) = some v := by
  have hv : v.toNat < 2 * 128 ^ 9 := v.toNat_lt
  rw [decode?, isEmpty_encode_append, if_neg Bool.false_ne_true, encode,
    decodeFrom_encodeNat 9 _ hv]
  simp

/-- **A number of 64 bits reads back.** -/
theorem decode?_encode (v : UInt64) : decode? (encode v) = some v := by
  simpa using decode?_encode_append v []

/-- Ten bytes are enough for a number of 64 bits. -/
theorem length_encode_le (v : UInt64) : (encode v).length ≤ 10 :=
  length_encodeNat_le 9 v.toNat (Nat.lt_trans v.toNat_lt (by decide))

/-! ## 3. Reading -/

/-- **Whether a number ends at this place**, of at most `room` bytes: its byte is the first one
with a clear high bit, and says no more than one bit if it is the last that there is room for. -/
structure EndsAt (room : Nat) (bs : Bytes) (i : Nat) : Prop where
  inside : i < room
  last : ∃ b, bs[i]? = some b ∧ Ends b ∧ (i + 1 = room → b.toNat ≤ 1)
  first : ∀ j < i, ∀ b, bs[j]? = some b → ¬ Ends b

/-- **The number up to this place**: the low bits of each byte, seven places further up than those
of the byte before. -/
def valueTo (bs : Bytes) (i : Nat) : Nat :=
  ∑ j ∈ Finset.range (i + 1), lowBits (bs.getD j 0) * 128 ^ j

theorem valueTo_zero (b : UInt8) (rest : Bytes) : valueTo (b :: rest) 0 = lowBits b := by
  simp [valueTo]

theorem valueTo_succ (b : UInt8) (rest : Bytes) (i : Nat) :
    valueTo (b :: rest) (i + 1) = lowBits b + 128 * valueTo rest i := by
  rw [valueTo, Finset.sum_range_succ', valueTo, Finset.mul_sum]
  simp only [List.getD_cons_succ, List.getD_cons_zero, pow_zero, mul_one, pow_succ]
  rw [Nat.add_comm]
  congr 1
  refine Finset.sum_congr rfl fun j _ => ?_
  rw [Nat.mul_comm (128 ^ j), Nat.mul_left_comm]

section

variable {room i : Nat} {b : UInt8} {rest : Bytes}

/-- A number whose first byte is its last one ends there. -/
theorem endsAt_cons_of_ends (h : Ends b) :
    EndsAt (room + 1) (b :: rest) i ↔ i = 0 ∧ (room = 0 → b.toNat ≤ 1) := by
  constructor
  · rintro ⟨-, ⟨b', hb', -, hroom⟩, hfirst⟩
    cases i with
    | zero =>
      obtain rfl : b = b' := Option.some.inj hb'
      exact ⟨rfl, fun hzero => hroom (by omega)⟩
    | succ i => exact absurd h (hfirst 0 (Nat.succ_pos i) b rfl)
  · rintro ⟨rfl, hroom⟩
    exact ⟨Nat.succ_pos room, ⟨b, rfl, h, fun he => hroom (by omega)⟩,
      fun j hj => absurd hj (Nat.not_lt_zero j)⟩

/-- Any other number ends where the number in the bytes that follow does. -/
theorem endsAt_cons_of_not_ends (h : ¬ Ends b) :
    EndsAt (room + 1) (b :: rest) i ↔ ∃ j, i = j + 1 ∧ EndsAt room rest j := by
  constructor
  · rintro ⟨hinside, ⟨b', hb', hends, hroom⟩, hfirst⟩
    cases i with
    | zero =>
      obtain rfl : b = b' := Option.some.inj hb'
      exact absurd hends h
    | succ i =>
      refine ⟨i, rfl, Nat.lt_of_succ_lt_succ hinside, ⟨b', hb', hends, ?_⟩, ?_⟩
      · exact fun he => hroom (by omega)
      · exact fun j hj => hfirst (j + 1) (Nat.succ_lt_succ hj)
  · rintro ⟨i, rfl, hinside, ⟨b', hb', hends, hroom⟩, hfirst⟩
    refine ⟨Nat.succ_lt_succ hinside, ⟨b', hb', hends, fun he => hroom (by omega)⟩, ?_⟩
    intro j hj
    cases j with
    | zero =>
      rintro _ hb
      cases hb
      exact h
    | succ j => exact hfirst j (Nat.lt_of_succ_lt_succ hj)

end

/-- **A number is read if it ends in time**, and then it is the one up to there. -/
theorem decodeFrom_eq_some_iff {room n : Nat} {bs : Bytes} :
    decodeFrom room bs = some n ↔ ∃ i, EndsAt room bs i ∧ n = valueTo bs i := by
  induction room generalizing n bs with
  | zero =>
    constructor
    · intro h
      cases h
    · rintro ⟨i, hends, -⟩
      exact absurd hends.inside (Nat.not_lt_zero i)
  | succ room ih =>
    cases bs with
    | nil =>
      constructor
      · intro h
        cases h
      · rintro ⟨i, ⟨-, ⟨b, hb, -⟩, -⟩, -⟩
        cases hb
    | cons b rest =>
      by_cases hb : Ends b
      · have hlast : decodeFrom (room + 1) (b :: rest) = some n
            ↔ (room = 0 → b.toNat ≤ 1) ∧ n = lowBits b := by
          rw [decodeFrom, if_pos (ends_iff.1 hb), hb.lowBits_eq]
          split
          · next hroom =>
            simp only [reduceCtorEq, false_iff]
            omega
          · next hroom =>
            simp only [Option.some.injEq]
            omega
        rw [hlast]
        simp only [endsAt_cons_of_ends hb, and_assoc, exists_eq_left, valueTo_zero]
      · have hmore : decodeFrom (room + 1) (b :: rest)
            = (decodeFrom room rest).map (lowBits b + 128 * ·) := by
          rw [decodeFrom, if_neg (mt ends_iff.2 hb), lowBits_of_not_ends hb]
        rw [hmore, Option.map_eq_some_iff]
        simp only [endsAt_cons_of_not_ends hb, ih]
        constructor
        · rintro ⟨_, ⟨i, hends, rfl⟩, rfl⟩
          exact ⟨i + 1, ⟨i, rfl, hends⟩, (valueTo_succ b rest i).symm⟩
        · rintro ⟨_, ⟨i, rfl, hends⟩, rfl⟩
          exact ⟨_, ⟨i, hends, rfl⟩, (valueTo_succ b rest i).symm⟩

/-- The room for a number bounds it. -/
theorem decodeFrom_lt (room : Nat) {n : Nat} {bs : Bytes}
    (h : decodeFrom (room + 1) bs = some n) : n < 2 * 128 ^ room := by
  induction room generalizing n bs with
  | zero =>
    cases bs with
    | nil => cases h
    | cons b rest =>
      rw [decodeFrom] at h
      split at h
      · split at h
        · cases h
        · cases h
          omega
      · cases h
  | succ room ih =>
    rw [pow_succ]
    have hpos : 0 < 128 ^ room := Nat.pow_pos (by decide)
    cases bs with
    | nil => cases h
    | cons b rest =>
      have hb := b.toNat_lt
      rw [decodeFrom] at h
      split at h
      · rw [if_neg (by omega)] at h
        cases h
        omega
      · obtain ⟨m, hm, rfl⟩ := Option.map_eq_some_iff.1 h
        have hlt := ih hm
        omega

/-- **Ten bytes that are read are a number of 64 bits.** -/
theorem EndsAt.valueTo_lt {bs : Bytes} {i : Nat} (h : EndsAt 10 bs i) :
    valueTo bs i < 2 ^ 64 :=
  decodeFrom_lt 9 (decodeFrom_eq_some_iff.2 ⟨i, h, rfl⟩)

theorem decode?_eq {bs : Bytes} {i : Nat} (h : EndsAt 10 bs i) :
    decode? bs = some (UInt64.ofNat (valueTo bs i)) := by
  obtain ⟨b, hb, -⟩ := h.last
  have hne : bs.isEmpty = false := by
    cases bs with
    | nil => cases hb
    | cons b rest => rfl
  rw [decode?, hne, if_neg Bool.false_ne_true, decodeFrom_eq_some_iff.2 ⟨i, h, rfl⟩,
    Option.map_some]

theorem decode?_eq_none_iff {bs : Bytes} :
    decode? bs = none ↔ bs ≠ [] ∧ ∀ i, ¬ EndsAt 10 bs i := by
  cases bs with
  | nil => simp [decode?]
  | cons b rest =>
    have hread : decode? (b :: rest) = (decodeFrom 10 (b :: rest)).map UInt64.ofNat := rfl
    rw [hread, Option.map_eq_none_iff, Option.eq_none_iff_forall_ne_some]
    simp only [ne_eq, decodeFrom_eq_some_iff, reduceCtorEq, not_false_eq_true, true_and]
    exact ⟨fun h i hi => h _ ⟨i, hi, rfl⟩, fun h _ ⟨i, hi, _⟩ => h i hi⟩

/-! ## 4. The loops on words

Here shifts and masks take the place of division and remainder.  A shift by the width of a word or
more is refused, so that it has to be shown that there is none. -/

/-- The bytes of a word: its low seven bits with the high bit set, as long as there are more. -/
def wordBytes (v : UInt64) : Bytes :=
  if v < 0x80 then [v.toUInt8] else (v.toUInt8 ||| 0x80) :: wordBytes (v >>> 7)
termination_by v.toNat
decreasing_by
  have hv : 128 ≤ v.toNat := by simpa [UInt64.lt_iff_toNat_lt] using ‹¬ v < 0x80›
  simp only [UInt64.toNat_shiftRight, UInt64.reduceToNat, Nat.reduceMod,
    Nat.shiftRight_eq_div_pow]
  omega

/-- **A shift to the left, refused if it reaches the width of a word.** -/
def shiftLeft? (v : UInt64) (places : Nat) : Option UInt64 :=
  if places < 64 then some (v <<< UInt64.ofNat places) else none

/-- **The loop that reads a word**, whose low bits are `value` after `i` bytes.  It comes to
nothing at all if a shift is refused. -/
def readLoop (value : UInt64) (i : Nat) : Bytes → Option (Option UInt64)
  | [] => some none
  | b :: rest =>
    if i = 9 ∧ 1 < b then some none
    else (shiftLeft? (b &&& 0x7F).toUInt64 (7 * i)).bind fun bits =>
      if Ends b then some (some (value ||| bits))
      else if i = 9 then some none
      else readLoop (value ||| bits) (i + 1) rest

/-- The word in front of the bytes: zero if there are none. -/
def readWord (bs : Bytes) : Option (Option UInt64) :=
  if bs.isEmpty then some (some 0) else readLoop 0 0 bs

/-- **The loop writes a number**: neither the shift nor the cut to a byte loses a bit. -/
theorem encode_eq_wordBytes (v : UInt64) : encode v = wordBytes v := by
  unfold encode
  fun_induction wordBytes v with
  | case1 v hlt =>
    have hv : v.toNat < 128 := by simpa [UInt64.lt_iff_toNat_lt] using hlt
    rw [encodeNat, if_pos hv]
    rfl
  | case2 v hge ih =>
    have hv : ¬ v.toNat < 128 := by simpa [UInt64.lt_iff_toNat_lt] using hge
    have hshift : (v >>> 7).toNat = v.toNat / 128 := by
      simp [Nat.shiftRight_eq_div_pow]
    have hbyte : UInt8.ofNat (v.toNat % 128 + 128) = v.toUInt8 ||| 0x80 := by
      rw [← UInt8.toNat_inj, toNat_or_high, UInt64.toNat_toUInt8, UInt8.toNat_ofNat']
      omega
    rw [encodeNat, if_neg hv, hbyte, ← ih, hshift]

section

variable {value : UInt64} {i : Nat} {b : UInt8}

/-- A shift that puts bits next to those of the bytes before is not refused, and loses none. -/
theorem shiftLeft?_lowBits (hi : i ≤ 9) (hlast : i = 9 → b.toNat ≤ 1) :
    ∃ bits, shiftLeft? (b &&& 0x7F).toUInt64 (7 * i) = some bits
      ∧ bits.toNat = 128 ^ i * lowBits b := by
  have hplaces : 7 * i < 64 := by omega
  have hpow : 2 ^ (7 * i) = 128 ^ i := pow_mul 2 7 i
  have hfits : lowBits b * 128 ^ i < 2 ^ 64 := by
    have hlow : lowBits b = b.toNat % 128 := lowBits_eq b
    rcases Nat.eq_or_lt_of_le hi with rfl | hlt
    · have hbit := hlast rfl
      calc lowBits b * 128 ^ 9 ≤ 1 * 128 ^ 9 := Nat.mul_le_mul_right _ (by omega)
        _ < 2 ^ 64 := by decide
    · calc lowBits b * 128 ^ i ≤ 127 * 128 ^ 8 :=
            Nat.mul_le_mul (by omega) (Nat.pow_le_pow_right (by decide) (by omega))
        _ < 2 ^ 64 := by decide
  refine ⟨_, if_pos hplaces, ?_⟩
  have hamount : (UInt64.ofNat (7 * i)).toNat % 64 = 7 * i := by
    rw [UInt64.toNat_ofNat']
    omega
  rw [UInt64.toNat_shiftLeft, hamount, UInt8.toNat_toUInt64, Nat.shiftLeft_eq, hpow]
  change lowBits b * 128 ^ i % 2 ^ 64 = _
  rw [Nat.mod_eq_of_lt hfits, Nat.mul_comm]

/-- Bits that were put next to those of the bytes before are added to them. -/
theorem toNat_or_bits {bits : UInt64} (hvalue : value.toNat < 128 ^ i)
    (hbits : bits.toNat = 128 ^ i * lowBits b) :
    (value ||| bits).toNat = value.toNat + 128 ^ i * lowBits b := by
  have hpow : 2 ^ (7 * i) = 128 ^ i := pow_mul 2 7 i
  rw [← hpow] at hvalue hbits ⊢
  rw [UInt64.toNat_or, hbits, Nat.or_comm, ← Nat.two_pow_add_eq_or_of_lt hvalue, Nat.add_comm]

end

/-- **The loop reads what is read of the bytes**, added to what it has read before. -/
theorem readLoop_eq {room i : Nat} (hroom : i + room = 9) (value : UInt64)
    (hvalue : value.toNat < 128 ^ i) (bs : Bytes) :
    readLoop value i bs = some ((decodeFrom (room + 1) bs).map fun n =>
      UInt64.ofNat (value.toNat + 128 ^ i * n)) := by
  induction bs generalizing room i value with
  | nil => rfl
  | cons b rest ih =>
    have hone : 1 < b ↔ 1 < b.toNat := UInt8.lt_iff_toNat_lt
    rw [readLoop]
    by_cases htoomuch : i = 9 ∧ 1 < b
    · -- The tenth byte has room for one bit only, and says more.
      obtain rfl : room = 0 := by omega
      have hnone : decodeFrom 1 (b :: rest) = none := by
        rw [decodeFrom]
        split
        · exact if_pos ⟨rfl, hone.1 htoomuch.2⟩
        · rfl
      rw [if_pos htoomuch, hnone, Option.map_none]
    · have hlast : i = 9 → b.toNat ≤ 1 := by
        intro hi
        by_contra hbig
        exact htoomuch ⟨hi, hone.2 (by omega)⟩
      obtain ⟨bits, hshift, hbits⟩ := shiftLeft?_lowBits (by omega) hlast
      have hadd : (value ||| bits).toNat = value.toNat + 128 ^ i * lowBits b :=
        toNat_or_bits hvalue hbits
      rw [if_neg htoomuch, hshift, Option.bind_some]
      by_cases hb : Ends b
      · have hread : decodeFrom (room + 1) (b :: rest) = some (lowBits b) := by
          rw [decodeFrom, if_pos (ends_iff.1 hb), hb.lowBits_eq, if_neg (by omega)]
        rw [if_pos hb, hread, Option.map_some, ← hadd, UInt64.ofNat_toNat]
      · -- A byte that is not the last one is no tenth one either.
        have hbig := mt ends_iff.2 hb
        obtain ⟨room, rfl⟩ : ∃ m, room = m + 1 := ⟨room - 1, by omega⟩
        have hlow : lowBits b < 128 := by
          rw [lowBits_eq]
          omega
        have hvalue' : (value ||| bits).toNat < 128 ^ (i + 1) := by
          have hpart : 128 ^ i * lowBits b ≤ 128 ^ i * 127 := Nat.mul_le_mul_left _ (by omega)
          rw [hadd, pow_succ]
          omega
        have hread : decodeFrom (room + 1 + 1) (b :: rest)
            = (decodeFrom (room + 1) rest).map (lowBits b + 128 * ·) := by
          rw [decodeFrom, if_neg hbig, lowBits_of_not_ends hb]
        have hnext : i + 1 + room = 9 := by omega
        rw [if_neg hb, if_neg (by omega), ih hnext _ hvalue', hread, Option.map_map, hadd]
        congr 2
        funext n
        simp only [Function.comp_apply]
        congr 1
        ring

/-- **The loop reads what is read of the bytes**, and none of its shifts is refused. -/
theorem readWord_eq (bs : Bytes) : readWord bs = some (decode? bs) := by
  unfold readWord decode?
  split
  · rfl
  · have hloop := readLoop_eq (Nat.zero_add 9) 0 (by decide) bs
    rw [hloop]
    simp

end Varint

/-! ## 5. Versions -/

namespace Schema

open Varint

/-- **What becomes of bytes that stand for a version.** -/
structure ReadsVersion (bs : Bytes) : Prop where
  /-- There is a version if there are no bytes at all, or a number ends in time. -/
  succeeds : (∃ v, decodeVersion bs = .ok v) ↔ bs = [] ∨ ∃ i, EndsAt 10 bs i
  nothing : bs = [] → decodeVersion bs = .ok 0
  /-- It is the number up to there, which fits into a word; what follows does not matter. -/
  value : ∀ i, EndsAt 10 bs i →
    valueTo bs i < 2 ^ 64 ∧ decodeVersion bs = .ok (UInt64.ofNat (valueTo bs i))
  /-- Every other record is told to be corrupt. -/
  refuses : ∀ e, decodeVersion bs = .error e →
    e = .corruptRecord "db_data" "dbVersion" "invalid schema version varint"
  /-- The loop on words reads the same, and no shift in it reaches the width of a word. -/
  shifts : (readWord bs).map (·.elim (.error badVersion) .ok) = some (decodeVersion bs)

theorem decodeVersion_eq (bs : Bytes) :
    decodeVersion bs = (decode? bs).elim (.error badVersion) .ok := by
  unfold decodeVersion
  cases decode? bs <;> rfl

theorem readsVersion (bs : Bytes) : ReadsVersion bs := by
  have hnothing : bs = [] → decodeVersion bs = .ok 0 := by
    rintro rfl
    rfl
  have hvalue : ∀ i, EndsAt 10 bs i →
      decodeVersion bs = .ok (UInt64.ofNat (valueTo bs i)) := by
    intro i hends
    rw [decodeVersion_eq, decode?_eq hends]
    rfl
  refine ⟨⟨?_, ?_⟩, hnothing, fun i hends => ⟨hends.valueTo_lt, hvalue i hends⟩, ?_, ?_⟩
  · rintro ⟨v, hv⟩
    by_contra hbad
    obtain ⟨hne, hends⟩ := not_or.1 hbad
    rw [decodeVersion_eq, decode?_eq_none_iff.2 ⟨hne, not_exists.1 hends⟩] at hv
    cases hv
  · rintro (hempty | ⟨i, hends⟩)
    · exact ⟨0, hnothing hempty⟩
    · exact ⟨_, hvalue i hends⟩
  · intro e he
    rw [decodeVersion_eq] at he
    cases hread : decode? bs with
    | none =>
      rw [hread] at he
      cases he
      rfl
    | some v =>
      rw [hread] at he
      cases he
  · rw [readWord_eq, decodeVersion_eq]
    rfl

/-- **Versions are read exactly as they are written**, and any bytes at all for what they are worth:
every word takes ten bytes at most and reads back whatever follows it, and other bytes are read
just if a number ends among the first ten of them. -/
theorem versions_read_exactly (bs : Bytes) :
    (∀ v rest, decodeVersion (encode v ++ rest) = .ok v)
    ∧ (∀ v, (encode v).length ≤ 10 ∧ encode v = wordBytes v)
    ∧ ReadsVersion bs := by
  refine ⟨fun v rest => ?_, fun v => ⟨length_encode_le v, encode_eq_wordBytes v⟩,
    readsVersion bs⟩
  rw [decodeVersion_eq, decode?_encode_append]
  rfl

end Schema
end Notekeeper
