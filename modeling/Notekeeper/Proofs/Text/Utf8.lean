import Notekeeper.Text.Utf8

/-!
# Bytes read back as characters

A text that is written as bytes is read back character by character, whatever the characters are.
Records are kept as bytes and read as texts, so that this is the bottom of every result about what
the store gives back.

A character takes one to four bytes, by the size of its number.  The first byte has a mark that
tells how many follow, and the bits that are left over hold the front of the number; each of the
others has a mark of its own and six bits.  The numbers of one length do not begin below the least
one of that length, which the reader checks, as a number that was written in too many bytes is not
to be accepted.  For a number that was written in just as many bytes as it takes the check goes
through, and the four lengths are the four cases of the proof (`front?_encodeChar`).

What follows a character does not matter to how it is read: the length is known from its first byte,
and the bytes that it took are passed over.  So the bytes of a text read back as its characters, by
induction on the text.

* `front?_encodeChar` : the bytes of one character, whatever follows them.
* `symbols_encode` : the bytes of a text.
-/

namespace Notekeeper.Utf8

theorem toNat_byte {n : Nat} (h : n < 256) : (UInt8.ofNat n).toNat = n :=
  Nat.mod_eq_of_lt h

theorem isValidChar_toNat (c : Char) : c.toNat.isValidChar := c.valid

/-- A character is found under its own number. -/
theorem char?_toNat {least : Nat} {c : Char} (h : least ≤ c.toNat) :
    char? least c.toNat = some c := by
  have hc : Char.ofNat c.toNat = c := Char.ofNat_toNat c
  rw [Char.ofNat, dif_pos (isValidChar_toNat c)] at hc
  rw [char?, dif_pos ⟨h, isValidChar_toNat c⟩, hc]

/-- A continuation byte gives back the six bits that it was made from. -/
theorem continuation?_byte {n : Nat} (h : n < 64) :
    continuation? (UInt8.ofNat (0x80 + n)) = some n := by
  rw [continuation?, toNat_byte (by omega), if_pos (by omega), Nat.add_sub_cancel_left]

theorem toNat_lt (c : Char) : c.toNat < 0x110000 := by
  have hv := isValidChar_toNat c
  unfold Nat.isValidChar at hv
  omega

/-- **The bytes of a character read back as that character**, whatever follows them. -/
theorem front?_encodeChar (c : Char) (rest : Bytes) :
    front? (encodeChar c ++ rest) = some (c, (encodeChar c).length - 1) := by
  have hc := toNat_lt c
  unfold encodeChar
  simp only
  split
  · next h =>
    simp only [List.cons_append, List.nil_append, front?]
    rw [toNat_byte (by omega), if_pos h, char?_toNat (Nat.zero_le _)]
    rfl
  split
  · next h1 h2 =>
    simp only [List.cons_append, List.nil_append, front?]
    rw [toNat_byte (by omega), if_neg (by omega), if_neg (by omega),
      continuation?_byte (by omega)]
    simp only
    rw [if_pos (by omega)]
    have hn : (0xC0 + c.toNat / 64 - 0xC0) * 64 + c.toNat % 64 = c.toNat := by omega
    rw [hn, char?_toNat (by omega)]
    rfl
  split
  · next h1 h2 h3 =>
    simp only [List.cons_append, List.nil_append, front?]
    rw [toNat_byte (by omega), if_neg (by omega), if_neg (by omega),
      continuation?_byte (by omega)]
    simp only
    rw [if_neg (by omega), continuation?_byte (by omega)]
    simp only
    rw [if_pos (by omega)]
    have hn : (0xE0 + c.toNat / 4096 - 0xE0) * 4096 + c.toNat / 64 % 64 * 64 + c.toNat % 64
        = c.toNat := by omega
    rw [hn, char?_toNat (by omega)]
    rfl
  · next h1 h2 h3 =>
    simp only [List.cons_append, List.nil_append, front?]
    rw [toNat_byte (by omega), if_neg (by omega), if_neg (by omega),
      continuation?_byte (by omega)]
    simp only
    rw [if_neg (by omega), continuation?_byte (by omega)]
    simp only
    rw [if_neg (by omega), continuation?_byte (by omega)]
    simp only
    rw [if_pos (by omega)]
    have hn : (0xF0 + c.toNat / 262144 - 0xF0) * 262144 + c.toNat / 4096 % 64 * 4096
        + c.toNat / 64 % 64 * 64 + c.toNat % 64 = c.toNat := by omega
    rw [hn, char?_toNat (by omega)]
    rfl

theorem encodeChar_ne_nil (c : Char) : encodeChar c ≠ [] := by
  unfold encodeChar
  simp only
  repeat' split
  all_goals exact List.cons_ne_nil _ _

/-- Bytes that a character has taken are passed over. -/
theorem symbolsFrom_append {taken : Nat} {front rest : Bytes} (h : front.length = taken) :
    symbolsFrom taken (front ++ rest) = symbolsFrom 0 rest := by
  induction front generalizing taken with
  | nil => simp at h; subst h; rfl
  | cons b bs ih =>
    simp at h
    subst h
    exact ih rfl

theorem symbols_encodeChar_append (c : Char) (rest : Bytes) :
    symbols (encodeChar c ++ rest) = some c :: symbols rest := by
  have hf := front?_encodeChar c rest
  obtain ⟨b, bs, hb⟩ := List.exists_cons_of_ne_nil (encodeChar_ne_nil c)
  rw [hb] at hf ⊢
  simp only [symbols, List.cons_append, symbolsFrom] at hf ⊢
  rw [hf]
  simp only
  rw [symbolsFrom_append (by simp)]

theorem symbols_encode (cs : List Char) : symbols (encode cs) = cs.map some := by
  induction cs with
  | nil => rfl
  | cons c cs ih =>
    calc symbols (encode (c :: cs)) = symbols (encodeChar c ++ encode cs) := rfl
      _ = some c :: symbols (encode cs) := symbols_encodeChar_append c _
      _ = (c :: cs).map some := by rw [ih, List.map_cons]

end Notekeeper.Utf8
