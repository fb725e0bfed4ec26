import Notekeeper.Text.Utf8
/-!
# Variable-length numbers

A number of 64 bits as one to ten bytes of seven bits each, lowest first; every byte but the last
has its high bit set.  Reading stops at the last byte of the number and passes over what follows.
-/

namespace Notekeeper.Varint

/-- The bytes of a number. -/
def encodeNat (n : Nat) : Bytes :=
  if n < 128 then [UInt8.ofNat n] else UInt8.ofNat (n % 128 + 128) :: encodeNat (n / 128)
termination_by n

/-- The bytes of a number of 64 bits. -/
def encode (v : UInt64) : Bytes := encodeNat v.toNat

/-- The number in the bytes, which has at most `room` of them.  The last byte of ten has room for
one bit only. -/
def decodeFrom : (room : Nat) → Bytes → Option Nat
  | 0, _ => none
  | _ + 1, [] => none
  | room + 1, b :: rest =>
    if b.toNat < 128 then
      if room = 0 ∧ 1 < b.toNat then none else some b.toNat
    else (decodeFrom room rest).map (b.toNat - 128 + 128 * ·)

/-- **The number in front of the bytes**: zero if there are none. -/
def decode? (bs : Bytes) : Option UInt64 :=
  if bs.isEmpty then some 0 else (decodeFrom 10 bs).map UInt64.ofNat

end Notekeeper.Varint
