import Mathlib.Data.Nat.Bitwise
import IEDSyncTogether.Base.Bytes

/-!
# Numbers in base 128

A number as groups of seven bits, the lowest first; every byte but the last has its high
bit set. The reader takes a limited number of bytes from the front of a text and leaves the
rest alone.
-/

namespace IEDSyncTogether.Base

/-- The base-128 encoding of a number. -/
def varint (number : Nat) : ByteString :=
  if number < 128 then [number.toUInt8]
  else (number % 128 + 128).toUInt8 :: varint (number / 128)

/-- The number at the front of a text and the bytes it takes, at most so many. -/
def decodeVarint : Nat → ByteString → Option (Nat × Nat)
  | 0, _ => none
  | _ + 1, [] => none
  | limit + 1, byte :: rest =>
    if byte.toNat < 128 then some (byte.toNat, 1)
    else (decodeVarint limit rest).map fun read => (byte.toNat % 128 + 128 * read.1, read.2 + 1)

theorem toNat_toUInt8_of_lt {number : Nat} (small : number < 256) :
    number.toUInt8.toNat = number :=
  Nat.mod_eq_of_lt small

/-- The low bits of a byte are its group. -/
theorem toNat_and_group (byte : UInt8) : (byte &&& 0x7F).toNat = byte.toNat % 128 := by
  rw [UInt8.toNat_and]
  exact Nat.and_two_pow_sub_one_eq_mod byte.toNat 7

/-- The high bit is set on the bytes from 128 on. -/
theorem and_high_eq_zero_iff (byte : UInt8) : byte &&& 0x80 = 0 ↔ byte.toNat < 128 := by
  have high : byte.toNat &&& 2 ^ 7 = 0 ↔ byte.toNat < 128 := by
    have fits := byte.toNat_lt
    rw [Nat.and_two_pow, Nat.testBit_eq_decide_div_mod_eq]
    by_cases small : byte.toNat < 128
    · simp [small, Nat.div_eq_of_lt small]
    · have one : byte.toNat / 2 ^ 7 % 2 = 1 := by omega
      simpa [small] using one
  rw [← high, ← UInt8.toNat_inj, UInt8.toNat_and]
  rfl

/-- A group is put above the bits collected so far. -/
theorem toNat_or_shiftLeft {collected group : UInt64} {shift : Nat} (inside : shift < 64)
    (below : collected.toNat < 2 ^ shift) (fits : group.toNat * 2 ^ shift < 2 ^ 64) :
    (collected ||| (group <<< shift.toUInt64)).toNat = collected.toNat + 2 ^ shift * group.toNat := by
  have amount : shift.toUInt64.toNat % 64 = shift := by
    rw [Nat.toUInt64_eq, UInt64.toNat_ofNat']
    omega
  rw [UInt64.toNat_or, UInt64.toNat_shiftLeft, amount, Nat.shiftLeft_eq, Nat.mod_eq_of_lt fits,
    Nat.or_comm, Nat.mul_comm, ← Nat.two_pow_add_eq_or_of_lt below, Nat.add_comm]

/-- A number that fits the limit is read back, whatever follows it. -/
theorem decodeVarint_varint {limit number : Nat} (fits : number < 128 ^ (limit + 1))
    (rest : ByteString) :
    decodeVarint (limit + 1) (varint number ++ rest) = some (number, (varint number).length) := by
  induction limit generalizing number with
  | zero =>
      have small : number < 128 := by simpa using fits
      have byte : number.toUInt8.toNat = number := toNat_toUInt8_of_lt (by omega)
      rw [varint, if_pos small, List.singleton_append, decodeVarint, byte, if_pos small]
      rfl
  | succ limit ih =>
      rw [varint]
      split
      · next small =>
          have byte : number.toUInt8.toNat = number := toNat_toUInt8_of_lt (by omega)
          rw [List.singleton_append, decodeVarint, byte, if_pos small]
          rfl
      · next large =>
          have byte : (number % 128 + 128).toUInt8.toNat = number % 128 + 128 :=
            toNat_toUInt8_of_lt (by omega)
          have quotient : number / 128 < 128 ^ (limit + 1) := by
            apply (Nat.div_lt_iff_lt_mul (by omega)).mpr
            rwa [← pow_succ]
          have restored : (number % 128 + 128) % 128 + 128 * (number / 128) = number := by omega
          rw [List.cons_append, decodeVarint, byte, if_neg (by omega), ih quotient, Option.map_some,
            restored]
          rfl

end IEDSyncTogether.Base
