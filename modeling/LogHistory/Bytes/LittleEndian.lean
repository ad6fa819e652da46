/-!
# Little-endian numbers

Every number on the wire is a fixed count of bytes, least significant first. `encode w n` writes the
`w` low base-256 digits of `n`; `decode` reads a byte string of any length as a number. The two are
inverse to each other on numbers that fit and on byte strings of the width: `decode_encode` and
`encode_decode`. The empty string has the value zero, which is what a read past the end yields.
-/

namespace LogHistory

/-- A string of octets. -/
abbrev Bytes := List UInt8

namespace LittleEndian

/-- The `w` low base-256 digits of a number, least significant first. -/
def encode : Nat → Nat → Bytes
  | 0, _ => []
  | w + 1, n => UInt8.ofNat (n % 256) :: encode w (n / 256)

/-- The number whose base-256 digits are the bytes, least significant first. -/
def decode : Bytes → Nat
  | [] => 0
  | b :: bs => b.toNat + 256 * decode bs

@[simp] theorem length_encode (w n : Nat) : (encode w n).length = w := by
  induction w generalizing n with
  | zero => rfl
  | succ w ih => simp [encode, ih]

theorem decode_lt (bs : Bytes) : decode bs < Nat.pow 256 bs.length := by
  rw [Nat.pow_eq]
  induction bs with
  | nil => simp [decode]
  | cons b bs ih =>
    have hb := b.toNat_lt
    simp only [decode, List.length_cons, Nat.pow_succ]
    omega

theorem decode_encode (w n : Nat) : decode (encode w n) = n % Nat.pow 256 w := by
  rw [Nat.pow_eq]
  induction w generalizing n with
  | zero => simp [encode, decode, Nat.mod_one]
  | succ w ih =>
    have hd : (UInt8.ofNat (n % 256)).toNat = n % 256 := by
      rw [UInt8.toNat_ofNat']; omega
    rw [encode, decode, hd, ih, Nat.pow_succ, Nat.mul_comm (256 ^ w), Nat.mod_mul]

theorem encode_decode (bs : Bytes) : encode bs.length (decode bs) = bs := by
  induction bs with
  | nil => rfl
  | cons b bs ih =>
    have hb := b.toNat_lt
    have h0 : (b.toNat + 256 * decode bs) % 256 = b.toNat := by omega
    have h1 : (b.toNat + 256 * decode bs) / 256 = decode bs := by omega
    simp only [List.length_cons, encode, decode, h0, h1, ih, UInt8.ofNat_toNat]

end LittleEndian

end LogHistory
