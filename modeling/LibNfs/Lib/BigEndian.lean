import Mathlib.Tactic.Ring
import Mathlib.Tactic.Linarith

/-! # Fixed-width big-endian numerals

A natural number written in exactly `width` bytes, most significant byte first,
and read back. Writing reduces modulo `256 ^ width`; on numbers that fit, and on
byte strings of the right length, the two directions are inverse.
-/

namespace BigEndian

/-- The `width` low-order bytes of a number, most significant byte first. -/
def encode : Nat → Nat → List UInt8
  | 0, _ => []
  | width + 1, value => UInt8.ofNat (value / 256 ^ width) :: encode width value

/-- The number a byte string denotes, most significant byte first. -/
def decode (bytes : List UInt8) : Nat :=
  bytes.foldl (fun value byte => value * 256 + byte.toNat) 0

@[simp] theorem length_encode (width value : Nat) : (encode width value).length = width := by
  induction width with
  | zero => rfl
  | succ width ih => simp only [encode, List.length_cons, ih]

private theorem foldl_eq (bytes : List UInt8) (start : Nat) :
    bytes.foldl (fun value byte => value * 256 + byte.toNat) start =
      start * 256 ^ bytes.length + decode bytes := by
  induction bytes generalizing start with
  | nil => simp [decode]
  | cons byte rest ih =>
      have tail : decode (byte :: rest) = (0 * 256 + byte.toNat) * 256 ^ rest.length + decode rest :=
        ih (0 * 256 + byte.toNat)
      rw [List.foldl_cons, ih, tail, List.length_cons]
      ring

@[simp] theorem decode_nil : decode [] = 0 := rfl

/-- The leading byte weighs `256` to the number of bytes after it. -/
theorem decode_cons (byte : UInt8) (rest : List UInt8) :
    decode (byte :: rest) = byte.toNat * 256 ^ rest.length + decode rest := by
  have split := foldl_eq rest (0 * 256 + byte.toNat)
  simpa [decode] using split

theorem decode_lt (bytes : List UInt8) : decode bytes < 256 ^ bytes.length := by
  induction bytes with
  | nil => simp
  | cons byte rest ih =>
      rw [decode_cons, List.length_cons, pow_succ]
      have small := byte.toNat_lt
      have weight : byte.toNat * 256 ^ rest.length ≤ 255 * 256 ^ rest.length :=
        Nat.mul_le_mul_right _ (by omega)
      omega

/-- Writing keeps the low-order bytes. -/
theorem decode_encode_mod (width value : Nat) :
    decode (encode width value) = value % 256 ^ width := by
  induction width with
  | zero => simp [encode, Nat.mod_one]
  | succ width ih =>
      have split : value % 256 ^ (width + 1) =
          value % 256 ^ width + 256 ^ width * (value / 256 ^ width % 256) := by
        rw [pow_succ, Nat.mod_mul]
      have byte : (UInt8.ofNat (value / 256 ^ width)).toNat = value / 256 ^ width % 256 := by
        simp only [UInt8.toNat_ofNat', Nat.reducePow]
      rw [encode, decode_cons, length_encode, ih, byte, split]
      ring

/-- A number that fits its width is read back. -/
theorem decode_encode {width value : Nat} (fits : value < 256 ^ width) :
    decode (encode width value) = value := by
  rw [decode_encode_mod, Nat.mod_eq_of_lt fits]

private theorem encode_add_mul (width value high : Nat) :
    encode width (high * 256 ^ width + value) = encode width value := by
  suffices ∀ low high, low ≤ width → encode low (high * 256 ^ width + value) = encode low value from
    this width high le_rfl
  intro low
  induction low with
  | zero => intros; rfl
  | succ low ih =>
      intro high below
      obtain ⟨extra, rfl⟩ := Nat.exists_eq_add_of_le below
      have shift : (high * 256 ^ (low + 1 + extra) + value) / 256 ^ low =
          value / 256 ^ low + 256 * (high * 256 ^ extra) := by
        rw [show high * 256 ^ (low + 1 + extra) = 256 ^ low * (256 * (high * 256 ^ extra)) by ring,
          Nat.mul_add_div (by positivity)]
        ring
      rw [encode, encode, ih high (by omega), shift]
      congr 1
      apply UInt8.toNat_inj.mp
      simp only [UInt8.toNat_ofNat']
      omega

/-- A byte string of the right length is rewritten unchanged. -/
theorem encode_decode (bytes : List UInt8) : encode bytes.length (decode bytes) = bytes := by
  induction bytes with
  | nil => rfl
  | cons byte rest ih =>
      have below := decode_lt rest
      rw [List.length_cons, encode, decode_cons, encode_add_mul, ih, Nat.mul_comm,
        Nat.mul_add_div (by positivity), Nat.div_eq_of_lt below, Nat.add_zero, UInt8.ofNat_toNat]

end BigEndian
