import LibNfs.Lib.BigEndian
import LibNfs.Lib.Coding

/-! # Low-level XDR codec

The error type, the buffer primitives and the variable-length data helpers of
the XDR crate. A read buffer is the list of its remaining bytes and a write
buffer the list of the bytes written so far; `usize` has 64 bits.
-/

namespace LibNfs

/-- A byte buffer. -/
abbrev Bytes := List UInt8

/-- The largest `usize`, used as the limit of data without a limit. -/
def usizeMax : Nat := 2 ^ 64 - 1

/-- The largest `u32`. -/
def u32Max : Nat := 2 ^ 32 - 1

namespace Xdr

open Coding

/-- Errors of the XDR codec. -/
inductive XdrError where
  | truncated (needed had : Nat)
  | limitExceeded (len limit : Nat)
  | lengthOverflow (len : Nat)
  | invalidBool (value : UInt32)
  | invalidEnum (discriminant : Int32)
  | invalidUnion (discriminant : UInt32)
  | invalidUtf8
  | trailingData (count : Nat)
  deriving DecidableEq, Repr

/-- Serialization to the end of a buffer. -/
class XdrEncode (α : Type) where
  encode : Encoder XdrError UInt8 α

/-- Deserialization from the front of a buffer. -/
class XdrDecode (α : Type) where
  decode : Decoder XdrError UInt8 α

/-- Logical length of a variable-length value, for `#[xdr(limit = N)]`. -/
class XdrLen (α : Type) where
  xdrLen : α → Nat

/-- Bytes of padding that align `len` to a multiple of four. -/
def padding (len : Nat) : Nat :=
  (4 - len % 4) % 4

theorem four_dvd_add_padding (len : Nat) : 4 ∣ len + padding len := by
  unfold padding
  omega

/-- Checks that at least `needed` bytes are left. -/
def ensure (buf : Bytes) (needed : Nat) : Except XdrError Unit :=
  if buf.length < needed then .error (.truncated needed buf.length) else .ok ()

/-- The four bytes of a `u32`, big-endian. -/
def beU32 (value : UInt32) : Bytes :=
  BigEndian.encode 4 value.toNat

/-- The eight bytes of a `u64`, big-endian. -/
def beU64 (value : UInt64) : Bytes :=
  BigEndian.encode 8 value.toNat

/-- `Buf::get_u32`, on a buffer that holds four bytes. -/
def getU32 (buf : Bytes) : UInt32 × Bytes :=
  (UInt32.ofNat (BigEndian.decode (buf.take 4)), buf.drop 4)

/-- `Buf::get_u64`, on a buffer that holds eight bytes. -/
def getU64 (buf : Bytes) : UInt64 × Bytes :=
  (UInt64.ofNat (BigEndian.decode (buf.take 8)), buf.drop 8)

/-- Reads a `u32`. -/
def decodeU32 (buf : Bytes) : Except XdrError (UInt32 × Bytes) := do
  ensure buf 4
  return getU32 buf

/-- Reads a `u64`. -/
def decodeU64 (buf : Bytes) : Except XdrError (UInt64 × Bytes) := do
  ensure buf 8
  return getU64 buf

/-- Writes variable-length data: length, data and padding. -/
def encodeOpaque (data : Bytes) (limit : Nat) (buf : Bytes) : Except XdrError Bytes :=
  if data.length > limit then
    .error (.limitExceeded data.length limit)
  else if data.length > u32Max then
    .error (.lengthOverflow data.length)
  else
    .ok (buf ++ beU32 (UInt32.ofNat data.length) ++ data ++
      List.replicate (padding data.length) 0)

/-- Reads variable-length data. The length is checked against the limit, and
with its padding against the bytes left, before anything is cut off. -/
def decodeOpaque (limit : Nat) (buf : Bytes) : Except XdrError (Bytes × Bytes) := do
  let (len, buf) ← decodeU32 buf
  let len := len.toNat
  if len > limit then
    .error (.limitExceeded len limit)
  else
    let pad := padding len
    ensure buf (len + pad)
    return (buf.take len, (buf.drop len).drop pad)

/-- Serializes a value to a fresh buffer. -/
def toBytes {α : Type} [XdrEncode α] (value : α) : Except XdrError Bytes :=
  XdrEncode.encode value []

/-- Deserializes a whole message: no byte may be left over. -/
def fromBytes {α : Type} [XdrDecode α] (buf : Bytes) : Except XdrError α := do
  let (value, buf) ← XdrDecode.decode buf
  if buf ≠ [] then
    .error (.trailingData buf.length)
  else
    return value

@[simp] theorem length_beU32 (value : UInt32) : (beU32 value).length = 4 :=
  BigEndian.length_encode 4 _

@[simp] theorem length_beU64 (value : UInt64) : (beU64 value).length = 8 :=
  BigEndian.length_encode 8 _

theorem decode_beU32 (value : UInt32) :
    UInt32.ofNat (BigEndian.decode (beU32 value)) = value := by
  rw [beU32, BigEndian.decode_encode (by simpa using value.toNat_lt), UInt32.ofNat_toNat]

theorem decode_beU64 (value : UInt64) :
    UInt64.ofNat (BigEndian.decode (beU64 value)) = value := by
  rw [beU64, BigEndian.decode_encode (by simpa using value.toNat_lt), UInt64.ofNat_toNat]

theorem beU32_decode (bytes : Bytes) (width : bytes.length = 4) :
    beU32 (UInt32.ofNat (BigEndian.decode bytes)) = bytes := by
  have small := BigEndian.decode_lt bytes
  rw [width] at small
  rw [beU32, UInt32.toNat_ofNat_of_lt' (by simpa using small), ← width, BigEndian.encode_decode]

theorem beU64_decode (bytes : Bytes) (width : bytes.length = 8) :
    beU64 (UInt64.ofNat (BigEndian.decode bytes)) = bytes := by
  have small := BigEndian.decode_lt bytes
  rw [width] at small
  rw [beU64, UInt64.toNat_ofNat_of_lt' (by simpa using small), ← width, BigEndian.encode_decode]

/-- A written `u32` is read back, whatever follows it. -/
theorem reads_u32 (value : UInt32) : Reads decodeU32 value (beU32 value) := by
  intro rest
  have front : (beU32 value ++ rest).take 4 = beU32 value := List.take_left' (length_beU32 value)
  have back : (beU32 value ++ rest).drop 4 = rest := List.drop_left' (length_beU32 value)
  simp [decodeU32, ensure, getU32, front, back, decode_beU32, pure, Except.pure, bind, Except.bind]

theorem reads_u64 (value : UInt64) : Reads decodeU64 value (beU64 value) := by
  intro rest
  have front : (beU64 value ++ rest).take 8 = beU64 value := List.take_left' (length_beU64 value)
  have back : (beU64 value ++ rest).drop 8 = rest := List.drop_left' (length_beU64 value)
  simp [decodeU64, ensure, getU64, front, back, decode_beU64, pure, Except.pure, bind, Except.bind]

@[simp] theorem decodeU32_append (value : UInt32) (rest : Bytes) :
    decodeU32 (beU32 value ++ rest) = .ok (value, rest) :=
  reads_u32 value rest

@[simp] theorem decodeU64_append (value : UInt64) (rest : Bytes) :
    decodeU64 (beU64 value ++ rest) = .ok (value, rest) :=
  reads_u64 value rest

/-- A successful read of a `u32` consumed its four bytes. -/
theorem decodeU32_inv {buf rest : Bytes} {value : UInt32}
    (read : decodeU32 buf = .ok (value, rest)) : buf = beU32 value ++ rest := by
  unfold decodeU32 ensure at read
  split at read
  · cases read
  · rename_i enough
    simp only [bind, Except.bind, pure, Except.pure, getU32, Except.ok.injEq, Prod.mk.injEq] at read
    obtain ⟨rfl, rfl⟩ := read
    rw [beU32_decode _ (by simp; omega), List.take_append_drop]

theorem decodeU64_inv {buf rest : Bytes} {value : UInt64}
    (read : decodeU64 buf = .ok (value, rest)) : buf = beU64 value ++ rest := by
  unfold decodeU64 ensure at read
  split at read
  · cases read
  · rename_i enough
    simp only [bind, Except.bind, pure, Except.pure, getU64, Except.ok.injEq, Prod.mk.injEq] at read
    obtain ⟨rfl, rfl⟩ := read
    rw [beU64_decode _ (by simp; omega), List.take_append_drop]

/-- The code of variable-length data, with arbitrary padding. -/
def opaqueCode (data pad : Bytes) : Bytes :=
  beU32 (UInt32.ofNat data.length) ++ (data ++ pad)

@[simp] theorem length_opaqueCode (data pad : Bytes) :
    (opaqueCode data pad).length = 4 + (data.length + pad.length) := by
  simp only [opaqueCode, List.length_append, length_beU32]

theorem writes_opaque {data : Bytes} (limit : Nat) (within : data.length ≤ limit)
    (fits : data.length < 2 ^ 32) :
    Writes (fun data => encodeOpaque data limit) data
      (opaqueCode data (List.replicate (padding data.length) 0)) := by
  intro buffer
  have noOverflow : ¬ data.length > u32Max := by unfold u32Max; omega
  simp only [encodeOpaque, Nat.not_lt.mpr within, noOverflow, ↓reduceIte, opaqueCode,
    List.append_assoc]

/-- Padding bytes of any value are skipped. -/
theorem reads_opaque {data pad : Bytes} (limit : Nat) (within : data.length ≤ limit)
    (fits : data.length < 2 ^ 32) (aligned : pad.length = padding data.length) :
    Reads (decodeOpaque limit) data (opaqueCode data pad) := by
  intro rest
  have length : (UInt32.ofNat data.length).toNat = data.length :=
    UInt32.toNat_ofNat_of_lt' (by simpa using fits)
  have enough : ¬ (data ++ (pad ++ rest)).length < data.length + padding data.length := by
    simp only [List.length_append]
    omega
  have back : (pad ++ rest).drop (padding data.length) = rest := List.drop_left' aligned
  simp only [decodeOpaque, opaqueCode, List.append_assoc, decodeU32_append, bind, Except.bind,
    length, gt_iff_lt, Nat.not_lt.mpr within, ↓reduceIte, ensure, enough, pure, Except.pure,
    List.take_left, List.drop_left, back]

/-- A successful read of variable-length data consumed a code of it. -/
theorem decodeOpaque_inv {buf rest data : Bytes} {limit : Nat}
    (read : decodeOpaque limit buf = .ok (data, rest)) :
    ∃ pad, pad.length = padding data.length ∧ data.length ≤ limit ∧ data.length < 2 ^ 32 ∧
      buf = opaqueCode data pad ++ rest := by
  unfold decodeOpaque at read
  cases first : decodeU32 buf with
  | error fault => simp [first, bind, Except.bind] at read
  | ok parsed =>
      obtain ⟨len, body⟩ := parsed
      have shape := decodeU32_inv first
      simp only [first, bind, Except.bind, ensure] at read
      by_cases within : len.toNat > limit
      · simp only [within, ↓reduceIte] at read
        cases read
      · by_cases short : body.length < len.toNat + padding len.toNat
        · simp only [within, short, ↓reduceIte] at read
          cases read
        · simp only [within, short, ↓reduceIte, pure, Except.pure, Except.ok.injEq,
            Prod.mk.injEq] at read
          obtain ⟨rfl, rfl⟩ := read
          have size : (body.take len.toNat).length = len.toNat := by
            rw [List.length_take]
            omega
          have small := len.toNat_lt
          refine ⟨(body.drop len.toNat).take (padding len.toNat), ?_, by omega,
            by omega, ?_⟩
          · rw [size, List.length_take, List.length_drop]
            omega
          · rw [shape, opaqueCode, size, UInt32.ofNat_toNat, List.append_assoc, List.append_assoc,
              List.take_append_drop, List.take_append_drop]

end Xdr

end LibNfs
