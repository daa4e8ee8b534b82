import LibNfs.Lib.Guarded
import LibNfs.Xdr.Truncation

/-! # Decoding on a target

The decoders again, over a cursor whose operations panic when they are asked for
more bytes than are left, with the arithmetic of a target: the width of its `usize`
and whether an overflow panics or wraps.
-/

namespace LibNfs.Xdr

open Coding Guarded

/-- A build of the client. -/
structure Target where
  pointerWidth : Nat
  overflowChecks : Bool

/-- A decoder over the cursor; the fault is a panic. -/
abbrev Buf (α : Type) :=
  Reader XdrError UInt8 α

namespace Buf

/-- `ensure`. -/
def ensure (needed : Nat) : Buf Unit := do
  let had ← Reader.remaining
  if had < needed then
    throwThe XdrError (.truncated needed had)
  else
    return ()

/-- `Buf::get_u32` panics on fewer than four bytes. -/
def getU32 : Buf UInt32 := do
  let raw ← Reader.splitTo 4
  return UInt32.ofNat (BigEndian.decode raw)

/-- `Buf::get_u64` panics on fewer than eight bytes. -/
def getU64 : Buf UInt64 := do
  let raw ← Reader.splitTo 8
  return UInt64.ofNat (BigEndian.decode raw)

/-- `Buf::get_f32`, which panics as `get_u32` does. -/
def getF32 : Buf Float32 := do
  let raw ← Reader.splitTo 4
  return Float32.ofBits (UInt32.ofNat (BigEndian.decode raw))

/-- `Buf::get_f64`, which panics as `get_u64` does. -/
def getF64 : Buf Float := do
  let raw ← Reader.splitTo 8
  return Float.ofBits (UInt64.ofNat (BigEndian.decode raw))

/-- `Buf::copy_to_slice` over a zeroed array. -/
def copyToSlice (size : Nat) : Buf (Vector UInt8 size) :=
  fun buf =>
    if size ≤ buf.length then
      some (.ok (Vector.ofFn fun index => buf.getD index 0, buf.drop size))
    else
      none

/-- `Vec::with_capacity`, where the memory asked for must be bounded by the bytes left. -/
def withCapacity (capacity : Nat) : Buf Unit := do
  let left ← Reader.remaining
  if capacity ≤ left / 4 + 1 then
    return ()
  else
    Reader.fault

/-- Reads a word. -/
def decodeU32 : Buf UInt32 := do
  ensure 4
  getU32

/-- Reads a hyper. -/
def decodeU64 : Buf UInt64 := do
  ensure 8
  getU64

/-- Reads a signed word. -/
def decodeI32 : Buf Int32 := do
  return (← decodeU32).toInt32

/-- Reads a signed hyper. -/
def decodeI64 : Buf Int64 := do
  return (← decodeU64).toInt64

/-- Reads a float of four bytes. -/
def decodeF32 : Buf Float32 := do
  ensure 4
  getF32

/-- Reads a float of eight bytes. -/
def decodeF64 : Buf Float := do
  ensure 8
  getF64

/-- Reads a boolean: the words 0 and 1 only. -/
def decodeBool : Buf Bool := do
  let value ← decodeU32
  if value = 0 then
    return false
  else if value = 1 then
    return true
  else
    throwThe XdrError (.invalidBool value)

variable {α : Type}

/-- `Vec<T>`. -/
def decodeVec (item : Buf α) : Buf (List α) := do
  let count ← decodeU32
  let count := count.toNat
  let left ← Reader.remaining
  if count > left then
    throwThe XdrError (.truncated count left)
  else
    withCapacity (min count (left / 4 + 1))
    Reader.many item count

/-- `Option<T>`. -/
def decodeOption (item : Buf α) : Buf (Option α) := do
  let present ← decodeU32
  if present = 0 then
    return none
  else if present = 1 then
    return some (← item)
  else
    throwThe XdrError (.invalidBool present)

/-- `decode_value` with a limit. -/
def decodeLimited (limit : UInt64) (len : α → Nat) (item : Buf α) : Buf α := do
  let value ← item
  if len value > limit.toNat then
    throwThe XdrError (.limitExceeded (len value) limit.toNat)
  else
    return value

/-- `enum32_decode`. -/
def enum32Decode (discriminants : List Int32) : Buf (Fin discriminants.length) := do
  let discriminant ← decodeI32
  match discriminants.finIdxOf? discriminant with
  | some variant => return variant
  | none => throwThe XdrError (.invalidEnum discriminant)

end Buf

namespace Target

variable (target : Target)

/-- The largest `usize`. -/
def usizeMax : Nat :=
  2 ^ target.pointerWidth - 1

/-- The sum of two `usize`. -/
def add (left right : Nat) : Option Nat :=
  if left + right < 2 ^ target.pointerWidth then
    some (left + right)
  else if target.overflowChecks then
    none
  else
    some ((left + right) % 2 ^ target.pointerWidth)

/-- The product of two `u32`. -/
def mulU32 (left right : UInt32) : Option UInt32 :=
  if left.toNat * right.toNat < 2 ^ 32 then
    some (left * right)
  else if target.overflowChecks then
    none
  else
    some (left * right)

/-- A `u32` shifted to the right. -/
def shrU32 (left amount : UInt32) : Option UInt32 :=
  if amount.toNat < 32 then
    some (left >>> amount)
  else if target.overflowChecks then
    none
  else
    some (left >>> amount)

/-- `decode_opaque`. -/
def decodeOpaque (limit : Nat) : Buf Bytes := do
  let len ← Buf.decodeU32
  let len := len.toNat
  if len > limit then
    throwThe XdrError (.limitExceeded len limit)
  else
    let pad := padding len
    Buf.ensure (← Reader.ofOption (target.add len pad))
    let data ← Reader.splitTo len
    Reader.advance pad
    return data

/-- `String`. -/
def decodeString : Buf String := do
  let raw ← target.decodeOpaque target.usizeMax
  match fromUtf8 raw with
  | some text => return text
  | none => throwThe XdrError .invalidUtf8

/-- `Bytes`. -/
def decodeBytes : Buf Bytes :=
  target.decodeOpaque target.usizeMax

/-- `[u8; N]`. -/
def decodeFixed (size : Nat) : Buf (Vector UInt8 size) := do
  let pad := padding size
  Buf.ensure (← Reader.ofOption (target.add size pad))
  let arr ← Buf.copyToSlice size
  Reader.advance pad
  return arr

mutual

/-- The decoder of a type. -/
def decode : (ty : Ty) → Buf ty.Val
  | .u32 => Buf.decodeU32
  | .i32 => Buf.decodeI32
  | .u64 => Buf.decodeU64
  | .i64 => Buf.decodeI64
  | .bool => Buf.decodeBool
  | .void => return ()
  | .fixed size => target.decodeFixed size
  | .option elem => Buf.decodeOption (decode elem)
  | .sized kind => decodeSized kind
  | .struct fields => decodeFields fields
  | .enum32 discriminants => Buf.enum32Decode discriminants
  | .union variants => do
      let discriminant ← Buf.decodeI32
      decodeVariants variants discriminant

/-- Reads a text, bytes, an array or a list. -/
def decodeSized : (kind : SizedTy) → Buf kind.Val
  | .string => target.decodeString
  | .bytes => target.decodeBytes
  | .vec elem => Buf.decodeVec (decode elem)

/-- `construct`. -/
def decodeFields : (fields : Fields) → Buf fields.Val
  | .nil => return ()
  | .plain ty rest => do
      let value ← decode ty
      let values ← decodeFields rest
      return (value, values)
  | .limited limit ty rest => do
      let value ← Buf.decodeLimited limit ty.xdrLen (decodeSized ty)
      let values ← decodeFields rest
      return (value, values)

/-- `union_decode`. -/
def decodeVariants : (variants : Variants) → Int32 → Buf variants.Val
  | .nil => fun discriminant => throwThe XdrError (.invalidUnion discriminant.toUInt32)
  | .cons label fields rest => fun discriminant =>
      if discriminant = i32Lit label then do
        let value ← decodeFields fields
        return .inl value
      else do
        let value ← decodeVariants rest discriminant
        return .inr value

end

end Target

/-- The 64-bit build with overflow checks. -/
def Target.checked64 : Target :=
  ⟨64, true⟩

/-- The 32-bit release build. -/
def Target.release32 : Target :=
  ⟨32, false⟩

section Primitives

variable {most : Nat}

/-- Bytes are cut off after a check that there are as many. -/
theorem follows_word {α : Type} (width : Nat) (value : Bytes → α) :
    Follows most (do Buf.ensure width; let raw ← Reader.splitTo width; return value raw)
      fun buf => (ensure buf width).bind fun _ => .ok (value (buf.take width), buf.drop width) := by
  intro buf _
  simp only [Buf.ensure, bind_assoc, Reader.outcome_bind, Reader.outcome_remaining,
    Option.bind_some, ensure]
  by_cases short : buf.length < width
  · simp only [short, ↓reduceIte, Reader.outcome_throw, Option.bind_some, Except.bind, true_and]
    intro result rest read
    cases read
  · simp only [short, ↓reduceIte, Reader.outcome_pure, Option.bind_some, Except.bind,
      Reader.outcome_splitTo, Nat.not_lt.mp short, true_and]
    intro result rest read
    cases read
    rw [List.length_drop]
    exact Nat.sub_le ..

theorem follows_u32 : Follows most Buf.decodeU32 decodeU32 :=
  follows_word 4 fun raw => UInt32.ofNat (BigEndian.decode raw)

theorem follows_u64 : Follows most Buf.decodeU64 decodeU64 :=
  follows_word 8 fun raw => UInt64.ofNat (BigEndian.decode raw)

theorem follows_i32 :
    Follows most Buf.decodeI32 (XdrDecode.decode : Decoder XdrError UInt8 Int32) :=
  follows_u32.bind fun value => .pure value.toInt32

theorem follows_i64 :
    Follows most Buf.decodeI64 (XdrDecode.decode : Decoder XdrError UInt8 Int64) :=
  follows_u64.bind fun value => .pure value.toInt64

/-- Reading a float of four bytes follows the decoder of its bits. -/
theorem follows_f32 : Follows most Buf.decodeF32 (decodeThen decodeU32 fun bits buf =>
    .ok (Float32.ofBits bits, buf)) := by
  apply (follows_word 4 fun raw => Float32.ofBits (UInt32.ofNat (BigEndian.decode raw))).congr
  funext buf
  simp only [decodeThen, decodeU32]
  cases ensure buf 4 <;> rfl

/-- Reading a float of eight bytes follows the decoder of its bits. -/
theorem follows_f64 : Follows most Buf.decodeF64 (decodeThen decodeU64 fun bits buf =>
    .ok (Float.ofBits bits, buf)) := by
  apply (follows_word 8 fun raw => Float.ofBits (UInt64.ofNat (BigEndian.decode raw))).congr
  funext buf
  simp only [decodeThen, decodeU64]
  cases ensure buf 8 <;> rfl

theorem follows_bool :
    Follows most Buf.decodeBool (XdrDecode.decode : Decoder XdrError UInt8 Bool) :=
  follows_u32.bind fun _ =>
    .ite (fun _ => .pure false) fun _ => .ite (fun _ => .pure true) fun _ => .throw _

variable (target : Target)

/-- Data and padding cut off after a check for some number of bytes. -/
theorem outcome_cut (needed len pad : Nat) (buf : Bytes) :
    (do Buf.ensure needed; let data ← Reader.splitTo len; Reader.advance pad; return data :
        Buf Bytes).outcome buf =
      if buf.length < needed then some (.error (.truncated needed buf.length))
      else if len + pad ≤ buf.length then some (.ok (buf.take len, (buf.drop len).drop pad))
      else none := by
  simp only [Buf.ensure, bind_assoc, Reader.outcome_bind, Reader.outcome_remaining,
    Option.bind_some]
  by_cases short : buf.length < needed
  · simp only [short, ↓reduceIte, Reader.outcome_throw, Option.bind_some]
  · simp only [short, ↓reduceIte, Reader.outcome_pure, Option.bind_some, Reader.outcome_splitTo]
    by_cases data : len ≤ buf.length
    · have left : pad ≤ (buf.drop len).length ↔ len + pad ≤ buf.length := by
        rw [List.length_drop]
        omega
      simp only [data, ↓reduceIte, Option.bind_some, Reader.outcome_advance, left]
      by_cases whole : len + pad ≤ buf.length
      · simp only [whole, ↓reduceIte, Option.bind_some]
      · simp only [whole, ↓reduceIte, Option.bind_none]
    · have whole : ¬ len + pad ≤ buf.length := by omega
      simp only [data, whole, ↓reduceIte, Option.bind_none]

/-- Variable-length data, by what the sum of its length and its padding comes to. -/
theorem outcome_decodeOpaque {limit needed : Nat} {len : UInt32} {buf rest : Bytes}
    (read : decodeU32 buf = .ok (len, rest)) (within : len.toNat ≤ limit)
    (sum : target.add len.toNat (padding len.toNat) = some needed) :
    (target.decodeOpaque limit).outcome buf =
      if rest.length < needed then some (.error (.truncated needed rest.length))
      else if len.toNat + padding len.toNat ≤ rest.length then
        some (.ok (rest.take len.toNat, (rest.drop len.toNat).drop (padding len.toNat)))
      else none := by
  have word := (@follows_u32 buf.length buf (Nat.le_refl _)).1
  rw [read] at word
  rw [← outcome_cut, Target.decodeOpaque, Reader.outcome_bind_ok word]
  simp only [gt_iff_lt, Nat.not_lt.mpr within, ↓reduceIte, sum]
  rw [Reader.outcome_bind_ok (Reader.outcome_ofOption_some ..)]

/-- A length whose sum with its padding does not overflow is checked before its bytes are
cut off. -/
theorem follows_opaqueData (limit : Nat) (sums : ∀ len, len ≤ limit → len < 2 ^ 32 →
    target.add len (padding len) = some (len + padding len)) :
    Follows most (target.decodeOpaque limit) (decodeOpaque limit) := by
  rw [decodeOpaque_eq]
  refine follows_u32.bind fun len => .ite (fun _ => .throw _) fun within => ?_
  intro buf _
  have sum := sums len.toNat (Nat.not_lt.mp within) len.toNat_lt
  simp only [sum, ensure]
  rw [Reader.outcome_bind_ok (Reader.outcome_ofOption_some ..), outcome_cut]
  by_cases short : buf.length < len.toNat + padding len.toNat
  · simp only [short, ↓reduceIte, Except.bind, true_and]
    intro result rest read
    cases read
  · simp only [short, ↓reduceIte, Except.bind, Nat.not_lt.mp short, true_and]
    intro result rest read
    cases read
    rw [List.length_drop, List.length_drop]
    omega

end Primitives

theorem checked64_add {left right : Nat} (fits : left + right < 2 ^ 64) :
    Target.checked64.add left right = some (left + right) :=
  if_pos fits

theorem padding_le (len : Nat) : padding len ≤ 3 := by
  unfold padding
  omega

section Checked

variable {most : Nat}

theorem follows_bytes (limit : Nat) :
    Follows most (Target.checked64.decodeOpaque limit) (decodeOpaque limit) := by
  apply follows_opaqueData
  intro len _ small
  have padded := padding_le len
  exact checked64_add (by omega)

theorem follows_string : Follows most Target.checked64.decodeString
    (XdrDecode.decode : Decoder XdrError UInt8 String) := by
  rw [decodeString_eq]
  refine (follows_bytes usizeMax).bind fun raw => ?_
  cases fromUtf8 raw with
  | none => exact .throw _
  | some text => exact .pure text

/-- No array is larger than half the address space. -/
theorem follows_fixed {size : Nat} (placed : size < 2 ^ 63) :
    Follows most (Target.checked64.decodeFixed size)
      (XdrDecode.decode : Decoder XdrError UInt8 (Vector UInt8 size)) := by
  have padded := padding_le size
  have sum := @checked64_add size (padding size) (by omega)
  intro buf _
  simp only [Target.decodeFixed, sum, Buf.ensure, bind_assoc, Reader.outcome_bind,
    Reader.outcome_remaining, Reader.outcome_ofOption_some, Option.bind_some, XdrDecode.decode,
    ensure]
  by_cases short : buf.length < size + padding size
  · simp only [short, ↓reduceIte, Reader.outcome_throw, Option.bind_some]
    refine ⟨rfl, fun result rest read => ?_⟩
    cases read
  · have data : size ≤ buf.length := by omega
    have pad : padding size ≤ (buf.drop size).length := by
      rw [List.length_drop]
      omega
    have copied : (Buf.copyToSlice size).outcome buf =
        some (.ok (Vector.ofFn fun index => buf.getD index 0, buf.drop size)) := if_pos data
    simp only [short, ↓reduceIte, Reader.outcome_pure, Option.bind_some, copied,
      Reader.outcome_advance, pad]
    refine ⟨rfl, fun result rest read => ?_⟩
    cases read
    rw [List.length_drop, List.length_drop]
    omega

variable {α γ : Type} {reader : Buf α} {decode : Decoder XdrError UInt8 α}

/-- The capacity asked for is within the bound, and so is each element. -/
theorem follows_vec (each : Follows most reader decode) :
    Follows most (Buf.decodeVec reader) (decodeVec decode) := by
  rw [decodeVec_eq]
  refine follows_u32.bind fun count => ?_
  intro buf bound
  simp only [Reader.outcome_bind, Reader.outcome_remaining, Option.bind_some]
  by_cases more : count.toNat > buf.length
  · simp only [more, ↓reduceIte, Reader.outcome_throw, true_and]
    intro result rest read
    cases read
  · have within : min count.toNat (buf.length / 4 + 1) ≤ buf.length / 4 + 1 := Nat.min_le_right ..
    simp only [more, ↓reduceIte, Buf.withCapacity, bind_assoc, Reader.outcome_bind,
      Reader.outcome_remaining, Option.bind_some, within, Reader.outcome_pure]
    exact each.many count.toNat buf bound

theorem follows_option (inner : Follows most reader decode) :
    Follows most (Buf.decodeOption reader) (decodeOption decode) := by
  rw [decodeOption_eq]
  exact follows_u32.bind fun present => .ite (fun _ => .pure none) fun _ =>
    .ite (fun _ => inner.bind fun value => .pure (some value)) fun _ => .throw _

/-- Reading a value under a limit follows its decoder. -/
theorem follows_limited (limit : UInt64) (len : α → Nat) (inner : Follows most reader decode) :
    Follows most (Buf.decodeLimited limit len reader) (decodeLimited limit len decode) :=
  inner.bind fun value => .ite (fun _ => .throw _) fun _ => .pure value

/-- Reading a case of an enumeration follows its decoder. -/
theorem follows_enum32 (discriminants : List Int32) :
    Follows most (Buf.enum32Decode discriminants) (enum32Decode discriminants) := by
  rw [enum32Decode_eq]
  refine follows_i32.bind fun discriminant => ?_
  cases discriminants.finIdxOf? discriminant with
  | none => exact .throw _
  | some variant => exact .pure variant

theorem follows_pair {other : Buf γ} {decodeOther : Decoder XdrError UInt8 γ}
    (first : Follows most reader decode) (second : Follows most other decodeOther) :
    Follows most (do let left ← reader; let right ← other; return (left, right))
      (decodePair decode decodeOther) :=
  first.bind fun left => second.bind fun right => .pure (left, right)

end Checked

mutual

/-- Every array in the type has a size that an array can have: at most `isize::MAX` bytes. -/
def Ty.Placed : Ty → Prop
  | .fixed size => size < 2 ^ 63
  | .option elem => elem.Placed
  | .sized kind => kind.Placed
  | .struct fields => fields.Placed
  | .union variants => variants.Placed
  | _ => True

/-- The same, of the types that a limit can be put on. -/
def SizedTy.Placed : SizedTy → Prop
  | .vec elem => elem.Placed
  | _ => True

/-- The same, of the fields of a struct. -/
def Fields.Placed : Fields → Prop
  | .nil => True
  | .plain ty rest => ty.Placed ∧ rest.Placed
  | .limited _ ty rest => ty.Placed ∧ rest.Placed

/-- The same, of the arms of a union. -/
def Variants.Placed : Variants → Prop
  | .nil => True
  | .cons _ fields rest => fields.Placed ∧ rest.Placed

end

section Types

variable {most : Nat}

mutual

/-- The decoder of a type does not panic, and returns what the model of it returns. -/
theorem Ty.follows : (ty : Ty) → ty.Placed →
    Follows most (Target.checked64.decode ty) ty.decode
  | .u32, _ => follows_u32
  | .i32, _ => follows_i32
  | .u64, _ => follows_u64
  | .i64, _ => follows_i64
  | .bool, _ => follows_bool
  | .void, _ => .pure ()
  | .fixed _, placed => follows_fixed placed
  | .option elem, placed => follows_option (elem.follows placed)
  | .sized kind, placed => kind.follows placed
  | .struct fields, placed => fields.follows placed
  | .enum32 discriminants, _ => follows_enum32 discriminants
  | .union variants, placed =>
      follows_i32.bind fun discriminant => variants.follows discriminant placed

/-- The same, of the types that a limit can be put on. -/
theorem SizedTy.follows : (kind : SizedTy) → kind.Placed →
    Follows most (Target.checked64.decodeSized kind) kind.decode
  | .string, _ => follows_string
  | .bytes, _ => follows_bytes usizeMax
  | .vec elem, placed => follows_vec (elem.follows placed)

theorem Fields.follows : (fields : Fields) → fields.Placed →
    Follows most (Target.checked64.decodeFields fields) fields.decode
  | .nil, _ => .pure ()
  | .plain ty rest, placed => follows_pair (ty.follows placed.1) (rest.follows placed.2)
  | .limited limit ty rest, placed =>
      follows_pair (follows_limited limit ty.xdrLen (ty.follows placed.1))
        (rest.follows placed.2)

theorem Variants.follows : (variants : Variants) → (discriminant : Int32) → variants.Placed →
    Follows most (Target.checked64.decodeVariants variants discriminant)
      (variants.decode discriminant)
  | .nil, discriminant, _ => .throw (XdrError.invalidUnion discriminant.toUInt32)
  | .cons _ fields rest, discriminant, placed =>
      .ite (fun _ => (fields.follows placed.1).bind fun value => .pure (Sum.inl value))
        fun _ => (rest.follows discriminant placed.2).bind fun value => .pure (Sum.inr value)

end

end Types

end LibNfs.Xdr
