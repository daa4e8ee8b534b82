import LibNfs.Xdr.Impls

/-! # The derived codec

The types of the XDR codec as a language of type expressions: the primitive and
container types of `LibNfs.Xdr.Impls`, closed under the structures, `enum32`
enumerations and unions that `#[derive(XdrEncode, XdrDecode)]` accepts. `Ty.Val`
is the type of values of an expression; `Ty.encode` and `Ty.decode` are the
functions the derive generates for it. An `f32` or `f64` is read and written as its
bits, so it stands here as a `u32` or `u64`. A `#[xdr(limit = N)]` attribute only
compiles on a type that implements `XdrLen`, so the length-prefixed types are a
sort of their own and only they take a limit.
-/

namespace LibNfs.Xdr

open Coding

mutual

/-- A type of the codec. -/
inductive Ty where
  | u32
  | i32
  | u64
  | i64
  | bool
  | void
  | fixed (size : Nat)
  | option (elem : Ty)
  | sized (kind : SizedTy)
  | struct (fields : Fields)
  | enum32 (discriminants : List Int32)
  | union (variants : Variants)

/-- A length-prefixed type, one with an `XdrLen` implementation. -/
inductive SizedTy where
  | string
  | bytes
  | vec (elem : Ty)

/-- The fields of a structure or of a union variant, in declaration order. -/
inductive Fields where
  | nil
  | plain (ty : Ty) (rest : Fields)
  | limited (limit : UInt64) (ty : SizedTy) (rest : Fields)

/-- The variants of a union with their `#[xdr(case = N)]` labels. -/
inductive Variants where
  | nil
  | cons (label : Int64) (fields : Fields) (rest : Variants)

end

mutual

/-- The values of a type. -/
@[reducible] def Ty.Val : Ty → Type
  | .u32 => UInt32
  | .i32 => Int32
  | .u64 => UInt64
  | .i64 => Int64
  | .bool => Bool
  | .void => Unit
  | .fixed size => Vector UInt8 size
  | .option elem => Option elem.Val
  | .sized kind => kind.Val
  | .struct fields => fields.Val
  | .enum32 discriminants => Fin discriminants.length
  | .union variants => variants.Val

/-- The values of a text, of bytes, of an array or of a list. -/
@[reducible] def SizedTy.Val : SizedTy → Type
  | .string => String
  | .bytes => Bytes
  | .vec elem => List elem.Val

/-- The values of the fields of a struct. -/
@[reducible] def Fields.Val : Fields → Type
  | .nil => Unit
  | .plain ty rest => ty.Val × rest.Val
  | .limited _ ty rest => ty.Val × rest.Val

/-- The values of the arms of a union. -/
@[reducible] def Variants.Val : Variants → Type
  | .nil => Empty
  | .cons _ fields rest => fields.Val ⊕ rest.Val

end

/-- `i32_lit`: the label of a variant is parsed as an `i64` and truncated. -/
def i32Lit (label : Int64) : Int32 :=
  label.toInt32

/-- The `XdrLen` implementations. -/
def SizedTy.xdrLen : (kind : SizedTy) → kind.Val → Nat
  | .string, text => XdrLen.xdrLen text
  | .bytes, data => XdrLen.xdrLen data
  | .vec _, items => XdrLen.xdrLen items

/-- `encode_access` with a limit: the length is checked before encoding. -/
def encodeLimited {α : Type} (limit : UInt64) (len : α → Nat) (encode : Encoder XdrError UInt8 α) :
    Encoder XdrError UInt8 α :=
  fun value buf =>
    if len value > limit.toNat then
      .error (.limitExceeded (len value) limit.toNat)
    else
      encode value buf

/-- `decode_value` with a limit: the length is checked after decoding. -/
def decodeLimited {α : Type} (limit : UInt64) (len : α → Nat) (decode : Decoder XdrError UInt8 α) :
    Decoder XdrError UInt8 α :=
  fun buf => do
    let (value, buf) ← decode buf
    if len value > limit.toNat then
      .error (.limitExceeded (len value) limit.toNat)
    else
      return (value, buf)

/-- `enum32_encode`: the discriminant as an `int`. -/
def enum32Encode (discriminants : List Int32) :
    Encoder XdrError UInt8 (Fin discriminants.length) :=
  fun value buf => XdrEncode.encode (discriminants.get value) buf

/-- `enum32_decode`: the first variant with the discriminant read. -/
def enum32Decode (discriminants : List Int32) :
    Decoder XdrError UInt8 (Fin discriminants.length) :=
  fun buf => do
    let (discriminant, buf) ← XdrDecode.decode buf
    match discriminants.finIdxOf? discriminant with
    | some variant => return (variant, buf)
    | none => .error (.invalidEnum discriminant)

mutual

/-- The encoder of a type. -/
def Ty.encode : (ty : Ty) → Encoder XdrError UInt8 ty.Val
  | .u32 => XdrEncode.encode
  | .i32 => XdrEncode.encode
  | .u64 => XdrEncode.encode
  | .i64 => XdrEncode.encode
  | .bool => XdrEncode.encode
  | .void => XdrEncode.encode
  | .fixed _ => XdrEncode.encode
  | .option elem => encodeOption elem.encode
  | .sized kind => kind.encode
  | .struct fields => fields.encode
  | .enum32 discriminants => enum32Encode discriminants
  | .union variants => variants.encode

/-- The encoder of a text, of bytes, of an array or of a list. -/
def SizedTy.encode : (kind : SizedTy) → Encoder XdrError UInt8 kind.Val
  | .string => XdrEncode.encode
  | .bytes => XdrEncode.encode
  | .vec elem => encodeVec elem.encode

/-- `struct_encode`: each field in order, with its limit. -/
def Fields.encode : (fields : Fields) → Encoder XdrError UInt8 fields.Val
  | .nil => fun _ buf => .ok buf
  | .plain ty rest => encodePair ty.encode rest.encode
  | .limited limit ty rest => encodePair (encodeLimited limit ty.xdrLen ty.encode) rest.encode

/-- `union_encode`: the discriminant of the active variant and its fields. -/
def Variants.encode : (variants : Variants) → Encoder XdrError UInt8 variants.Val
  | .nil => fun value _ => nomatch value
  | .cons label fields rest => fun value buf =>
      match value with
      | .inl value => do
          let buf ← XdrEncode.encode (i32Lit label) buf
          fields.encode value buf
      | .inr value => rest.encode value buf

end

mutual

/-- The decoder of a type. -/
def Ty.decode : (ty : Ty) → Decoder XdrError UInt8 ty.Val
  | .u32 => XdrDecode.decode
  | .i32 => XdrDecode.decode
  | .u64 => XdrDecode.decode
  | .i64 => XdrDecode.decode
  | .bool => XdrDecode.decode
  | .void => XdrDecode.decode
  | .fixed _ => XdrDecode.decode
  | .option elem => decodeOption elem.decode
  | .sized kind => kind.decode
  | .struct fields => fields.decode
  | .enum32 discriminants => enum32Decode discriminants
  | .union variants => fun buf => do
      let (discriminant, buf) ← XdrDecode.decode buf
      variants.decode discriminant buf

/-- The decoder of a text, of bytes, of an array or of a list. -/
def SizedTy.decode : (kind : SizedTy) → Decoder XdrError UInt8 kind.Val
  | .string => XdrDecode.decode
  | .bytes => XdrDecode.decode
  | .vec elem => decodeVec elem.decode

/-- `construct`: each field in order, with its limit. -/
def Fields.decode : (fields : Fields) → Decoder XdrError UInt8 fields.Val
  | .nil => fun buf => .ok ((), buf)
  | .plain ty rest => decodePair ty.decode rest.decode
  | .limited limit ty rest => decodePair (decodeLimited limit ty.xdrLen ty.decode) rest.decode

/-- `union_decode`: the first variant whose label is the discriminant read. -/
def Variants.decode : (variants : Variants) → Int32 → Decoder XdrError UInt8 variants.Val
  | .nil => fun discriminant _ => .error (.invalidUnion discriminant.toUInt32)
  | .cons label fields rest => fun discriminant buf =>
      if discriminant = i32Lit label then do
        let (value, buf) ← fields.decode buf
        return (.inl value, buf)
      else do
        let (value, buf) ← rest.decode discriminant buf
        return (.inr value, buf)

end

/-- The discriminants of a union, as they are written. -/
def Variants.discriminants : Variants → List Int32
  | .nil => []
  | .cons label _ rest => i32Lit label :: rest.discriminants

mutual

/-- Every `Vec` in the type has elements with a non-empty encoding. -/
def Ty.Occupied : Ty → Prop
  | .option elem => elem.Occupied
  | .sized kind => kind.Occupied
  | .struct fields => fields.Occupied
  | .union variants => variants.Occupied
  | _ => True

/-- The same, of the types that a limit can be put on. -/
def SizedTy.Occupied : SizedTy → Prop
  | .vec elem => elem.Occupied ∧ ∀ value code, Writes elem.encode value code → code ≠ []
  | _ => True

/-- The same, of the fields of a struct. -/
def Fields.Occupied : Fields → Prop
  | .nil => True
  | .plain ty rest => ty.Occupied ∧ rest.Occupied
  | .limited _ ty rest => ty.Occupied ∧ rest.Occupied

/-- The same, of the arms of a union. -/
def Variants.Occupied : Variants → Prop
  | .nil => True
  | .cons _ fields rest => fields.Occupied ∧ rest.Occupied

end

mutual

/-- Every enumeration and union in the type has pairwise distinct discriminants. -/
def Ty.Distinct : Ty → Prop
  | .option elem => elem.Distinct
  | .sized kind => kind.Distinct
  | .struct fields => fields.Distinct
  | .enum32 discriminants => discriminants.Nodup
  | .union variants => variants.discriminants.Nodup ∧ variants.Distinct
  | _ => True

/-- The same, of the types that a limit can be put on. -/
def SizedTy.Distinct : SizedTy → Prop
  | .vec elem => elem.Distinct
  | _ => True

/-- The same, of the fields of a struct. -/
def Fields.Distinct : Fields → Prop
  | .nil => True
  | .plain ty rest => ty.Distinct ∧ rest.Distinct
  | .limited _ ty rest => ty.Distinct ∧ rest.Distinct

/-- The same, of the arms of a union. -/
def Variants.Distinct : Variants → Prop
  | .nil => True
  | .cons _ fields rest => fields.Distinct ∧ rest.Distinct

end

section Lengths

variable (each : Nat → Prop) (capped : UInt64 → Nat → Prop)

mutual

/-- Every variable length in the value satisfies `each`, and every one under a
limit satisfies `capped` with that limit. -/
def Ty.Lengths : (ty : Ty) → ty.Val → Prop
  | .option elem => fun value => ∀ inner, value = some inner → elem.Lengths inner
  | .sized kind => kind.Lengths
  | .struct fields => fields.Lengths
  | .union variants => variants.Lengths
  | .u32 | .i32 | .u64 | .i64 | .bool | .void | .fixed _ | .enum32 _ => fun _ => True

/-- The same, of the types that a limit can be put on. -/
def SizedTy.Lengths : (kind : SizedTy) → kind.Val → Prop
  | .string => fun text => each (asBytes text).length
  | .bytes => fun data => each data.length
  | .vec elem => fun items => each items.length ∧ ∀ item ∈ items, elem.Lengths item

/-- The same, of the fields of a struct. -/
def Fields.Lengths : (fields : Fields) → fields.Val → Prop
  | .nil => fun _ => True
  | .plain ty rest => fun value => ty.Lengths value.1 ∧ rest.Lengths value.2
  | .limited limit ty rest => fun value =>
      (capped limit (ty.xdrLen value.1) ∧ ty.Lengths value.1) ∧ rest.Lengths value.2

/-- The same, of the arms of a union. -/
def Variants.Lengths : (variants : Variants) → variants.Val → Prop
  | .nil => fun _ => True
  | .cons _ fields rest => Sum.elim fields.Lengths rest.Lengths

end

end Lengths

/-- Every variable length fits in the `u32` of its prefix. -/
abbrev Ty.Fits (ty : Ty) (value : ty.Val) : Prop :=
  ty.Lengths (· < 2 ^ 32) (fun _ _ => True) value

/-- Every `#[xdr(limit = N)]` holds. -/
abbrev Ty.Within (ty : Ty) (value : ty.Val) : Prop :=
  ty.Lengths (fun _ => True) (fun limit len => len ≤ limit.toNat) value

/-- A value of such a type whose lengths have a prefix. -/
abbrev SizedTy.Fits (kind : SizedTy) (value : kind.Val) : Prop :=
  kind.Lengths (· < 2 ^ 32) (fun _ _ => True) value

/-- A value of such a type within its limits. -/
abbrev SizedTy.Within (kind : SizedTy) (value : kind.Val) : Prop :=
  kind.Lengths (fun _ => True) (fun limit len => len ≤ limit.toNat) value

/-- Fields whose lengths have a prefix. -/
abbrev Fields.Fits (fields : Fields) (value : fields.Val) : Prop :=
  fields.Lengths (· < 2 ^ 32) (fun _ _ => True) value

/-- Fields within their limits. -/
abbrev Fields.Within (fields : Fields) (value : fields.Val) : Prop :=
  fields.Lengths (fun _ => True) (fun limit len => len ≤ limit.toNat) value

/-- An arm whose lengths have a prefix. -/
abbrev Variants.Fits (variants : Variants) (value : variants.Val) : Prop :=
  variants.Lengths (· < 2 ^ 32) (fun _ _ => True) value

/-- An arm within its limits. -/
abbrev Variants.Within (variants : Variants) (value : variants.Val) : Prop :=
  variants.Lengths (fun _ => True) (fun limit len => len ≤ limit.toNat) value

end LibNfs.Xdr
