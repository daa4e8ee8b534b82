import LibNfs.Xdr.Codec

/-! # Codec instances for the primitive and container types

Each container takes the codec of its element as an argument; the trait
instances apply it to the element's own instance. For each type there is a
`writes` lemma (the code it appends), a `reads` lemma (that code is read back)
and an inversion lemma (what was read had that code, up to padding).
-/

namespace LibNfs.Xdr

open Coding

/-- A word, in four bytes. -/
instance : XdrEncode UInt32 where
  encode value buf := .ok (buf ++ beU32 value)

/-- The words are read back. -/
instance : XdrDecode UInt32 where
  decode := decodeU32

/-- A signed word, as the word with its bits. -/
instance : XdrEncode Int32 where
  encode value buf := .ok (buf ++ beU32 value.toUInt32)

/-- The signed words are read back. -/
instance : XdrDecode Int32 where
  decode buf := do
    let (value, buf) ← decodeU32 buf
    return (value.toInt32, buf)

/-- A hyper, in eight bytes. -/
instance : XdrEncode UInt64 where
  encode value buf := .ok (buf ++ beU64 value)

/-- The hypers are read back. -/
instance : XdrDecode UInt64 where
  decode := decodeU64

/-- A signed hyper, as the hyper with its bits. -/
instance : XdrEncode Int64 where
  encode value buf := .ok (buf ++ beU64 value.toUInt64)

/-- The signed hypers are read back. -/
instance : XdrDecode Int64 where
  decode buf := do
    let (value, buf) ← decodeU64 buf
    return (value.toInt64, buf)

/-- `u32::from(bool)`. -/
def boolWord (value : Bool) : UInt32 :=
  if value then 1 else 0

/-- A boolean, as the word 0 or 1. -/
instance : XdrEncode Bool where
  encode value buf := .ok (buf ++ beU32 (boolWord value))

/-- Only the words 0 and 1 are read as a boolean. -/
instance : XdrDecode Bool where
  decode buf := do
    let (value, buf) ← decodeU32 buf
    if value = 0 then
      return (false, buf)
    else if value = 1 then
      return (true, buf)
    else
      .error (.invalidBool value)

/-- Nothing is written for a `void`. -/
instance : XdrEncode Unit where
  encode _ buf := .ok buf

/-- Nothing is read for a `void`. -/
instance : XdrDecode Unit where
  decode buf := .ok ((), buf)

/-- The UTF-8 bytes of a string. -/
def asBytes (text : String) : Bytes :=
  text.toByteArray.data.toList

/-- `core::str::from_utf8`. -/
def fromUtf8 (raw : Bytes) : Option String :=
  String.fromUTF8? ⟨raw.toArray⟩

/-- A text, as the opaque data of its UTF-8 bytes. -/
instance : XdrEncode String where
  encode text buf := encodeOpaque (asBytes text) usizeMax buf

/-- A text is read when its bytes are UTF-8. -/
instance : XdrDecode String where
  decode buf := do
    let (raw, buf) ← decodeOpaque usizeMax buf
    match fromUtf8 raw with
    | some text => return (text, buf)
    | none => .error .invalidUtf8

/-- Opaque data, with a length prefix. -/
instance : XdrEncode Bytes where
  encode data buf := encodeOpaque data usizeMax buf

/-- Opaque data of any length is read. -/
instance : XdrDecode Bytes where
  decode := decodeOpaque usizeMax

/-- Opaque data of a fixed size has no length prefix. -/
instance (size : Nat) : XdrEncode (Vector UInt8 size) where
  encode data buf := .ok (buf ++ data.toList ++ List.replicate (padding size) 0)

/-- The array starts zeroed and is then overwritten from the buffer. -/
instance (size : Nat) : XdrDecode (Vector UInt8 size) where
  decode buf := do
    let pad := padding size
    ensure buf (size + pad)
    return (Vector.ofFn fun index => buf.getD index 0, (buf.drop size).drop pad)

section Containers

variable {α : Type}

/-- `Vec<T>`: the number of elements and then each of them. -/
def encodeVec (encode : Encoder XdrError UInt8 α) (items : List α) (buf : Bytes) :
    Except XdrError Bytes :=
  if items.length > u32Max then
    .error (.lengthOverflow items.length)
  else
    encodeAll encode items (buf ++ beU32 (UInt32.ofNat items.length))

/-- `Vec<T>`: a count above the number of bytes left is refused before any
element is read. -/
def decodeVec (decode : Decoder XdrError UInt8 α) (buf : Bytes) :
    Except XdrError (List α × Bytes) := do
  let (count, buf) ← decodeU32 buf
  let count := count.toNat
  if count > buf.length then
    .error (.truncated count buf.length)
  else
    decodeMany decode count buf

/-- `Option<T>`: a presence flag and then the value. -/
def encodeOption (encode : Encoder XdrError UInt8 α) (value : Option α) (buf : Bytes) :
    Except XdrError Bytes :=
  match value with
  | some value => encode value (buf ++ beU32 1)
  | none => .ok (buf ++ beU32 0)

/-- Reads a flag, and a value behind the flag 1. -/
def decodeOption (decode : Decoder XdrError UInt8 α) (buf : Bytes) :
    Except XdrError (Option α × Bytes) := do
  let (present, buf) ← decodeU32 buf
  if present = 0 then
    return (none, buf)
  else if present = 1 then
    let (value, buf) ← decode buf
    return (some value, buf)
  else
    .error (.invalidBool present)

/-- A list, with a count prefix. -/
instance [XdrEncode α] : XdrEncode (List α) where
  encode := encodeVec XdrEncode.encode

/-- A list of any length is read. -/
instance [XdrDecode α] : XdrDecode (List α) where
  decode := decodeVec XdrDecode.decode

/-- An optional value, behind a flag. -/
instance [XdrEncode α] : XdrEncode (Option α) where
  encode := encodeOption XdrEncode.encode

/-- An optional value is read. -/
instance [XdrDecode α] : XdrDecode (Option α) where
  decode := decodeOption XdrDecode.decode

/-- The length that a limit on a list is about. -/
instance : XdrLen (List α) where
  xdrLen := List.length

/-- The length that a limit on a text is about, in bytes. -/
instance : XdrLen String where
  xdrLen text := (asBytes text).length

end Containers

theorem reads_i32 (value : Int32) : Reads XdrDecode.decode value (beU32 value.toUInt32) := by
  intro rest
  simp only [XdrDecode.decode, decodeU32_append, bind, Except.bind, pure, Except.pure,
    Int32.toInt32_toUInt32]

theorem decodeI32_inv {buf rest : Bytes} {value : Int32}
    (read : XdrDecode.decode buf = .ok (value, rest)) : buf = beU32 value.toUInt32 ++ rest := by
  simp only [XdrDecode.decode, bind, Except.bind] at read
  cases first : decodeU32 buf with
  | error fault => simp [first] at read
  | ok parsed =>
      simp only [first, pure, Except.pure, Except.ok.injEq, Prod.mk.injEq] at read
      obtain ⟨rfl, rfl⟩ := read
      rw [UInt32.toUInt32_toInt32]
      exact decodeU32_inv first

theorem reads_i64 (value : Int64) : Reads XdrDecode.decode value (beU64 value.toUInt64) := by
  intro rest
  simp only [XdrDecode.decode, decodeU64_append, bind, Except.bind, pure, Except.pure,
    Int64.toInt64_toUInt64]

/-- What is read as a signed hyper was written as it. -/
theorem decodeI64_inv {buf rest : Bytes} {value : Int64}
    (read : XdrDecode.decode buf = .ok (value, rest)) : buf = beU64 value.toUInt64 ++ rest := by
  simp only [XdrDecode.decode, bind, Except.bind] at read
  cases first : decodeU64 buf with
  | error fault => simp [first] at read
  | ok parsed =>
      simp only [first, pure, Except.pure, Except.ok.injEq, Prod.mk.injEq] at read
      obtain ⟨rfl, rfl⟩ := read
      rw [UInt64.toUInt64_toInt64]
      exact decodeU64_inv first

theorem reads_bool (value : Bool) : Reads XdrDecode.decode value (beU32 (boolWord value)) := by
  intro rest
  cases value <;>
    simp [XdrDecode.decode, boolWord, bind, Except.bind, pure, Except.pure]

theorem decodeBool_inv {buf rest : Bytes} {value : Bool}
    (read : XdrDecode.decode buf = .ok (value, rest)) : buf = beU32 (boolWord value) ++ rest := by
  simp only [XdrDecode.decode, bind, Except.bind] at read
  cases first : decodeU32 buf with
  | error fault => simp [first] at read
  | ok parsed =>
      have shape := decodeU32_inv first
      simp only [first, pure, Except.pure] at read
      split at read
      · rename_i zero
        cases read
        rw [shape, zero, boolWord, if_neg Bool.false_ne_true]
      · split at read
        · rename_i one
          cases read
          rw [shape, one, boolWord, if_pos rfl]
        · cases read

theorem fromUtf8_asBytes (text : String) : fromUtf8 (asBytes text) = some text := by
  have same : (⟨(asBytes text).toArray⟩ : ByteArray) = text.toByteArray := by simp [asBytes]
  rw [fromUtf8, same, String.fromUTF8?, dif_pos text.isValidUTF8]
  rfl

theorem asBytes_of_fromUtf8 {raw : Bytes} {text : String} (valid : fromUtf8 raw = some text) :
    asBytes text = raw := by
  unfold fromUtf8 String.fromUTF8? at valid
  split at valid
  · cases valid
    simp [asBytes, String.fromUTF8]
  · cases valid

theorem writes_string {text : String} (fits : (asBytes text).length < 2 ^ 32) :
    Writes XdrEncode.encode text
      (opaqueCode (asBytes text) (List.replicate (padding (asBytes text).length) 0)) :=
  writes_opaque usizeMax (by unfold usizeMax; omega) fits

theorem reads_string {text : String} {pad : Bytes} (fits : (asBytes text).length < 2 ^ 32)
    (aligned : pad.length = padding (asBytes text).length) :
    Reads XdrDecode.decode text (opaqueCode (asBytes text) pad) := by
  intro rest
  have raw := reads_opaque usizeMax (by unfold usizeMax; omega) fits aligned rest
  simp only [XdrDecode.decode, raw, bind, Except.bind, fromUtf8_asBytes, pure, Except.pure]

/-- What is read as a text is a length, its bytes and some padding. -/
theorem decodeString_inv {buf rest : Bytes} {text : String}
    (read : XdrDecode.decode buf = .ok (text, rest)) :
    ∃ pad, pad.length = padding (asBytes text).length ∧ (asBytes text).length < 2 ^ 32 ∧
      buf = opaqueCode (asBytes text) pad ++ rest := by
  simp only [XdrDecode.decode, bind, Except.bind] at read
  cases first : decodeOpaque usizeMax buf with
  | error fault => simp [first] at read
  | ok parsed =>
      obtain ⟨raw, body⟩ := parsed
      obtain ⟨pad, aligned, -, fits, shape⟩ := decodeOpaque_inv first
      cases valid : fromUtf8 raw with
      | none => simp [first, valid] at read
      | some decoded =>
          simp only [first, valid, pure, Except.pure, Except.ok.injEq, Prod.mk.injEq] at read
          obtain ⟨rfl, rfl⟩ := read
          rw [asBytes_of_fromUtf8 valid]
          exact ⟨pad, aligned, fits, shape⟩

/-- Data of a fixed size is written with its padding. -/
theorem writes_fixed {size : Nat} (data : Vector UInt8 size) :
    Writes XdrEncode.encode data (data.toList ++ List.replicate (padding size) 0) := by
  intro buffer
  simp only [XdrEncode.encode, List.append_assoc]

/-- Data of a fixed size is read back, whatever the padding is. -/
theorem reads_fixed {size : Nat} {data : Vector UInt8 size} {pad : Bytes}
    (aligned : pad.length = padding size) :
    Reads XdrDecode.decode data (data.toList ++ pad) := by
  intro rest
  have width : data.toList.length = size := by simp
  have enough : ¬ (data.toList ++ (pad ++ rest)).length < size + padding size := by
    simp only [List.length_append, width]
    omega
  have back : ((data.toList ++ (pad ++ rest)).drop size).drop (padding size) = rest := by
    rw [List.drop_left' width, List.drop_left' aligned]
  have front : (Vector.ofFn fun index : Fin size => (data.toList ++ (pad ++ rest)).getD index 0) =
      data := by
    apply Vector.ext
    intro index inside
    have inData : index < data.toList.length := by omega
    simp [List.getElem?_append_left inData, inside]
  simp only [XdrDecode.decode, List.append_assoc, ensure, enough, ↓reduceIte, bind, Except.bind,
    pure, Except.pure, back, front]

/-- What is read as data of a fixed size is its bytes and some padding. -/
theorem decodeFixed_inv {size : Nat} {buf rest : Bytes} {data : Vector UInt8 size}
    (read : XdrDecode.decode buf = .ok (data, rest)) :
    ∃ pad, pad.length = padding size ∧ buf = data.toList ++ pad ++ rest := by
  simp only [XdrDecode.decode, ensure, bind, Except.bind] at read
  by_cases short : buf.length < size + padding size
  · simp only [short, ↓reduceIte] at read
    cases read
  · simp only [short, ↓reduceIte, pure, Except.pure, Except.ok.injEq, Prod.mk.injEq] at read
    obtain ⟨rfl, rfl⟩ := read
    refine ⟨(buf.drop size).take (padding size), ?_, ?_⟩
    · rw [List.length_take, List.length_drop]
      omega
    · have front : (Vector.ofFn fun index : Fin size => buf.getD index 0).toList =
          buf.take size := by
        apply List.ext_getElem
        · simp
          omega
        · intro index inside _
          have inBuf : index < buf.length := by simp at inside; omega
          simp [inBuf]
      rw [front, List.append_assoc, List.take_append_drop, List.take_append_drop]

end LibNfs.Xdr
