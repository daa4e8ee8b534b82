import LibNfs.Xdr.RoundTrip

/-! # Accepted input is canonical up to padding

The converse of the round trip. `Ty.pads` marks, in the code of a value, the pad
bytes after opaque and string data. Whatever a decoder accepts begins with a
code of the value it returns, equal to the encoder's off those positions, and
the same value is read whatever follows that code (`Ty.accepts`). Distinct
discriminants are not needed: a union value read back is the first arm with its
discriminant.
-/

namespace LibNfs.Xdr

open Coding

/-- The pad positions of length-prefixed data. -/
def opaquePads (len : Nat) : List Bool :=
  List.replicate (4 + len) false ++ List.replicate (padding len) true

mutual

/-- Which bytes of the code of a value are padding. -/
def Ty.pads : (ty : Ty) → ty.Val → List Bool
  | .u32 | .i32 | .bool | .enum32 _ => fun _ => List.replicate 4 false
  | .u64 | .i64 => fun _ => List.replicate 8 false
  | .void => fun _ => []
  | .fixed size => fun _ => List.replicate size false ++ List.replicate (padding size) true
  | .option elem => fun value =>
      match value with
      | some value => List.replicate 4 false ++ elem.pads value
      | none => List.replicate 4 false
  | .sized kind => kind.pads
  | .struct fields => fields.pads
  | .union variants => fun value => List.replicate 4 false ++ variants.pads value

def SizedTy.pads : (kind : SizedTy) → kind.Val → List Bool
  | .string => fun text => opaquePads (asBytes text).length
  | .bytes => fun data => opaquePads data.length
  | .vec elem => fun items => List.replicate 4 false ++ (items.map elem.pads).flatten

def Fields.pads : (fields : Fields) → fields.Val → List Bool
  | .nil => fun _ => []
  | .plain ty rest => fun value => ty.pads value.1 ++ rest.pads value.2
  | .limited _ ty rest => fun value => ty.pads value.1 ++ rest.pads value.2

def Variants.pads : (variants : Variants) → variants.Val → List Bool
  | .nil => fun value => nomatch value
  | .cons _ fields rest => Sum.elim fields.pads rest.pads

end

/-- A word has no padding. -/
theorem agreeOff_u32 (value : UInt32) :
    AgreeOff (List.replicate 4 false) (beU32 value) (beU32 value) := by
  have same := AgreeOff.refl (beU32 value)
  rwa [length_beU32] at same

/-- A long word has no padding. -/
theorem agreeOff_u64 (value : UInt64) :
    AgreeOff (List.replicate 8 false) (beU64 value) (beU64 value) := by
  have same := AgreeOff.refl (beU64 value)
  rwa [length_beU64] at same

/-- Pad bytes of any value against zeros. -/
theorem agreeOff_pad {pad : Bytes} {count : Nat} (aligned : pad.length = count) :
    AgreeOff (List.replicate count true) pad (List.replicate count 0) := by
  have masked := AgreeOff.all_masked pad (List.replicate count 0) (by simpa using aligned)
  rwa [List.length_replicate] at masked

/-- Two opaques of one content differ at most in their padding. -/
theorem agreeOff_opaque {data pad : Bytes} (aligned : pad.length = padding data.length) :
    AgreeOff (opaquePads data.length) (opaqueCode data pad)
      (opaqueCode data (List.replicate (padding data.length) 0)) := by
  have word := agreeOff_u32 (UInt32.ofNat data.length)
  have body := (AgreeOff.refl data).append (agreeOff_pad aligned)
  rw [opaquePads, List.replicate_add, List.append_assoc]
  exact word.append body

section Containers

variable {α : Type} {decode : Decoder XdrError UInt8 α}

/-- What `decode_vec` took: a count, and as many elements. -/
theorem decodeVec_inv {buf rest : Bytes} {items : List α}
    (read : decodeVec decode buf = .ok (items, rest)) :
    ∃ count body, buf = beU32 count ++ body ∧ decodeMany decode count.toNat body =
      .ok (items, rest) := by
  unfold decodeVec at read
  cases first : decodeU32 buf with
  | error fault => simp [first, bind, Except.bind] at read
  | ok parsed =>
      obtain ⟨count, body⟩ := parsed
      simp only [first, bind, Except.bind] at read
      split at read
      · cases read
      · exact ⟨count, body, decodeU32_inv first, read⟩

/-- What `decode_option` took: a flag, and a value after a true one. -/
theorem decodeOption_inv {buf rest : Bytes} {value : Option α}
    (read : decodeOption decode buf = .ok (value, rest)) :
    (value = none ∧ buf = beU32 0 ++ rest) ∨
      ∃ inner body, value = some inner ∧ buf = beU32 1 ++ body ∧
        decode body = .ok (inner, rest) := by
  unfold decodeOption at read
  cases first : decodeU32 buf with
  | error fault => simp [first, bind, Except.bind] at read
  | ok parsed =>
      obtain ⟨present, body⟩ := parsed
      have shape := decodeU32_inv first
      simp only [first, bind, Except.bind, pure, Except.pure] at read
      split at read
      · rename_i zero
        cases read
        exact Or.inl ⟨rfl, by rw [shape, zero]⟩
      · split at read
        · rename_i one
          cases inner : decode body with
          | error fault => simp [inner] at read
          | ok parsed =>
              simp only [inner, Except.ok.injEq, Prod.mk.injEq] at read
              obtain ⟨rfl, rfl⟩ := read
              exact Or.inr ⟨_, body, rfl, by rw [shape, one], inner⟩
        · cases read

/-- What a limited decoder took is within the limit. -/
theorem decodeLimited_inv {limit : UInt64} {len : α → Nat} {buf rest : Bytes} {value : α}
    (read : decodeLimited limit len decode buf = .ok (value, rest)) :
    len value ≤ limit.toNat ∧ decode buf = .ok (value, rest) := by
  unfold decodeLimited at read
  cases inner : decode buf with
  | error fault => simp [inner, bind, Except.bind] at read
  | ok parsed =>
      simp only [inner, bind, Except.bind] at read
      split at read
      · cases read
      · rename_i within
        simp only [pure, Except.pure, Except.ok.injEq, Prod.mk.injEq] at read
        obtain ⟨rfl, rfl⟩ := read
        exact ⟨Nat.not_lt.mp within, rfl⟩

/-- What an enumeration took: the word of its discriminant. -/
theorem enum32Decode_inv {discriminants : List Int32} {buf rest : Bytes}
    {value : Fin discriminants.length}
    (read : enum32Decode discriminants buf = .ok (value, rest)) :
    buf = beU32 (discriminants.get value).toUInt32 ++ rest ∧
      discriminants.finIdxOf? (discriminants.get value) = some value := by
  unfold enum32Decode at read
  cases first : (XdrDecode.decode buf : Except XdrError (Int32 × Bytes)) with
  | error fault => simp [first, bind, Except.bind] at read
  | ok parsed =>
      obtain ⟨discriminant, body⟩ := parsed
      simp only [first, bind, Except.bind] at read
      cases found : discriminants.finIdxOf? discriminant with
      | none => simp [found] at read
      | some variant =>
          simp only [found, pure, Except.pure, Except.ok.injEq, Prod.mk.injEq] at read
          obtain ⟨rfl, rfl⟩ := read
          have here : discriminants.get variant = discriminant :=
            (List.finIdxOf?_eq_some_iff.mp found).1
          rw [here]
          exact ⟨decodeI32_inv first, found⟩

end Containers

mutual

/-- What the decoder accepts starts with a code of the value it returns, and
that value is read off this code whatever follows. -/
theorem Ty.accepts : (ty : Ty) → ty.Occupied → ∀ {buf rest : Bytes} {value : ty.Val},
    ty.decode buf = .ok (value, rest) → ∃ code, buf = code ++ rest ∧
      AgreeOff (ty.pads value) code (ty.code value) ∧ Reads ty.decode value code ∧
      ty.Fits value ∧ ty.Within value
  | .u32, _, _, _, value, read =>
      ⟨_, decodeU32_inv read, agreeOff_u32 value, reads_u32 value, trivial, trivial⟩
  | .i32, _, _, _, value, read =>
      ⟨_, decodeI32_inv read, agreeOff_u32 _, reads_i32 value, trivial, trivial⟩
  | .u64, _, _, _, value, read =>
      ⟨_, decodeU64_inv read, agreeOff_u64 value, reads_u64 value, trivial, trivial⟩
  | .i64, _, _, _, value, read =>
      ⟨_, decodeI64_inv read, agreeOff_u64 _, reads_i64 value, trivial, trivial⟩
  | .bool, _, _, _, value, read =>
      ⟨_, decodeBool_inv read, agreeOff_u32 _, reads_bool value, trivial, trivial⟩
  | .void, _, buf, _, _, read => by
      cases read
      exact ⟨[], rfl, .nil, fun _ => rfl, trivial, trivial⟩
  | .fixed size, _, _, _, value, read => by
      obtain ⟨pad, aligned, shape⟩ := decodeFixed_inv read
      have data := AgreeOff.refl value.toList
      rw [Vector.length_toList] at data
      exact ⟨value.toList ++ pad, shape, data.append (agreeOff_pad aligned),
        reads_fixed aligned, trivial, trivial⟩
  | .option elem, occupied, _, _, _, read => by
      rcases decodeOption_inv read with ⟨rfl, shape⟩ | ⟨inner, body, rfl, rfl, inside⟩
      · exact ⟨_, shape, agreeOff_u32 0, reads_none,
          (fun _ absent => nomatch absent), (fun _ absent => nomatch absent)⟩
      · obtain ⟨code, rfl, agree, reads, fits, within⟩ := elem.accepts occupied inside
        exact ⟨beU32 1 ++ code, by rw [List.append_assoc], (agreeOff_u32 1).append agree,
          reads_some reads, fun _ same => Option.some.inj same ▸ fits,
          fun _ same => Option.some.inj same ▸ within⟩
  | .sized kind, occupied, _, _, _, read => kind.accepts occupied read
  | .struct fields, occupied, _, _, _, read => fields.accepts occupied read
  | .enum32 _, _, _, _, _, read => by
      obtain ⟨shape, first⟩ := enum32Decode_inv read
      exact ⟨_, shape, agreeOff_u32 _, reads_enum32 first, trivial, trivial⟩
  | .union variants, occupied, buf, _, value, read => by
      simp only [Ty.decode, bind, Except.bind] at read
      cases first : (XdrDecode.decode buf : Except XdrError (Int32 × Bytes)) with
      | error fault => simp [first] at read
      | ok parsed =>
          obtain ⟨discriminant, body⟩ := parsed
          simp only [first] at read
          obtain ⟨code, rfl, active, agree, reads, fits, within⟩ :=
            variants.accepts occupied discriminant read
          refine ⟨beU32 discriminant.toUInt32 ++ code, ?_, ?_, ?_, fits, within⟩
          · rw [decodeI32_inv first, List.append_assoc]
          · simp only [Ty.code, active]
            exact (agreeOff_u32 _).append agree
          · intro rest
            simp only [Ty.decode, List.append_assoc, reads_i32 discriminant (code ++ rest), bind,
              Except.bind, reads rest]

theorem SizedTy.accepts : (kind : SizedTy) → kind.Occupied → ∀ {buf rest : Bytes}
    {value : kind.Val}, kind.decode buf = .ok (value, rest) → ∃ code, buf = code ++ rest ∧
      AgreeOff (kind.pads value) code (kind.code value) ∧ Reads kind.decode value code ∧
      kind.Fits value ∧ kind.Within value
  | .string, _, _, _, _, read => by
      obtain ⟨pad, aligned, fits, shape⟩ := decodeString_inv read
      exact ⟨_, shape, agreeOff_opaque aligned, reads_string fits aligned, fits, trivial⟩
  | .bytes, _, _, _, _, read => by
      obtain ⟨pad, aligned, within, fits, shape⟩ := decodeOpaque_inv read
      exact ⟨_, shape, agreeOff_opaque aligned, reads_opaque _ within fits aligned, fits, trivial⟩
  | .vec elem, occupied, _, _, items, read => by
      obtain ⟨count, body, rfl, inside⟩ := decodeVec_inv read
      obtain ⟨sized, codes, rfl, accepted⟩ := decodeMany_inv (elem.accepts occupied.1) inside
      have counted : UInt32.ofNat items.length = count := by rw [sized, UInt32.ofNat_toNat]
      have small : items.length < 2 ^ 32 := sized ▸ count.toNat_lt
      have nonempty : ∀ code ∈ codes, code ≠ [] := by
        intro code member empty
        obtain ⟨item, agree, _, fits, within⟩ := exists_item_of_mem accepted member
        have length := agree.length_eq
        rw [empty, List.length_nil] at length
        exact occupied.2 item _ (elem.writes item fits within)
          (List.length_eq_zero_iff.mp length.symm)
      refine ⟨beU32 count ++ codes.flatten, by rw [List.append_assoc], ?_, ?_, ?_, ?_⟩
      · simp only [SizedTy.code, counted]
        exact (agreeOff_u32 count).append (AgreeOff.flatten (accepted.imp fun _ _ here => here.1))
      · rw [← counted]
        exact reads_vec small (accepted.imp fun _ _ here => here.2.1) nonempty
      · refine ⟨small, fun item member => ?_⟩
        obtain ⟨_, _, _, fits, _⟩ := exists_code_of_mem accepted member
        exact fits
      · refine ⟨trivial, fun item member => ?_⟩
        obtain ⟨_, _, _, _, within⟩ := exists_code_of_mem accepted member
        exact within

theorem Fields.accepts : (fields : Fields) → fields.Occupied → ∀ {buf rest : Bytes}
    {value : fields.Val}, fields.decode buf = .ok (value, rest) → ∃ code, buf = code ++ rest ∧
      AgreeOff (fields.pads value) code (fields.code value) ∧ Reads fields.decode value code ∧
      fields.Fits value ∧ fields.Within value
  | .nil, _, _, _, _, read => by
      cases read
      exact ⟨[], rfl, .nil, fun _ => rfl, trivial, trivial⟩
  | .plain ty rest, occupied, _, _, _, read => by
      obtain ⟨middle, head, tail⟩ := decodePair_inv read
      obtain ⟨left, rfl, agree, reads, fits, within⟩ := ty.accepts occupied.1 head
      obtain ⟨right, rfl, agree', reads', fits', within'⟩ := rest.accepts occupied.2 tail
      exact ⟨left ++ right, by rw [List.append_assoc], agree.append agree', reads.pair reads',
        ⟨fits, fits'⟩, ⟨within, within'⟩⟩
  | .limited limit ty rest, occupied, _, _, _, read => by
      obtain ⟨middle, head, tail⟩ := decodePair_inv read
      obtain ⟨short, head⟩ := decodeLimited_inv head
      obtain ⟨left, rfl, agree, reads, fits, within⟩ := ty.accepts occupied.1 head
      obtain ⟨right, rfl, agree', reads', fits', within'⟩ := rest.accepts occupied.2 tail
      exact ⟨left ++ right, by rw [List.append_assoc], agree.append agree',
        (reads_limited short reads).pair reads', ⟨⟨trivial, fits⟩, fits'⟩,
        ⟨⟨short, within⟩, within'⟩⟩

theorem Variants.accepts : (variants : Variants) → variants.Occupied → ∀ (discriminant : Int32)
    {buf rest : Bytes} {value : variants.Val},
    variants.decode discriminant buf = .ok (value, rest) → ∃ code, buf = code ++ rest ∧
      variants.active value = discriminant ∧
      AgreeOff (variants.pads value) code (variants.body value) ∧
      Reads (variants.decode discriminant) value code ∧
      variants.Fits value ∧ variants.Within value
  | .nil, _, _, _, _, _, read => nomatch read
  | .cons label fields others, occupied, discriminant, buf, _, _, read => by
      simp only [Variants.decode] at read
      split at read
      · rename_i here
        cases inside : fields.decode buf with
        | error fault => simp [inside, bind, Except.bind] at read
        | ok parsed =>
            simp only [inside, bind, Except.bind, pure, Except.pure, Except.ok.injEq,
              Prod.mk.injEq] at read
            obtain ⟨rfl, rfl⟩ := read
            obtain ⟨code, shape, agree, reads, fits, within⟩ := fields.accepts occupied.1 inside
            exact ⟨code, shape, here.symm, agree, here ▸ reads_here label reads, fits, within⟩
      · rename_i there
        cases inside : others.decode discriminant buf with
        | error fault => simp [inside, bind, Except.bind] at read
        | ok parsed =>
            simp only [inside, bind, Except.bind, pure, Except.pure, Except.ok.injEq,
              Prod.mk.injEq] at read
            obtain ⟨rfl, rfl⟩ := read
            obtain ⟨code, shape, active, agree, reads, fits, within⟩ :=
              others.accepts occupied.2 discriminant inside
            exact ⟨code, shape, active, agree, reads_there there reads, fits, within⟩

end

/-- The converse of the round trip: accepted input is the encoder's own output
but for pad bytes, every limit holds of the value, and the same value is read
whatever follows. -/
theorem decode_canonical (ty : Ty) (occupied : ty.Occupied) (input rest : Bytes) (value : ty.Val)
    (read : ty.decode input = .ok (value, rest)) :
    ∃ consumed code, input = consumed ++ rest ∧ 4 ∣ consumed.length ∧
      (∀ front, ty.encode value front = .ok (front ++ code)) ∧
      consumed.length = code.length ∧
      (∀ index : Nat, (ty.pads value)[index]? ≠ some true → consumed[index]? = code[index]?) ∧
      ty.Within value ∧
      ∀ other, ty.decode (consumed ++ other) = .ok (value, other) := by
  obtain ⟨consumed, split, agree, reads, fits, within⟩ := ty.accepts occupied read
  refine ⟨consumed, ty.code value, split, ?_, ty.writes value fits within, agree.length_eq,
    agree.getElem?_eq, within, reads⟩
  rw [agree.length_eq]
  exact ty.four_dvd_code value

/-- A string whose pad bytes are not zero is accepted, with its limit. -/
theorem decode_canonical_dirty_pad :
    ∃ consumed code, [0, 0, 0, 1, 65, 7, 8, 9, 5] = consumed ++ [5] ∧ 4 ∣ consumed.length ∧
      (∀ front, (Ty.struct (.limited 3 .string .nil)).encode ("A", ()) front =
        .ok (front ++ code)) ∧
      consumed.length = code.length ∧
      (∀ index : Nat, (Ty.pads (.struct (.limited 3 .string .nil)) ("A", ()))[index]? ≠
        some true → consumed[index]? = code[index]?) ∧
      (Ty.struct (.limited 3 .string .nil)).Within ("A", ()) ∧
      ∀ other, (Ty.struct (.limited 3 .string .nil)).decode (consumed ++ other) =
        .ok (("A", ()), other) := by
  refine decode_canonical (.struct (.limited 3 .string .nil)) ⟨trivial, trivial⟩
    [0, 0, 0, 1, 65, 7, 8, 9, 5] [5] ("A", ()) ?_
  decide +kernel

end LibNfs.Xdr
