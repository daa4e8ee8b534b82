import Mathlib.Data.List.Nodup
import LibNfs.Xdr.Derive

/-! # Round trip of the derived codec

`Ty.code` is the RFC 4506 encoding of a value, by recursion on its type alone.
The encoder appends exactly this code to any buffer when every length fits and
respects its limit (`Ty.writes`), refuses the value when only a limit is broken
(`Ty.encode_refuses`), and the decoder reads the value back off its code
(`Ty.reads`). The three are inductions over the type language; each case is one
lemma about the container it is built with.
-/

namespace LibNfs.Xdr

open Coding

/-- The discriminant of the active variant. -/
def Variants.active : (variants : Variants) → variants.Val → Int32
  | .nil => fun value => nomatch value
  | .cons label _ rest => Sum.elim (fun _ => i32Lit label) rest.active

/-- The arm of a value is one of the arms. -/
theorem Variants.active_mem : (variants : Variants) → (value : variants.Val) →
    variants.active value ∈ variants.discriminants
  | .nil, value => nomatch value
  | .cons _ _ _, .inl _ => List.mem_cons_self
  | .cons _ _ rest, .inr value => List.mem_cons_of_mem _ (rest.active_mem value)

mutual

/-- The encoding of a value, as RFC 4506 gives it. -/
def Ty.code : (ty : Ty) → ty.Val → Bytes
  | .u32 => beU32
  | .i32 => fun value => beU32 value.toUInt32
  | .u64 => beU64
  | .i64 => fun value => beU64 value.toUInt64
  | .bool => fun value => beU32 (boolWord value)
  | .void => fun _ => []
  | .fixed size => fun data => data.toList ++ List.replicate (padding size) 0
  | .option elem => fun value =>
      match value with
      | some value => beU32 1 ++ elem.code value
      | none => beU32 0
  | .sized kind => kind.code
  | .struct fields => fields.code
  | .enum32 discriminants => fun value => beU32 (discriminants.get value).toUInt32
  | .union variants => fun value =>
      beU32 (variants.active value).toUInt32 ++ variants.body value

/-- The code of a text, of bytes, of an array or of a list. -/
def SizedTy.code : (kind : SizedTy) → kind.Val → Bytes
  | .string => fun text =>
      opaqueCode (asBytes text) (List.replicate (padding (asBytes text).length) 0)
  | .bytes => fun data => opaqueCode data (List.replicate (padding data.length) 0)
  | .vec elem => fun items => beU32 (UInt32.ofNat items.length) ++ (items.map elem.code).flatten

/-- The code of a struct is that of its fields, one after another. -/
def Fields.code : (fields : Fields) → fields.Val → Bytes
  | .nil => fun _ => []
  | .plain ty rest => fun value => ty.code value.1 ++ rest.code value.2
  | .limited _ ty rest => fun value => ty.code value.1 ++ rest.code value.2

/-- The fields of the active variant. -/
def Variants.body : (variants : Variants) → variants.Val → Bytes
  | .nil => fun value => nomatch value
  | .cons _ fields rest => Sum.elim fields.code rest.body

end

section Containers

variable {α : Type} {encode : Encoder XdrError UInt8 α} {decode : Decoder XdrError UInt8 α}

/-- A list is written as its count and its items. -/
theorem writes_vec {items : List α} {codes : List Bytes} (fits : items.length < 2 ^ 32)
    (each : WritesAll encode items codes) :
    Writes (encodeVec encode) items (beU32 (UInt32.ofNat items.length) ++ codes.flatten) := by
  intro buffer
  have noOverflow : ¬ items.length > u32Max := by unfold u32Max; omega
  simp only [encodeVec, noOverflow, ↓reduceIte, each.flatten _, List.append_assoc]

/-- The count check of the decoder passes on non-empty element codes. -/
theorem reads_vec {items : List α} {codes : List Bytes} (fits : items.length < 2 ^ 32)
    (each : ReadsAll decode items codes) (occupied : ∀ code ∈ codes, code ≠ []) :
    Reads (decodeVec decode) items (beU32 (UInt32.ofNat items.length) ++ codes.flatten) := by
  intro rest
  have count : (UInt32.ofNat items.length).toNat = items.length :=
    UInt32.toNat_ofNat_of_lt' (by simpa using fits)
  have room : ¬ items.length > (codes.flatten ++ rest).length := by
    have long := length_le_flatten occupied
    rw [each.length_eq, List.length_append]
    omega
  simp only [decodeVec, List.append_assoc, decodeU32_append, bind, Except.bind, count, room,
    ↓reduceIte]
  exact each.flatten rest

/-- A value that is there is written behind a 1. -/
theorem writes_some {value : α} {code : Bytes} (inner : Writes encode value code) :
    Writes (encodeOption encode) (some value) (beU32 1 ++ code) := by
  intro buffer
  rw [← List.append_assoc]
  exact inner (buffer ++ beU32 1)

theorem reads_some {value : α} {code : Bytes} (inner : Reads decode value code) :
    Reads (decodeOption decode) (some value) (beU32 1 ++ code) := by
  intro rest
  simp [decodeOption, bind, Except.bind, pure, Except.pure, inner rest]

theorem reads_none : Reads (decodeOption decode) none (beU32 0) := by
  intro rest
  simp [decodeOption, bind, Except.bind, pure, Except.pure]

theorem writes_limited {limit : UInt64} {len : α → Nat} {value : α} {code : Bytes}
    (within : len value ≤ limit.toNat) (inner : Writes encode value code) :
    Writes (encodeLimited limit len encode) value code := by
  intro buffer
  simp only [encodeLimited, gt_iff_lt, Nat.not_lt.mpr within, ↓reduceIte, inner buffer]

/-- A value within its limit is read back. -/
theorem reads_limited {limit : UInt64} {len : α → Nat} {value : α} {code : Bytes}
    (within : len value ≤ limit.toNat) (inner : Reads decode value code) :
    Reads (decodeLimited limit len decode) value code := by
  intro rest
  simp only [decodeLimited, inner rest, bind, Except.bind, gt_iff_lt, Nat.not_lt.mpr within,
    ↓reduceIte, pure, Except.pure]

/-- A case of an enumeration is read back, when no other has its number. -/
theorem reads_enum32 {discriminants : List Int32} {value : Fin discriminants.length}
    (first : discriminants.finIdxOf? (discriminants.get value) = some value) :
    Reads (enum32Decode discriminants) value (beU32 (discriminants.get value).toUInt32) := by
  intro rest
  simp only [enum32Decode, reads_i32 (discriminants.get value) rest, bind, Except.bind, first,
    pure, Except.pure]

/-- The first arm is read at its discriminant. -/
theorem reads_here (label : Int64) {fields : Fields} {rest : Variants} {value : fields.Val}
    {code : Bytes} (inner : Reads fields.decode value code) :
    Reads ((Variants.cons label fields rest).decode (i32Lit label)) (.inl value) code := by
  intro suffix
  simp only [Variants.decode, ↓reduceIte, inner suffix, bind, Except.bind, pure, Except.pure]

/-- Another arm is read when its discriminant is not the first one. -/
theorem reads_there {label : Int64} {discriminant : Int32} {fields : Fields} {rest : Variants}
    {value : rest.Val} {code : Bytes} (other : discriminant ≠ i32Lit label)
    (inner : Reads (rest.decode discriminant) value code) :
    Reads ((Variants.cons label fields rest).decode discriminant) (.inr value) code := by
  intro suffix
  simp only [Variants.decode, other, ↓reduceIte, inner suffix, bind, Except.bind, pure, Except.pure]

end Containers

mutual

/-- Every value that fits and is within its limits is written as its code. -/
theorem Ty.writes : (ty : Ty) → (value : ty.Val) → ty.Fits value → ty.Within value →
    Writes ty.encode value (ty.code value)
  | .u32, _, _, _ | .i32, _, _, _ | .u64, _, _, _ | .i64, _, _, _ | .bool, _, _, _
  | .enum32 _, _, _, _ => fun _ => rfl
  | .void, _, _, _ => fun _ => by simp only [Ty.encode, Ty.code, List.append_nil]; rfl
  | .fixed _, data, _, _ => writes_fixed data
  | .option _, none, _, _ => fun _ => rfl
  | .option elem, some value, fits, within =>
      writes_some (elem.writes value (fits value rfl) (within value rfl))
  | .sized kind, value, fits, within => kind.writes value fits within
  | .struct fields, value, fits, within => fields.writes value fits within
  | .union variants, value, fits, within => variants.writes value fits within

/-- The same, of the types that a limit can be put on. -/
theorem SizedTy.writes : (kind : SizedTy) → (value : kind.Val) → kind.Fits value →
    kind.Within value → Writes kind.encode value (kind.code value)
  | .string, _, fits, _ => writes_string fits
  | .bytes, data, fits, _ =>
      writes_opaque usizeMax (by
        have small : data.length < 2 ^ 32 := fits
        unfold usizeMax
        omega) fits
  | .vec elem, items, fits, within => by
      refine writes_vec fits.1 ?_
      rw [WritesAll, List.forall₂_map_right_iff, List.forall₂_same]
      exact fun item member => elem.writes item (fits.2 item member) (within.2 item member)

/-- The same, of the fields of a struct. -/
theorem Fields.writes : (fields : Fields) → (value : fields.Val) → fields.Fits value →
    fields.Within value → Writes fields.encode value (fields.code value)
  | .nil, _, _, _ => fun _ => by simp only [Fields.encode, Fields.code, List.append_nil]
  | .plain ty rest, value, fits, within =>
      (ty.writes value.1 fits.1 within.1).pair (rest.writes value.2 fits.2 within.2)
  | .limited _ ty rest, value, fits, within =>
      (writes_limited within.1.1 (ty.writes value.1 fits.1.2 within.1.2)).pair
        (rest.writes value.2 fits.2 within.2)

theorem Variants.writes : (variants : Variants) → (value : variants.Val) → variants.Fits value →
    variants.Within value → Writes variants.encode value
      (beU32 (variants.active value).toUInt32 ++ variants.body value)
  | .nil, value, _, _ => nomatch value
  | .cons label fields _, .inl value, fits, within => by
      intro buffer
      rw [← List.append_assoc]
      exact fields.writes value fits within (buffer ++ beU32 (i32Lit label).toUInt32)
  | .cons _ _ rest, .inr value, fits, within => rest.writes value fits within

end

mutual

/-- Every such value is read back, when the labels are apart. -/
theorem Ty.reads : (ty : Ty) → (value : ty.Val) → ty.Occupied → ty.Distinct → ty.Fits value →
    ty.Within value → Reads ty.decode value (ty.code value)
  | .u32, value, _, _, _, _ => reads_u32 value
  | .i32, value, _, _, _, _ => reads_i32 value
  | .u64, value, _, _, _, _ => reads_u64 value
  | .i64, value, _, _, _, _ => reads_i64 value
  | .bool, value, _, _, _, _ => reads_bool value
  | .void, _, _, _, _, _ => fun _ => rfl
  | .fixed _, _, _, _, _, _ => reads_fixed (List.length_replicate ..)
  | .option _, none, _, _, _, _ => reads_none
  | .option elem, some value, occupied, distinct, fits, within =>
      reads_some (elem.reads value occupied distinct (fits value rfl) (within value rfl))
  | .sized kind, value, occupied, distinct, fits, within =>
      kind.reads value occupied distinct fits within
  | .struct fields, value, occupied, distinct, fits, within =>
      fields.reads value occupied distinct fits within
  | .enum32 discriminants, value, _, distinct, _, _ => by
      apply reads_enum32
      rw [List.finIdxOf?_eq_some_iff]
      refine ⟨rfl, fun earlier before same => ?_⟩
      have equal : earlier = value := (List.Nodup.get_inj_iff distinct).mp same
      exact Nat.ne_of_lt before (congrArg Fin.val equal)
  | .union variants, value, occupied, distinct, fits, within => by
      intro rest
      have inner := variants.reads value occupied distinct.2 distinct.1 fits within rest
      simp only [Ty.decode, Ty.code, List.append_assoc,
        reads_i32 (variants.active value) (variants.body value ++ rest), bind, Except.bind, inner]

/-- The same, of the types that a limit can be put on. -/
theorem SizedTy.reads : (kind : SizedTy) → (value : kind.Val) → kind.Occupied → kind.Distinct →
    kind.Fits value → kind.Within value → Reads kind.decode value (kind.code value)
  | .string, _, _, _, fits, _ => reads_string fits (List.length_replicate ..)
  | .bytes, _, _, _, fits, _ =>
      reads_opaque usizeMax (by
        change _ < 2 ^ 32 at fits
        unfold usizeMax
        omega) fits (List.length_replicate ..)
  | .vec elem, items, occupied, distinct, fits, within => by
      refine reads_vec fits.1 ?_ ?_
      · rw [ReadsAll, List.forall₂_map_right_iff, List.forall₂_same]
        exact fun item member => elem.reads item occupied.1 distinct (fits.2 item member)
          (within.2 item member)
      · intro code member
        obtain ⟨item, inside, rfl⟩ := List.mem_map.mp member
        exact occupied.2 item _ (elem.writes item (fits.2 item inside) (within.2 item inside))

/-- The same, of the fields of a struct. -/
theorem Fields.reads : (fields : Fields) → (value : fields.Val) → fields.Occupied →
    fields.Distinct → fields.Fits value → fields.Within value →
    Reads fields.decode value (fields.code value)
  | .nil, _, _, _, _, _ => fun _ => rfl
  | .plain ty rest, value, occupied, distinct, fits, within =>
      (ty.reads value.1 occupied.1 distinct.1 fits.1 within.1).pair
        (rest.reads value.2 occupied.2 distinct.2 fits.2 within.2)
  | .limited _ ty rest, value, occupied, distinct, fits, within =>
      (reads_limited within.1.1
        (ty.reads value.1 occupied.1 distinct.1 fits.1.2 within.1.2)).pair
        (rest.reads value.2 occupied.2 distinct.2 fits.2 within.2)

/-- The arms before the active one carry other discriminants and are passed over. -/
theorem Variants.reads : (variants : Variants) → (value : variants.Val) → variants.Occupied →
    variants.Distinct → variants.discriminants.Nodup → variants.Fits value →
    variants.Within value →
    Reads (variants.decode (variants.active value)) value (variants.body value)
  | .nil, value, _, _, _, _, _ => nomatch value
  | .cons label fields _, .inl value, occupied, distinct, _, fits, within =>
      reads_here label (fields.reads value occupied.1 distinct.1 fits within)
  | .cons label fields rest, .inr value, occupied, distinct, nodup, fits, within => by
      have fresh := (List.nodup_cons.mp nodup).1
      have other : rest.active value ≠ i32Lit label :=
        fun same => fresh (same ▸ rest.active_mem value)
      exact reads_there other (rest.reads value occupied.2 distinct.2
        (List.nodup_cons.mp nodup).2 fits within)

end

/-- The encoder fails with `LimitExceeded`, whatever the buffer. -/
def Refuses {α : Type} (encode : Encoder XdrError UInt8 α) (value : α) : Prop :=
  ∀ buf, ∃ len limit, encode value buf = .error (.limitExceeded len limit)

section Refusal

variable {α γ : Type} {encode : Encoder XdrError UInt8 α}

/-- A pair is refused when its first part is. -/
theorem Refuses.pair_left {second : Encoder XdrError UInt8 γ} {value : α × γ}
    (left : Refuses encode value.1) : Refuses (encodePair encode second) value := by
  intro buf
  obtain ⟨len, limit, fails⟩ := left buf
  exact ⟨len, limit, by simp only [encodePair, fails, bind, Except.bind]⟩

/-- A pair is refused when its second part is. -/
theorem Refuses.pair_right {second : Encoder XdrError UInt8 γ} {value : α × γ} {code : Bytes}
    (left : Writes encode value.1 code) (right : Refuses second value.2) :
    Refuses (encodePair encode second) value := by
  intro buf
  obtain ⟨len, limit, fails⟩ := right (buf ++ code)
  exact ⟨len, limit, by simp only [encodePair, left buf, fails, bind, Except.bind]⟩

/-- The items before the first refused one are written, and then the list is refused. -/
theorem Refuses.all {items : List α}
    (settled : ∀ item ∈ items, (∃ code, Writes encode item code) ∨ Refuses encode item)
    (some : ∃ item ∈ items, Refuses encode item) : Refuses (encodeAll encode) items := by
  induction items with
  | nil =>
      obtain ⟨item, member, _⟩ := some
      exact (List.not_mem_nil member).elim
  | cons item rest ih =>
      intro buf
      rw [encodeAll_cons]
      rcases settled item List.mem_cons_self with ⟨code, written⟩ | refused
      · have later : ∃ other ∈ rest, Refuses encode other := by
          obtain ⟨other, member, refused⟩ := some
          rcases List.mem_cons.mp member with rfl | member
          · obtain ⟨len, limit, fails⟩ := refused buf
            rw [written buf] at fails
            cases fails
          · exact ⟨other, member, refused⟩
        rw [written buf]
        exact ih (fun other member => settled other (List.mem_cons_of_mem _ member)) later _
      · obtain ⟨len, limit, fails⟩ := refused buf
        exact ⟨len, limit, by rw [fails]; rfl⟩

theorem refuses_limited {limit : UInt64} {len : α → Nat} {value : α}
    (settled : len value ≤ limit.toNat → Refuses encode value) :
    Refuses (encodeLimited limit len encode) value := by
  intro buf
  by_cases exceeds : len value > limit.toNat
  · exact ⟨len value, limit.toNat, by simp only [encodeLimited, exceeds, ↓reduceIte]⟩
  · obtain ⟨size, cap, fails⟩ := settled (Nat.not_lt.mp exceeds) buf
    exact ⟨size, cap, by simp only [encodeLimited, exceeds, ↓reduceIte, fails]⟩

end Refusal

mutual

/-- Every value that breaks a limit is refused. -/
theorem Ty.encode_refuses : (ty : Ty) → (value : ty.Val) → ty.Fits value → ¬ ty.Within value →
    Refuses ty.encode value
  | .u32, _, _, broken | .i32, _, _, broken | .u64, _, _, broken | .i64, _, _, broken
  | .bool, _, _, broken | .void, _, _, broken | .fixed _, _, _, broken
  | .enum32 _, _, _, broken => (broken trivial).elim
  | .option _, none, _, broken => (broken fun _ absent => nomatch absent).elim
  | .option elem, some value, fits, broken => fun buf =>
      elem.encode_refuses value (fits value rfl)
        (fun within => broken fun _ same => Option.some.inj same ▸ within) (buf ++ beU32 1)
  | .sized kind, value, fits, broken => kind.encode_refuses value fits broken
  | .struct fields, value, fits, broken => fields.encode_refuses value fits broken
  | .union variants, value, fits, broken => variants.encode_refuses value fits broken

/-- The same, of the types that a limit can be put on. -/
theorem SizedTy.encode_refuses : (kind : SizedTy) → (value : kind.Val) → kind.Fits value →
    ¬ kind.Within value → Refuses kind.encode value
  | .string, _, _, broken | .bytes, _, _, broken => (broken trivial).elim
  | .vec elem, items, fits, broken => by
      have settled : ∀ item ∈ items,
          (∃ code, Writes elem.encode item code) ∨ Refuses elem.encode item := by
        intro item member
        by_cases within : elem.Within item
        · exact Or.inl ⟨_, elem.writes item (fits.2 item member) within⟩
        · exact Or.inr (elem.encode_refuses item (fits.2 item member) within)
      have some : ∃ item ∈ items, Refuses elem.encode item := by
        by_contra none
        refine broken ⟨trivial, fun item member => ?_⟩
        by_contra within
        exact none ⟨item, member, elem.encode_refuses item (fits.2 item member) within⟩
      have noOverflow : ¬ items.length > u32Max := by
        have small : items.length < 2 ^ 32 := fits.1
        unfold u32Max
        omega
      intro buf
      simp only [SizedTy.encode, encodeVec, noOverflow, ↓reduceIte]
      exact Refuses.all settled some _

/-- The same, of the fields of a struct. -/
theorem Fields.encode_refuses : (fields : Fields) → (value : fields.Val) → fields.Fits value →
    ¬ fields.Within value → Refuses fields.encode value
  | .nil, _, _, broken => (broken trivial).elim
  | .plain ty rest, value, fits, broken => by
      by_cases within : ty.Within value.1
      · exact Refuses.pair_right (ty.writes value.1 fits.1 within)
          (rest.encode_refuses value.2 fits.2 fun tail => broken ⟨within, tail⟩)
      · exact Refuses.pair_left (ty.encode_refuses value.1 fits.1 within)
  | .limited limit ty rest, value, fits, broken => by
      by_cases within : ty.xdrLen value.1 ≤ limit.toNat ∧ ty.Within value.1
      · exact Refuses.pair_right
          (writes_limited within.1 (ty.writes value.1 fits.1.2 within.2))
          (rest.encode_refuses value.2 fits.2 fun tail => broken ⟨within, tail⟩)
      · refine Refuses.pair_left (refuses_limited fun short => ?_)
        exact ty.encode_refuses value.1 fits.1.2 fun inner => within ⟨short, inner⟩

theorem Variants.encode_refuses : (variants : Variants) → (value : variants.Val) →
    variants.Fits value → ¬ variants.Within value → Refuses variants.encode value
  | .nil, value, _, _ => nomatch value
  | .cons label fields _, .inl value, fits, broken => fun buf =>
      fields.encode_refuses value fits broken (buf ++ beU32 (i32Lit label).toUInt32)
  | .cons _ _ rest, .inr value, fits, broken => rest.encode_refuses value fits broken

end

/-- Codes of whole words make whole words. -/
theorem four_dvd_flatten {codes : List Bytes} (each : ∀ code ∈ codes, 4 ∣ code.length) :
    4 ∣ codes.flatten.length := by
  induction codes with
  | nil => exact Nat.dvd_zero 4
  | cons code rest ih =>
      rw [List.flatten_cons, List.length_append]
      exact Nat.dvd_add (each code List.mem_cons_self)
        (ih fun other member => each other (List.mem_cons_of_mem _ member))

/-- Opaque data is padded to whole words. -/
theorem four_dvd_opaqueCode (data : Bytes) :
    4 ∣ (opaqueCode data (List.replicate (padding data.length) 0)).length := by
  have aligned := four_dvd_add_padding data.length
  rw [length_opaqueCode, List.length_replicate]
  omega

mutual

theorem Ty.four_dvd_code : (ty : Ty) → (value : ty.Val) → 4 ∣ (ty.code value).length
  | .u32, _ | .i32, _ | .u64, _ | .i64, _ | .bool, _ | .void, _ | .enum32 _, _
  | .option _, none => by simp [Ty.code]
  | .fixed size, _ => by
      simpa only [Ty.code, List.length_append, Vector.length_toList, List.length_replicate] using
        four_dvd_add_padding size
  | .option elem, some value => by
      simpa only [Ty.code, List.length_append, length_beU32] using
        (Nat.dvd_add_right (dvd_refl 4)).mpr (elem.four_dvd_code value)
  | .sized kind, value => kind.four_dvd_code value
  | .struct fields, value => fields.four_dvd_code value
  | .union variants, value => by
      simpa only [Ty.code, List.length_append, length_beU32] using
        (Nat.dvd_add_right (dvd_refl 4)).mpr (variants.four_dvd_body value)

/-- The same, of the types that a limit can be put on. -/
theorem SizedTy.four_dvd_code : (kind : SizedTy) → (value : kind.Val) →
    4 ∣ (kind.code value).length
  | .string, text => four_dvd_opaqueCode (asBytes text)
  | .bytes, data => four_dvd_opaqueCode data
  | .vec elem, items => by
      have aligned : 4 ∣ (items.map elem.code).flatten.length := by
        apply four_dvd_flatten
        intro code member
        obtain ⟨item, _, rfl⟩ := List.mem_map.mp member
        exact elem.four_dvd_code item
      simpa only [SizedTy.code, List.length_append, length_beU32] using
        (Nat.dvd_add_right (dvd_refl 4)).mpr aligned

/-- The same, of the fields of a struct. -/
theorem Fields.four_dvd_code : (fields : Fields) → (value : fields.Val) →
    4 ∣ (fields.code value).length
  | .nil, _ => dvd_zero 4
  | .plain ty rest, value | .limited _ ty rest, value => by
      simpa only [Fields.code, List.length_append] using
        Nat.dvd_add (ty.four_dvd_code value.1) (rest.four_dvd_code value.2)

theorem Variants.four_dvd_body : (variants : Variants) → (value : variants.Val) →
    4 ∣ (variants.body value).length
  | .nil, value => nomatch value
  | .cons _ fields _, .inl value => fields.four_dvd_code value
  | .cons _ _ rest, .inr value => rest.four_dvd_body value

end

/-- The codec round trip: a value whose lengths fit and respect the limits is
written after any prefix as an aligned code that is read back before any suffix,
and a value that only breaks a limit is refused with `LimitExceeded`. -/
theorem encode_decode_roundTrip (ty : Ty) (occupied : ty.Occupied) (distinct : ty.Distinct)
    (value : ty.Val) (fits : ty.Fits value) :
    (ty.Within value → ∃ code, 4 ∣ code.length ∧
      (∀ front, ty.encode value front = .ok (front ++ code)) ∧
      (∀ rest, ty.decode (code ++ rest) = .ok (value, rest))) ∧
    (¬ ty.Within value → ∀ front, ∃ len limit,
      ty.encode value front = .error (.limitExceeded len limit)) :=
  ⟨fun within => ⟨ty.code value, ty.four_dvd_code value, ty.writes value fits within,
    ty.reads value occupied distinct fits within⟩,
    fun broken => ty.encode_refuses value fits broken⟩

/-- An optional size, as a union, and at most two group numbers. -/
def sizeAndGroups : Ty :=
  .struct (.plain (.union (.cons 0 .nil (.cons 1 (.plain .u64 .nil) .nil)))
    (.limited 2 (.vec .u32) .nil))

/-- The sample type has no empty unions. -/
theorem sizeAndGroups_occupied : sizeAndGroups.Occupied := by
  refine ⟨⟨trivial, ⟨trivial, trivial⟩, trivial⟩, ⟨trivial, ?_⟩, trivial⟩
  intro value code written empty
  have length := congrArg List.length (written.unique (Ty.u32.writes value trivial trivial))
  rw [empty] at length
  exact absurd length (by simp [Ty.code])

/-- A value of the sample type that is read back, and one that is refused. -/
theorem encode_decode_roundTrip_sizeAndGroups :
    (∃ code, 4 ∣ code.length ∧
      (∀ front, sizeAndGroups.encode (.inr (.inl (9, ())), [1, 2], ()) front =
        .ok (front ++ code)) ∧
      (∀ rest, sizeAndGroups.decode (code ++ rest) =
        .ok ((.inr (.inl (9, ())), [1, 2], ()), rest))) ∧
    (∀ front, ∃ len limit, sizeAndGroups.encode (.inl (), [1, 2, 3], ()) front =
      .error (.limitExceeded len limit)) := by
  have distinct : sizeAndGroups.Distinct :=
    ⟨⟨by decide, trivial, ⟨trivial, trivial⟩, trivial⟩, trivial, trivial⟩
  have kept := encode_decode_roundTrip sizeAndGroups sizeAndGroups_occupied distinct
    (.inr (.inl (9, ())), [1, 2], ())
    ⟨⟨trivial, trivial⟩, ⟨trivial, by decide, fun _ _ => trivial⟩, trivial⟩
  have refused := encode_decode_roundTrip sizeAndGroups sizeAndGroups_occupied distinct
    (.inl (), [1, 2, 3], ())
    ⟨trivial, ⟨trivial, by decide, fun _ _ => trivial⟩, trivial⟩
  refine ⟨kept.1 ⟨⟨trivial, trivial⟩, ⟨by decide, trivial, fun _ _ => trivial⟩, trivial⟩,
    refused.2 fun within => ?_⟩
  exact absurd within.2.1.1 (by decide)

end LibNfs.Xdr
