import LibNfs.Xdr.RoundTrip

/-! # What the encoder does with a value

A value either has an encoding, which is appended to any buffer, or is refused with
one error whatever the buffer: lengths and limits depend on the value alone. A request
is therefore written whole or not at all.
-/

namespace LibNfs.Xdr

open Coding

/-- The value has an encoding. -/
def Ty.Encodable (ty : Ty) (value : ty.Val) : Prop :=
  ty.Fits value ∧ ty.Within value

/-- The encoder fails with the error, whatever the buffer. -/
def FailsWith {α : Type} (encode : Encoder XdrError UInt8 α) (value : α) (error : XdrError) : Prop :=
  ∀ buf, encode value buf = .error error

/-- The encoder refuses the value. -/
def Unwritable {α : Type} (encode : Encoder XdrError UInt8 α) (value : α) : Prop :=
  ∃ error, FailsWith encode value error

section Rules

variable {α γ : Type} {encode : Encoder XdrError UInt8 α}

theorem Unwritable.pair_left {second : Encoder XdrError UInt8 γ} {value : α × γ}
    (left : Unwritable encode value.1) : Unwritable (encodePair encode second) value := by
  obtain ⟨error, fails⟩ := left
  exact ⟨error, fun buf => by simp only [encodePair, fails buf, bind, Except.bind]⟩

theorem Unwritable.pair_right {second : Encoder XdrError UInt8 γ} {value : α × γ} {code : Bytes}
    (left : Writes encode value.1 code) (right : Unwritable second value.2) :
    Unwritable (encodePair encode second) value := by
  obtain ⟨error, fails⟩ := right
  refine ⟨error, fun buf => ?_⟩
  simp only [encodePair, left buf, fails (buf ++ code), bind, Except.bind]

/-- The first refused item decides. -/
theorem Unwritable.all {items : List α}
    (settled : ∀ item ∈ items, (∃ code, Writes encode item code) ∨ Unwritable encode item)
    (some : ∃ item ∈ items, Unwritable encode item) : Unwritable (encodeAll encode) items := by
  induction items with
  | nil =>
      obtain ⟨item, member, _⟩ := some
      exact (List.not_mem_nil member).elim
  | cons item rest ih =>
      rcases settled item List.mem_cons_self with ⟨code, written⟩ | ⟨error, fails⟩
      · have later : ∃ other ∈ rest, Unwritable encode other := by
          obtain ⟨other, member, refused⟩ := some
          rcases List.mem_cons.mp member with rfl | member
          · obtain ⟨error, fails⟩ := refused
            have both := (written []).symm.trans (fails [])
            cases both
          · exact ⟨other, member, refused⟩
        obtain ⟨error, fails⟩ :=
          ih (fun other member => settled other (List.mem_cons_of_mem _ member)) later
        refine ⟨error, fun buf => ?_⟩
        rw [encodeAll_cons, written buf]
        exact fails (buf ++ code)
      · refine ⟨error, fun buf => ?_⟩
        rw [encodeAll_cons, fails buf]
        rfl

/-- Data too long for its prefix. -/
theorem unwritable_opaque {data : Bytes} (long : ¬ data.length < 2 ^ 32) :
    Unwritable (fun data buf => encodeOpaque data usizeMax buf) data := by
  have tooLong : data.length > u32Max := by
    unfold u32Max
    omega
  by_cases limited : data.length > usizeMax
  · exact ⟨.limitExceeded data.length usizeMax, fun buf => by simp only [encodeOpaque, limited,
      ↓reduceIte]⟩
  · exact ⟨.lengthOverflow data.length, fun buf => by simp only [encodeOpaque, limited, tooLong,
      ↓reduceIte]⟩

theorem unwritable_limited {limit : UInt64} {len : α → Nat} {value : α}
    (settled : len value ≤ limit.toNat → Unwritable encode value) :
    Unwritable (encodeLimited limit len encode) value := by
  by_cases exceeds : len value > limit.toNat
  · exact ⟨.limitExceeded (len value) limit.toNat, fun buf => by simp only [encodeLimited, exceeds,
      ↓reduceIte]⟩
  · obtain ⟨error, fails⟩ := settled (Nat.not_lt.mp exceeds)
    exact ⟨error, fun buf => by simp only [encodeLimited, exceeds, ↓reduceIte, fails buf]⟩

end Rules

mutual

/-- A value without an encoding is refused. -/
theorem Ty.unwritable : (ty : Ty) → (value : ty.Val) → ¬ ty.Encodable value →
    Unwritable ty.encode value
  | .u32, _, broken | .i32, _, broken | .u64, _, broken | .i64, _, broken | .bool, _, broken
  | .void, _, broken | .fixed _, _, broken | .enum32 _, _, broken =>
      (broken ⟨trivial, trivial⟩).elim
  | .option _, none, broken =>
      (broken ⟨fun _ absent => (Option.some_ne_none _ absent.symm).elim,
        fun _ absent => (Option.some_ne_none _ absent.symm).elim⟩).elim
  | .option elem, some value, broken => by
      obtain ⟨error, fails⟩ := elem.unwritable value fun inner => broken
        ⟨fun _ same => Option.some.inj same ▸ inner.1, fun _ same => Option.some.inj same ▸ inner.2⟩
      exact ⟨error, fun buf => fails (buf ++ beU32 1)⟩
  | .sized kind, value, broken => kind.unwritable value broken
  | .struct fields, value, broken => fields.unwritable value broken
  | .union variants, value, broken => variants.unwritable value broken

theorem SizedTy.unwritable : (kind : SizedTy) → (value : kind.Val) →
    ¬ (kind.Fits value ∧ kind.Within value) → Unwritable kind.encode value
  | .string, text, broken => unwritable_opaque fun short => broken ⟨short, trivial⟩
  | .bytes, data, broken => unwritable_opaque fun short => broken ⟨short, trivial⟩
  | .vec elem, items, broken => by
      by_cases overflows : items.length > u32Max
      · exact ⟨.lengthOverflow items.length, fun buf => by simp only [SizedTy.encode, encodeVec,
          overflows, ↓reduceIte]⟩
      · have counted : items.length < 2 ^ 32 := by
          unfold u32Max at overflows
          omega
        have settled : ∀ item ∈ items,
            (∃ code, Writes elem.encode item code) ∨ Unwritable elem.encode item := by
          intro item _
          by_cases has : elem.Encodable item
          · exact .inl ⟨_, elem.writes item has.1 has.2⟩
          · exact .inr (elem.unwritable item has)
        have some : ∃ item ∈ items, Unwritable elem.encode item := by
          by_contra none
          have each : ∀ item ∈ items, elem.Encodable item := by
            intro item member
            by_contra lacks
            exact none ⟨item, member, elem.unwritable item lacks⟩
          exact broken ⟨⟨counted, fun item member => (each item member).1⟩,
            trivial, fun item member => (each item member).2⟩
        obtain ⟨error, fails⟩ := Unwritable.all settled some
        refine ⟨error, fun buf => ?_⟩
        simp only [SizedTy.encode, encodeVec, overflows, ↓reduceIte]
        exact fails _

theorem Fields.unwritable : (fields : Fields) → (value : fields.Val) →
    ¬ (fields.Fits value ∧ fields.Within value) → Unwritable fields.encode value
  | .nil, _, broken => (broken ⟨trivial, trivial⟩).elim
  | .plain ty rest, value, broken => by
      by_cases has : ty.Encodable value.1
      · exact Unwritable.pair_right (ty.writes value.1 has.1 has.2) (rest.unwritable value.2
          fun tail => broken ⟨⟨has.1, tail.1⟩, has.2, tail.2⟩)
      · exact Unwritable.pair_left (ty.unwritable value.1 has)
  | .limited limit ty rest, value, broken => by
      by_cases has : (ty.Fits value.1 ∧ ty.Within value.1) ∧ ty.xdrLen value.1 ≤ limit.toNat
      · exact Unwritable.pair_right (writes_limited has.2 (ty.writes value.1 has.1.1 has.1.2))
          (rest.unwritable value.2 fun tail =>
            broken ⟨⟨⟨trivial, has.1.1⟩, tail.1⟩, ⟨has.2, has.1.2⟩, tail.2⟩)
      · exact Unwritable.pair_left (unwritable_limited fun short =>
          ty.unwritable value.1 fun inner => has ⟨inner, short⟩)

theorem Variants.unwritable : (variants : Variants) → (value : variants.Val) →
    ¬ (variants.Fits value ∧ variants.Within value) → Unwritable variants.encode value
  | .cons label fields _, .inl value, broken => by
      obtain ⟨error, fails⟩ := fields.unwritable value broken
      exact ⟨error, fun buf => fails (buf ++ beU32 (i32Lit label).toUInt32)⟩
  | .cons _ _ rest, .inr value, broken => rest.unwritable value broken

end

end LibNfs.Xdr
