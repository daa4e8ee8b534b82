import LibNfs.Proto.AttrSets
import LibNfs.Proto.Bitmaps
import LibNfs.Proto.Grammar

/-! # Attributes on demand

What a server answers to a `GETATTR`: of the attributes that it has those that are asked
for, with the bitmap of their numbers.
-/

namespace LibNfs.Proto

namespace Fattr4

variable (attrs : Fattr4)

/-- Those that are asked for. -/
def among (asked : List Nat) : Fattr4 :=
  attrs.mapFields fun _ bit field => if bit.toNat ∈ asked then field else none

/-- The numbers of the attributes that are there. -/
def present : List UInt32 :=
  knownAttrs.filter fun bit => (attrs.value bit).isSome

/-- The owners are given by short texts. -/
structure Brief : Prop where
  owner : ∀ text, attrs.owner = some text → (Xdr.asBytes text).length ≤ 80
  ownerGroup : ∀ text, attrs.ownerGroup = some text → (Xdr.asBytes text).length ≤ 80

variable {attrs}

/-- An attribute that is not known has no value. -/
theorem value_of_unknown {bit : UInt32} (unknown : bit ∉ knownAttrs) : attrs.value bit = none := by
  simp only [knownAttrs, requestAttrs, statvfsAttrs, List.cons_append, List.nil_append,
    List.mem_cons, List.not_mem_nil, or_false, not_or] at unknown
  simp only [value, unknown, if_false]

/-- The attributes that are present are those with a value. -/
theorem mem_present {bit : UInt32} : bit ∈ attrs.present ↔ (attrs.value bit).isSome := by
  rw [present, List.mem_filter, and_iff_right_iff_imp]
  intro there
  by_contra unknown
  rw [value_of_unknown unknown] at there
  cases there

/-- The bitmap of the attributes that are present describes them. -/
theorem describes_present : Describes (buildBitmap attrs.present) attrs := by
  intro bit
  rw [Bool.eq_iff_iff, bitSet_buildBitmap, ← mem_present]
  constructor
  · rintro ⟨member, there, same⟩
    rw [UInt32.toNat_inj.mp same]
    exact there
  · intro there
    exact ⟨bit, there, rfl⟩

/-- The known attributes are in the first two words of a bitmap. -/
theorem knownAttrs_le : ∀ bit ∈ knownAttrs, bit.toNat ≤ 53 := by
  have all : knownAttrs.all (fun bit => decide (bit.toNat ≤ 53)) = true := by decide
  intro bit member
  exact of_decide_eq_true (List.all_eq_true.mp all bit member)

/-- The bitmap of the attributes that are present has at most two words. -/
theorem length_bitmap_present : (buildBitmap attrs.present).length ≤ 2 := by
  rw [length_buildBitmap]
  rcases eq_or_ne attrs.present [] with empty | some
  · rw [empty]
    decide
  · obtain ⟨bit, there, highest⟩ := maxWord_mem some
    have known := knownAttrs_le bit (List.mem_filter.mp there).1
    omega

/-- Of the attributes asked for, those that are there were asked for. -/
theorem mem_of_among {asked : List Nat} {bit : UInt32}
    (there : ((attrs.among asked).value bit).isSome) :
    bit.toNat ∈ asked := by
  by_contra unasked
  have gone : (attrs.among asked).value bit = none :=
    value_mapFields_of_dropped fun field => if_neg unasked
  rw [gone] at there
  cases there

theorem Brief.among (brief : attrs.Brief) (asked : List Nat) : (attrs.among asked).Brief := by
  constructor
  · intro text shown
    exact brief.owner text (Option.ite_none_right_eq_some.mp shown).2
  · intro text shown
    exact brief.ownerGroup text (Option.ite_none_right_eq_some.mp shown).2

theorem length_textCode_le {text : String} (short : (Xdr.asBytes text).length ≤ 80) :
    (textCode text).length ≤ 87 := by
  change (Xdr.opaqueCode (Xdr.asBytes text)
    (List.replicate (Xdr.padding (Xdr.asBytes text).length) 0)).length ≤ 87
  rw [Xdr.length_opaqueCode, List.length_replicate, Xdr.padding]
  omega

/-- A value, if there is one, is no longer than any may be. -/
def Small (given : Option Bytes) : Prop :=
  ∀ code, given = some code → code.length ≤ 87

/-- A field is small when each of its values is. -/
theorem Small.map {α : Type} {field : Option α} {enc : α → Bytes}
    (each : ∀ value, field = some value → (enc value).length ≤ 87) : Small (field.map enc) := by
  intro code given
  obtain ⟨value, there, rfl⟩ := Option.map_eq_some_iff.mp given
  exact each value there

theorem Small.ite {p : Prop} [Decidable p] {here after : Option Bytes} (first : Small here)
    (others : Small after) : Small (if p then here else after) := by
  split
  · exact first
  · exact others

/-- Each attribute of brief attributes is small. -/
theorem Brief.small (brief : attrs.Brief) (bit : UInt32) : Small (attrs.value bit) := by
  have word (field : Option UInt32) : Small (field.map Xdr.beU32) :=
    .map fun _ _ => by simp
  have long (field : Option UInt64) : Small (field.map Xdr.beU64) :=
    .map fun _ _ => by simp
  have words (field : Option (UInt32 × UInt32)) :
      Small (field.map fun pair => Xdr.beU32 pair.1 ++ Xdr.beU32 pair.2) :=
    .map fun _ _ => by simp
  have longs (field : Option (UInt64 × UInt64)) :
      Small (field.map fun pair => Xdr.beU64 pair.1 ++ Xdr.beU64 pair.2) :=
    .map fun _ _ => by simp
  have time (field : Option Nfstime4) : Small (field.map Nfstime4.code) :=
    .map fun _ _ => by simp [Nfstime4.code, Nfstime4.ty, Xdr.Ty.code, Xdr.Fields.code]
  have owner : Small (attrs.owner.map textCode) :=
    .map fun text there => length_textCode_le (brief.owner text there)
  have ownerGroup : Small (attrs.ownerGroup.map textCode) :=
    .map fun text there => length_textCode_le (brief.ownerGroup text there)
  unfold value
  -- one step for each attribute of the chain
  iterate 20 refine .ite (by first
    | exact word _ | exact long _ | exact words _ | exact longs _ | exact time _ | exact owner
    | exact ownerGroup) ?_
  intro code given
  cases given

/-- The length of some codes, each of which has at most a given length. -/
theorem length_flatten_le {bound : Nat} {codes : List Bytes}
    (each : ∀ code ∈ codes, code.length ≤ bound) : codes.flatten.length ≤ codes.length * bound := by
  induction codes with
  | nil => exact Nat.zero_le _
  | cons code codes ih =>
      have first := each code List.mem_cons_self
      have others := ih fun code member => each code (List.mem_cons_of_mem _ member)
      rw [List.flatten_cons, List.length_append, List.length_cons, Nat.succ_mul]
      omega

/-- The values of brief attributes fit one opaque. -/
theorem Brief.sized (brief : attrs.Brief) : Sized (attrs.values (buildBitmap attrs.present)) := by
  have each : ∀ code ∈ (attributesOf (buildBitmap attrs.present)).map fun bit =>
      (attrs.value (UInt32.ofNat bit)).getD [], code.length ≤ 87 := by
    intro code member
    obtain ⟨bit, -, rfl⟩ := List.mem_map.mp member
    cases given : attrs.value (UInt32.ofNat bit) with
    | none => exact Nat.zero_le _
    | some code => exact brief.small _ code given
  have total := length_flatten_le each
  have count : (attributesOf (buildBitmap attrs.present)).length ≤ 64 := by
    have all := List.length_filter_le (bitSet (buildBitmap attrs.present))
      (List.range (32 * (buildBitmap attrs.present).length))
    have words := attrs.length_bitmap_present
    rw [List.length_range] at all
    exact Nat.le_trans all (by omega)
  rw [List.length_map] at total
  unfold Sized values
  omega

theorem Brief.fits (brief : attrs.Brief) : attrs.Fits := by
  constructor
  · intro text shown
    exact Nat.lt_of_le_of_lt (brief.owner text shown) (by decide)
  · intro text shown
    exact Nat.lt_of_le_of_lt (brief.ownerGroup text shown) (by decide)

/-- What a server answers that has these attributes. -/
def answering (attrs : Fattr4) (brief : attrs.Brief) (asked : List Nat) : Attrs asked where
  words := buildBitmap (attrs.among asked).present
  attrs := attrs.among asked
  subset := by
    intro bit member
    obtain ⟨inside, set⟩ := List.mem_filter.mp member
    obtain ⟨known, there, rfl⟩ := (bitSet_buildBitmap _ bit).mp set
    exact mem_of_among (mem_present.mp there)
  describes := describes_present
  fits := (brief.among asked).fits
  short := Nat.lt_of_le_of_lt length_bitmap_present (by decide)
  sized := (brief.among asked).sized

end Fattr4

end LibNfs.Proto
