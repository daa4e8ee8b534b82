import LibNfs.Proto.Fattr4

/-! # Sets of attributes

`decode_fattr4` on every set of attributes that it knows, and on bitmaps with another
bit. The number of bits to go through is computed in a `u32`, so that of a bitmap of
2^27 words or more wraps around, and the attributes beyond it are left out.
-/

namespace LibNfs.Proto

open Coding Reading

/-- The attributes that `decode_fattr4` knows. -/
def knownAttrs : List UInt32 :=
  requestAttrs ++ statvfsAttrs

/-- What `decode_fattr4` says of any other. -/
def unsupportedAttr : ProtoError :=
  .protocol "fattr4 con atributo no soportado en la respuesta"

namespace Fattr4

/-- The value of the attribute with a number, if the attribute is there. -/
def valueAt (attrs : Fattr4) (bit : Nat) : Option Bytes :=
  if bit < 2 ^ 32 then attrs.value (UInt32.ofNat bit) else none

/-- The bits of the bitmap below a bound are the attributes that are there. -/
def SpelledBelow (bound : Nat) (words : List UInt32) (attrs : Fattr4) : Prop :=
  ∀ bit < bound, bitSet words bit = (attrs.valueAt bit).isSome

/-- The bits of the bitmap are the attributes that are there. -/
def Spelled (words : List UInt32) (attrs : Fattr4) : Prop :=
  ∀ bound, SpelledBelow bound words attrs

/-- The values of the attributes of a bitmap below a bound, in ascending order. -/
def valuesBelow (bound : Nat) (words : List UInt32) (attrs : Fattr4) : Bytes :=
  (((List.range bound).filter (bitSet words)).map fun bit =>
    (attrs.value (UInt32.ofNat bit)).getD []).flatten

theorem ite_eq_none {α : Type} {p : Prop} [Decidable p] {here after : Option α}
    (holds : p → here = none) (otherwise : after = none) :
    (if p then here else after) = none := by
  split
  · apply holds
    assumption
  · exact otherwise

/-- A change that drops an attribute leaves no value of it. -/
theorem value_mapFields_of_dropped {f : (α : Type) → UInt32 → Option α → Option α}
    {attrs : Fattr4} {bit : UInt32} (dropped : ∀ {α : Type} (field : Option α), f α bit field = none) :
    (attrs.mapFields f).value bit = none := by
  unfold value mapFields
  dsimp only
  -- one step for each attribute of the chain
  iterate 20 refine ite_eq_none (fun same => by rw [← same, dropped, Option.map_none]) ?_
  rfl

theorem valueAt_toNat (attrs : Fattr4) (bit : UInt32) : attrs.valueAt bit.toNat = attrs.value bit := by
  rw [valueAt, if_pos bit.toNat_lt, UInt32.ofNat_toNat]

/-- Cutting the attributes at a bound keeps them all exactly when no bit is set beyond it. -/
theorem upto_eq_self_iff {words : List UInt32} {attrs : Fattr4} {bound : Nat}
    (spelled : Spelled words attrs) :
    attrs.upto bound = attrs ↔ ∀ bit, bitSet words bit → bit < bound := by
  constructor
  · intro same bit set
    by_contra beyond
    have present := spelled (bit + 1) bit (Nat.lt_succ_self bit)
    rw [set, valueAt] at present
    split at present
    case isTrue small =>
      have word : (UInt32.ofNat bit).toNat = bit := UInt32.toNat_ofNat_of_lt' small
      have dropped : (attrs.upto bound).value (UInt32.ofNat bit) = none := by
        refine value_mapFields_of_dropped fun field => ?_
        rw [below, word, if_neg beyond]
      rw [same] at dropped
      rw [dropped] at present
      cases present
    case isFalse => cases present
  · intro within
    have whole : attrs.mapFields (fun _ _ field => field) = attrs := rfl
    refine Eq.trans (mapFields_congr fun bit field code same => ?_) whole
    unfold below
    by_cases inside : bit.toNat < bound
    · rw [if_pos inside]
    · have unset : bitSet words bit.toNat = false := by
        rw [← Bool.not_eq_true]
        exact fun set => inside (within _ set)
      rw [spelled _ _ (Nat.lt_succ_self _), valueAt_toNat, same, Option.isSome_map] at unset
      rw [if_neg inside, Option.isNone_iff_eq_none.mp (Option.isSome_eq_false_iff.mp unset)]

/-- The loop over the bits below a bound reads the attributes below it. -/
theorem takes_below {words : List UInt32} {attrs : Fattr4} {bound : Nat} (fits : attrs.Fits)
    (small : bound < 2 ^ 32) (spelled : SpelledBelow bound words attrs) :
    Takes id ((List.range bound).foldlM (fun out bit =>
        if bitSet words bit then decodeAttr (UInt32.ofNat bit) out else return out)
      ({} : Fattr4) : AttrM Fattr4) (attrs.upto bound) (attrs.valuesBelow bound words) := by
  have each : ∀ bit < 0 + bound,
      bitSet words bit = (attrs.value (UInt32.ofNat bit)).isSome := by
    intro bit inside
    rw [spelled bit (by omega), valueAt, if_pos (by omega)]
  have read := takes_bits fits 0 bound (by omega) each
  rw [Nat.zero_add] at read
  rw [valuesBelow, List.range_eq_range']
  exact read

/-- The number of bits that `decode_fattr4` goes through. -/
theorem maxBit_toNat (words : List UInt32) :
    (maxBit words).toNat = 32 * words.length % 2 ^ 32 := by
  rw [maxBit, UInt32.toNat_mul, UInt32.toNat_ofNat']
  change words.length % 2 ^ 32 * 32 % 2 ^ 32 = _
  omega

/-- The values below a bound begin those below a greater one. -/
theorem valuesBelow_add (bound count : Nat) (words : List UInt32) (attrs : Fattr4) :
    attrs.valuesBelow (bound + count) words =
      attrs.valuesBelow bound words ++
        ((((List.range count).map (bound + ·)).filter (bitSet words)).map fun bit =>
          (attrs.value (UInt32.ofNat bit)).getD []).flatten := by
  unfold valuesBelow
  rw [List.range_add, List.filter_append, List.map_append, List.flatten_append]

/-- What `decode_fattr4` returns of the attributes below the bits it goes through. -/
theorem decodeFattr4_below {words : List UInt32} {attrs : Fattr4} {bound : Nat} (fits : attrs.Fits)
    (spelled : SpelledBelow bound words attrs) (within : 32 * words.length % 2 ^ 32 ≤ bound)
    (rest : Bytes) :
    decodeFattr4 words (attrs.valuesBelow bound words ++ rest) =
      .ok (attrs.upto (32 * words.length % 2 ^ 32)) := by
  have started : SpelledBelow (32 * words.length % 2 ^ 32) words attrs :=
    fun bit inside => spelled bit (by omega)
  have read := takes_below fits (Nat.mod_lt _ (by decide)) started
  obtain ⟨count, rfl⟩ := Nat.exists_eq_add_of_le within
  rw [decodeFattr4, maxBit_toNat, valuesBelow_add, List.append_assoc, StateT.run'_eq]
  exact congrArg (Functor.map Prod.fst) (read _)

/-- The attributes of a bitmap come back exactly when every bit is one of those that
`decode_fattr4` goes through. -/
theorem decodeFattr4_values_iff {words : List UInt32} {attrs : Fattr4} (fits : attrs.Fits)
    (spelled : Spelled words attrs) :
    decodeFattr4 words (attrs.values words) = .ok attrs ↔
      ∀ bit, bitSet words bit → bit < 32 * words.length % 2 ^ 32 := by
  have read := decodeFattr4_below fits (spelled (32 * words.length)) (Nat.mod_le _ _) []
  rw [List.append_nil] at read
  change decodeFattr4 words (attrs.valuesBelow (32 * words.length) words) = _ ↔ _
  rw [read, Except.ok.injEq]
  exact upto_eq_self_iff spelled

/-- An attribute that `decode_fattr4` does not know. -/
theorem decodeAttr_unknown {bit : UInt32} (unknown : bit ∉ knownAttrs) (out : Fattr4) :
    decodeAttr bit out = throw unsupportedAttr := by
  simp only [knownAttrs, requestAttrs, statvfsAttrs, List.cons_append, List.nil_append,
    List.mem_cons, List.not_mem_nil, or_false, not_or] at unknown
  simp only [decodeAttr, unknown, if_false]
  rfl

/-- Another bit is reported exactly when it is one of those that `decode_fattr4` goes
through. -/
theorem decodeFattr4_unknown_iff {words : List UInt32} {attrs : Fattr4} (fits : attrs.Fits)
    {other : Nat} (set : bitSet words other) (unknown : ∀ known ∈ knownAttrs, known.toNat ≠ other)
    (spelled : SpelledBelow other words attrs) (rest : Bytes) :
    decodeFattr4 words (attrs.valuesBelow other words ++ rest) = .error unsupportedAttr ↔
      other < 32 * words.length % 2 ^ 32 := by
  by_cases inside : other < 32 * words.length % 2 ^ 32
  · refine iff_of_true ?_ inside
    have small : other < 2 ^ 32 := Nat.lt_trans inside (Nat.mod_lt _ (by decide))
    have read := takes_below fits small spelled rest
    have word : (UInt32.ofNat other).toNat = other := UInt32.toNat_ofNat_of_lt' small
    have stops := decodeAttr_unknown (fun mem => unknown _ mem word) (attrs.upto other)
    obtain ⟨count, split⟩ := Nat.exists_eq_add_of_lt inside
    rw [decodeFattr4, maxBit_toNat, split, Nat.add_assoc, List.range_add, List.range_succ_eq_map,
      List.map_cons, List.foldlM_append, Nat.add_zero, StateT.run'_eq, StateT.run_bind]
    change Prod.fst <$> (StateT.run _ (id _) >>= _) = _
    rw [read]
    change Prod.fst <$> StateT.run ((other :: _).foldlM (fun out bit =>
      if bitSet words bit then decodeAttr (UInt32.ofNat bit) out else return out)
      (attrs.upto other) : AttrM Fattr4) rest = _
    rw [List.foldlM_cons, if_pos set, stops]
    rfl
  · refine iff_of_false ?_ inside
    rw [decodeFattr4_below fits spelled (Nat.not_lt.mp inside)]
    intro reported
    cases reported

/-- The bits of a bitmap of fewer than 2^27 words are all gone through. -/
theorem bits_counted {words : List UInt32} (short : words.length < 2 ^ 27) {bit : Nat}
    (set : bitSet words bit) : bit < 32 * words.length % 2 ^ 32 := by
  rw [Nat.mod_eq_of_lt (by omega)]
  by_contra beyond
  have outside : ¬ bit / 32 < words.length := by omega
  simp [bitSet, outside] at set

/-- Every set of known attributes is read back, and every other bit reported, exactly
when the bits are below the number of bits of the bitmap, as a `u32` counts them; those of a
bitmap of fewer than 2^27 words are. -/
theorem decodeFattr4_exact {words : List UInt32} {attrs : Fattr4} (fits : attrs.Fits) :
    (Spelled words attrs →
      (decodeFattr4 words (attrs.values words) = .ok attrs ↔
        ∀ bit, bitSet words bit → bit < 32 * words.length % 2 ^ 32)) ∧
      (∀ (other : Nat) (rest : Bytes), bitSet words other →
        (∀ known ∈ knownAttrs, known.toNat ≠ other) → SpelledBelow other words attrs →
        (decodeFattr4 words (attrs.valuesBelow other words ++ rest) = .error unsupportedAttr ↔
          other < 32 * words.length % 2 ^ 32)) ∧
      (words.length < 2 ^ 27 → ∀ bit, bitSet words bit → bit < 32 * words.length % 2 ^ 32) :=
  ⟨decodeFattr4_values_iff fits, fun _ rest set unknown spelled =>
    decodeFattr4_unknown_iff fits set unknown spelled rest, fun short _ set => bits_counted short set⟩

/-- Words of zeros at the end of a bitmap add no bit. -/
theorem bitSet_append_zeros (words : List UInt32) (count bit : Nat) :
    bitSet (words ++ List.replicate count 0) bit = bitSet words bit := by
  unfold bitSet
  rw [List.getD_eq_getElem?_getD, List.getD_eq_getElem?_getD, List.length_append]
  by_cases inside : bit / 32 < words.length
  · rw [List.getElem?_append_left inside]
    simp only [inside, Nat.lt_add_right]
  · rw [List.getElem?_append_right (Nat.not_lt.mp inside), List.getElem?_replicate]
    split <;> simp [inside]

/-- The type of a directory alone. -/
def onlyType : Fattr4 := { ftype := some 2 }

/-- A bitmap with the type and words of zeros. -/
def typeBitmap (zeros : Nat) : List UInt32 := [2] ++ List.replicate zeros 0

theorem valueAt_onlyType {bit : Nat} (other : bit ≠ 1) : onlyType.valueAt bit = none := by
  rw [valueAt]
  split
  case isTrue small =>
    have apart : UInt32.ofNat bit ≠ fattr4Type := by
      intro same
      have number := congrArg UInt32.toNat same
      rw [UInt32.toNat_ofNat_of_lt' small] at number
      exact other number
    simp [value, onlyType, apart]
  case isFalse => rfl

theorem spelled_onlyType (zeros : Nat) : Spelled (typeBitmap zeros) onlyType := by
  intro bound bit _
  rw [typeBitmap, bitSet_append_zeros]
  by_cases first : bit < 32
  · have each : ∀ bit < 32, bitSet [2] bit = (onlyType.valueAt bit).isSome := by decide
    exact each bit first
  · have outside : ¬ bit / 32 < 1 := by omega
    have unset : bitSet [2] bit = false := by simp [bitSet, outside]
    rw [unset, valueAt_onlyType (by omega)]
    rfl

/-- The one attribute of the bitmap. -/
theorem attributesOf_typeBitmap (zeros : Nat) : attributesOf (typeBitmap zeros) = [1] := by
  have set (bit : Nat) : bitSet (typeBitmap zeros) bit = (onlyType.valueAt bit).isSome :=
    spelled_onlyType zeros (bit + 1) bit (Nat.lt_succ_self bit)
  have bits : 32 * (typeBitmap zeros).length = 2 + (32 * zeros + 30) := by
    rw [typeBitmap, List.length_append, List.length_replicate, List.length_singleton]
    omega
  have none : (List.map (2 + ·) (List.range (32 * zeros + 30))).filter
      (bitSet (typeBitmap zeros)) = [] := by
    rw [List.filter_eq_nil_iff]
    intro bit member
    obtain ⟨offset, -, rfl⟩ := List.mem_map.mp member
    rw [set, valueAt_onlyType (by omega)]
    exact Bool.false_ne_true
  rw [attributesOf, bits, List.range_add, List.filter_append, none, List.append_nil]
  have first : List.range 2 = [0, 1] := rfl
  rw [first, List.filter_cons, List.filter_cons, set, set]
  rfl

/-- Attributes without an owner have no text. -/
theorem fits_of_unowned {attrs : Fattr4} (owner : attrs.owner = none)
    (group : attrs.ownerGroup = none) : attrs.Fits := by
  constructor
  · intro text given
    rw [owner] at given
    cases given
  · intro text given
    rw [group] at given
    cases given

theorem fits_onlyType : onlyType.Fits :=
  fits_of_unowned rfl rfl

/-- The type of a directory is read back, and the bit of an attribute that the client
does not know reported. -/
theorem decodeFattr4_exact_type :
    decodeFattr4 (typeBitmap 2) (onlyType.values (typeBitmap 2)) = .ok onlyType ∧
      decodeFattr4 [4] [] = .error unsupportedAttr := by
  constructor
  · have exact := @decodeFattr4_exact (typeBitmap 2) onlyType fits_onlyType
    exact (exact.1 (spelled_onlyType 2)).mpr (exact.2.2 (by decide))
  · have spelled : SpelledBelow 2 [4] {} := by
      unfold SpelledBelow
      decide
    have apart : knownAttrs.all (fun known => decide (known.toNat ≠ 2)) = true := by decide
    have unknown : ∀ known ∈ knownAttrs, known.toNat ≠ 2 := fun known member =>
      of_decide_eq_true (List.all_eq_true.mp apart known member)
    have reported :=
      (@decodeFattr4_exact [4] {} (fits_of_unowned rfl rfl)).2.1 2 [] (by decide) unknown spelled
    exact reported.mpr (by decide)

/-- A bitmap of 2^27 words counts no bits: the type is left out. -/
theorem decodeFattr4_drops_type :
    Spelled (typeBitmap (2 ^ 27 - 1)) onlyType ∧ onlyType.Fits ∧
      decodeFattr4 (typeBitmap (2 ^ 27 - 1)) (onlyType.values (typeBitmap (2 ^ 27 - 1))) =
        .ok {} := by
  refine ⟨spelled_onlyType _, fits_onlyType, ?_⟩
  have length : 32 * (typeBitmap (2 ^ 27 - 1)).length % 2 ^ 32 = 0 := by
    rw [typeBitmap, List.length_append, List.length_replicate, List.length_singleton]
    decide
  have read := decodeFattr4_below fits_onlyType
    (spelled_onlyType (2 ^ 27 - 1) (32 * (typeBitmap (2 ^ 27 - 1)).length)) (Nat.mod_le _ _) []
  rw [List.append_nil, length] at read
  exact read

end Fattr4

end LibNfs.Proto
