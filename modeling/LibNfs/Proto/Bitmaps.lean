import Mathlib.Data.List.GetD
import LibNfs.Proto.Requests

/-! # Attribute bitmaps

A bitmap is read as the set of the attribute numbers whose bit is set. Marking
one number adds it to the set and keeps the number of words, so the bitmap of a
list holds the members of the list, in any order and with any repetitions.
-/

namespace LibNfs.Proto

open Coding
open Xdr (XdrDecode)

/-- The test of `bit_set` reads one bit of the word. -/
theorem and_shift_eq_one_iff (word : UInt32) {place : Nat} (inside : place < 32) :
    (word >>> UInt32.ofNat place) &&& 1 = 1 ↔ word.toNat.testBit place = true := by
  have shift : (UInt32.ofNat place).toNat = place :=
    UInt32.toNat_ofNat_of_lt' (by simp only [UInt32.size]; omega)
  rw [← UInt32.toNat_inj, UInt32.toNat_and, UInt32.toNat_shiftRight, shift,
    Nat.mod_eq_of_lt inside]
  simp [Nat.testBit, Nat.and_comm]

/-- Setting a bit adds its place to the set bits. -/
theorem testBit_or_shift (word bit : UInt32) {place : Nat} (inside : place < 32) :
    (word ||| (1 : UInt32) <<< (bit % 32)).toNat.testBit place =
      (word.toNat.testBit place || decide (bit.toNat % 32 = place)) := by
  have small : bit.toNat % 32 < 32 := Nat.mod_lt _ (by decide)
  have shift : (bit % 32).toNat = bit.toNat % 32 := by rw [UInt32.toNat_mod]; rfl
  have one : (1 : UInt32).toNat = 2 ^ 0 := rfl
  rw [UInt32.toNat_or, Nat.testBit_or, UInt32.toNat_shiftLeft, shift, Nat.mod_eq_of_lt small,
    Nat.testBit_mod_two_pow, Nat.testBit_shiftLeft, one, Nat.testBit_two_pow]
  congr 1
  rw [← Bool.decide_and, ← Bool.decide_and]
  apply decide_eq_decide.mpr
  omega

/-- Words with the same bits are the same. -/
theorem word_eq_of_bits {left right : UInt32}
    (same : ∀ place < 32, left.toNat.testBit place = right.toNat.testBit place) : left = right := by
  apply UInt32.toNat_inj.mp
  apply Nat.eq_of_testBit_eq
  intro place
  by_cases inside : place < 32
  · exact same place inside
  · have large : 2 ^ 32 ≤ 2 ^ place := Nat.pow_le_pow_right (by decide) (by omega)
    have left_lt := left.toNat_lt
    have right_lt := right.toNat_lt
    rw [Nat.testBit_lt_two_pow (by omega), Nat.testBit_lt_two_pow (by omega)]

/-- A number is in the set when its bit of its word is set. -/
theorem bitSet_iff (words : List UInt32) (bit : Nat) :
    bitSet words bit = true ↔
      (words.getD (bit / 32) 0).toNat.testBit (bit % 32) = true ∧ bit / 32 < words.length := by
  rw [bitSet, decide_eq_true_iff, and_shift_eq_one_iff _ (Nat.mod_lt _ (by decide)), and_comm]

/-- Bitmaps of one length with the same members are the same words. -/
theorem bitmap_eq_of_bitSet {left right : List UInt32} (length : left.length = right.length)
    (same : ∀ bit, bitSet left bit = true ↔ bitSet right bit = true) : left = right := by
  apply List.ext_getElem length
  intro index inLeft inRight
  apply word_eq_of_bits
  intro place inside
  have word : (32 * index + place) / 32 = index := by omega
  have offset : (32 * index + place) % 32 = place := by omega
  have both := same (32 * index + place)
  rw [bitSet_iff, bitSet_iff, word, offset, List.getD_eq_getElem _ _ inLeft,
    List.getD_eq_getElem _ _ inRight, and_iff_left inLeft, and_iff_left inRight] at both
  exact Bool.eq_iff_iff.mpr both

/-- The loop body of `build_bitmap`. -/
def markBit (words : List UInt32) (bit : UInt32) : List UInt32 :=
  words.modify (bit.toNat / 32) fun word => word ||| (1 : UInt32) <<< (bit % 32)

@[simp] theorem length_markBit (words : List UInt32) (bit : UInt32) :
    (markBit words bit).length = words.length :=
  List.length_modify _ _ _

/-- Marking a number in range adds it to the set. -/
theorem bitSet_markBit {words : List UInt32} {bit : UInt32}
    (inside : bit.toNat / 32 < words.length) (query : Nat) :
    bitSet (markBit words bit) query = true ↔ query = bit.toNat ∨ bitSet words query = true := by
  have place := Nat.mod_lt query (show 0 < 32 by decide)
  rw [bitSet_iff, bitSet_iff, length_markBit]
  by_cases here : query / 32 = bit.toNat / 32
  · have marked : (markBit words bit).getD (query / 32) 0 =
        words.getD (query / 32) 0 ||| (1 : UInt32) <<< (bit % 32) := by
      rw [markBit, here, List.getD_eq_getElem _ _ (by simpa using inside),
        List.getD_eq_getElem _ _ inside, List.getElem_modify_eq]
    have number : bit.toNat % 32 = query % 32 ↔ query = bit.toNat := by omega
    rw [marked, testBit_or_shift _ _ place, Bool.or_eq_true, decide_eq_true_iff, number, here,
      and_iff_left inside, and_iff_left inside, or_comm]
  · have kept : (markBit words bit).getD (query / 32) 0 = words.getD (query / 32) 0 := by
      rw [markBit, List.getD_eq_getElem?_getD, List.getD_eq_getElem?_getD,
        List.getElem?_modify_ne _ _ (Ne.symm here)]
    have other : query ≠ bit.toNat := fun same => here (by rw [same])
    rw [kept, or_iff_right other]

/-- The highest word that a list of numbers uses. -/
def maxWord (bits : List UInt32) : Nat :=
  (bits.map fun bit => bit.toNat / 32).foldl max 0

theorem buildBitmap_eq (bits : List UInt32) :
    buildBitmap bits = bits.foldl markBit (List.replicate (maxWord bits + 1) 0) := rfl

theorem length_foldl_markBit (bits words : List UInt32) :
    (bits.foldl markBit words).length = words.length := by
  induction bits generalizing words with
  | nil => rfl
  | cons bit rest ih => rw [List.foldl_cons, ih, length_markBit]

/-- Marking a list adds its members to the set. -/
theorem bitSet_foldl_markBit {bits words : List UInt32}
    (inside : ∀ bit ∈ bits, bit.toNat / 32 < words.length) (query : Nat) :
    bitSet (bits.foldl markBit words) query = true ↔
      (∃ bit ∈ bits, query = bit.toNat) ∨ bitSet words query = true := by
  induction bits generalizing words with
  | nil => simp
  | cons bit rest ih =>
      have later : ∀ other ∈ rest, other.toNat / 32 < (markBit words bit).length := by
        intro other member
        rw [length_markBit]
        exact inside other (List.mem_cons_of_mem _ member)
      rw [List.foldl_cons, ih later, bitSet_markBit (inside bit List.mem_cons_self)]
      simp only [List.exists_mem_cons_iff]
      rw [or_left_comm, or_assoc]

theorem le_maxWord {bits : List UInt32} {bit : UInt32} (member : bit ∈ bits) :
    bit.toNat / 32 ≤ maxWord bits := by
  have word : bit.toNat / 32 ∈ bits.map fun bit => bit.toNat / 32 :=
    List.mem_map.mpr ⟨bit, member, rfl⟩
  rw [maxWord, List.foldl_max_eq_max (List.ne_nil_of_mem word)]
  exact le_max_of_le_right (List.le_max_of_mem word)

theorem maxWord_mem {bits : List UInt32} (some : bits ≠ []) :
    ∃ bit ∈ bits, bit.toNat / 32 = maxWord bits := by
  have words : (bits.map fun bit => bit.toNat / 32) ≠ [] := by simpa using some
  obtain ⟨bit, member, highest⟩ := List.mem_map.mp (List.max_mem words)
  refine ⟨bit, member, highest.trans ?_⟩
  rw [maxWord, List.foldl_max_eq_max words, Nat.zero_max]

@[simp] theorem length_buildBitmap (bits : List UInt32) :
    (buildBitmap bits).length = maxWord bits + 1 := by
  rw [buildBitmap_eq, length_foldl_markBit, List.length_replicate]

theorem bitSet_replicate_zero (count bit : Nat) :
    bitSet (List.replicate count 0) bit = false := by
  rw [← Bool.not_eq_true, bitSet_iff, List.length_replicate]
  intro ⟨set, inside⟩
  rw [List.getD_replicate _ inside] at set
  simp at set

/-- The set of the bitmap of a list is the list. -/
theorem bitSet_buildBitmap (bits : List UInt32) (bit : Nat) :
    bitSet (buildBitmap bits) bit = true ↔ ∃ member ∈ bits, bit = member.toNat := by
  rw [buildBitmap_eq, bitSet_foldl_markBit]
  · rw [bitSet_replicate_zero, or_iff_left Bool.false_ne_true]
  · intro member inside
    rw [List.length_replicate]
    exact Nat.lt_succ_of_le (le_maxWord inside)

/-- Lists with the same members use the same number of words. -/
theorem maxWord_congr {left right : List UInt32} (same : ∀ bit, bit ∈ left ↔ bit ∈ right) :
    maxWord left = maxWord right := by
  rcases eq_or_ne left [] with rfl | some
  · have none : right = [] :=
      List.eq_nil_iff_forall_not_mem.mpr fun bit member => List.not_mem_nil ((same bit).mpr member)
    rw [none]
  · obtain ⟨first, inLeft, highest⟩ := maxWord_mem some
    obtain ⟨second, inRight, other⟩ := maxWord_mem (List.ne_nil_of_mem ((same first).mp inLeft))
    apply Nat.le_antisymm
    · exact highest ▸ le_maxWord ((same first).mp inLeft)
    · exact other ▸ le_maxWord ((same second).mpr inRight)

/-- The bitmap depends on the members of the list only. -/
theorem buildBitmap_congr {left right : List UInt32} (same : ∀ bit, bit ∈ left ↔ bit ∈ right) :
    buildBitmap left = buildBitmap right := by
  apply bitmap_eq_of_bitSet
  · rw [length_buildBitmap, length_buildBitmap, maxWord_congr same]
  · intro bit
    simp only [bitSet_buildBitmap, same]

/-- A number has 32 bits, so a bitmap has at most `2 ^ 27` words. -/
theorem length_buildBitmap_lt (bits : List UInt32) : (buildBitmap bits).length < 2 ^ 32 := by
  rw [length_buildBitmap]
  rcases eq_or_ne bits [] with rfl | some
  · decide
  · obtain ⟨bit, -, highest⟩ := maxWord_mem some
    have small := bit.toNat_lt
    omega

theorem mem_iff_exists_toNat (bits : List UInt32) (bit : UInt32) :
    (∃ member ∈ bits, bit.toNat = member.toNat) ↔ bit ∈ bits := by
  constructor
  · rintro ⟨member, inside, same⟩
    exact UInt32.toNat_inj.mp same ▸ inside
  · intro inside
    exact ⟨bit, inside, rfl⟩

/-- A bitmap requests the members of the list and nothing else, has as many
words as the highest of them needs, and is read back from its code. -/
theorem buildBitmap_spec (bits : List UInt32) :
    (∀ bit : UInt32, bitSet (buildBitmap bits) bit.toNat = true ↔ bit ∈ bits) ∧
    (bits = [] → buildBitmap bits = [0]) ∧
    (bits ≠ [] → ∃ highest ∈ bits, (∀ bit ∈ bits, bit.toNat / 32 ≤ highest.toNat / 32) ∧
      (buildBitmap bits).length = highest.toNat / 32 + 1) ∧
    (∀ front rest, ∃ code, encodeBitmap bits front = .ok (front ++ code) ∧
      XdrDecode.decode (code ++ rest) = .ok (buildBitmap bits, rest)) ∧
    (∀ other, (∀ bit, bit ∈ other ↔ bit ∈ bits) → buildBitmap other = buildBitmap bits) := by
  refine ⟨?_, ?_, ?_, ?_, fun other same => buildBitmap_congr same⟩
  · intro bit
    rw [bitSet_buildBitmap, mem_iff_exists_toNat]
  · rintro rfl
    rfl
  · intro some
    obtain ⟨highest, member, word⟩ := maxWord_mem some
    refine ⟨highest, member, fun bit inside => word ▸ le_maxWord inside, ?_⟩
    rw [length_buildBitmap, word]
  · intro front rest
    have fits := length_buildBitmap_lt bits
    exact ⟨bitmapCode (buildBitmap bits), Compound.encodeBitmap_eq bits fits front,
      bitmap_reads fits rest⟩

end LibNfs.Proto
