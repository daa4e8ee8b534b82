import Mathlib.Order.Basic

/-! # Cutting texts

`splitOnce` cuts a list at the first separator and `rsplitOnce` at the last one;
each is characterised by the side that is free of the separator. `parseUnsigned`
reads an unsigned decimal number with a bound.
-/

namespace Text

section Cuts

universe uSymbol

variable {α : Type uSymbol} [DecidableEq α] {separator : α}

/-- The parts before and after the first separator. -/
def splitOnce (separator : α) : List α → Option (List α × List α)
  | [] => none
  | symbol :: rest =>
      if symbol = separator then
        some ([], rest)
      else
        (splitOnce separator rest).map fun parts => (symbol :: parts.1, parts.2)

/-- The parts before and after the last separator. -/
def rsplitOnce (separator : α) (text : List α) : Option (List α × List α) :=
  (splitOnce separator text.reverse).map fun parts => (parts.2.reverse, parts.1.reverse)

/-- The first separator comes after a text without it. -/
theorem splitOnce_append {front : List α} (free : separator ∉ front) (back : List α) :
    splitOnce separator (front ++ separator :: back) = some (front, back) := by
  induction front with
  | nil => simp [splitOnce]
  | cons symbol rest ih =>
      have other : symbol ≠ separator := fun same => free (same ▸ List.mem_cons_self)
      have later := ih fun member => free (List.mem_cons_of_mem _ member)
      simp only [List.cons_append, splitOnce, other, ↓reduceIte, later, Option.map_some]

theorem splitOnce_eq_none {text : List α} : splitOnce separator text = none ↔ separator ∉ text := by
  induction text with
  | nil => simp [splitOnce]
  | cons symbol rest ih =>
      by_cases same : symbol = separator
      · simp [splitOnce, same]
      · simp [splitOnce, same, ih, Ne.symm same]

/-- Where a text is cut: at its first separator. -/
theorem splitOnce_eq_some {text front back : List α} :
    splitOnce separator text = some (front, back) ↔
      text = front ++ separator :: back ∧ separator ∉ front := by
  constructor
  · intro cut
    induction text generalizing front with
    | nil => cases cut
    | cons symbol rest ih =>
        by_cases same : symbol = separator
        · simp only [splitOnce, same, ↓reduceIte, Option.some.injEq, Prod.mk.injEq] at cut
          obtain ⟨rfl, rfl⟩ := cut
          exact ⟨by rw [same, List.nil_append], List.not_mem_nil⟩
        · simp only [splitOnce, same, ↓reduceIte, Option.map_eq_some_iff] at cut
          obtain ⟨parts, inner, joined⟩ := cut
          obtain ⟨rfl, rfl⟩ := Prod.mk.inj joined
          obtain ⟨whole, free⟩ := ih inner
          refine ⟨by rw [whole, List.cons_append], ?_⟩
          rw [List.mem_cons, not_or]
          exact ⟨Ne.symm same, free⟩
  · rintro ⟨rfl, free⟩
    exact splitOnce_append free back

/-- The part before the first separator, or everything. -/
theorem takeWhile_of_splitOnce (text : List α) :
    text.takeWhile (· ≠ separator) = ((splitOnce separator text).map Prod.fst).getD text := by
  induction text with
  | nil => rfl
  | cons symbol rest ih =>
      by_cases same : symbol = separator
      · simp [splitOnce, same]
      · simp only [List.takeWhile_cons, splitOnce, same, ↓reduceIte, ne_eq, not_false_eq_true,
          decide_true, Option.map_map]
        rw [ih]
        cases splitOnce separator rest <;> rfl

/-- The last separator comes before a text without it. -/
theorem rsplitOnce_append (front : List α) {back : List α} (free : separator ∉ back) :
    rsplitOnce separator (front ++ separator :: back) = some (front, back) := by
  have cut := splitOnce_append (fun member => free (List.mem_reverse.mp member)) front.reverse
  have turned : (front ++ separator :: back).reverse =
      back.reverse ++ separator :: front.reverse := by simp
  rw [rsplitOnce, turned, cut, Option.map_some, List.reverse_reverse, List.reverse_reverse]

theorem rsplitOnce_eq_none {text : List α} :
    rsplitOnce separator text = none ↔ separator ∉ text := by
  rw [rsplitOnce, Option.map_eq_none_iff, splitOnce_eq_none, List.mem_reverse]

/-- Where a text is cut: at its last separator. -/
theorem rsplitOnce_eq_some {text front back : List α} :
    rsplitOnce separator text = some (front, back) ↔
      text = front ++ separator :: back ∧ separator ∉ back := by
  constructor
  · intro cut
    obtain ⟨parts, turned, joined⟩ := Option.map_eq_some_iff.mp cut
    obtain ⟨rfl, rfl⟩ := Prod.mk.inj joined
    obtain ⟨whole, free⟩ := splitOnce_eq_some.mp turned
    refine ⟨?_, fun member => free (List.mem_reverse.mp member)⟩
    have back := congrArg List.reverse whole
    simpa using back
  · rintro ⟨rfl, free⟩
    exact rsplitOnce_append front free

end Cuts

/-- The digits of a number, added to the value read before them, while the value
stays within the bound. -/
def parseDigits (bound : Nat) : List Char → Nat → Option Nat
  | [], value => some value
  | digit :: rest, value =>
      if digit.isDigit ∧ 10 * value + (digit.toNat - '0'.toNat) ≤ bound then
        parseDigits bound rest (10 * value + (digit.toNat - '0'.toNat))
      else
        none

/-- An unsigned number: digits, after an optional plus sign. -/
def parseUnsigned (bound : Nat) (text : List Char) : Option Nat :=
  match text with
  | [] => none
  | ['+'] => none
  | '+' :: digits => parseDigits bound digits 0
  | digits => parseDigits bound digits 0

/-- The text is a decimal numeral of the value: digits only, and some. -/
def Numeral (text : List Char) (value : Nat) : Prop :=
  text ≠ [] ∧ (∀ digit ∈ text, digit.isDigit) ∧ Nat.ofDigitChars 10 text 0 = value

/-- The digits of a number are a numeral of it. -/
theorem numeral_toDigits (value : Nat) : Numeral (Nat.toDigits 10 value) value :=
  ⟨Nat.toDigits_ne_nil, fun _ => Nat.isDigit_of_mem_toDigits (by decide) (by decide),
    Nat.ofDigitChars_ten_toDigits⟩

theorem Numeral.head_ne_plus {text : List Char} {value : Nat} (numeral : Numeral text value) :
    text.head? ≠ some '+' :=
  fun sign => absurd (numeral.2.1 '+' (List.mem_of_mem_head? sign)) (by decide)

/-- Reading further digits makes a number no smaller. -/
theorem le_ofDigitChars (text : List Char) (value : Nat) :
    value ≤ Nat.ofDigitChars 10 text value := by
  induction text generalizing value with
  | nil => exact Nat.le_refl _
  | cons digit rest ih =>
      rw [Nat.ofDigitChars_cons]
      exact Nat.le_trans (by omega) (ih _)

/-- A list of digits is read when its value is within the bound. -/
theorem parseDigits_eq_some {bound : Nat} {text : List Char} {start value : Nat}
    (within : start ≤ bound) :
    parseDigits bound text start = some value ↔
      (∀ digit ∈ text, digit.isDigit) ∧ Nat.ofDigitChars 10 text start = value ∧ value ≤ bound := by
  induction text generalizing start with
  | nil =>
      simp only [parseDigits, Option.some.injEq, List.not_mem_nil, false_implies, implies_true,
        Nat.ofDigitChars_nil, true_and]
      constructor
      · rintro rfl
        exact ⟨rfl, within⟩
      · exact And.left
  | cons digit rest ih =>
      rw [parseDigits, Nat.ofDigitChars_cons, List.forall_mem_cons]
      by_cases next : digit.isDigit ∧ 10 * start + (digit.toNat - '0'.toNat) ≤ bound
      · rw [if_pos next, ih next.2, and_iff_right next.1]
      · rw [if_neg next]
        constructor
        · intro absurd
          cases absurd
        · rintro ⟨⟨isDigit, -⟩, rfl, small⟩
          exact (next ⟨isDigit, Nat.le_trans (le_ofDigitChars rest _) small⟩).elim

/-- Without a sign, the numerals within the bound are read and nothing else. -/
theorem parseUnsigned_eq_some {bound : Nat} {text : List Char} {value : Nat}
    (unsigned : text.head? ≠ some '+') :
    parseUnsigned bound text = some value ↔ Numeral text value ∧ value ≤ bound := by
  unfold parseUnsigned
  split
  · simp [Numeral]
  · exact (unsigned rfl).elim
  · exact (unsigned rfl).elim
  · rename_i some _ _
    rw [parseDigits_eq_some (Nat.zero_le _), Numeral, and_iff_right some, and_assoc]

/-- The digits of a number within the bound are read back. -/
theorem parseUnsigned_toDigits {bound value : Nat} (within : value ≤ bound) :
    parseUnsigned bound (Nat.toDigits 10 value) = some value := by
  have numeral := numeral_toDigits value
  exact (parseUnsigned_eq_some numeral.head_ne_plus).mpr ⟨numeral, within⟩

end Text
