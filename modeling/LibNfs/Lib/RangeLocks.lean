import Mathlib.Data.List.Basic

/-! # Locks on ranges

A manager of shared and exclusive locks on ranges of objects: two locks conflict
when their ranges overlap, one of them is exclusive and their owners differ. An
owner that releases a range keeps what it holds outside of it.
-/

namespace RangeLocks

/-- The positions from `start` up to `stop`, the latter excluded. -/
structure Range where
  start : Nat
  stop : Nat
  deriving DecidableEq

namespace Range

def Overlaps (left right : Range) : Prop :=
  left.start < right.stop ∧ right.start < left.stop

instance (left right : Range) : Decidable (left.Overlaps right) :=
  inferInstanceAs (Decidable (_ ∧ _))

def Within (inner outer : Range) : Prop :=
  outer.start ≤ inner.start ∧ inner.stop ≤ outer.stop

theorem Overlaps.mono {other inner outer : Range} (overlaps : other.Overlaps inner)
    (within : inner.Within outer) : other.Overlaps outer :=
  ⟨Nat.lt_of_lt_of_le overlaps.1 within.2, Nat.lt_of_le_of_lt within.1 overlaps.2⟩

/-- The parts of a range outside of another. -/
def minus (range freed : Range) : List Range :=
  [⟨range.start, min range.stop freed.start⟩, ⟨max range.start freed.stop, range.stop⟩].filter
    fun part => part.start < part.stop

theorem within_of_mem_minus {range freed part : Range} (member : part ∈ range.minus freed) :
    part.Within range := by
  obtain ⟨member, -⟩ := List.mem_filter.mp member
  rcases List.mem_pair.mp member with rfl | rfl
  · exact ⟨Nat.le_refl _, Nat.min_le_left _ _⟩
  · exact ⟨Nat.le_max_left _ _, Nat.le_refl _⟩

/-- Nothing is left of a range within the one that is freed. -/
theorem minus_eq_nil {range freed : Range} (within : range.Within freed) :
    range.minus freed = [] := by
  obtain ⟨left, right⟩ := within
  apply List.filter_eq_nil_iff.mpr
  intro part member
  rw [decide_eq_true_eq]
  rcases List.mem_pair.mp member with rfl | rfl
  · simp only
    omega
  · simp only
    omega

end Range

/-- A lock of an owner on a range of an object. -/
structure Lock (Owner Object : Type) where
  owner : Owner
  object : Object
  range : Range
  exclusive : Bool
  deriving DecidableEq

variable {Owner Object : Type}

/-- Two locks of different owners exclude each other. -/
def Lock.Conflicts (left right : Lock Owner Object) : Prop :=
  left.object = right.object ∧ left.range.Overlaps right.range ∧
    (left.exclusive ∨ right.exclusive) ∧ left.owner ≠ right.owner

section Freeing

variable [DecidableEq Object]

/-- What is left of a lock when the owners that `frees` names release a range. -/
def Lock.remains (frees : Owner → Bool) (object : Object) (range : Range)
    (lock : Lock Owner Object) : List (Lock Owner Object) :=
  if frees lock.owner ∧ lock.object = object then
    (lock.range.minus range).map fun part => { lock with range := part }
  else
    [lock]

/-- Frees a range of an object of the locks of some owners. -/
def release (held : List (Lock Owner Object)) (frees : Owner → Bool) (object : Object)
    (range : Range) : List (Lock Owner Object) :=
  held.flatMap (Lock.remains frees object range)

variable {frees : Owner → Bool} {object : Object} {range : Range} {lock part : Lock Owner Object}

theorem Lock.of_mem_remains (member : part ∈ lock.remains frees object range) :
    part.owner = lock.owner ∧ part.object = lock.object ∧ part.exclusive = lock.exclusive ∧
      part.range.Within lock.range := by
  unfold remains at member
  split at member
  · obtain ⟨range, parted, rfl⟩ := List.mem_map.mp member
    exact ⟨rfl, rfl, rfl, Range.within_of_mem_minus parted⟩
  · rw [List.mem_singleton.mp member]
    exact ⟨rfl, rfl, rfl, Nat.le_refl _, Nat.le_refl _⟩

/-- Nothing remains of a lock that is freed as a whole. -/
theorem Lock.remains_eq_nil (freed : frees lock.owner) (within : lock.range.Within range) :
    lock.remains frees lock.object range = [] := by
  rw [remains, if_pos ⟨freed, rfl⟩, Range.minus_eq_nil within, List.map_nil]

end Freeing

section Blocking

variable [DecidableEq Owner] [DecidableEq Object]

instance (left right : Lock Owner Object) : Decidable (left.Conflicts right) :=
  inferInstanceAs (Decidable (_ ∧ _ ∧ _ ∧ _))

/-- A lock that conflicts with one that is asked for. -/
def blocking (held : List (Lock Owner Object)) (asked : Lock Owner Object) :
    Option (Lock Owner Object) :=
  held.find? fun lock => asked.Conflicts lock

theorem blocking_eq_none {held : List (Lock Owner Object)} {asked : Lock Owner Object}
    (free : ∀ lock ∈ held, ¬ asked.Conflicts lock) : blocking held asked = none := by
  apply List.find?_eq_none.mpr
  intro lock member
  rw [decide_eq_true_eq]
  exact free lock member

end Blocking

end RangeLocks
