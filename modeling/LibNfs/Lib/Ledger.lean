import LibNfs.Lib.RangeLocks
import Mathlib.Data.List.Forall2
import Mathlib.Data.List.Nodup
import Mathlib.Logic.Relation

/-! # Locks granted over a network

The locks at a manager, and what its clients know of them. A request for a lock is
in the name of an owner of its own. The manager may execute it late, more than once
or after the client gave it up, and the same holds of the requests of owners that
have returned their lock. What a client was granted and has not returned is held at
the manager all the same, and excludes what other clients were granted.
-/

namespace RangeLocks

section Related

variable {α β : Type} {related : α → β → Prop} {left : List α} {right : List β}

/-- What is related to an element of the second list. -/
theorem exists_of_forall₂ (all : List.Forall₂ related left right) {index : Nat} {second : β}
    (present : right[index]? = some second) :
    ∃ first, left[index]? = some first ∧ related first second := by
  induction all generalizing index with
  | nil => cases present
  | @cons first second left right pair _ ih =>
      cases index with
      | zero =>
          cases present
          exact ⟨first, rfl, pair⟩
      | succ index => exact ih present

/-- Dropping the same index from two related lists. -/
theorem forall₂_eraseIdx (all : List.Forall₂ related left right) (index : Nat) :
    List.Forall₂ related (left.eraseIdx index) (right.eraseIdx index) := by
  induction all generalizing index with
  | nil => exact .nil
  | cons pair others ih =>
      cases index with
      | zero => exact others
      | succ index => exact .cons pair (ih index)

/-- A relation between the pairs of one list, read on those of a related one. -/
theorem pairwise_of_forall₂ {first : α → α → Prop} {second : β → β → Prop}
    (all : List.Forall₂ related left right) (pairs : left.Pairwise first)
    (follows : ∀ {a a' : α} {b b' : β}, related a b → related a' b' → first a a' → second b b') :
    right.Pairwise second := by
  induction all with
  | nil => exact .nil
  | @cons a b left right pair others ih =>
      obtain ⟨heads, tails⟩ := List.pairwise_cons.mp pairs
      refine .cons (fun b' member => ?_) (ih tails)
      obtain ⟨index, present⟩ := List.mem_iff_getElem?.mp member
      obtain ⟨a', present', pair'⟩ := exists_of_forall₂ others present
      exact follows pair pair' (heads a' (List.mem_of_getElem? present'))

end Related

/-- The locks that are held, those that were asked for, the answers of the manager,
the locks that clients were ever granted and those they still have, and the owners
that have returned theirs. -/
structure Ledger (Owner Object : Type) where
  held : List (Lock Owner Object)
  asked : List (Lock Owner Object)
  answers : List (Lock Owner Object)
  settled : List (Lock Owner Object)
  granted : List (Lock Owner Object)
  returned : List Owner

section Locks

variable {Owner Object : Type} {left right lock : Lock Owner Object}
  {held : List (Lock Owner Object)}

theorem Lock.Conflicts.symm (conflicts : left.Conflicts right) : right.Conflicts left :=
  ⟨conflicts.1.symm, ⟨conflicts.2.1.2, conflicts.2.1.1⟩, conflicts.2.2.1.symm,
    conflicts.2.2.2.symm⟩

/-- Locks conflict when parts of them do. -/
theorem Lock.Conflicts.of_remains [DecidableEq Object] {frees : Owner → Bool} {object : Object}
    {range : Range} {partLeft partRight : Lock Owner Object}
    (conflicts : partLeft.Conflicts partRight)
    (ofLeft : partLeft ∈ left.remains frees object range)
    (ofRight : partRight ∈ right.remains frees object range) : left.Conflicts right := by
  obtain ⟨ownerLeft, objectLeft, exclusiveLeft, withinLeft⟩ := Lock.of_mem_remains ofLeft
  obtain ⟨ownerRight, objectRight, exclusiveRight, withinRight⟩ := Lock.of_mem_remains ofRight
  obtain ⟨same, overlaps, exclusion, owners⟩ := conflicts
  rw [objectLeft, objectRight] at same
  rw [exclusiveLeft, exclusiveRight] at exclusion
  rw [ownerLeft, ownerRight] at owners
  have wider := overlaps.mono withinRight
  have widest := Range.Overlaps.mono ⟨wider.2, wider.1⟩ withinLeft
  exact ⟨same, ⟨widest.2, widest.1⟩, exclusion, owners⟩

/-- A lock stays whole when its owner frees nothing. -/
theorem mem_release [DecidableEq Object] {frees : Owner → Bool} {object : Object} {range : Range}
    (locked : lock ∈ held) (stays : ¬ frees lock.owner) :
    lock ∈ release held frees object range := by
  refine List.mem_flatMap.mpr ⟨lock, locked, ?_⟩
  rw [Lock.remains, if_neg fun freed => stays freed.1]
  exact List.mem_singleton_self lock

/-- What no lock blocks conflicts with none. -/
theorem not_conflicts_of_blocking [DecidableEq Owner] [DecidableEq Object]
    (free : blocking held lock = none) : ∀ other ∈ held, ¬ lock.Conflicts other := by
  intro other locked conflicts
  exact List.find?_eq_none.mp free other locked (decide_eq_true conflicts)

end Locks

namespace Ledger

variable {Owner Object : Type}

/-- Nothing was asked for yet. -/
def empty : Ledger Owner Object :=
  ⟨[], [], [], [], [], []⟩

section Steps

variable [DecidableEq Owner] [DecidableEq Object]

/-- A client asks for a lock by a new owner, the manager executes a request that was
asked for, an answer reaches the client, a client returns a lock, and the manager frees
a range of what owners hold that have returned their locks. -/
inductive Step : Ledger Owner Object → Ledger Owner Object → Prop where
  | ask {ledger : Ledger Owner Object} (lock : Lock Owner Object)
      (fresh : ∀ other ∈ ledger.asked, other.owner ≠ lock.owner) :
      Step ledger { ledger with asked := ledger.asked ++ [lock] }
  | acquire {ledger : Ledger Owner Object} {lock : Lock Owner Object}
      (asked : lock ∈ ledger.asked) (free : blocking ledger.held lock = none) :
      Step ledger
        { ledger with held := ledger.held ++ [lock], answers := ledger.answers ++ [lock] }
  | grant {ledger : Ledger Owner Object} {lock : Lock Owner Object}
      (answered : lock ∈ ledger.answers) (awaited : lock ∉ ledger.settled) :
      Step ledger
        { ledger with settled := ledger.settled ++ [lock], granted := ledger.granted ++ [lock] }
  | giveBack {ledger : Ledger Owner Object} {index : Nat} {lock : Lock Owner Object}
      (present : ledger.granted[index]? = some lock) :
      Step ledger
        { ledger with
          granted := ledger.granted.eraseIdx index
          returned := ledger.returned ++ [lock.owner] }
  | free {ledger : Ledger Owner Object} {frees : Owner → Bool} (object : Object) (range : Range)
      (returned : ∀ lock ∈ ledger.held, frees lock.owner → lock.owner ∈ ledger.returned) :
      Step ledger { ledger with held := release ledger.held frees object range }

end Steps

/-- What every step keeps: the owners of requests are distinct, a lock that was granted
is held until its owner returns it, and locks at the manager do not conflict. -/
structure Sound (ledger : Ledger Owner Object) : Prop where
  distinct : (ledger.asked.map Lock.owner).Nodup
  answers : ∀ lock ∈ ledger.answers, lock ∈ ledger.asked
  settled : ∀ lock ∈ ledger.settled, lock ∈ ledger.answers
  granted : ∀ lock ∈ ledger.granted, lock ∈ ledger.settled ∧ lock.owner ∉ ledger.returned
  once : ledger.granted.Nodup
  returned : ∀ owner ∈ ledger.returned, ∃ lock ∈ ledger.settled, lock.owner = owner
  owners : ∀ lock ∈ ledger.held, ∃ other ∈ ledger.asked, other.owner = lock.owner
  kept : ∀ lock ∈ ledger.answers, lock.owner ∉ ledger.returned → lock ∈ ledger.held
  apart : ∀ lock ∈ ledger.held, ∀ other ∈ ledger.held, ¬ lock.Conflicts other

theorem sound_empty : (empty : Ledger Owner Object).Sound where
  distinct := .nil
  answers := fun _ => id
  settled := fun _ => id
  granted := fun _ absent => absurd absent List.not_mem_nil
  once := .nil
  returned := fun _ absent => absurd absent List.not_mem_nil
  owners := fun _ absent => absurd absent List.not_mem_nil
  kept := fun _ absent => absurd absent List.not_mem_nil
  apart := fun _ absent => absurd absent List.not_mem_nil

section Keeping

variable {ledger next : Ledger Owner Object} {lock other : Lock Owner Object}

/-- Requests by the same owner are the same request. -/
theorem Sound.eq_of_owner (sound : ledger.Sound) (asked : lock ∈ ledger.asked)
    (asked' : other ∈ ledger.asked) (same : lock.owner = other.owner) : lock = other :=
  List.inj_on_of_nodup_map sound.distinct asked asked' same

theorem Sound.asked_of_settled (sound : ledger.Sound) (settled : lock ∈ ledger.settled) :
    lock ∈ ledger.asked :=
  sound.answers lock (sound.settled lock settled)

/-- The owner of a lock that no client was granted has nothing to return. -/
theorem Sound.not_returned (sound : ledger.Sound) (asked : lock ∈ ledger.asked)
    (awaited : lock ∉ ledger.settled) : lock.owner ∉ ledger.returned := by
  intro returned
  obtain ⟨other, settled, same⟩ := sound.returned _ returned
  have equal := sound.eq_of_owner (sound.asked_of_settled settled) asked same
  exact awaited (equal ▸ settled)

theorem Sound.ask (sound : ledger.Sound)
    (fresh : ∀ other ∈ ledger.asked, other.owner ≠ lock.owner) :
    Sound { ledger with asked := ledger.asked ++ [lock] } where
  distinct := by
    rw [List.map_append]
    refine List.nodup_append.mpr ⟨sound.distinct, List.pairwise_singleton _ _, ?_⟩
    intro owner before new member same
    obtain ⟨other, asked, owns⟩ := List.mem_map.mp before
    exact fresh other asked (owns.trans (same.trans (List.mem_singleton.mp member)))
  answers := fun other answered => List.mem_append_left _ (sound.answers other answered)
  settled := sound.settled
  granted := sound.granted
  once := sound.once
  returned := sound.returned
  owners := by
    intro held locked
    obtain ⟨other, asked, same⟩ := sound.owners held locked
    exact ⟨other, List.mem_append_left _ asked, same⟩
  kept := sound.kept
  apart := sound.apart

/-- Taking the answer to a request as a grant. -/
theorem Sound.grant (sound : ledger.Sound) (answered : lock ∈ ledger.answers)
    (awaited : lock ∉ ledger.settled) :
    Sound { ledger with
      settled := ledger.settled ++ [lock], granted := ledger.granted ++ [lock] } where
  distinct := sound.distinct
  answers := sound.answers
  settled := by
    intro other member
    rcases List.mem_append.mp member with before | new
    · exact sound.settled other before
    · rwa [List.mem_singleton.mp new]
  granted := by
    intro other member
    rcases List.mem_append.mp member with before | new
    · exact ⟨List.mem_append_left _ (sound.granted other before).1, (sound.granted other before).2⟩
    · rw [List.mem_singleton.mp new]
      exact ⟨List.mem_append_right _ (List.mem_singleton_self _),
        sound.not_returned (sound.answers lock answered) awaited⟩
  once := by
    refine List.nodup_append.mpr ⟨sound.once, List.pairwise_singleton _ _, ?_⟩
    intro other granted new member same
    rw [same, List.mem_singleton.mp member] at granted
    exact awaited (sound.granted lock granted).1
  returned := by
    intro owner returned
    obtain ⟨other, settled, same⟩ := sound.returned owner returned
    exact ⟨other, List.mem_append_left _ settled, same⟩
  owners := sound.owners
  kept := sound.kept
  apart := sound.apart

theorem Sound.giveBack {index : Nat} (sound : ledger.Sound)
    (present : ledger.granted[index]? = some lock) :
    Sound { ledger with
      granted := ledger.granted.eraseIdx index
      returned := ledger.returned ++ [lock.owner] } where
  distinct := sound.distinct
  answers := sound.answers
  settled := sound.settled
  granted := by
    intro other member
    have before := List.mem_of_mem_eraseIdx member
    obtain ⟨settled, unreturned⟩ := sound.granted other before
    refine ⟨settled, fun returned => ?_⟩
    rcases List.mem_append.mp returned with returned | same
    · exact unreturned returned
    · -- the lock that is returned was granted once
      have granted := List.mem_of_getElem? present
      have equal := sound.eq_of_owner (sound.asked_of_settled settled)
        (sound.asked_of_settled (sound.granted lock granted).1) (List.mem_singleton.mp same)
      obtain ⟨place, elsewhere, there⟩ := List.mem_eraseIdx_iff_getElem?.mp member
      rw [equal, ← present] at there
      have inside := (List.getElem?_eq_some_iff.mp (there.trans present)).1
      exact elsewhere ((List.getElem?_inj inside sound.once).mp there)
  once := sound.once.eraseIdx index
  returned := by
    intro owner returned
    rcases List.mem_append.mp returned with before | new
    · exact sound.returned owner before
    · exact ⟨lock, (sound.granted lock (List.mem_of_getElem? present)).1,
        (List.mem_singleton.mp new).symm⟩
  owners := sound.owners
  kept := fun other answered unreturned =>
    sound.kept other answered fun returned => unreturned (List.mem_append_left _ returned)
  apart := sound.apart

/-- What a client was granted and has not returned is held at the manager. -/
theorem Sound.held_of_granted (sound : ledger.Sound) (granted : lock ∈ ledger.granted) :
    lock ∈ ledger.held :=
  sound.kept lock (sound.settled lock (sound.granted lock granted).1) (sound.granted lock granted).2

/-- Locks that clients were granted and have not returned do not conflict. -/
theorem Sound.granted_apart (sound : ledger.Sound) :
    ledger.granted.Pairwise fun lock other => lock.object = other.object →
      lock.range.Overlaps other.range → lock.exclusive = false ∧ other.exclusive = false := by
  refine (List.nodup_iff_pairwise_ne.mp sound.once).imp_of_mem ?_
  intro lock other granted granted' ne same overlaps
  have owners : lock.owner ≠ other.owner := fun equal =>
    ne (sound.eq_of_owner (sound.asked_of_settled (sound.granted lock granted).1)
      (sound.asked_of_settled (sound.granted other granted').1) equal)
  have shared : ¬ (lock.exclusive ∨ other.exclusive) := fun exclusion =>
    sound.apart lock (sound.held_of_granted granted) other (sound.held_of_granted granted')
      ⟨same, overlaps, exclusion, owners⟩
  rw [not_or, Bool.not_eq_true, Bool.not_eq_true] at shared
  exact shared

section Steps

variable [DecidableEq Object]

/-- The manager frees a range of owners that have given their locks back. -/
theorem Sound.free {frees : Owner → Bool} (sound : ledger.Sound) (object : Object) (range : Range)
    (returned : ∀ lock ∈ ledger.held, frees lock.owner → lock.owner ∈ ledger.returned) :
    Sound { ledger with held := release ledger.held frees object range } where
  distinct := sound.distinct
  answers := sound.answers
  settled := sound.settled
  granted := sound.granted
  once := sound.once
  returned := sound.returned
  owners := by
    intro part remains
    obtain ⟨lock, locked, ofLock⟩ := List.mem_flatMap.mp remains
    rw [(Lock.of_mem_remains ofLock).1]
    exact sound.owners lock locked
  kept := fun other answered unreturned =>
    mem_release (sound.kept other answered unreturned) fun freed =>
      unreturned (returned other (sound.kept other answered unreturned) freed)
  apart := by
    intro left inLeft right inRight conflicts
    obtain ⟨wholeLeft, heldLeft, partLeft⟩ := List.mem_flatMap.mp inLeft
    obtain ⟨wholeRight, heldRight, partRight⟩ := List.mem_flatMap.mp inRight
    exact sound.apart wholeLeft heldLeft wholeRight heldRight
      (conflicts.of_remains partLeft partRight)

variable [DecidableEq Owner]

/-- The manager gives a lock that nothing blocks. -/
theorem Sound.acquire (sound : ledger.Sound) (asked : lock ∈ ledger.asked)
    (free : blocking ledger.held lock = none) :
    Sound { ledger with
      held := ledger.held ++ [lock], answers := ledger.answers ++ [lock] } where
  distinct := sound.distinct
  answers := by
    intro other member
    rcases List.mem_append.mp member with before | new
    · exact sound.answers other before
    · rwa [List.mem_singleton.mp new]
  settled := fun other settled => List.mem_append_left _ (sound.settled other settled)
  granted := sound.granted
  once := sound.once
  returned := sound.returned
  owners := by
    intro held locked
    rcases List.mem_append.mp locked with before | new
    · exact sound.owners held before
    · rw [List.mem_singleton.mp new]
      exact ⟨lock, asked, rfl⟩
  kept := by
    intro other member unreturned
    rcases List.mem_append.mp member with before | new
    · exact List.mem_append_left _ (sound.kept other before unreturned)
    · exact List.mem_append_right _ new
  apart := by
    have clear := not_conflicts_of_blocking free
    intro left inLeft right inRight conflicts
    rcases List.mem_append.mp inLeft with heldLeft | newLeft <;>
      rcases List.mem_append.mp inRight with heldRight | newRight
    · exact sound.apart left heldLeft right heldRight conflicts
    · rw [List.mem_singleton.mp newRight] at conflicts
      exact clear left heldLeft conflicts.symm
    · rw [List.mem_singleton.mp newLeft] at conflicts
      exact clear right heldRight conflicts
    · rw [List.mem_singleton.mp newLeft, List.mem_singleton.mp newRight] at conflicts
      exact conflicts.2.2.2 rfl

/-- A step keeps the ledger sound. -/
theorem Sound.step (sound : ledger.Sound) (step : Step ledger next) : next.Sound := by
  cases step with
  | ask lock fresh => exact sound.ask fresh
  | acquire asked free => exact sound.acquire asked free
  | grant answered awaited => exact sound.grant answered awaited
  | giveBack present => exact sound.giveBack present
  | free object range returned => exact sound.free object range returned

/-- The ledger is one that steps lead to. -/
def Reached (ledger : Ledger Owner Object) : Prop :=
  Relation.ReflTransGen Step empty ledger

/-- A ledger that is reached is sound. -/
theorem Reached.sound (reached : ledger.Reached) : ledger.Sound := by
  induction reached with
  | refl => exact sound_empty
  | tail _ step ih => exact ih.step step

end Steps

end Keeping

end Ledger

end RangeLocks
