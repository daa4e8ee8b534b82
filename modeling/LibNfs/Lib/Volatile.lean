import Mathlib.Data.List.Basic

/-! # A store with a volatile cache

What is written is kept in memory until a commit makes it durable; a restart loses
what was not committed. The store remembers what has happened to it, the last event
first. A property of the content that every write keeps holds of the durable content
at the end, when no restart found anything uncommitted and nothing is left to commit.
-/

namespace Volatile

/-- What may happen to a store. -/
inductive Event where
  | restart
  | write
  | commit
  deriving DecidableEq, Repr

/-- What is in memory, what is on stable storage, and what has happened, the last first. -/
structure Store (α : Type) where
  stable : α
  cached : α
  history : List Event
  deriving DecidableEq, Repr

/-- Something was written since the last commit, and not lost since. -/
def Uncommitted (history : List Event) : Prop :=
  history.head? = some .write

/-- Whether something is uncommitted can be decided. -/
instance : DecidablePred Uncommitted :=
  fun _ => inferInstanceAs (Decidable (_ = _))

/-- No restart has lost anything. -/
def Calm : List Event → Prop
  | [] => True
  | .restart :: older => ¬ Uncommitted older ∧ Calm older
  | .write :: older | .commit :: older => Calm older

instance decidableCalm : DecidablePred Calm
  | [] => .isTrue trivial
  | .restart :: older =>
      have : Decidable (Calm older) := decidableCalm older
      inferInstanceAs (Decidable (¬ Uncommitted older ∧ Calm older))
  | .write :: older | .commit :: older => decidableCalm older

variable {α : Type}

namespace Store

/-- The store starts again with what was committed. -/
def restart (store : Store α) : Store α :=
  { store with cached := store.stable, history := .restart :: store.history }

/-- A change that is not committed yet. -/
def write (change : α → α) (store : Store α) : Store α :=
  { store with cached := change store.cached, history := .write :: store.history }

/-- What is in memory becomes stable. -/
def commit (store : Store α) : Store α :=
  { store with stable := store.cached, history := .commit :: store.history }

/-- After a commit nothing is uncommitted. -/
theorem settled_commit (store : Store α) : ¬ Uncommitted store.commit.history := by
  intro written
  cases written

/-- The property holds of the content, and of what is durable when nothing is left to
commit, unless a restart lost something. -/
def Safe (property : α → Prop) (store : Store α) : Prop :=
  Calm store.history →
    property store.cached ∧ (¬ Uncommitted store.history → property store.stable)

namespace Safe

variable {property : α → Prop} {store : Store α}

theorem mono {weaker : α → Prop} (safe : store.Safe property)
    (implies : ∀ content, property content → weaker content) : store.Safe weaker := by
  intro calm
  obtain ⟨cached, stable⟩ := safe calm
  exact ⟨implies _ cached, fun settled => implies _ (stable settled)⟩

/-- A restart keeps what is safe. -/
theorem restart (safe : store.Safe property) : store.restart.Safe property := by
  rintro ⟨settled, calm⟩
  have stable := (safe calm).2 settled
  exact ⟨stable, fun _ => stable⟩

/-- A write keeps what is safe as far as its change does. -/
theorem write {change : α → α} {written : α → Prop} (safe : store.Safe property)
    (changes : ∀ content, property content → written (change content)) :
    (store.write change).Safe written := by
  intro calm
  exact ⟨changes _ (safe calm).1, fun settled => (settled rfl).elim⟩

theorem commit (safe : store.Safe property) : store.commit.Safe property := by
  intro calm
  have cached := (safe calm).1
  exact ⟨cached, fun _ => cached⟩

/-- What is durable at the end. -/
theorem stable (safe : store.Safe property) (calm : Calm store.history)
    (settled : ¬ Uncommitted store.history) : property store.stable :=
  (safe calm).2 settled

end Safe

end Store

end Volatile
