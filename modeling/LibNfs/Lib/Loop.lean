import Mathlib.Logic.Basic

/-! # Loops with a decreasing measure

A loop is given by one turn, which moves the state and either ends the loop with
a result or goes round again. `run` iterates it; when each silent turn decreases
a measure it satisfies the loop's own unfolding equation (`run_eq`), and a
property of the whole run follows from the two kinds of turn (`run_induct`).
`Takes` is the loop without any bound, for which ending is a theorem.
-/

namespace Loop

universe uState uResult

variable {σ : Type uState} {ρ : Type uResult}

/-- At most `fuel` turns; `stuck` is returned when they do not suffice. -/
def runFuel (turn : σ → σ × Option ρ) (stuck : ρ) : Nat → σ → σ × ρ
  | 0, state => (state, stuck)
  | fuel + 1, state =>
      match turn state with
      | (next, some result) => (next, result)
      | (next, none) => runFuel turn stuck fuel next

/-- Iterates the turn, with as many turns as the measure of the state allows. -/
def run (turn : σ → σ × Option ρ) (measure : σ → Nat) (stuck : ρ) (state : σ) : σ × ρ :=
  runFuel turn stuck (measure state + 1) state

/-- The loop itself: it ends after a number of turns. -/
inductive Takes (turn : σ → σ × Option ρ) : σ → Nat → σ × ρ → Prop
  | stop {state next : σ} {result : ρ} (taken : turn state = (next, some result)) :
      Takes turn state 1 (next, result)
  | again {state next : σ} {turns : Nat} {out : σ × ρ} (taken : turn state = (next, none))
      (rest : Takes turn next turns out) : Takes turn state (turns + 1) out

section Decreasing

variable {turn : σ → σ × Option ρ} {measure : σ → Nat}
  (decreases : ∀ state next : σ, turn state = (next, none) → measure next < measure state)
include decreases

/-- More fuel than the measure makes no difference. -/
theorem runFuel_stable (stuck : ρ) (first second : Nat) (state : σ)
    (enough : measure state < first) (enough' : measure state < second) :
    runFuel turn stuck first state = runFuel turn stuck second state := by
  induction first generalizing second state with
  | zero => exact (Nat.not_lt_zero _ enough).elim
  | succ first ih =>
      cases second with
      | zero => exact (Nat.not_lt_zero _ enough').elim
      | succ second =>
          simp only [runFuel]
          rcases taken : turn state with ⟨next, _ | result⟩
          · have smaller := decreases _ _ taken
            exact ih second next (by omega) (by omega)
          · rfl

/-- The loop is its first turn followed by the rest of the loop. -/
theorem run_eq (stuck : ρ) (state : σ) :
    run turn measure stuck state =
      match turn state with
      | (next, some result) => (next, result)
      | (next, none) => run turn measure stuck next := by
  unfold run
  rw [runFuel]
  rcases taken : turn state with ⟨next, _ | result⟩
  · have smaller := decreases _ _ taken
    exact runFuel_stable decreases stuck _ _ next smaller (Nat.lt_succ_self _)
  · rfl

/-- What holds of a last turn and is carried back over a silent one holds of the run. -/
theorem run_induct (stuck : ρ) {holds : σ → σ × ρ → Prop}
    (stop : ∀ (state next : σ) (result : ρ), turn state = (next, some result) →
      holds state (next, result))
    (again : ∀ (state next : σ) (out : σ × ρ), turn state = (next, none) →
      holds next out → holds state out)
    (state : σ) : holds state (run turn measure stuck state) := by
  induction size : measure state using Nat.strongRecOn generalizing state with
  | ind size ih =>
      rw [run_eq decreases]
      rcases taken : turn state with ⟨next, _ | result⟩
      · exact again _ _ _ taken (ih _ (size ▸ decreases _ _ taken) next rfl)
      · exact stop _ _ _ taken

/-- What is run is the loop, turn by turn, and the measure bounds the turns. -/
theorem takes_run (stuck : ρ) (state : σ) :
    ∃ turns ≤ measure state + 1, Takes turn state turns (run turn measure stuck state) := by
  induction total : measure state using Nat.strongRecOn generalizing state with
  | ind size ih =>
      rw [run_eq decreases]
      rcases taken : turn state with ⟨next, _ | result⟩
      · have smaller : measure next < size := total ▸ decreases _ _ taken
        obtain ⟨turns, few, takes⟩ := ih _ smaller next rfl
        exact ⟨turns + 1, Nat.succ_le_succ (Nat.le_trans few smaller), .again taken takes⟩
      · exact ⟨1, Nat.le_add_left 1 size, .stop taken⟩

end Decreasing

/-- A loop whose silent turns keep an invariant and go down a well-founded relation ends, and
what holds of the last turn is carried back over the others. -/
theorem takes_of_wellFounded {turn : σ → σ × Option ρ} {less : σ → σ → Prop}
    (wellFounded : WellFounded less) {invariant : σ → Prop} {holds : σ → σ × ρ → Prop}
    (stop : ∀ state next result, invariant state → turn state = (next, some result) →
      holds state (next, result))
    (again : ∀ state next, invariant state → turn state = (next, none) →
      invariant next ∧ less next state ∧ ∀ out, holds next out → holds state out)
    (state : σ) (initial : invariant state) :
    ∃ turns out, Takes turn state turns out ∧ holds state out := by
  induction state using wellFounded.induction with
  | _ state ih =>
      rcases taken : turn state with ⟨next, _ | result⟩
      · obtain ⟨kept, smaller, back⟩ := again state next initial taken
        obtain ⟨turns, out, takes, held⟩ := ih next smaller kept
        exact ⟨turns + 1, out, .again taken takes, back out held⟩
      · exact ⟨1, (next, result), .stop taken, stop state next result initial taken⟩

end Loop
