import LibNfs.Lib.Loop

/-! # Programs with state, errors and an environment

A program acts on a state and ends with a value or an error; it gives `none`
while its environment owes it an answer. Besides the monad there is one
combinator, `loop`, which repeats a turn until it yields a value, and one
judgement, `Meets`, for what holds of every outcome, with a rule for each way
of putting programs together.
-/

/-- A program over the state `σ` with errors `ε` and values `α`. -/
structure Prog (σ ε α : Type) where
  run : σ → Option (Except ε α × σ)

namespace Prog

variable {σ ε α β : Type}

instance : Monad (Prog σ ε) where
  pure value := ⟨fun state => some (.ok value, state)⟩
  bind first next := ⟨fun state =>
    match first.run state with
    | none => none
    | some (.error error, mid) => some (.error error, mid)
    | some (.ok value, mid) => (next value).run mid⟩

/-- Ends with an error. -/
def throw (error : ε) : Prog σ ε α :=
  ⟨fun state => some (.error error, state)⟩

/-- Does not return, as after a panic. -/
def abort : Prog σ ε α :=
  ⟨fun _ => none⟩

/-- The state. -/
def get : Prog σ ε σ :=
  ⟨fun state => some (.ok state, state)⟩

/-- Changes the state. -/
def modify (change : σ → σ) : Prog σ ε Unit :=
  ⟨fun state => some (.ok (), change state)⟩

/-- A result computed without the state. -/
def ofExcept (result : Except ε α) : Prog σ ε α :=
  ⟨fun state => some (result, state)⟩

/-- Waits for an answer of the environment, which is part of the state. -/
def await (answer : σ → Option (α × σ)) : Prog σ ε α :=
  ⟨fun state => (answer state).map fun (value, next) => (.ok value, next)⟩

/-- The outcome of a program, errors included, as a value. -/
def outcome {ε' : Type} (body : Prog σ ε α) : Prog σ ε' (Except ε α) :=
  ⟨fun state => (body.run state).map fun (result, next) => (.ok result, next)⟩

/-- Runs a program on a part of the state; its errors become errors of the whole. -/
def within {ρ ε' : Type} (part : σ → ρ) (put : ρ → σ → σ) (wrap : ε → ε') (body : Prog ρ ε α) :
    Prog σ ε' α :=
  ⟨fun state => (body.run (part state)).map fun (result, next) =>
    (result.mapError wrap, put next state)⟩

/-- One turn of a loop as the loop library has it: it ends when the program ends
or waits. -/
def loopTurn (turn : Prog σ ε (Option α)) (state : σ) : σ × Option (Option (Except ε α)) :=
  match turn.run state with
  | none => (state, some none)
  | some (.error error, next) => (next, some (some (.error error)))
  | some (.ok (some value), next) => (next, some (some (.ok value)))
  | some (.ok none, next) => (next, none)

/-- Repeats a turn until it yields a value. The measure bounds the number of
turns; it must decrease on the turns that yield nothing (`loop_eq`). -/
def loop (turn : Prog σ ε (Option α)) (measure : σ → Nat) : Prog σ ε α :=
  ⟨fun state =>
    match Loop.run (loopTurn turn) measure none state with
    | (_, none) => none
    | (next, some result) => some (result, next)⟩

/-- A value is returned without a change. -/
theorem pure_apply (value : α) (state : σ) :
    (pure value : Prog σ ε α).run state = some (.ok value, state) := rfl

/-- A sequence goes on after a value, and ends with an error. -/
theorem bind_apply (first : Prog σ ε α) (next : α → Prog σ ε β) (state : σ) :
    (first >>= next).run state =
      match first.run state with
      | none => none
      | some (.error error, mid) => some (.error error, mid)
      | some (.ok value, mid) => (next value).run mid := rfl

/-- A sequence whose first part ends. -/
theorem bind_of_ok {first : Prog σ ε α} {next : α → Prog σ ε β} {state mid : σ} {value : α}
    (ended : first.run state = some (.ok value, mid)) :
    (first >>= next).run state = (next value).run mid := by
  rw [bind_apply, ended]

/-- A sequence whose first part fails. -/
theorem bind_of_error {first : Prog σ ε α} {next : α → Prog σ ε β} {state mid : σ} {error : ε}
    (failed : first.run state = some (.error error, mid)) :
    (first >>= next).run state = some (.error error, mid) := by
  rw [bind_apply, failed]

/-- A sequence whose first part waits. -/
theorem bind_of_waiting {first : Prog σ ε α} {next : α → Prog σ ε β} {state : σ}
    (waiting : first.run state = none) : (first >>= next).run state = none := by
  rw [bind_apply, waiting]

/-- What a sequence that ends did: its first part failed, or both parts ended. -/
theorem bind_eq_some {first : Prog σ ε α} {next : α → Prog σ ε β} {state final : σ}
    {result : Except ε β} (ended : (first >>= next).run state = some (result, final)) :
    (∃ error, first.run state = some (.error error, final) ∧ result = .error error) ∨
      ∃ value mid, first.run state = some (.ok value, mid) ∧
        (next value).run mid = some (result, final) := by
  rw [bind_apply] at ended
  rcases begun : first.run state with _ | ⟨error | value, mid⟩
  · rw [begun] at ended
    cases ended
  · rw [begun] at ended
    cases ended
    exact .inl ⟨error, rfl, rfl⟩
  · rw [begun] at ended
    exact .inr ⟨value, mid, rfl, ended⟩

/-- A sequence that yields a value went through both parts. -/
theorem bind_eq_ok {first : Prog σ ε α} {next : α → Prog σ ε β} {state final : σ} {result : β}
    (ended : (first >>= next).run state = some (.ok result, final)) :
    ∃ value mid, first.run state = some (.ok value, mid) ∧
      (next value).run mid = some (.ok result, final) := by
  rcases bind_eq_some ended with ⟨error, _, absurd⟩ | both
  · cases absurd
  · exact both

/-- A sequence that returns what it made of a value, and what is done with that. -/
theorem bind_return_bind {γ : Type} (first : Prog σ ε α) (made : α → β) (next : β → Prog σ ε γ) :
    ((do
      let value ← first
      return made value) >>= next) = first >>= fun value => next (made value) := by
  refine congrArg Prog.mk (funext fun state => ?_)
  simp only [bind_apply]
  rcases first.run state with _ | ⟨error | value, mid⟩ <;> rfl

/-- Programs with the same runs are the same. -/
theorem ext {left right : Prog σ ε α} (same : ∀ state, left.run state = right.run state) :
    left = right :=
  congrArg Prog.mk (funext same)

/-- Two sequences run alike from a state where their first parts do, and their second parts do
after it. -/
theorem bind_congr {first first' : Prog σ ε α} {next next' : α → Prog σ ε β} {state : σ}
    (begins : first.run state = first'.run state)
    (follows : ∀ value mid, first.run state = some (.ok value, mid) →
      (next value).run mid = (next' value).run mid) :
    (first >>= next).run state = (first' >>= next').run state := by
  rw [bind_apply, bind_apply, ← begins]
  rcases begun : first.run state with _ | ⟨error | value, mid⟩
  · rfl
  · rfl
  · exact follows value mid begun

/-- A program that ends has its result as outcome. -/
theorem outcome_of {ε' : Type} {body : Prog σ ε α} {state final : σ} {result : Except ε α}
    (ended : body.run state = some (result, final)) :
    (outcome body : Prog σ ε' (Except ε α)).run state = some (.ok result, final) := by
  simp only [outcome, ended, Option.map_some]

/-- An outcome is the result of a run. -/
theorem outcome_eq_some {ε' : Type} {body : Prog σ ε α} {state final : σ}
    {result : Except ε' (Except ε α)}
    (ended : (outcome body : Prog σ ε' (Except ε α)).run state = some (result, final)) :
    ∃ inner, result = .ok inner ∧ body.run state = some (inner, final) := by
  obtain ⟨⟨inner, next⟩, done, same⟩ := Option.map_eq_some_iff.mp ended
  cases same
  exact ⟨inner, rfl, done⟩

section Decreasing

variable {turn : Prog σ ε (Option α)} {measure : σ → Nat}

/-- A silent turn ends without a value. -/
theorem loopTurn_silent {state next : σ} (silent : loopTurn turn state = (next, none)) :
    turn.run state = some (.ok none, next) := by
  unfold loopTurn at silent
  split at silent <;> cases silent
  assumption

/-- The loop is its first turn followed by the rest of the loop. -/
theorem loop_eq
    (decreases : ∀ state next : σ, turn.run state = some (.ok none, next) →
      measure next < measure state) (state : σ) :
    (loop turn measure).run state =
      match turn.run state with
      | none => none
      | some (.error error, next) => some (.error error, next)
      | some (.ok (some value), next) => some (.ok value, next)
      | some (.ok none, next) => (loop turn measure).run next := by
  have unfolded := Loop.run_eq
    (fun state next silent => decreases state next (loopTurn_silent silent)) none state
  simp only [loop]
  rw [unfolded]
  rcases taken : turn.run state with _ | ⟨error | _ | value, next⟩ <;>
    simp only [loopTurn, taken]

end Decreasing

/-- From every state that satisfies the precondition, an outcome satisfies the
postcondition. -/
def Meets (pre : σ → Prop) (body : Prog σ ε α) (post : Except ε α → σ → Prop) : Prop :=
  ∀ state final result, pre state → body.run state = some (result, final) → post result final

/-- A postcondition that asks `ok` of a value and `failed` of an error. -/
def split (ok : α → σ → Prop) (failed : ε → σ → Prop) : Except ε α → σ → Prop
  | .ok value, state => ok value state
  | .error error, state => failed error state

/-- What a turn of a loop leads to: the invariant when it yields nothing, the
postcondition of the loop when it ends. -/
def again (invariant : σ → Prop) (post : Except ε α → σ → Prop) :
    Except ε (Option α) → σ → Prop
  | .ok none, state => invariant state
  | .ok (some value), state => post (.ok value) state
  | .error error, state => post (.error error) state

namespace Meets

variable {pre : σ → Prop} {post : Except ε α → σ → Prop}

theorem weaken {body : Prog σ ε α} {pre' : σ → Prop} {post' : Except ε α → σ → Prop}
    (meets : Meets pre body post) (stronger : ∀ state, pre' state → pre state)
    (weaker : ∀ result state, post result state → post' result state) :
    Meets pre' body post' :=
  fun state final result holds ended =>
    weaker result final (meets state final result (stronger state holds) ended)

/-- A postcondition asks something of values and something of errors. -/
theorem byCases {body : Prog σ ε α} (meets : Meets pre body post) :
    Meets pre body (split (fun value => post (.ok value)) fun error => post (.error error)) := by
  intro state final result before ended
  have after := meets state final result before ended
  cases result with
  | ok value => exact after
  | error error => exact after

/-- What an error leads to may be weakened alone. -/
theorem onError {body : Prog σ ε α} {ok : α → σ → Prop} {failed failed' : ε → σ → Prop}
    (meets : Meets pre body (split ok failed))
    (weaker : ∀ error state, failed error state → failed' error state) :
    Meets pre body (split ok failed') := by
  intro state final result before ended
  have after := meets state final result before ended
  cases result with
  | ok value => exact after
  | error error => exact weaker error final after

/-- A fact of the precondition may be assumed. -/
theorem assuming {fact : Prop} {body : Prog σ ε α} (meets : fact → Meets pre body post) :
    Meets (fun state => fact ∧ pre state) body post :=
  fun state final result holds => meets holds.1 state final result holds.2

theorem pure {value : α} (holds : ∀ state, pre state → post (.ok value) state) :
    Meets pre (Pure.pure value) post := by
  intro state final result before ended
  cases ended
  exact holds state before

theorem throw {error : ε} (holds : ∀ state, pre state → post (.error error) state) :
    Meets pre (Prog.throw error) post := by
  intro state final result before ended
  cases ended
  exact holds state before

theorem ofExcept {computed : Except ε α} (holds : ∀ state, pre state → post computed state) :
    Meets pre (Prog.ofExcept computed) post := by
  intro state final result before ended
  cases ended
  exact holds state before

theorem modify {change : σ → σ} {post : Except ε Unit → σ → Prop}
    (holds : ∀ state, pre state → post (.ok ()) (change state)) :
    Meets pre (Prog.modify change) post := by
  intro state final result before ended
  cases ended
  exact holds state before

/-- The rule of an answer from outside. -/
theorem await {answer : σ → Option (α × σ)}
    (holds : ∀ state next value, pre state → answer state = some (value, next) →
      post (.ok value) next) :
    Meets pre (Prog.await answer) post := by
  intro state final result before ended
  obtain ⟨⟨value, next⟩, answered, same⟩ := Option.map_eq_some_iff.mp ended
  cases same
  exact holds state final value before answered

/-- The sequence rule. -/
theorem bind {first : Prog σ ε α} {next : α → Prog σ ε β} {post : Except ε β → σ → Prop}
    (mid : α → σ → Prop)
    (begins : Meets pre first (split mid fun error => post (.error error)))
    (follows : ∀ value, Meets (mid value) (next value) post) :
    Meets pre (first >>= next) post := by
  intro state final result before ended
  rcases bind_eq_some ended with ⟨error, failed, rfl⟩ | ⟨value, middle, done, rest⟩
  · exact begins state final _ before failed
  · exact follows value middle final result (begins state middle _ before done) rest

/-- The state is read without being changed. -/
theorem get_bind {next : σ → Prog σ ε α}
    (follows : ∀ value, Meets (fun state => pre state ∧ state = value) (next value) post) :
    Meets pre (Prog.get >>= next) post := by
  intro state final result before ended
  exact follows state state final result ⟨before, rfl⟩ ended

/-- The rule of an outcome as a value. -/
theorem outcome {ε' : Type} {body : Prog σ ε α}
    (meets : Meets pre body post) :
    Meets pre (Prog.outcome body : Prog σ ε' (Except ε α))
      (split post fun _ _ => False) := by
  intro state final result before ended
  obtain ⟨inner, rfl, done⟩ := outcome_eq_some ended
  exact meets state final inner before done

/-- A program on a part of the state meets what it leads to on the whole. -/
theorem within {ρ ε' : Type} {part : σ → ρ} {put : ρ → σ → σ} {wrap : ε → ε'}
    {body : Prog ρ ε α} {post : Except ε' α → σ → Prop}
    (holds : ∀ state next result, pre state → body.run (part state) = some (result, next) →
      post (result.mapError wrap) (put next state)) :
    Meets pre (Prog.within part put wrap body) post := by
  intro state final result before ended
  obtain ⟨⟨result', next⟩, done, same⟩ := Option.map_eq_some_iff.mp ended
  cases same
  exact holds state next result' before done

/-- What a program on a part of the state meets there, when that part is put back as it
was left. -/
theorem focus {ρ ε' : Type} {part : σ → ρ} {put : ρ → σ → σ} {wrap : ε → ε'} {body : Prog ρ ε α}
    {pre : ρ → Prop} {ok : α → ρ → Prop} {failed : ρ → Prop}
    (law : ∀ next state, part (put next state) = next)
    (meets : Meets pre body (split ok fun _ => failed)) :
    Meets (fun state => pre (part state)) (Prog.within part put wrap body)
      (split (fun value state => ok value (part state)) fun _ state => failed (part state)) := by
  refine within fun state next result before ended => ?_
  have after := meets (part state) next result before ended
  cases result with
  | ok value =>
      change ok value (part (put next state))
      rw [law]
      exact after
  | error error =>
      change failed (part (put next state))
      rw [law]
      exact after

/-- The loop rule: a turn that yields nothing keeps the invariant. -/
theorem loop {turn : Prog σ ε (Option α)} {measure : σ → Nat}
    (decreases : ∀ state next : σ, turn.run state = some (.ok none, next) →
      measure next < measure state)
    (turns : Meets pre turn (again pre post)) :
    Meets pre (Prog.loop turn measure) post := by
  intro state final result before ended
  induction size : measure state using Nat.strongRecOn generalizing state with
  | ind size ih =>
      rw [loop_eq decreases] at ended
      rcases taken : turn.run state with _ | ⟨error | _ | value, next⟩
      · rw [taken] at ended
        cases ended
      · rw [taken] at ended
        cases ended
        exact turns state final _ before taken
      · rw [taken] at ended
        exact ih _ (size ▸ decreases _ _ taken) next (turns state next _ before taken) ended rfl
      · rw [taken] at ended
        cases ended
        exact turns state final _ before taken

end Meets

/-- Every outcome of the program leaves the invariant as it was. -/
def Keeps (invariant : σ → Prop) (body : Prog σ ε α) : Prop :=
  body.Meets invariant fun _ => invariant

namespace Keeps

variable {invariant : σ → Prop}

theorem pure (value : α) : Keeps invariant (Pure.pure value : Prog σ ε α) :=
  Meets.pure fun _ holds => holds

theorem throw (error : ε) : Keeps invariant (Prog.throw error : Prog σ ε α) :=
  Meets.throw fun _ holds => holds

/-- Reading the state keeps every invariant. -/
theorem get : Keeps invariant (Prog.get : Prog σ ε σ) := by
  intro state final result before ended
  cases ended
  exact before

/-- What is computed keeps every invariant. -/
theorem ofExcept (result : Except ε α) : Keeps invariant (Prog.ofExcept result : Prog σ ε α) :=
  Meets.ofExcept fun _ holds => holds

theorem modify {change : σ → σ} (keeps : ∀ state, invariant state → invariant (change state)) :
    Keeps invariant (Prog.modify change : Prog σ ε Unit) :=
  Meets.modify keeps

/-- A sequence keeps what its parts keep. -/
theorem bind {first : Prog σ ε α} {next : α → Prog σ ε β} (begins : Keeps invariant first)
    (follows : ∀ value, Keeps invariant (next value)) : Keeps invariant (first >>= next) :=
  Meets.bind (fun _ => invariant) begins.byCases follows

/-- An outcome keeps what its program keeps. -/
theorem outcome {ε' : Type} {body : Prog σ ε α} (keeps : Keeps invariant body) :
    Keeps invariant (Prog.outcome body : Prog σ ε' (Except ε α)) := by
  intro state final result before ended
  obtain ⟨inner, -, done⟩ := outcome_eq_some ended
  exact keeps state final inner before done

/-- A loop keeps what its turns keep. -/
theorem loop {turn : Prog σ ε (Option α)} {measure : σ → Nat}
    (decreases : ∀ state next : σ, turn.run state = .some (.ok none, next) →
      measure next < measure state)
    (turns : Keeps invariant turn) : Keeps invariant (Prog.loop turn measure) := by
  refine Meets.loop decreases fun state final result before ended => ?_
  have after := turns state final result before ended
  rcases result with error | _ | value <;> exact after

/-- A program that keeps each invariant of a family keeps that one of them holds. -/
theorem some {ι : Type} {invariant : ι → σ → Prop} {body : Prog σ ε α}
    (each : ∀ i, Keeps (invariant i) body) : Keeps (fun state => ∃ i, invariant i state) body := by
  rintro state final result ⟨i, before⟩ ended
  exact ⟨i, each i state final result before ended⟩

/-- A program on a part keeps what it keeps of the part. -/
theorem within {ρ ε' : Type} {part : σ → ρ} {put : ρ → σ → σ} {wrap : ε → ε'} {body : Prog ρ ε α}
    {invariant : ρ → Prop} (law : ∀ next state, part (put next state) = next)
    (keeps : Keeps invariant body) :
    Keeps (fun state => invariant (part state)) (Prog.within part put wrap body) := by
  refine Meets.within fun state next result before ended => ?_
  rw [law]
  exact keeps (part state) next result before ended

end Keeps

/-- From every state the program ends. -/
def Ends (body : Prog σ ε α) : Prop :=
  ∀ state, ∃ result final, body.run state = some (result, final)

namespace Ends

theorem pure (value : α) : Ends (Pure.pure value : Prog σ ε α) :=
  fun state => ⟨_, state, rfl⟩

theorem throw (error : ε) : Ends (Prog.throw error : Prog σ ε α) :=
  fun state => ⟨_, state, rfl⟩

theorem get : Ends (Prog.get : Prog σ ε σ) :=
  fun state => ⟨_, state, rfl⟩

theorem modify (change : σ → σ) : Ends (Prog.modify change : Prog σ ε Unit) :=
  fun state => ⟨_, change state, rfl⟩

theorem ofExcept (result : Except ε α) : Ends (Prog.ofExcept result : Prog σ ε α) :=
  fun state => ⟨result, state, rfl⟩

/-- A sequence ends when its parts do. -/
theorem bind {first : Prog σ ε α} {next : α → Prog σ ε β} (begins : Ends first)
    (follows : ∀ value, Ends (next value)) : Ends (first >>= next) := by
  intro state
  obtain ⟨error | value, mid, ended⟩ := begins state
  · exact ⟨_, mid, bind_of_error ended⟩
  · obtain ⟨result, final, rest⟩ := follows value mid
    exact ⟨result, final, (bind_of_ok ended).trans rest⟩

/-- An outcome ends when its program does. -/
theorem outcome {ε' : Type} {body : Prog σ ε α} (ends : Ends body) :
    Ends (Prog.outcome body : Prog σ ε' (Except ε α)) := by
  intro state
  obtain ⟨result, final, ended⟩ := ends state
  exact ⟨.ok result, final, by simp only [Prog.outcome, ended, Option.map_some]⟩

/-- A program on a part ends when it does there. -/
theorem within {ρ ε' : Type} {part : σ → ρ} {put : ρ → σ → σ} {wrap : ε → ε'} {body : Prog ρ ε α}
    (ends : Ends body) : Ends (Prog.within part put wrap body) := by
  intro state
  obtain ⟨result, final, ended⟩ := ends (part state)
  exact ⟨result.mapError wrap, put final state,
    by simp only [Prog.within, ended, Option.map_some]⟩

end Ends

end Prog
