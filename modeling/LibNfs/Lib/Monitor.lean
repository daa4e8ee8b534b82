import Mathlib.Data.List.Basic
import Mathlib.Logic.Function.Basic

/-! # Objects behind a lock

Tasks call the methods of one object that a lock guards. A method runs in steps between which
other tasks run; it holds the lock from its first step to its last. A step that fails is a panic
of its task: the lock is released and poisoned, and whoever takes it afterwards panics in turn.

Nothing in a step looks at who holds the lock. That the methods come to the same as when they
are called one after the other (`linearizable`) follows from how the lock is taken.
-/

/-- A program that is running: it has ended, or it makes a step on the state and goes on with
what the step gave. -/
inductive Routine (σ ρ : Type) : Type 1 where
  | ends (result : ρ)
  | acts {α : Type} (step : σ → Option (α × σ)) (next : α → Routine σ ρ)

namespace Routine

variable {σ ρ : Type}

/-- What the program comes to when nothing else acts on the state. -/
def run : Routine σ ρ → σ → Option (ρ × σ)
  | ends result, state => some (result, state)
  | acts step next, state => (step state).bind fun (answer, mid) => (next answer).run mid

/-- The program that is one step. -/
def once (whole : σ → Option (ρ × σ)) : Routine σ ρ :=
  acts whole ends

theorem run_once (whole : σ → Option (ρ × σ)) (state : σ) : (once whole).run state = whole state := by
  rcases made : whole state with _ | ⟨result, next⟩ <;>
    simp only [once, run, made, Option.bind_none, Option.bind_some]

end Routine

namespace Monitor

variable {σ κ ρ : Type}

/-- Where a task is with its call. -/
inductive Phase (σ κ ρ : Type) : Type 1 where
  | waiting (call : κ)
  | running (call : κ) (rest : Routine σ ρ)
  | finished (call : κ) (result : ρ)
  | returned (call : κ) (result : ρ)
  | panicked

/-- No method of the task runs. -/
def Phase.Still : Phase σ κ ρ → Prop
  | running _ _ => False
  | _ => True

/-- The object, its lock and the tasks. -/
structure State (σ κ ρ : Type) : Type 1 where
  object : σ
  holder : Option Nat
  poisoned : Bool
  phase : Nat → Option (Phase σ κ ρ)

/-- What happens to a task. It calls a method, takes the lock, makes a step, ends its method and
releases the lock, panics and leaves the object in some state, finds the lock poisoned, or gets
the result. -/
inductive Event (σ κ ρ : Type) where
  | invoke (task : Nat) (call : κ)
  | acquire (task : Nat)
  | act (task : Nat)
  | release (task : Nat) (call : κ) (result : ρ)
  | panic (task : Nat) (wreck : σ)
  | refuse (task : Nat)
  | respond (task : Nat) (result : ρ)

/-- No method ends. -/
def Event.Quiet : Event σ κ ρ → Prop
  | release _ _ _ => False
  | _ => True

def State.initial (object : σ) : State σ κ ρ where
  object := object
  holder := none
  poisoned := false
  phase _ := none

/-- The state after a task has come to a phase. -/
def State.enter (state : State σ κ ρ) (task : Nat) (phase : Phase σ κ ρ) : State σ κ ρ :=
  { state with phase := Function.update state.phase task (some phase) }

section Steps

variable (method : κ → Routine σ ρ)

inductive Step : State σ κ ρ → Event σ κ ρ → State σ κ ρ → Prop where
  | invoke {state : State σ κ ρ} (task : Nat) (call : κ) (new : state.phase task = none) :
      Step state (.invoke task call) (state.enter task (.waiting call))
  | acquire {state : State σ κ ρ} (task : Nat) {call : κ}
      (waiting : state.phase task = some (.waiting call)) (free : state.holder = none)
      (sound : state.poisoned = false) :
      Step state (.acquire task)
        { state.enter task (.running call (method call)) with holder := some task }
  | act {state : State σ κ ρ} (task : Nat) {call : κ} {α : Type}
      {step : σ → Option (α × σ)} {next : α → Routine σ ρ} {answer : α} {object : σ}
      (running : state.phase task = some (.running call (.acts step next)))
      (made : step state.object = some (answer, object)) :
      Step state (.act task) { state.enter task (.running call (next answer)) with object := object }
  | release {state : State σ κ ρ} (task : Nat) {call : κ} {result : ρ}
      (running : state.phase task = some (.running call (.ends result))) :
      Step state (.release task call result)
        { state.enter task (.finished call result) with holder := none }
  | panic {state : State σ κ ρ} (task : Nat) {call : κ} {α : Type}
      {step : σ → Option (α × σ)} {next : α → Routine σ ρ} (wreck : σ)
      (running : state.phase task = some (.running call (.acts step next)))
      (failed : step state.object = none) :
      Step state (.panic task wreck)
        { state.enter task .panicked with object := wreck, holder := none, poisoned := true }
  | refuse {state : State σ κ ρ} (task : Nat) {call : κ}
      (waiting : state.phase task = some (.waiting call)) (free : state.holder = none)
      (poisoned : state.poisoned = true) :
      Step state (.refuse task) (state.enter task .panicked)
  | respond {state : State σ κ ρ} (task : Nat) {call : κ} {result : ρ}
      (finished : state.phase task = some (.finished call result)) :
      Step state (.respond task result) (state.enter task (.returned call result))

/-- What has happened to an object that was in a state, and what that led to. -/
inductive Run (start : σ) : List (Event σ κ ρ) → State σ κ ρ → Prop where
  | start : Run start [] (.initial start)
  | next {events : List (Event σ κ ρ)} {state after : State σ κ ρ} {event : Event σ κ ρ}
      (run : Run start events state) (step : Step method state event after) :
      Run start (events ++ [event]) after

end Steps

/-- The calls that ended, in the order in which they released the lock. -/
def effects (events : List (Event σ κ ρ)) : List (κ × ρ) :=
  events.filterMap fun
    | .release _ call result => some (call, result)
    | _ => none

/-- Calls made one after the other give these results and lead to this state. -/
def Replays (apply : κ → σ → Option (ρ × σ)) : σ → List (κ × ρ) → σ → Prop
  | start, [], final => start = final
  | start, (call, result) :: rest, final =>
      ∃ mid, apply call start = some (result, mid) ∧ Replays apply mid rest final

theorem Replays.snoc {apply : κ → σ → Option (ρ × σ)} {start mid final : σ} {call : κ} {result : ρ}
    {calls : List (κ × ρ)} (replays : Replays apply start calls mid)
    (called : apply call mid = some (result, final)) :
    Replays apply start (calls ++ [(call, result)]) final := by
  induction calls generalizing start with
  | nil =>
      subst replays
      exact ⟨final, called, rfl⟩
  | cons first rest ih =>
      obtain ⟨after, made, remaining⟩ := replays
      exact ⟨after, made, ih remaining⟩

/-- The tasks of a run cannot tell it from calls made one after the other. What has ended did so
in the order of its releases, each of them after its call began and before its result was given;
while no call is running the object is as those calls left it. -/
structure Linearized (apply : κ → σ → Option (ρ × σ)) (start : σ) (events : List (Event σ κ ρ))
    (state : State σ κ ρ) : Prop where
  sequential : ∃ final, Replays apply start (effects events) final ∧
    (state.holder = none → state.poisoned = false → state.object = final)
  within : ∀ {before task call result after},
    events = before ++ .release task call result :: after →
      .invoke task call ∈ before ∧ ∀ call result, .release task call result ∉ before
  answered : ∀ {before task result after}, events = before ++ .respond task result :: after →
    ∃ call, .release task call result ∈ before

section Runs

variable {method : κ → Routine σ ρ} {start : σ} {events : List (Event σ κ ρ)}
  {state after : State σ κ ρ} {event : Event σ κ ρ}

/-- What the events of a task say of its phase. -/
def Told (events : List (Event σ κ ρ)) (task : Nat) : Option (Phase σ κ ρ) → Prop
  | none => ∀ call result, .release task call result ∉ events
  | some (.waiting call) | some (.running call _) =>
      .invoke task call ∈ events ∧ ∀ call result, .release task call result ∉ events
  | some (.finished call result) | some (.returned call result) =>
      .release task call result ∈ events
  | some .panicked => True

/-- The lock is held by the one task that runs, and the object is on the way from where the
calls that ended left it to where that task's call leads. -/
structure Kept (method : κ → Routine σ ρ) (start : σ) (events : List (Event σ κ ρ))
    (state : State σ κ ρ) : Prop where
  excludes : ∀ {task call rest}, state.phase task = some (.running call rest) →
    state.holder = some task
  held : ∀ {task}, state.holder = some task → ∃ call rest, state.phase task = some (.running call rest)
  sound : ∀ {task}, state.holder = some task → state.poisoned = false
  replays : ∃ base, Replays (fun call => (method call).run) start (effects events) base ∧
    (state.holder = none → state.poisoned = false → state.object = base) ∧
    ∀ {task call rest}, state.phase task = some (.running call rest) →
      rest.run state.object = (method call).run base
  told : ∀ task, Told events task (state.phase task)

theorem State.enter_same (state : State σ κ ρ) (task : Nat) (phase : Phase σ κ ρ) :
    (state.enter task phase).phase task = some phase :=
  Function.update_self task _ _

theorem State.enter_other (state : State σ κ ρ) {task other : Nat} (phase : Phase σ κ ρ)
    (apart : other ≠ task) : (state.enter task phase).phase other = state.phase other :=
  Function.update_of_ne apart _ _

/-- An event that does not end a method leaves what the events tell. -/
theorem Told.snoc {task : Nat} {phase : Option (Phase σ κ ρ)} (told : Told events task phase)
    (other : ∀ call result, event ≠ .release task call result) :
    Told (events ++ [event]) task phase := by
  have never : (∀ call result, Event.release task call result ∉ events) →
      ∀ call result, Event.release task call result ∉ events ++ [event] := by
    intro never call result member
    rcases List.mem_append.mp member with old | new
    · exact never call result old
    · exact other call result (List.mem_singleton.mp new).symm
  rcases phase with _ | (call | ⟨call, rest⟩ | ⟨call, result⟩ | ⟨call, result⟩ | _)
  · exact never told
  · exact ⟨List.mem_append_left _ told.1, never told.2⟩
  · exact ⟨List.mem_append_left _ told.1, never told.2⟩
  · exact List.mem_append_left _ told
  · exact List.mem_append_left _ told
  · trivial

theorem Event.Quiet.ne_release (quiet : event.Quiet) (task : Nat) (call : κ) (result : ρ) :
    event ≠ .release task call result := by
  rintro rfl
  exact quiet

/-- Once a task has come to a phase, what the events tell of that task is known from it, and of
the others from before. -/
theorem Kept.told_enter (kept : Kept method start events state) {task : Nat} {phase : Phase σ κ ρ}
    (here : Told (events ++ [event]) task (some phase))
    (quiet : ∀ other call result, other ≠ task → event ≠ .release other call result)
    (other : Nat) : Told (events ++ [event]) other ((state.enter task phase).phase other) := by
  by_cases same : other = task
  · subst same
    rw [state.enter_same]
    exact here
  · rw [state.enter_other phase same]
    exact (kept.told other).snoc fun call result => quiet other call result same

theorem effects_quiet (quiet : event.Quiet) : effects (events ++ [event]) = effects events := by
  rw [effects, List.filterMap_append]
  cases event with
  | release task call result => exact quiet.elim
  | _ => exact List.append_nil _

theorem effects_release (task : Nat) (call : κ) (result : ρ) :
    effects (events ++ [.release task call result]) = effects events ++ [(call, result)] :=
  List.filterMap_append

theorem Kept.initial : Kept method start [] (.initial start) where
  excludes running := by cases running
  held held := by cases held
  sound held := by cases held
  replays := ⟨start, rfl, fun _ _ => rfl, fun running => by cases running⟩
  told _ := fun _ _ => List.not_mem_nil

/-- A task that runs after another came to a phase: it is that one, or it ran before. -/
theorem State.running_enter {state : State σ κ ρ} {task other : Nat} {phase : Phase σ κ ρ} {call : κ}
    {rest : Routine σ ρ}
    (running : (state.enter task phase).phase other = some (.running call rest)) :
    (other = task ∧ phase = .running call rest) ∨
      other ≠ task ∧ state.phase other = some (.running call rest) := by
  by_cases same : other = task
  · subst same
    rw [state.enter_same] at running
    exact .inl ⟨rfl, Option.some.inj running⟩
  · rw [state.enter_other phase same] at running
    exact .inr ⟨same, running⟩

theorem State.running_of_still {state : State σ κ ρ} {task other : Nat} {phase : Phase σ κ ρ}
    {call : κ} {rest : Routine σ ρ} (still : phase.Still)
    (running : (state.enter task phase).phase other = some (.running call rest)) :
    other ≠ task ∧ state.phase other = some (.running call rest) := by
  rcases running_enter running with ⟨-, rfl⟩ | before
  · exact still.elim
  · exact before

/-- A task comes from one phase to another while neither runs. -/
theorem Kept.move (kept : Kept method start events state) {task : Nat} {phase : Phase σ κ ρ}
    (was : ∀ before, state.phase task = some before → before.Still) (still : phase.Still)
    (quiet : event.Quiet) (here : Told (events ++ [event]) task (some phase)) :
    Kept method start (events ++ [event]) (state.enter task phase) := by
  obtain ⟨base, replays, idle, leads⟩ := kept.replays
  refine ⟨fun running => kept.excludes (State.running_of_still still running).2,
    fun {holder} held => ?_, kept.sound, ⟨base, (effects_quiet quiet).symm ▸ replays, idle,
      fun running => leads (State.running_of_still still running).2⟩,
    kept.told_enter here fun other call result _ => quiet.ne_release other call result⟩
  obtain ⟨call, rest, running⟩ := kept.held held
  have apart : holder ≠ task := by
    rintro rfl
    exact was _ running
  exact ⟨call, rest, (state.enter_other phase apart).trans running⟩

/-- The task that runs lets the lock go. -/
theorem Kept.leave (kept : Kept method start events state) {task other : Nat} {call call' : κ}
    {rest rest' : Routine σ ρ} {phase : Phase σ κ ρ} (still : phase.Still)
    (was : state.phase task = some (.running call rest)) :
    (state.enter task phase).phase other ≠ some (.running call' rest') := by
  intro running
  obtain ⟨apart, before⟩ := State.running_of_still still running
  exact apart (Option.some.inj ((kept.excludes before).symm.trans (kept.excludes was)))

theorem Kept.acquire (kept : Kept method start events state) {task : Nat} {call : κ}
    (waiting : state.phase task = some (.waiting call)) (free : state.holder = none)
    (sound : state.poisoned = false) :
    Kept method start (events ++ [.acquire task])
      { state.enter task (.running call (method call)) with holder := some task } := by
  obtain ⟨base, replays, idle, -⟩ := kept.replays
  have quiet : Event.Quiet (.acquire task : Event σ κ ρ) := trivial
  have told := (kept.told task).snoc (quiet.ne_release task)
  rw [waiting] at told
  have only : ∀ {other call' rest},
      (state.enter task (.running call (method call))).phase other = some (.running call' rest) →
        other = task ∧ Phase.running call (method call) = .running call' rest := by
    intro other call' rest running
    rcases State.running_enter running with this | ⟨-, before⟩
    · exact this
    · have held := kept.excludes before
      rw [free] at held
      cases held
  refine ⟨fun running => congrArg some (only running).1.symm, fun {holder} held => ?_,
    fun _ => sound, ⟨base, (effects_quiet quiet).symm ▸ replays, fun freed => ?_,
      fun {other call' rest} running => ?_⟩,
    kept.told_enter told fun other call result _ => quiet.ne_release other call result⟩
  · obtain rfl := Option.some.inj held
    exact ⟨call, method call, state.enter_same _ _⟩
  · cases freed
  · obtain ⟨rfl, same⟩ := only running
    cases same
    exact congrArg (method call).run (idle free sound)

theorem Kept.act (kept : Kept method start events state) {task : Nat} {call : κ} {α : Type}
    {step : σ → Option (α × σ)} {next : α → Routine σ ρ} {answer : α} {object : σ}
    (running : state.phase task = some (.running call (.acts step next)))
    (made : step state.object = some (answer, object)) :
    Kept method start (events ++ [.act task])
      { state.enter task (.running call (next answer)) with object := object } := by
  obtain ⟨base, replays, -, leads⟩ := kept.replays
  have quiet : Event.Quiet (.act task : Event σ κ ρ) := trivial
  have told := (kept.told task).snoc (quiet.ne_release task)
  rw [running] at told
  have held := kept.excludes running
  have only : ∀ {other call' rest},
      (state.enter task (.running call (next answer))).phase other = some (.running call' rest) →
        other = task ∧ Phase.running call (next answer) = .running call' rest := by
    intro other call' rest now
    rcases State.running_enter now with this | ⟨apart, before⟩
    · exact this
    · exact absurd (Option.some.inj ((kept.excludes before).symm.trans held)) apart
  refine ⟨fun now => ?_, fun {holder} held' => ?_, kept.sound,
    ⟨base, (effects_quiet quiet).symm ▸ replays, fun freed => ?_,
      fun {other call' rest} now => ?_⟩,
    kept.told_enter told fun other call result _ => quiet.ne_release other call result⟩
  · rw [(only now).1]
    exact held
  · obtain rfl := Option.some.inj (held.symm.trans held')
    exact ⟨call, next answer, state.enter_same _ _⟩
  · rw [show state.holder = none from freed] at held
    cases held
  · obtain ⟨rfl, same⟩ := only now
    cases same
    have led := leads running
    rw [Routine.run, made] at led
    exact led

theorem Kept.release (kept : Kept method start events state) {task : Nat} {call : κ} {result : ρ}
    (running : state.phase task = some (.running call (.ends result))) :
    Kept method start (events ++ [.release task call result])
      { state.enter task (.finished call result) with holder := none } := by
  obtain ⟨base, replays, -, leads⟩ := kept.replays
  have led := leads running
  refine ⟨fun now => absurd now (kept.leave trivial running), (fun held => by cases held),
    (fun held => by cases held),
    ⟨state.object, ?_, fun _ _ => rfl, fun now => absurd now (kept.leave trivial running)⟩,
    kept.told_enter (List.mem_append_right _ (List.mem_singleton_self _)) ?_⟩
  · rw [effects_release]
    exact replays.snoc led.symm
  · rintro other call' result' apart ⟨⟩
    exact apart rfl

theorem Kept.panic (kept : Kept method start events state) {task : Nat} {call : κ}
    {rest : Routine σ ρ} (wreck : σ) (running : state.phase task = some (.running call rest)) :
    Kept method start (events ++ [.panic task wreck])
      { state.enter task .panicked with object := wreck, holder := none, poisoned := true } := by
  obtain ⟨base, replays, -, -⟩ := kept.replays
  have quiet : Event.Quiet (.panic task wreck : Event σ κ ρ) := trivial
  refine ⟨fun now => absurd now (kept.leave trivial running), (fun held => by cases held),
    (fun held => by cases held),
    ⟨base, (effects_quiet quiet).symm ▸ replays, (fun _ sound => by cases sound),
      fun now => absurd now (kept.leave trivial running)⟩,
    kept.told_enter trivial fun other call result _ => quiet.ne_release other call result⟩

theorem Kept.step (kept : Kept method start events state) (step : Step method state event after) :
    Kept method start (events ++ [event]) after := by
  have quiet : ∀ task call, Event.Quiet (.invoke task call : Event σ κ ρ) := fun _ _ => trivial
  cases step with
  | invoke task call new =>
      have told := (kept.told task).snoc (Event.Quiet.ne_release (quiet task call) task)
      rw [new] at told
      refine kept.move (fun before was => ?_) trivial trivial
        ⟨List.mem_append_right _ (List.mem_singleton_self _), told⟩
      rw [new] at was
      cases was
  | acquire task waiting free sound => exact kept.acquire waiting free sound
  | act task running made => exact kept.act running made
  | release task running => exact kept.release running
  | panic task wreck running _ => exact kept.panic wreck running
  | refuse task waiting =>
      refine kept.move (fun before was => ?_) trivial trivial trivial
      rw [waiting] at was
      cases was
      trivial
  | respond task finished =>
      have told := kept.told task
      rw [finished] at told
      refine kept.move (fun before was => ?_) trivial trivial (List.mem_append_left _ told)
      rw [finished] at was
      cases was
      trivial

theorem Run.kept (run : Run method start events state) : Kept method start events state := by
  induction run with
  | start => exact .initial
  | next _ step ih => exact ih.step step

/-- A run up to one of its events. -/
theorem Run.split (run : Run method start events state) {before rest : List (Event σ κ ρ)}
    (same : events = before ++ event :: rest) :
    ∃ mid after, Run method start before mid ∧ Step method mid event after := by
  induction run generalizing rest with
  | start => exact absurd same.symm (List.append_ne_nil_of_right_ne_nil _ (List.cons_ne_nil _ _))
  | @next events mid after last run step ih =>
      rcases List.eq_nil_or_concat rest with rfl | ⟨init, final, rfl⟩
      · obtain ⟨rfl, heads⟩ := List.append_inj' same rfl
        obtain rfl := List.singleton_inj.mp heads
        exact ⟨mid, after, run, step⟩
      · have ends : events ++ [last] = (before ++ event :: init) ++ [final] := by
          rw [same, List.concat_eq_append, List.append_assoc, List.cons_append]
        exact ih (List.append_inj' ends rfl).1

/-- Whatever the tasks call, in whatever order they run and however their steps interleave: the
calls that ended are linearized. -/
theorem linearizable (run : Run method start events state) :
    Linearized (fun call => (method call).run) start events state := by
  obtain ⟨base, replays, idle, -⟩ := run.kept.replays
  refine ⟨⟨base, replays, idle⟩, fun {_ task _ _ _} same => ?_, fun {_ task _ _} same => ?_⟩
  · obtain ⟨mid, after, before, step⟩ := run.split same
    have told := before.kept.told
    cases step with
    | release task running =>
        specialize told task
        rw [running] at told
        exact told
  · obtain ⟨mid, after, before, step⟩ := run.split same
    have told := before.kept.told
    cases step with
    | @respond task call _ finished =>
        specialize told task
        rw [finished] at told
        exact ⟨call, told⟩

/-- What happens to a poisoned object: calls begin, find the lock poisoned, and results of calls
that ended before are given. -/
def Event.Barred : Event σ κ ρ → Prop
  | invoke _ _ | refuse _ | respond _ _ => True
  | _ => False

/-- Nobody holds the lock and it is poisoned. -/
structure Ruined (object : σ) (state : State σ κ ρ) : Prop where
  same : state.object = object
  free : state.holder = none
  poisoned : state.poisoned = true

theorem Ruined.step {object : σ} (ruined : Ruined object state)
    (kept : Kept method start events state) (step : Step method state event after) :
    event.Barred ∧ Ruined object after := by
  have idle : ∀ {task call rest}, state.phase task ≠ some (.running call rest) := by
    intro task call rest running
    have held := kept.excludes running
    rw [ruined.free] at held
    cases held
  cases step with
  | invoke task call new => exact ⟨trivial, ruined.same, ruined.free, ruined.poisoned⟩
  | acquire task waiting free sound =>
      rw [ruined.poisoned] at sound
      cases sound
  | act task running made => exact absurd running idle
  | release task running => exact absurd running idle
  | panic task wreck running failed => exact absurd running idle
  | refuse task waiting free poisoned => exact ⟨trivial, ruined.same, ruined.free, ruined.poisoned⟩
  | respond task finished => exact ⟨trivial, ruined.same, ruined.free, ruined.poisoned⟩

theorem ruined_after_panic (run : Run method start events state)
    {before rest : List (Event σ κ ρ)} {task : Nat} {wreck : σ}
    (same : events = before ++ .panic task wreck :: rest) :
    Ruined wreck state ∧ ∀ event ∈ rest, event.Barred := by
  induction run generalizing rest with
  | start => exact absurd same.symm (List.append_ne_nil_of_right_ne_nil _ (List.cons_ne_nil _ _))
  | @next events mid after last run step ih =>
      rcases List.eq_nil_or_concat rest with rfl | ⟨init, final, rfl⟩
      · obtain ⟨rfl, heads⟩ := List.append_inj' same rfl
        obtain rfl := List.singleton_inj.mp heads
        refine ⟨?_, fun _ member => absurd member List.not_mem_nil⟩
        cases step with
        | panic => exact ⟨rfl, rfl, rfl⟩
      · have ends : events ++ [last] = (before ++ .panic task wreck :: init) ++ [final] := by
          rw [same, List.concat_eq_append, List.append_assoc, List.cons_append]
        obtain ⟨rfl, heads⟩ := List.append_inj' ends rfl
        obtain rfl := List.singleton_inj.mp heads
        obtain ⟨ruined, barred⟩ := ih rfl
        obtain ⟨last_barred, ruined⟩ := ruined.step run.kept step
        refine ⟨ruined, fun event member => ?_⟩
        rw [List.concat_eq_append] at member
        rcases List.mem_append.mp member with old | new
        · exact barred event old
        · exact List.mem_singleton.mp new ▸ last_barred

/-- After a panic no method runs again: the object stays as the panic left it, and only calls
that had ended give a result. -/
theorem barred_after_panic (run : Run method start events state)
    {before rest : List (Event σ κ ρ)} {task : Nat} {wreck : σ}
    (same : events = before ++ .panic task wreck :: rest) :
    Ruined wreck state ∧ (∀ event ∈ rest, event.Barred) ∧
      ∀ other result, .respond other result ∈ rest →
        ∃ call, .release other call result ∈ before := by
  obtain ⟨ruined, barred⟩ := ruined_after_panic run same
  refine ⟨ruined, barred, fun other result member => ?_⟩
  obtain ⟨front, back, rfl⟩ := List.append_of_mem member
  have earlier : events = (before ++ .panic task wreck :: front) ++ .respond other result :: back := by
    rw [same, List.append_assoc, List.cons_append]
  obtain ⟨call, released⟩ := (linearizable run).answered earlier
  refine ⟨call, ?_⟩
  rcases List.mem_append.mp released with old | new
  · exact old
  · rcases List.mem_cons.mp new with absurd | late
    · cases absurd
    · exact (barred _ (List.mem_append_left _ late)).elim

end Runs

end Monitor
