import LibNfs.Client.Whole
import LibNfs.Lib.Monitor

/-! # The asynchronous file API

`AsyncNfs` shares one `NfsContext` behind a lock between tasks. Each call takes the lock on a
thread of its own and runs there to its end, also when nobody waits for it any more. The system
calls in the middle of an operation are steps between which other tasks run; where an operation
is cut into steps is left open.
-/

namespace LibNfs.Client

/-- A method of `AsyncNfs`. -/
inductive AsyncCall where
  | version
  | stat (path : String)
  | readWhole (path : String)
  | writeWhole (path : String) (data : Slice)
  | readdir (path : String)
  | mkdir (path : String)
  | rmdir (path : String)
  | unlink (path : String)
  | rename (fromPath toPath : String)
  | statvfs (path : String)

/-- What the methods return. -/
inductive AsyncReply where
  | version (number : UInt32)
  | attr (attr : Attr)
  | data (bytes : Bytes)
  | entries (entries : List DirEntry)
  | stat (sizes : StatVfs)
  | unit
  deriving DecidableEq, Repr

namespace AsyncNfs

variable {σ : Type} (whole : WholeBackend σ) (root : ObjId) (pages : Nat)

/-- What a method does with the context, once it has the lock. `pages` bounds the pages of a
`readdir`, which the source does not: past them a method does not end, and a method that does not
end is told as one that panics. -/
def perform : AsyncCall → Prog σ NfsError AsyncReply
  | .version => return .version (NfsContext.version whole)
  | .stat path => do
      let attr ← NfsContext.stat root whole.toVfsBackend path
      return .attr attr
  | .readWhole path => do
      let bytes ← NfsContext.readWhole root whole.toVfsBackend path
      return .data bytes
  | .writeWhole path data => do
      NfsContext.writeWhole whole.toBackend root path data
      return .unit
  | .readdir path => do
      let entries ← NfsContext.readdir root whole.toVfsBackend pages path
      return .entries entries
  | .mkdir path => do
      NfsContext.mkdir root whole.toVfsBackend path
      return .unit
  | .rmdir path => do
      NfsContext.rmdir root whole.toNameBackend path
      return .unit
  | .unlink path => do
      NfsContext.unlink root whole.toNameBackend path
      return .unit
  | .rename fromPath toPath => do
      NfsContext.rename root whole.toNameBackend fromPath toPath
      return .unit
  | .statvfs path => do
      let sizes ← NfsContext.statvfs root whole path
      return .stat sizes

/-- A cut of the methods into the steps that they make on the context. -/
structure Cut where
  routine : AsyncCall → Routine σ (Except NfsError AsyncReply)
  runs : ∀ call, (routine call).run = (perform whole root pages call).run

/-- The methods, each as one step. -/
def Cut.uncut : Cut whole root pages where
  routine call := .once (perform whole root pages call).run
  runs call := funext (Routine.run_once (perform whole root pages call).run)

/-- A `stat` that resolves the path in one step and gets the attributes in another. -/
def statSteps (path : String) : Routine σ (Except NfsError AsyncReply) :=
  .acts (NfsContext.resolve whole.toBackend root path true).run fun
    | .error error => .ends (.error error)
    | .ok fh => .once fun state =>
        ((whole.getattr fh).run state).map fun (attr, next) => (attr.map .attr, next)

theorem run_statSteps (path : String) :
    (statSteps whole root path).run = (perform whole root pages (.stat path)).run := by
  funext state
  rcases reached : (NfsContext.resolve whole.toBackend root path true).run state with
    _ | ⟨error | fh, mid⟩
  · simp only [statSteps, Routine.run, perform, NfsContext.stat, Prog.bind_apply, reached,
      Option.bind_none]
  · simp only [statSteps, Routine.run, perform, NfsContext.stat, Prog.bind_apply, reached,
      Option.bind_some]
  · rcases told : (whole.getattr fh).run mid with _ | ⟨error | attr, next⟩ <;>
      simp only [statSteps, Routine.run, Routine.run_once, perform, NfsContext.stat,
        Prog.bind_apply, Prog.pure_apply, reached, told, Option.bind_some, Option.map_none,
        Option.map_some, Except.map]

/-- The methods with `stat` in two steps. -/
def Cut.statInTwo : Cut whole root pages where
  routine
    | .stat path => statSteps whole root path
    | call => .once (perform whole root pages call).run
  runs call := by
    cases call with
    | stat path => exact run_statSteps whole root pages path
    | _ => exact funext (Routine.run_once _)

variable {whole root pages} (cut : Cut whole root pages) {start : σ}
  {events : List (Monitor.Event σ AsyncCall (Except NfsError AsyncReply))}
  {state : Monitor.State σ AsyncCall (Except NfsError AsyncReply)}

/-- Tasks that share an `AsyncNfs` get what they would get from one `NfsContext` if they took
turns: the calls that ended did so as if made one after the other on the context that was
mounted, each between the moment it was asked for and the moment its result was given. -/
theorem linearized (run : Monitor.Run cut.routine start events state) :
    Monitor.Linearized (fun call => (perform whole root pages call).run) start events state := by
  have linear := Monitor.linearizable run
  rw [funext cut.runs] at linear
  exact linear

/-- Two tasks: the second one waits for the lock in the middle of the `stat` of the first, and
is given its result first. -/
def twoTasks : List (Monitor.Event Nat AsyncCall (Except NfsError AsyncReply)) :=
  [.invoke 0 (.stat "f"), .invoke 1 (.statvfs ""), .acquire 0, .act 0, .act 0,
    .release 0 (.stat "f") (.ok (.attr oneByte)), .acquire 1, .act 1,
    .release 1 (.statvfs "") (.ok (.stat ⟨1, 0, 0, 0, 0, 0, 0⟩)),
    .respond 1 (.ok (.stat ⟨1, 0, 0, 0, 0, 0, 0⟩)), .respond 0 (.ok (.attr oneByte))]

theorem linearized_twoTasks : ∃ state : Monitor.State Nat AsyncCall (Except NfsError AsyncReply),
    state.object = 3 ∧ Monitor.Linearized
      (fun call => (perform (counting Nat.succ) [] 0 call).run) 0 twoTasks state := by
  let cut := Cut.statInTwo (counting Nat.succ) [] 0
  have begun : Monitor.Run cut.routine 0 [] (.initial 0) := .start
  have waiting := (begun.next (.invoke 0 (.stat "f") rfl)).next (.invoke 1 (.statvfs "") rfl)
  have acting := (waiting.next (.acquire 0 rfl rfl rfl)).next (.act 0 rfl rfl)
  have ended := (acting.next (.act 0 rfl rfl)).next (.release 0 rfl)
  have other := (ended.next (.acquire 1 rfl rfl rfl)).next (.act 1 rfl rfl)
  have given := ((other.next (.release 1 rfl)).next (.respond 1 rfl)).next (.respond 0 rfl)
  exact ⟨_, rfl, linearized cut given⟩

/-- Once an operation has panicked, no other task does anything with the context any more. Its
state stays as the panic left it, and the tasks get the results of calls that had ended. -/
theorem poisoned (run : Monitor.Run cut.routine start events state)
    {before rest : List (Monitor.Event σ AsyncCall (Except NfsError AsyncReply))} {task : Nat}
    {wreck : σ} (panics : events = before ++ .panic task wreck :: rest) :
    state.object = wreck ∧ (∀ event ∈ rest, event.Barred) ∧
      ∀ other result, .respond other result ∈ rest →
        ∃ call, .release other call result ∈ before := by
  obtain ⟨ruined, barred, answered⟩ := Monitor.barred_after_panic run panics
  exact ⟨ruined.same, barred, answered⟩

/-- A write panics while another task waits, which then panics in turn. -/
theorem poisoned_write : ∃ state : Monitor.State Nat AsyncCall (Except NfsError AsyncReply),
    state.object = 7 ∧ state.phase 1 = some .panicked := by
  let data : Slice := ⟨[1], by decide⟩
  let cut := Cut.uncut (counting Nat.succ) [] 0
  have begun : Monitor.Run cut.routine 0 [] (.initial 0) := .start
  have waiting := (begun.next (.invoke 0 (.writeWhole "f" data) rfl)).next (.invoke 1 .version rfl)
  have held := waiting.next (.acquire 0 rfl rfl rfl)
  have panicked := (held.next (.panic 0 7 rfl rfl)).next (.refuse 1 rfl rfl rfl)
  let before : List (Monitor.Event Nat AsyncCall (Except NfsError AsyncReply)) :=
    [.invoke 0 (.writeWhole "f" data), .invoke 1 .version, .acquire 0]
  have wrecked := poisoned cut panicked (show _ = before ++ .panic 0 7 :: [.refuse 1] from rfl)
  exact ⟨_, wrecked.1, rfl⟩

end AsyncNfs

end LibNfs.Client
