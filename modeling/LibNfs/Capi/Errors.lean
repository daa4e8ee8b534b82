import LibNfs.Capi.Ownership

/-! # Errors that C programs see

A call says by -1 or NULL that it failed, and the last error of a handle is the message of the
last call on it that failed.
-/

namespace LibNfs.Capi

open Client

variable {κ ω : Type} {system : System κ ω}

section Steps

variable {memory after : Memory κ ω} {call : Call} {result : Return}

/-- The last error of the handle at an address. -/
def Memory.errorAt (memory : Memory κ ω) (address : Nat) : CString :=
  match memory.heap address with
  | some (.handle handle) => handle.lastError
  | _ => .default

theorem Memory.errorAt_of {address : Nat} {handle : NfsHandle κ}
    (live : memory.heap address = some (.handle handle)) :
    memory.errorAt address = handle.lastError := by
  rw [errorAt, live]

/-- What a call does to the errors that handles keep and says of its own. -/
structure Tells (system : System κ ω) (memory after : Memory κ ω) (call : Call) (result : Return) :
    Prop where
  errors : ∀ {address : Nat} {handle : NfsHandle κ}, after.heap address = some (.handle handle) →
    handle.lastError =
      Entry.lastError system address (memory.errorAt address) ⟨call, memory, result⟩
  failed : ∀ {address : Nat}, call.target = some address →
    (result.Fails ↔ (Entry.message system ⟨call, memory, result⟩).isSome)

/-- No handle is given, and no message is told: the handles that are left have their errors. -/
theorem tells_of_silent (given : ∀ address, result ≠ .handle (some address))
    (message : Entry.message system ⟨call, memory, result⟩ = none) (succeeds : ¬ result.Fails)
    (handles : ∀ {address : Nat} {handle : NfsHandle κ},
      after.heap address = some (.handle handle) → handle.lastError = memory.errorAt address) :
    Tells system memory after call result := by
  refine ⟨fun {address handle} live => ?_, fun {_} _ => ?_⟩
  · rw [Entry.lastError, if_neg (given address), message]
    split <;> exact handles live
  · rw [message]
    exact iff_of_false succeeds Bool.false_ne_true

/-- A call that hands nothing out gives no handle. -/
theorem Hands.ne_handle (hands : Hands memory after result) (address : Nat) :
    result ≠ .handle (some address) := by
  rintro rfl
  rcases hands.hands with ⟨-, none⟩ | ⟨other, block, -, gives, kind, -⟩
  · cases none
  · exact kind (Prod.mk.inj (Option.some.inj gives)).2.symm

/-- Handing out a value leaves the handles as they are. -/
theorem Hands.handle (hands : Hands memory after result) {address : Nat} {handle : NfsHandle κ}
    (live : after.heap address = some (.handle handle)) :
    memory.heap address = some (.handle handle) := by
  rcases hands.hands with ⟨rfl, -⟩ | ⟨other, block, -, -, kind, rfl⟩
  · exact live
  · by_cases same : address = other
    · subst same
      have placed := Option.some.inj ((Function.update_self address _ memory.heap).symm.trans live)
      subst placed
      exact absurd rfl kind
    · exact (Function.update_of_ne same _ _).symm.trans live

/-- The message of a call on a live handle: what the call fails with there. -/
theorem Entry.message_of_live {address : Nat} {handle : NfsHandle κ}
    (target : call.target = some address) (live : memory.heap address = some (.handle handle)) :
    Entry.message system ⟨call, memory, result⟩ =
      system.failure call handle.root (handle.ctx, memory.world) := by
  simp only [Entry.message, target, Option.bind_some, live]

/-- A call that works on a handle tells what it failed with. -/
theorem Works.tells {working : Working system call} (works : Works working memory after result) :
    Tells system memory after call result := by
  have failed_ne : ∀ address, working.failed ≠ .handle (some address) := by
    intro address same
    have fails := working.fails
    rw [same] at fails
    exact fails
  cases works with
  | null target failed same =>
      subst failed same
      refine ⟨fun {address handle} live => ?_, fun {address} targeted => ?_⟩
      · rw [Entry.lastError, if_neg (failed_ne address)]
        simp only [target, reduceCtorEq, ↓reduceIte]
        exact (Memory.errorAt_of live).symm
      · rw [target] at targeted
        cases targeted
  | @succeeds address handle ctx world target live quiet hands =>
      have message : Entry.message system ⟨call, memory, result⟩ = _ :=
        Entry.message_of_live target live
      refine tells_of_silent hands.ne_handle (message.trans quiet) hands.succeeds
        fun {other handle'} live' => ?_
      have before := hands.handle live'
      by_cases same : other = address
      · subst same
        have kept := (Function.update_self other _ memory.heap).symm.trans before
        cases kept
        exact (Memory.errorAt_of live).symm
      · have kept := (Function.update_of_ne same _ memory.heap).symm.trans before
        exact (Memory.errorAt_of kept).symm
  | @fails address handle ctx world msg target live told failed after_eq =>
      subst failed after_eq
      have message : Entry.message system ⟨call, memory, working.failed⟩ = _ :=
        (Entry.message_of_live target live).trans told
      refine ⟨fun {other handle'} live' => ?_, fun {_} _ => ?_⟩
      · rw [Entry.lastError, if_neg (failed_ne other), message]
        by_cases same : other = address
        · subst same
          have kept := (Function.update_self other _ memory.heap).symm.trans live'
          cases kept
          exact (if_pos target).symm
        · have kept := (Function.update_of_ne same _ memory.heap).symm.trans live'
          have apart : call.target ≠ some other := by
            rw [target]
            exact fun absurd => same (Option.some.inj absurd).symm
          rw [if_neg apart]
          exact (Memory.errorAt_of kept).symm
      · rw [message]
        exact iff_of_true working.fails rfl

/-- A block that is no handle goes, or nothing changes: the handles that are left were there. -/
theorem errorAt_of_gone {address other : Nat} {handle : NfsHandle κ}
    (live : Function.update memory.heap address none other = some (.handle handle)) :
    handle.lastError = memory.errorAt other := by
  by_cases same : other = address
  · subst same
    rw [Function.update_self] at live
    cases live
  · rw [Function.update_of_ne same] at live
    exact (Memory.errorAt_of live).symm

/-- Mounting tells its failure to nobody. -/
theorem tells_mount {url : Option CString} {address : Nat}
    (called : system.mount url address memory = some (result, after)) :
    Tells system memory after (.mount url address) result := by
  have unchanged : ∀ world : ω, Tells system memory { memory with world := world }
      (.mount url address) (.handle none) := fun world =>
    tells_of_silent (fun _ absurd => by cases absurd) rfl id fun live => (Memory.errorAt_of live).symm
  unfold System.mount at called
  split at called
  · cases called
    exact unchanged memory.world
  · split at called
    · unfold System.alloc at called
      simp only at called
      split at called
      · cases called
      · cases called
        refine ⟨fun {other handle} live => ?_, fun absurd => by cases absurd⟩
        by_cases same : other = address
        · subst same
          have placed := (Function.update_self other _ memory.heap).symm.trans live
          cases placed
          exact (if_pos rfl).symm
        · have kept := (Function.update_of_ne same _ memory.heap).symm.trans live
          have apart : Return.handle (some address) ≠ .handle (some other) := fun absurd =>
            same (Option.some.inj (Return.handle.inj absurd)).symm
          rw [Entry.lastError, if_neg apart]
          exact (Memory.errorAt_of kept).symm
    · cases called
      exact unchanged _
    · cases called
      exact unchanged _

theorem tells_unmount {h : Option Nat} (called : system.unmount h memory = some (result, after)) :
    Tells system memory after (.unmount h) result := by
  have message : Entry.message system ⟨.unmount h, memory, result⟩ = none := by
    cases h with
    | none => rfl
    | some address =>
        simp only [Entry.message, Call.target, Option.bind_some]
        split <;> rfl
  unfold System.unmount System.onHandle at called
  split at called
  · cases called
    exact tells_of_silent (fun _ absurd => by cases absurd) message id
      fun live => (Memory.errorAt_of live).symm
  · split at called
    · cases called
      exact tells_of_silent (fun _ absurd => by cases absurd) message id errorAt_of_gone
    · cases called

/-- Asking for the last error tells nothing. -/
theorem tells_lastError {h : Option Nat} (called : System.lastError h memory = some (result, after)) :
    Tells system memory after (.lastError h) result := by
  have message : Entry.message system ⟨.lastError h, memory, result⟩ = none := by
    cases h with
    | none => rfl
    | some address =>
        simp only [Entry.message, Call.target, Option.bind_some]
        split <;> rfl
  unfold System.lastError System.onHandle at called
  split at called
  · cases called
    exact tells_of_silent (fun _ absurd => by cases absurd) message id
      fun live => (Memory.errorAt_of live).symm
  · split at called
    · cases called
      exact tells_of_silent (fun _ absurd => by cases absurd) message id
        fun live => (Memory.errorAt_of live).symm
    · cases called

/-- A read without output pointers only sets the error. -/
theorem tells_read_null {h : Option Nat} {path : Option CString} {address : Nat}
    (called : system.read h path false address memory = some (result, after)) :
    Tells system memory after (.read h path false address) result := by
  unfold System.read System.onHandle at called
  simp only [Bool.false_eq_true, ↓reduceIte] at called
  split at called
  · cases called
    refine ⟨fun {other handle} live => ?_, fun absurd => by cases absurd⟩
    exact (Memory.errorAt_of live).symm
  · rename_i target
    split at called
    · rename_i handle live
      cases called
      have message : Entry.message system
          ⟨.read (some target) path false address, memory, .bytes (-1) none⟩ = _ :=
        Entry.message_of_live rfl live
      refine ⟨fun {other handle'} live' => ?_, fun _ => ?_⟩
      · rw [Entry.lastError, if_neg (fun absurd => by cases absurd), message]
        by_cases same : other = target
        · subst same
          have kept := (Function.update_self other _ memory.heap).symm.trans live'
          cases kept
          exact (if_pos rfl).symm
        · have kept := (Function.update_of_ne same _ memory.heap).symm.trans live'
          have apart : some target ≠ some other := fun absurd => same (Option.some.inj absurd).symm
          exact (Memory.errorAt_of kept).symm.trans (if_neg apart).symm
      · rw [message]
        exact iff_of_true rfl rfl
    · cases called

theorem tells_freeString {s : Option Nat} (called : System.freeString s memory = some (result, after)) :
    Tells system memory after (.freeString s) result := by
  unfold System.freeString at called
  split at called
  · cases called
    exact tells_of_silent (fun _ absurd => by cases absurd) rfl id
      fun live => (Memory.errorAt_of live).symm
  · split at called
    · cases called
      exact tells_of_silent (fun _ absurd => by cases absurd) rfl id errorAt_of_gone
    · cases called

theorem tells_freeBytes {buf : Option Nat} {len : Nat}
    (called : System.freeBytes buf len memory = some (result, after)) :
    Tells system memory after (.freeBytes buf len) result := by
  have unchanged : Tells system memory memory (.freeBytes buf len) .void :=
    tells_of_silent (fun _ absurd => by cases absurd) rfl id
      fun live => (Memory.errorAt_of live).symm
  unfold System.freeBytes at called
  split at called
  · cases called
    exact unchanged
  · split at called
    · cases called
      exact unchanged
    · split at called
      · split at called
        · cases called
          exact tells_of_silent (fun _ absurd => by cases absurd) rfl id errorAt_of_gone
        · cases called
      · cases called

/-- Every call tells what it failed with. -/
theorem tells (called : system.call call memory = some (result, after)) :
    Tells system memory after call result := by
  rcases shape : call.working system with _ | working
  · cases call with
    | mount url address => exact tells_mount called
    | unmount h => exact tells_unmount called
    | lastError h => exact tells_lastError called
    | read h path outs address =>
        cases outs with
        | false => exact tells_read_null called
        | true => cases shape
    | freeString s => exact tells_freeString called
    | freeBytes buf len => exact tells_freeBytes called
    | _ => cases shape
  · exact (working.works called).tells

/-- A handle is live after a call because it was, or because the call gave it. -/
theorem live_before {after : Memory κ ω} {call : Call} {result : Return} {address : Nat}
    {handle : NfsHandle κ} (called : system.call call memory = some (result, after))
    (live : after.heap address = some (.handle handle)) :
    result = .handle (some address) ∨ ∃ before, memory.heap address = some (.handle before) := by
  have kinds := congrFun (kinds_call called) address
  have owned : Entry.owned memory.kinds ⟨call, memory, result⟩ address = some .handle := by
    rw [← kinds, Memory.kinds, live]
    rfl
  have left : ∀ {taken : Option Nat},
      taken.elim memory.kinds (fun gone => Function.update memory.kinds gone none) address =
        some .handle → ∃ before, memory.heap address = some (.handle before) := by
    rintro (_ | gone) owned
    · exact live_of_kind owned
    · by_cases same : address = gone
      · subst same
        have absurd := (Function.update_self address _ memory.kinds).symm.trans owned
        cases absurd
      · exact live_of_kind ((Function.update_of_ne same _ memory.kinds).symm.trans owned)
  unfold Entry.owned at owned
  rcases gives : result.given with _ | ⟨other, kind⟩ <;> simp only [gives] at owned
  · exact .inr (left owned)
  · by_cases same : address = other
    · subst same
      have handle := Option.some.inj ((Function.update_self address _ _).symm.trans owned)
      subst handle
      left
      cases result with
      | handle h =>
          cases h with
          | none => cases gives
          | some h =>
              cases gives
              rfl
      | string s => cases s <;> cases gives
      | bytes code out =>
          rcases out with _ | ⟨buf, len⟩
          · cases gives
          · simp only [Return.given] at gives
            split at gives <;> cases gives
      | _ => cases gives
    · exact .inr (left ((Function.update_of_ne same _ _).symm.trans owned))

end Steps

section Runs

variable {entries : List (Entry κ ω)} {memory : Memory κ ω}

/-- Over any calls on any handles, whatever the operations come to: the last error of a live
handle is the message of the last call on it that failed since it was mounted, and empty when
none has; and a call on a handle returns -1 or NULL exactly when it failed. -/
theorem errors_told (run : Run system entries memory) :
    (∀ {address : Nat} {handle : NfsHandle κ}, memory.heap address = some (.handle handle) →
      handle.lastError = entries.foldl (Entry.lastError system address) .default) ∧
    ∀ entry ∈ entries, ∀ {address : Nat}, entry.call.target = some address →
      (entry.result.Fails ↔ (entry.message system).isSome) := by
  induction run with
  | start world =>
      exact ⟨(fun live => by cases live), fun entry member => absurd member List.not_mem_nil⟩
  | @call entries memory next result call run called ih =>
      have told := tells called
      refine ⟨fun {address handle} live => ?_, fun entry member => ?_⟩
      · rw [List.foldl_append, List.foldl_cons, List.foldl_nil, told.errors live]
        rcases live_before called live with rfl | ⟨before, was⟩
        · simp only [Entry.lastError, ↓reduceIte]
        · rw [Memory.errorAt_of was, ih.1 was]
      · rcases List.mem_append.mp member with old | new
        · exact ih.2 entry old
        · obtain rfl := List.mem_singleton.mp new
          exact told.failed

end Runs

/-- A directory without a name is not made, and then a file is removed: the handle still tells
of the directory. -/
theorem errors_told_mkdir : ∃ (entries : List (Entry Unit Nat)) (memory : Memory Unit Nat)
    (handle : NfsHandle Unit), Run sample entries memory ∧
      memory.heap 16 = some (.handle handle) ∧
      entries.map Entry.result = [.handle (some 16), .int (-1), .int 0] ∧
      handle.lastError = (CString.new System.invalidPath).getD .default := by
  have mounted : Run sample [⟨.mount (some letter) 16, _, .handle (some 16)⟩] _ :=
    (Run.start 0).call rfl
  have failed : Run sample [_, ⟨.mkdir (some 16) none, _, .int (-1)⟩] _ := mounted.call rfl
  have removed : Run sample [_, _, ⟨.unlink (some 16) (some letter), _, .int 0⟩] _ :=
    failed.call rfl
  have told := (errors_told removed).1 (show Memory.heap _ 16 = some (.handle _) from rfl)
  exact ⟨_, _, _, removed, rfl, rfl, told.trans rfl⟩

end LibNfs.Capi
