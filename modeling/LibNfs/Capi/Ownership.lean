import LibNfs.Capi.Calls

/-! # Memory that C programs own

The blocks in use are those that the program was given and has not given back. While it keeps
to that, no call is undefined.
-/

namespace LibNfs.Capi

open Client

variable {κ ω : Type} {system : System κ ω}

section Steps

variable {memory after : Memory κ ω} {call : Call} {result : Return}

/-- What is alive after one block changed. -/
theorem kinds_update (world : ω) (heap : Nat → Option (Block κ)) (address : Nat)
    (block : Option (Block κ)) :
    Memory.kinds (⟨world, Function.update heap address block⟩ : Memory κ ω) =
      Function.update (Memory.kinds ⟨world, heap⟩) address (block.map Block.kind) := by
  funext other
  by_cases same : other = address
  · subst same
    simp only [Memory.kinds, Function.update_self]
  · simp only [Memory.kinds, Function.update_of_ne same]

/-- A handle that changes is still a handle. -/
theorem kinds_handle {address : Nat} {handle : NfsHandle κ} (world : ω) (handle' : NfsHandle κ)
    (live : memory.heap address = some (.handle handle)) :
    Memory.kinds ⟨world, Function.update memory.heap address (some (.handle handle'))⟩ =
      memory.kinds := by
  rw [kinds_update]
  refine Function.update_eq_self_iff.mpr ?_
  rw [Memory.kinds, live]
  rfl

/-- What is alive once a call has handed over what it made. -/
theorem Hands.kinds (hands : Hands memory after result) :
    after.kinds = result.given.elim memory.kinds
      fun block => Function.update memory.kinds block.1 (some block.2) := by
  rcases hands.hands with ⟨rfl, none⟩ | ⟨address, block, -, gives, -, rfl⟩
  · rw [none]
    rfl
  · rw [gives]
    exact kinds_update memory.world memory.heap address (some block)

/-- A call on a live handle changes what is alive as the caller knows. -/
theorem Works.kinds {working : Working system call} (works : Works working memory after result) :
    after.kinds = Entry.owned memory.kinds ⟨call, memory, result⟩ := by
  have takes : Entry.owned memory.kinds ⟨call, memory, result⟩ = result.given.elim memory.kinds
      fun block => Function.update memory.kinds block.1 (some block.2) := by
    rw [Entry.owned, working.takes]
    rfl
  rw [takes]
  cases works with
  | null target failed same =>
      subst failed same
      rw [working.gives]
      rfl
  | succeeds target live quiet hands =>
      rw [hands.kinds, kinds_handle _ _ live]
  | fails target live message failed after_eq =>
      subst failed after_eq
      rw [working.gives, kinds_handle _ _ live]
      rfl

/-- A mount gives one handle, or nothing. -/
theorem kinds_mount {url : Option CString} {address : Nat}
    (called : system.mount url address memory = some (result, after)) :
    after.kinds = Entry.owned memory.kinds ⟨.mount url address, memory, result⟩ := by
  unfold System.mount at called
  split at called
  · cases called
    rfl
  · split at called
    · unfold System.alloc at called
      simp only at called
      split at called
      · cases called
      · cases called
        exact kinds_update _ memory.heap address _
    · cases called
      rfl
    · cases called
      rfl

theorem kinds_unmount {h : Option Nat} (called : system.unmount h memory = some (result, after)) :
    after.kinds = Entry.owned memory.kinds ⟨.unmount h, memory, result⟩ := by
  unfold System.unmount System.onHandle at called
  split at called
  · cases called
    rfl
  · split at called
    · cases called
      exact kinds_update _ memory.heap _ none
    · cases called

/-- Reading the last error changes nothing. -/
theorem kinds_lastError {h : Option Nat} (called : System.lastError h memory = some (result, after)) :
    after.kinds = Entry.owned memory.kinds ⟨.lastError h, memory, result⟩ := by
  unfold System.lastError System.onHandle at called
  split at called
  · cases called
    rfl
  · split at called <;> cases called
    rfl

/-- A read without a place for its data changes nothing. -/
theorem kinds_read_null {h : Option Nat} {path : Option CString} {address : Nat}
    (called : system.read h path false address memory = some (result, after)) :
    after.kinds = Entry.owned memory.kinds ⟨.read h path false address, memory, result⟩ := by
  unfold System.read System.onHandle at called
  simp only [Bool.false_eq_true, ↓reduceIte] at called
  split at called
  · cases called
    rfl
  · split at called
    · rename_i handle live
      cases called
      exact kinds_handle memory.world _ live
    · cases called

theorem kinds_freeString {s : Option Nat} (called : System.freeString s memory = some (result, after)) :
    after.kinds = Entry.owned memory.kinds ⟨.freeString s, memory, result⟩ := by
  unfold System.freeString at called
  split at called
  · cases called
    rfl
  · split at called
    · cases called
      exact kinds_update memory.world memory.heap _ none
    · cases called

theorem kinds_freeBytes {buf : Option Nat} {len : Nat}
    (called : System.freeBytes buf len memory = some (result, after)) :
    after.kinds = Entry.owned memory.kinds ⟨.freeBytes buf len, memory, result⟩ := by
  unfold System.freeBytes at called
  split at called
  · cases called
    simp only [Entry.owned, Call.taken, ite_self, Option.elim_none, Return.given]
  · split at called
    · rename_i empty
      cases called
      simp only [Entry.owned, Call.taken, empty, ↓reduceIte, Option.elim_none, Return.given]
    · rename_i filled
      split at called
      · split at called
        · cases called
          simp only [Entry.owned, Call.taken, filled, ↓reduceIte, Option.elim_none,
            Option.elim_some, Return.given]
          exact kinds_update memory.world memory.heap _ none
        · cases called
      · cases called

/-- What is in use after a call is what the program owns by what it called and was returned. -/
theorem kinds_call (called : system.call call memory = some (result, after)) :
    after.kinds = Entry.owned memory.kinds ⟨call, memory, result⟩ := by
  rcases shape : call.working system with _ | working
  · cases call with
    | mount url address => exact kinds_mount called
    | unmount h => exact kinds_unmount called
    | lastError h => exact kinds_lastError called
    | read h path outs address =>
        cases outs with
        | false => exact kinds_read_null called
        | true => cases shape
    | freeString s => exact kinds_freeString called
    | freeBytes buf len => exact kinds_freeBytes called
    | _ => cases shape
  · exact (working.works called).kinds

end Steps

section Defined

variable {memory : Memory κ ω} {call : Call}

/-- A handle that the program owns is alive. -/
theorem live_of_kind {address : Nat} (owned : memory.kinds address = some .handle) :
    ∃ handle, memory.heap address = some (.handle handle) := by
  obtain ⟨block, live, kind⟩ := Option.map_eq_some_iff.mp owned
  cases block with
  | handle handle => exact ⟨handle, live⟩
  | string text => cases kind
  | bytes content => cases kind

theorem free_of_kind {address : Nat} (owned : memory.kinds address = none) :
    memory.heap address = none :=
  Option.map_eq_none_iff.mp owned

/-- A call on an owned handle is defined when what it does to the handle is. -/
theorem isSome_onHandle {h : Option Nat} {null : Return} {body : Nat → NfsHandle κ → System.Effect κ ω}
    (owned : ∀ {address}, h = some address → memory.kinds address = some .handle)
    (runs : ∀ {address handle}, memory.heap address = some (.handle handle) →
      (body address handle memory).isSome) :
    (System.onHandle h null body memory).isSome := by
  unfold System.onHandle
  cases h with
  | none => rfl
  | some address =>
      obtain ⟨handle, live⟩ := live_of_kind (owned rfl)
      simp only [live]
      exact runs live

/-- A read without a place for its data is defined. -/
theorem isSome_read_null {h : Option Nat} {path : Option CString} {address : Nat}
    (owned : ∀ {address}, h = some address → memory.kinds address = some .handle) :
    (system.read h path false address memory).isSome := by
  rw [System.read, if_neg Bool.false_ne_true]
  refine isSome_onHandle owned ?_
  intro address handle _
  rfl

/-- A call that works on an owned handle is defined. -/
theorem Working.isSome (working : Working system call) (allowed : Allowed memory.kinds call) :
    (system.call call memory).isSome := by
  rw [working.effect]
  refine isSome_onHandle allowed.handle fun {address handle} live => ?_
  have free : ∀ world handle' other, call.places = some other →
      Memory.heap (⟨world, Function.update memory.heap address (some (.handle handle'))⟩ :
        Memory κ ω) other = none := by
    intro world handle' other placed
    have empty := free_of_kind (allowed.place placed)
    have apart : other ≠ address := by
      rintro rfl
      rw [live] at empty
      cases empty
    exact (Function.update_of_ne apart _ _).trans empty
  simp only
  split
  · exact working.returns _ (free _ _)
  · rfl

/-- A call that is allowed is defined: it touches no freed memory. -/
theorem isSome_of_allowed (allowed : Allowed memory.kinds call) :
    (system.call call memory).isSome := by
  rcases shape : call.working system with _ | working
  · cases call with
    | mount url address =>
        have free := free_of_kind (allowed.place rfl)
        unfold System.call System.mount
        simp only
        split
        · rfl
        · split
          · exact isSome_alloc free
          · rfl
          · rfl
    | unmount h =>
        unfold System.call System.unmount
        refine isSome_onHandle allowed.handle ?_
        intro address handle _
        rfl
    | lastError h =>
        unfold System.call System.lastError
        refine isSome_onHandle allowed.handle ?_
        intro address handle _
        rfl
    | read h path outs address =>
        cases outs with
        | false =>
            exact isSome_read_null allowed.handle
        | true => cases shape
    | freeString s =>
        cases s with
        | none => rfl
        | some address =>
            obtain ⟨block, live, kind⟩ := Option.map_eq_some_iff.mp (allowed.string rfl)
            cases block with
            | string text =>
                unfold System.call System.freeString
                simp only [live]
                rfl
            | handle handle => cases kind
            | bytes content => cases kind
    | freeBytes buf len =>
        cases buf with
        | none => rfl
        | some address =>
            unfold System.call System.freeBytes
            simp only
            split
            · rfl
            · rename_i filled
              obtain ⟨block, live, kind⟩ := Option.map_eq_some_iff.mp (allowed.bytes rfl filled)
              cases block with
              | bytes content =>
                  simp only [live, Kind.buffer.inj kind, ↓reduceIte]
                  rfl
              | handle handle => cases kind
              | string text => cases kind
    | _ => cases shape
  · exact working.isSome allowed

end Defined

section Runs

variable {entries : List (Entry κ ω)} {memory : Memory κ ω}

/-- Over any calls, the blocks in use are those that the program was given and has not given
back, so that a failed call or a panic leaves none behind; and a call that keeps to the contract
of the header is defined. -/
theorem ownership_kept (run : Run system entries memory) :
    memory.kinds = entries.foldl Entry.owned (fun _ => none) ∧
      ∀ call, Allowed (entries.foldl Entry.owned fun _ => none) call →
        (system.call call memory).isSome := by
  have kinds : memory.kinds = entries.foldl Entry.owned (fun _ => none) := by
    induction run with
    | start world => rfl
    | call run called ih =>
        rw [List.foldl_append, List.foldl_cons, List.foldl_nil, ← ih, kinds_call called]
  exact ⟨kinds, fun call allowed => isSome_of_allowed (kinds ▸ allowed)⟩

end Runs

/-- A buffer that was read may be freed, with its length. -/
theorem ownership_kept_read : ∃ (entries : List (Entry Unit Nat)) (memory : Memory Unit Nat),
    Run sample entries memory ∧ memory.kinds 24 = some (.buffer 1) ∧
      (sample.call (.freeBytes (some 24) 1) memory).isSome := by
  have mounted : Run sample [⟨.mount (some letter) 16, _, .handle (some 16)⟩] _ :=
    (Run.start 0).call rfl
  have reading : Run sample
      [_, ⟨.read (some 16) (some letter) true 24, _, .bytes 0 (some (24, 1))⟩] _ :=
    mounted.call rfl
  obtain ⟨kinds, allowed⟩ := ownership_kept reading
  refine ⟨_, _, reading, congrFun kinds 24, allowed _ ⟨?_, ?_, ?_, ?_⟩⟩
  · exact fun absurd => by cases absurd
  · exact fun absurd => by cases absurd
  · exact fun absurd => by cases absurd
  · rintro address len ⟨⟩ _
    rfl

end LibNfs.Capi
