import LibNfs.Capi.Library

/-! # Calls of the C library

Sequences of calls, the message of a call that fails, and what a call gives the program or
takes back from it. Most calls run an operation on a handle; `Working` is what these share.
-/

namespace LibNfs.Capi

open Client

variable {κ ω : Type} {system : System κ ω}

/-- What has been called, and what it returned. -/
structure Entry (κ ω : Type) where
  call : Call
  before : Memory κ ω
  result : Return

/-- A program's calls of the library. -/
inductive Run (system : System κ ω) : List (Entry κ ω) → Memory κ ω → Prop where
  | start (world : ω) : Run system [] ⟨world, fun _ => none⟩
  | call {entries : List (Entry κ ω)} {memory next : Memory κ ω} {result : Return} {call : Call}
      (run : Run system entries memory) (called : system.call call memory = some (result, next)) :
      Run system (entries ++ [⟨call, memory, result⟩]) next

/-- The message of a body that fails or panics. -/
def failure {α : Type} (what : String) (body : Prog (κ × ω) String α) (state : κ × ω) :
    Option String :=
  match body.run state with
  | some (.ok _, _) => none
  | some (.error msg, _) => some msg
  | none => some ("pánico en " ++ what)

/-- The handle that a call works on. -/
def Call.target : Call → Option Nat
  | .mount .. | .freeString _ | .freeBytes .. => none
  | .unmount h | .lastError h | .stat h .. | .readdir h .. | .read h .. | .write h .. | .mkdir h _
  | .rmdir h _ | .unlink h _ | .rename h .. | .access h _ => h

/-- The message of a call on a handle that fails. -/
def System.failure (system : System κ ω) (call : Call) (root : ObjId) (state : κ × ω) :
    Option String :=
  match call with
  | .stat _ path _ => Capi.failure "nfs_rs_stat" (system.statBody path root) state
  | .readdir _ path _ => Capi.failure "nfs_rs_readdir" (system.readdirBody path root) state
  | .read _ path true _ => Capi.failure "nfs_rs_read" (system.readBody path root) state
  | .read _ _ false _ => some System.nullOuts
  | .write _ path data => Capi.failure "nfs_rs_write" (system.writeBody path data root) state
  | .mkdir _ path => Capi.failure "nfs_rs_mkdir" (system.mkdirBody path root) state
  | .rmdir _ path => Capi.failure "nfs_rs_rmdir" (system.rmdirBody path root) state
  | .unlink _ path => Capi.failure "nfs_rs_unlink" (system.unlinkBody path root) state
  | .rename _ fromPath toPath =>
      Capi.failure "nfs_rs_rename" (system.renameBody fromPath toPath root) state
  | .access _ path => Capi.failure "nfs_rs_access" (system.accessBody path root) state
  | .mount .. | .unmount _ | .lastError _ | .freeString _ | .freeBytes .. => none

/-- The message of a call that fails on a handle. -/
def Entry.message (system : System κ ω) (entry : Entry κ ω) : Option String :=
  entry.call.target.bind fun address =>
    match entry.before.heap address with
    | some (.handle handle) => system.failure entry.call handle.root (handle.ctx, entry.before.world)
    | _ => none

/-- Whether a call says that it failed. -/
def Return.Fails : Return → Prop
  | .int code => code = -1
  | .string s => s = none
  | .bytes code _ => code = -1
  | .void | .handle _ | .message _ => False

/-- The last error of a handle after a call, from the one before it. -/
def Entry.lastError (system : System κ ω) (address : Nat) (current : CString)
    (entry : Entry κ ω) : CString :=
  if entry.result = .handle (some address) then
    .default
  else if entry.call.target = some address then
    (entry.message system).elim current fun msg => (CString.new msg).getD .default
  else
    current

/-- What a block is, as the functions that free it have it. -/
inductive Kind where
  | handle
  | string
  | buffer (len : Nat)
  deriving DecidableEq

def Block.kind : Block κ → Kind
  | .handle _ => .handle
  | .string _ => .string
  | .bytes content => .buffer content.length

def Memory.kinds (memory : Memory κ ω) (address : Nat) : Option Kind :=
  (memory.heap address).map Block.kind

/-- What a program is given. -/
def Return.given : Return → Option (Nat × Kind)
  | .handle (some h) => some (h, .handle)
  | .string (some s) => some (s, .string)
  | .bytes _ (some (buf, len)) => if len = 0 then none else some (buf, .buffer len)
  | _ => none

/-- What a program gives back. -/
def Call.taken : Call → Option Nat
  | .unmount h => h
  | .freeString s => s
  | .freeBytes buf len => if len = 0 then none else buf
  | _ => none

/-- Where the allocator puts a new block. -/
def Call.places : Call → Option Nat
  | .mount _ address | .stat _ _ address | .readdir _ _ address | .read _ _ _ address => some address
  | _ => none

/-- What a program owns after a call, from what it owned before. -/
def Entry.owned (owned : Nat → Option Kind) (entry : Entry κ ω) : Nat → Option Kind :=
  let left := entry.call.taken.elim owned fun address => Function.update owned address none
  entry.result.given.elim left fun block => Function.update left block.1 (some block.2)

/-- A call that keeps to the contract: it works on a handle that is owned, it frees what is
owned with the function and the length it was given with, and the allocator does not put a block
where one is. -/
structure Allowed (owned : Nat → Option Kind) (call : Call) : Prop where
  handle : ∀ {address}, call.target = some address → owned address = some .handle
  place : ∀ {address}, call.places = some address → owned address = none
  string : ∀ {address}, call = .freeString (some address) → owned address = some .string
  bytes : ∀ {address len}, call = .freeBytes (some address) len → len ≠ 0 →
    owned address = some (.buffer len)

/-- What a call does with the value of its operation: it returns a result, and allocates a block
for it at most. -/
structure Hands (memory after : Memory κ ω) (result : Return) : Prop where
  succeeds : ¬ result.Fails
  hands : (after = memory ∧ result.given = none) ∨ ∃ address block,
    memory.heap address = none ∧ result.given = some (address, block.kind) ∧
      block.kind ≠ .handle ∧
      after = { memory with heap := Function.update memory.heap address (some block) }

/-- A call that runs an operation on a handle. -/
structure Working (system : System κ ω) (call : Call) where
  α : Type
  what : String
  body : ObjId → Prog (κ × ω) String α
  failed : Return
  next : α → System.Effect κ ω
  effect : system.call call = system.running call.target failed what body failed next
  failure : ∀ root state, system.failure call root state = Capi.failure what (body root) state
  fails : failed.Fails
  gives : failed.given = none
  hands : ∀ {value memory result after}, next value memory = some (result, after) →
    Hands memory after result
  returns : ∀ value {memory}, (∀ address, call.places = some address → memory.heap address = none) →
    (next value memory).isSome
  takes : call.taken = none

/-- The code 0 is no failure. -/
theorem zero_ne_failed : (0 : Int32) ≠ -1 := by
  decide

theorem hands_alloc {block : Block κ} {address : Nat} {result given : Return}
    {memory after : Memory κ ω} (succeeds : ¬ given.Fails)
    (gives : given.given = some (address, block.kind)) (other : block.kind ≠ .handle)
    (called : System.alloc block address given memory = some (result, after)) :
    Hands memory after result := by
  unfold System.alloc at called
  rcases free : memory.heap address with _ | used
  · rw [free] at called
    cases called
    exact ⟨succeeds, .inr ⟨address, block, free, gives, other, rfl⟩⟩
  · rw [free] at called
    cases called

theorem hands_intoJsonPtr {value : Json} {address : Nat} {result : Return}
    {memory after : Memory κ ω}
    (called : system.intoJsonPtr value address memory = some (result, after)) :
    Hands memory after result := by
  unfold System.intoJsonPtr at called
  rw [CString.new, dif_pos (system.json.escapes value)] at called
  have succeeds : ¬ Return.Fails (.string (some address)) := Option.some_ne_none address
  exact hands_alloc succeeds rfl Kind.noConfusion called

theorem hands_intoBuffer {data : Bytes} {address : Nat} {result : Return}
    {memory after : Memory κ ω}
    (called : System.intoBuffer data address memory = some (result, after)) :
    Hands memory after result := by
  unfold System.intoBuffer at called
  split at called
  · cases called
    exact ⟨zero_ne_failed, .inl ⟨rfl, rfl⟩⟩
  · rename_i filled
    have succeeds : ¬ Return.Fails (.bytes 0 (some (address, data.length))) := zero_ne_failed
    refine hands_alloc succeeds ?_ Kind.noConfusion called
    exact if_neg (List.length_pos_iff.mpr filled).ne'

theorem isSome_alloc {block : Block κ} {address : Nat} {given : Return} {memory : Memory κ ω}
    (free : memory.heap address = none) : (System.alloc block address given memory).isSome := by
  rw [System.alloc, free]
  rfl

theorem isSome_intoJsonPtr {value : Json} {address : Nat} {memory : Memory κ ω}
    (free : memory.heap address = none) : (system.intoJsonPtr value address memory).isSome := by
  rw [System.intoJsonPtr, CString.new, dif_pos (system.json.escapes value)]
  exact isSome_alloc free

theorem isSome_intoBuffer {data : Bytes} {address : Nat} {memory : Memory κ ω}
    (free : memory.heap address = none) : (System.intoBuffer data address memory).isSome := by
  unfold System.intoBuffer
  split
  · rfl
  · exact isSome_alloc free

/-- A function that returns an `int`. -/
def Working.ofInt {call : Call} {what : String} {body : ObjId → Prog (κ × ω) String Unit}
    (effect : system.call call = system.guardInt call.target what body)
    (failure : ∀ root state, system.failure call root state = Capi.failure what (body root) state)
    (takes : call.taken = none) : Working system call where
  α := Unit
  what := what
  body := body
  failed := .int (-1)
  next _ memory := some (.int 0, memory)
  effect := effect
  failure := failure
  fails := rfl
  gives := rfl
  hands called := by
    cases called
    exact ⟨zero_ne_failed, .inl ⟨rfl, rfl⟩⟩
  returns _ _ _ := rfl
  takes := takes

namespace Call

/-- The calls that run an operation; `read` does unless an output pointer is NULL. -/
def working (system : System κ ω) : (call : Call) → Option (Working system call)
  | .stat h path address => some {
      α := Json
      what := "nfs_rs_stat"
      body := system.statBody path
      failed := .string none
      next := fun value => system.intoJsonPtr value address
      effect := rfl
      failure := fun _ _ => rfl
      fails := rfl
      gives := rfl
      hands := hands_intoJsonPtr
      returns := fun _ _ free => isSome_intoJsonPtr (free address rfl)
      takes := rfl }
  | .readdir h path address => some {
      α := Json
      what := "nfs_rs_readdir"
      body := system.readdirBody path
      failed := .string none
      next := fun value => system.intoJsonPtr value address
      effect := rfl
      failure := fun _ _ => rfl
      fails := rfl
      gives := rfl
      hands := hands_intoJsonPtr
      returns := fun _ _ free => isSome_intoJsonPtr (free address rfl)
      takes := rfl }
  | .read h path true address => some {
      α := Bytes
      what := "nfs_rs_read"
      body := system.readBody path
      failed := .bytes (-1) none
      next := fun data => System.intoBuffer data address
      effect := rfl
      failure := fun _ _ => rfl
      fails := rfl
      gives := rfl
      hands := hands_intoBuffer
      returns := fun _ _ free => isSome_intoBuffer (free address rfl)
      takes := rfl }
  | .write .. => some (.ofInt rfl (fun _ _ => rfl) rfl)
  | .mkdir .. => some (.ofInt rfl (fun _ _ => rfl) rfl)
  | .rmdir .. => some (.ofInt rfl (fun _ _ => rfl) rfl)
  | .unlink .. => some (.ofInt rfl (fun _ _ => rfl) rfl)
  | .rename .. => some (.ofInt rfl (fun _ _ => rfl) rfl)
  | .access h path => some {
      α := Bool
      what := "nfs_rs_access"
      body := system.accessBody path
      failed := .int (-1)
      next := fun allowed memory => some (.int (if allowed then 1 else 0), memory)
      effect := rfl
      failure := fun _ _ => rfl
      fails := rfl
      gives := rfl
      hands := by
        intro allowed memory result after called
        cases called
        refine ⟨?_, .inl ⟨rfl, rfl⟩⟩
        cases allowed
        · exact zero_ne_failed
        · exact show (1 : Int32) ≠ -1 by decide
      returns := fun _ _ _ => rfl
      takes := rfl }
  | .mount .. | .unmount _ | .lastError _ | .read _ _ false _ | .freeString _ | .freeBytes .. => none

end Call

/-- What a call that runs an operation does: nothing for NULL; else the operation runs on the
context of the handle, and either its value is handed out or its message is kept. -/
inductive Works {call : Call} (working : Working system call) (memory after : Memory κ ω)
    (result : Return) : Prop where
  | null (target : call.target = none) (failed : result = working.failed) (same : after = memory)
  | succeeds {address : Nat} {handle : NfsHandle κ} {ctx : κ} {world : ω}
      (target : call.target = some address) (live : memory.heap address = some (.handle handle))
      (quiet : system.failure call handle.root (handle.ctx, memory.world) = none)
      (hands : Hands ⟨world, Function.update memory.heap address
        (some (.handle { handle with ctx := ctx }))⟩ after result)
  | fails {address : Nat} {handle : NfsHandle κ} {ctx : κ} {world : ω} {msg : String}
      (target : call.target = some address) (live : memory.heap address = some (.handle handle))
      (message : system.failure call handle.root (handle.ctx, memory.world) = some msg)
      (failed : result = working.failed)
      (after_eq : after = ⟨world, Function.update memory.heap address
        (some (.handle ({ handle with ctx := ctx }.setError msg)))⟩)

theorem Working.works {call : Call} (working : Working system call) {memory after : Memory κ ω}
    {result : Return} (called : system.call call memory = some (result, after)) :
    Works working memory after result := by
  rw [working.effect] at called
  unfold System.running System.onHandle at called
  rcases target : call.target with _ | address <;> simp only [target] at called
  · cases called
    exact .null target rfl rfl
  · rcases live : memory.heap address with _ | (handle | text | content) <;> simp only [live] at called
    · cases called
    · have failure := working.failure handle.root (handle.ctx, memory.world)
      rcases ran : (working.body handle.root).run (handle.ctx, memory.world) with
        _ | ⟨msg | value, ctx, world⟩
      · simp only [System.guarded, ran] at called
        cases called
        refine .fails target live ?_ rfl rfl
        rw [failure, Capi.failure, ran]
      · simp only [System.guarded, ran] at called
        cases called
        refine .fails target live ?_ rfl rfl
        rw [failure, Capi.failure, ran]
      · simp only [System.guarded, ran] at called
        refine .succeeds target live ?_ (working.hands called)
        rw [failure, Capi.failure, ran]
    · cases called
    · cases called

/-- Every URL is mounted, and the world counts the requests. -/
def sample : System Unit Nat where
  whole := counting fun (ctx, count) => (ctx, count + 1)
  pages := 0
  mountUrl _ := return ((), [])
  disconnect _ count := count
  ioText _ := "io"
  json := ⟨fun _ => "null", fun _ => by decide⟩
  wreck state := state
  wreckMount count := count

/-- A C string of one letter. -/
def letter : CString :=
  ⟨[110], by decide⟩

end LibNfs.Capi
