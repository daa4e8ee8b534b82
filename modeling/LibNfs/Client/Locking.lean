import LibNfs.Client.LockManager

/-! # Locks over both versions

The lock calls of one context on one file, over the lock manager of either version.
The NFSv3 backend asks for every lock in the name of one owner, so a context never
conflicts with itself; the NFSv4 backend names a new owner each time. The outcomes
are the same as long as no call conflicts with a lock that the context holds.
-/

namespace LibNfs.Client

open RangeLocks (Range Lock blocking release)

/-- A call of the context; a lock is released by its place among those granted. -/
inductive LockCall where
  | lock (offset length : UInt64) (exclusive : Bool)
  | unlock (index : Nat)
  | testLock (offset length : UInt64) (exclusive : Bool)
  deriving DecidableEq, Repr

/-- What a call comes to; there is no call without a lock to release. -/
inductive LockOutcome where
  | granted
  | released
  | available (free : Bool)
  | failed (error : NfsError)
  | absent
  deriving DecidableEq, Repr

namespace LockCall

variable {σ : Type} (vfs : VfsBackend σ) (file : OpenFile)

/-- Makes a call, with the locks granted so far. -/
def perform (tokens : List LockToken) :
    LockCall → Prog σ NfsError (LockOutcome × List LockToken)
  | lock offset length exclusive => do
      match ← Prog.outcome (NfsContext.lock vfs file offset length exclusive) with
      | .ok token => return (.granted, tokens ++ [token])
      | .error error => return (.failed error, tokens)
  | unlock index =>
      match tokens[index]? with
      | none => return (.absent, tokens)
      | some token => do
          match ← Prog.outcome (NfsContext.unlock vfs file token) with
          | .ok () => return (.released, tokens)
          | .error error => return (.failed error, tokens)
  | testLock offset length exclusive => do
      match ← Prog.outcome (NfsContext.testLock vfs file offset length exclusive) with
      | .ok free => return (.available free, tokens)
      | .error error => return (.failed error, tokens)

/-- Makes calls one after the other. -/
def performAll : List LockCall → List LockToken → Prog σ NfsError (List LockOutcome)
  | [], _ => return []
  | call :: calls, tokens => do
      let (outcome, tokens) ← perform vfs file tokens call
      let outcomes ← performAll calls tokens
      return outcome :: outcomes

end LockCall

/-- A lock that the context has taken. -/
structure Taken where
  offset : UInt64
  length : UInt64
  exclusive : Bool
  held : Bool
  deriving DecidableEq, Repr

def Taken.range (taken : Taken) : Range :=
  rangeOf taken.offset taken.length

/-- A lock is taken on a range that no lock conflicts with which the context holds. -/
def Clear (taken : List Taken) (offset length : UInt64) (exclusive : Bool) : Prop :=
  ∀ other ∈ taken, other.held → ¬ ((rangeOf offset length).Overlaps other.range ∧
    (exclusive ∨ other.exclusive))

instance (taken : List Taken) (offset length : UInt64) (exclusive : Bool) :
    Decidable (Clear taken offset length exclusive) :=
  inferInstanceAs (Decidable (∀ other ∈ taken, _ → ¬ (_ ∧ _)))

namespace LockCall

/-- The locks taken after a call that is granted. -/
def next (taken : List Taken) : LockCall → List Taken
  | lock offset length exclusive => taken ++ [⟨offset, length, exclusive, true⟩]
  | unlock index => taken.modify index fun other => { other with held := false }
  | testLock .. => taken

/-- A call that conflicts with no lock the context holds. -/
def Apart (taken : List Taken) : LockCall → Prop
  | lock offset length exclusive | testLock offset length exclusive =>
      Clear taken offset length exclusive
  | unlock _ => True

/-- No call of a run conflicts with a lock that the context holds then. -/
def AllApart : List Taken → List LockCall → Prop
  | _, [] => True
  | taken, call :: calls => call.Apart taken ∧ AllApart (call.next taken) calls

instance decidableApart (taken : List Taken) : (call : LockCall) → Decidable (call.Apart taken)
  | lock offset length exclusive =>
      inferInstanceAs (Decidable (Clear taken offset length exclusive))
  | testLock offset length exclusive =>
      inferInstanceAs (Decidable (Clear taken offset length exclusive))
  | unlock _ => .isTrue trivial

instance decidableAllApart : (taken : List Taken) → (calls : List LockCall) →
    Decidable (AllApart taken calls)
  | _, [] => .isTrue trivial
  | taken, call :: calls =>
      have : Decidable (AllApart (call.next taken) calls) := decidableAllApart _ calls
      inferInstanceAs (Decidable (call.Apart taken ∧ AllApart (call.next taken) calls))

/-- What a call comes to when it conflicts with nothing. -/
def outcome (taken : List Taken) : LockCall → LockOutcome
  | lock .. => .granted
  | unlock index => if index < taken.length then .released else .absent
  | testLock .. => .available true

/-- The outcomes of calls that conflict with nothing. -/
def outcomes : List Taken → List LockCall → List LockOutcome
  | _, [] => []
  | taken, call :: calls => call.outcome taken :: outcomes (call.next taken) calls

end LockCall

/-- Releasing a lock leaves what it was taken for. -/
theorem map_next_unlock {α : Type} (f : Taken → α)
    (same : ∀ taken held, f { taken with held } = f taken)
    (taken : List Taken) (index : Nat) :
    (LockCall.next taken (.unlock index)).map f = taken.map f := by
  apply List.ext_getElem?
  intro place
  rw [LockCall.next, List.getElem?_map, List.getElem?_map, List.getElem?_modify]
  cases taken[place]? with
  | none => rfl
  | some other =>
      split
      · exact congrArg some (same other false)
      · rfl

/-- What a backend has to do for a run to have these outcomes: every call keeps an
invariant that relates the tokens to the locks taken. -/
theorem performAll_of_invariant {σ : Type} {vfs : VfsBackend σ} {file : OpenFile}
    {invariant : List Taken → List LockToken → σ → Prop}
    (step : ∀ (call : LockCall) taken tokens state, invariant taken tokens state → call.Apart taken →
      ∃ tokens' state', (call.perform vfs file tokens).run state =
          some (.ok (call.outcome taken, tokens'), state') ∧
        invariant (call.next taken) tokens' state')
    {calls : List LockCall} {taken : List Taken} {tokens : List LockToken} {state : σ}
    (holds : invariant taken tokens state) (apart : LockCall.AllApart taken calls) :
    ∃ final, (LockCall.performAll vfs file calls tokens).run state =
      some (.ok (LockCall.outcomes taken calls), final) := by
  induction calls generalizing taken tokens state with
  | nil => exact ⟨state, rfl⟩
  | cons call calls ih =>
      obtain ⟨tokens', state', performed, kept⟩ := step call taken tokens state holds apart.1
      obtain ⟨final, rest⟩ := ih kept apart.2
      exact ⟨final, (Prog.bind_of_ok performed).trans (Prog.bind_of_ok rest)⟩

namespace V3Backend

variable {host : Host (List (Lock NlmOwner Bytes))} {port : UInt16} {file : OpenFile}

/-- Every lock is held by the one owner of the backend. -/
structure Alone (port : UInt16) (file : OpenFile) (taken : List Taken) (tokens : List LockToken)
    (backend : V3Backend (List (Lock NlmOwner Bytes))) : Prop where
  reaches : backend.Reaches port
  named : backend.Named file
  owner : ∀ lock ∈ backend.world, lock.owner = (nlmCaller, backend.lockOwner, backend.svid)
  tokens : tokens = taken.map fun taken => .v3 taken.offset taken.length

theorem Alone.free {taken : List Taken} {tokens : List LockToken}
    {backend : V3Backend (List (Lock NlmOwner Bytes))} (alone : Alone port file taken tokens backend)
    (offset length : UInt64) (exclusive : Bool) :
    blocking backend.world (backend.asks file offset length exclusive) = none := by
  apply RangeLocks.blocking_eq_none
  intro lock member conflicts
  exact conflicts.2.2.2 (alone.owner lock member).symm

theorem perform_alone (serves : ServesLocks host port) (call : LockCall) (taken : List Taken)
    (tokens : List LockToken) (backend : V3Backend (List (Lock NlmOwner Bytes)))
    (alone : Alone port file taken tokens backend) :
    ∃ tokens' next, (call.perform (V3Backend.backend host) file tokens).run backend =
        some (.ok (call.outcome taken, tokens'), next) ∧
      Alone port file (call.next taken) tokens' next := by
  cases call with
  | lock offset length exclusive =>
      have granted := lock_free serves alone.reaches alone.named (alone.free offset length exclusive)
      refine ⟨_, _, Prog.bind_of_ok (Prog.outcome_of granted), .inr rfl,
        ⟨alone.named.owner, alone.named.file⟩, ?_, ?_⟩
      · intro lock member
        rcases List.mem_append.mp member with before | new
        · exact alone.owner lock before
        · rw [List.mem_singleton.mp new]
          rfl
      · rw [LockCall.next, List.map_append, ← alone.tokens]
        rfl
  | unlock index =>
      have place : tokens[index]? = taken[index]?.map fun taken => .v3 taken.offset taken.length := by
        rw [alone.tokens, List.getElem?_map]
      have kept : tokens = (LockCall.next taken (.unlock index)).map
          fun taken => .v3 taken.offset taken.length := by
        rw [map_next_unlock _ fun _ _ => rfl, alone.tokens]
      by_cases inside : index < taken.length
      · rw [List.getElem?_eq_getElem inside, Option.map_some] at place
        have freed := @unlock_eq host port backend file taken[index].offset taken[index].length serves
          alone.reaches alone.named
        simp only [LockCall.perform, place, LockCall.outcome, if_pos inside]
        refine ⟨_, _, Prog.bind_of_ok (Prog.outcome_of freed), .inr rfl,
          ⟨alone.named.owner, alone.named.file⟩, ?_, kept⟩
        intro part member
        obtain ⟨lock, held, remains⟩ := List.mem_flatMap.mp member
        rw [(RangeLocks.Lock.of_mem_remains remains).1]
        exact alone.owner lock held
      · rw [List.getElem?_eq_none (Nat.not_lt.mp inside), Option.map_none] at place
        simp only [LockCall.perform, place, LockCall.outcome, if_neg inside]
        exact ⟨_, _, rfl, alone.reaches, alone.named, alone.owner, kept⟩
  | testLock offset length exclusive =>
      have granted := testLock_free serves alone.reaches alone.named
        (alone.free offset length exclusive)
      exact ⟨_, _, Prog.bind_of_ok (Prog.outcome_of granted), .inr rfl,
        ⟨alone.named.owner, alone.named.file⟩, alone.owner, alone.tokens⟩

end V3Backend

namespace V4Backend

open Proto (Stateid4)

variable {issue : LockOwner → Stateid4} {file : OpenFile} {taken : List Taken}
  {tokens : List LockToken} {backend : V4Backend Locks}

/-- A lock at the server lies within one that the context holds. -/
def Within (issue : LockOwner → Stateid4) (file : OpenFile) (taken : List Taken)
    (tokens : List LockToken) (lock : Lock LockOwner Bytes) : Prop :=
  ∃ (place : Nat) (other : Taken) (grant : Proto.LockGrant), taken[place]? = some other ∧ other.held ∧
    tokens[place]? = some (.v4 grant other.offset other.length) ∧ grant.stateid = issue lock.owner ∧
    lock.object = file.fh ∧ lock.exclusive = other.exclusive ∧ lock.range.Within other.range

/-- The locks at the server lie within those that the context holds. -/
structure Covered (issue : LockOwner → Stateid4) (file : OpenFile) (taken : List Taken)
    (tokens : List LockToken) (backend : V4Backend Locks) : Prop where
  established : backend.nfs.Established
  length : tokens.length = taken.length
  token : ∀ (place : Nat) (other : Taken), taken[place]? = some other →
    ∃ grant, tokens[place]? = some (LockToken.v4 grant other.offset other.length)
  within : ∀ lock ∈ backend.nfs.rpc.held, Within issue file taken tokens lock

theorem Covered.free {offset length : UInt64} {exclusive : Bool}
    (covered : Covered issue file taken tokens backend)
    (clear : Clear taken offset length exclusive) :
    blocking backend.nfs.rpc.held (backend.asks file offset length exclusive) = none := by
  apply RangeLocks.blocking_eq_none
  intro lock member conflicts
  obtain ⟨place, other, grant, at_place, held, -, -, -, same, within⟩ := covered.within lock member
  obtain ⟨-, overlaps, exclusion, -⟩ := conflicts
  refine clear other (List.mem_of_getElem? at_place) held ⟨overlaps.mono within, ?_⟩
  rwa [same] at exclusion

theorem Within.append {lock : Lock LockOwner Bytes} (within : Within issue file taken tokens lock)
    (more : List Taken) (others : List LockToken) :
    Within issue file (taken ++ more) (tokens ++ others) lock := by
  obtain ⟨place, other, grant, present, held, token, rest⟩ := within
  refine ⟨place, other, grant, ?_, held, ?_, rest⟩
  · rw [List.getElem?_append_left (List.getElem?_eq_some_iff.mp present).1, present]
  · rw [List.getElem?_append_left (List.getElem?_eq_some_iff.mp token).1, token]

/-- A lock is taken. -/
theorem Covered.lock {next : V4Backend Locks} {offset length : UInt64} {exclusive : Bool}
    (covered : Covered issue file taken tokens backend) (established : next.nfs.Established)
    (held : next.nfs.rpc.held =
      backend.nfs.rpc.held ++ [backend.asks file offset length exclusive]) :
    Covered issue file (taken ++ [⟨offset, length, exclusive, true⟩])
      (tokens ++ [.v4 ⟨issue (backend.asks file offset length exclusive).owner,
        Proto.Nfs4.locktype exclusive⟩ offset length]) next := by
  refine ⟨established, ?_, ?_, ?_⟩
  · rw [List.length_append, List.length_append, covered.length]
    rfl
  · intro place other present
    by_cases before : place < taken.length
    · rw [List.getElem?_append_left before] at present
      rw [List.getElem?_append_left (covered.length ▸ before)]
      exact covered.token place other present
    · rw [List.getElem?_append_right (Nat.not_lt.mp before), List.getElem?_singleton] at present
      split at present
      · rename_i last
        cases present
        rw [List.getElem?_append_right (covered.length ▸ Nat.not_lt.mp before), covered.length, last]
        exact ⟨_, rfl⟩
      · cases present
  · intro lock member
    rw [held] at member
    rcases List.mem_append.mp member with before | new
    · exact (covered.within lock before).append _ _
    · rw [List.mem_singleton.mp new]
      refine ⟨taken.length, ⟨offset, length, exclusive, true⟩,
        ⟨issue _, Proto.Nfs4.locktype exclusive⟩, List.getElem?_concat_length, rfl, ?_, rfl,
        rfl, rfl, Nat.le_refl _, Nat.le_refl _⟩
      rw [← covered.length, List.getElem?_concat_length]

/-- A lock is released: what the server held for it is gone. -/
theorem Covered.unlock {next : V4Backend Locks} {index : Nat} {other : Taken}
    {grant : Proto.LockGrant} (covered : Covered issue file taken tokens backend)
    (established : next.nfs.Established) (present : taken[index]? = some other)
    (token : tokens[index]? = some (.v4 grant other.offset other.length))
    (held : next.nfs.rpc.held = release backend.nfs.rpc.held
      (fun owner => issue owner = grant.stateid) file.fh (rangeOf other.offset other.length)) :
    Covered issue file (LockCall.next taken (.unlock index)) tokens next := by
  refine ⟨established, ?_, ?_, ?_⟩
  · rw [LockCall.next, List.length_modify, covered.length]
  · intro place kept at_place
    have offsets := congrArg (fun list => list[place]?)
      (map_next_unlock (fun taken => (taken.offset, taken.length)) (fun _ _ => rfl) taken index)
    simp only [List.getElem?_map, at_place, Option.map_some] at offsets
    obtain ⟨same, before, pair⟩ := Option.map_eq_some_iff.mp offsets.symm
    obtain ⟨grant, token⟩ := covered.token place same before
    obtain ⟨offset, length⟩ := Prod.mk.inj pair
    rw [offset, length] at token
    exact ⟨grant, token⟩
  · intro part member
    rw [held] at member
    obtain ⟨lock, locked, remains⟩ := List.mem_flatMap.mp member
    obtain ⟨place, kept, granted, at_place, holding, tokened, stateid, object, mode, within⟩ :=
      covered.within lock locked
    by_cases released : place = index
    · -- the lock lies within the range that is freed
      subst released
      rw [present] at at_place
      cases at_place
      rw [token] at tokened
      cases tokened
      have gone : lock.remains (fun owner => issue owner = grant.stateid) lock.object
          (rangeOf other.offset other.length) = [] :=
        RangeLocks.Lock.remains_eq_nil (decide_eq_true stateid.symm) within
      rw [← object, gone] at remains
      cases remains
    · obtain ⟨sameOwner, sameObject, sameMode, inside⟩ := RangeLocks.Lock.of_mem_remains remains
      refine ⟨place, kept, granted, ?_, holding, tokened, ?_, ?_, ?_, ?_⟩
      · have other : ¬ index = place := fun same => released same.symm
        rw [LockCall.next, List.getElem?_modify, at_place]
        simp only [other, ↓reduceIte]
        rfl
      · rw [sameOwner]
        exact stateid
      · rw [sameObject]
        exact object
      · rw [sameMode]
        exact mode
      · exact ⟨Nat.le_trans within.1 inside.1, Nat.le_trans inside.2 within.2⟩

theorem perform_covered (short : Proto.NfsFh4.Short ⟨file.fh⟩) (call : LockCall)
    (taken : List Taken) (tokens : List LockToken) (backend : V4Backend Locks)
    (covered : Covered issue file taken tokens backend) (apart : call.Apart taken) :
    ∃ tokens' next,
      (call.perform (V4Backend.backend (Locks.server issue).transport) file tokens).run backend =
        some (.ok (call.outcome taken, tokens'), next) ∧
      Covered issue file (call.next taken) tokens' next := by
  cases call with
  | lock offset length exclusive =>
      obtain ⟨next, granted, established, held⟩ :=
        lock_free covered.established short (covered.free apart)
      exact ⟨_, next, Prog.bind_of_ok (Prog.outcome_of granted), covered.lock established held⟩
  | unlock index =>
      by_cases inside : index < taken.length
      · have present := List.getElem?_eq_getElem inside
        obtain ⟨grant, token⟩ := covered.token index _ present
        obtain ⟨next, freed, established, held⟩ :=
          @unlock_eq issue backend file taken[index].offset taken[index].length grant
            covered.established short
        simp only [LockCall.perform, token, LockCall.outcome, if_pos inside]
        exact ⟨_, next, Prog.bind_of_ok (Prog.outcome_of freed),
          covered.unlock established present token held⟩
      · have absent : tokens[index]? = none :=
          List.getElem?_eq_none (covered.length ▸ Nat.not_lt.mp inside)
        have same : LockCall.next taken (.unlock index) = taken :=
          List.modify_eq_self (Nat.not_lt.mp inside)
        simp only [LockCall.perform, absent, LockCall.outcome, if_neg inside]
        exact ⟨_, _, rfl, same.symm ▸ covered⟩
  | testLock offset length exclusive =>
      obtain ⟨next, granted, established, held⟩ :=
        testLock_free covered.established short (covered.free apart)
      exact ⟨_, next, Prog.bind_of_ok (Prog.outcome_of granted), established, covered.length,
        covered.token, held.symm ▸ covered.within⟩

end V4Backend

/-- A run of calls that conflict with no lock the context holds has the same outcomes
over both versions. -/
theorem locks_agree_of_apart {host : Host (List (Lock NlmOwner Bytes))} {port : UInt16}
    (serves : ServesLocks host port) (issue : LockOwner → Proto.Stateid4) (file3 file4 : OpenFile)
    (v3 : V3Backend (List (Lock NlmOwner Bytes))) (v4 : V4Backend Locks)
    (named : v3.Named file3) (reaches : v3.Reaches port) (free3 : v3.world = [])
    (established : v4.nfs.Established) (short : Proto.NfsFh4.Short ⟨file4.fh⟩)
    (free4 : v4.nfs.rpc.held = []) (calls : List LockCall) (apart : LockCall.AllApart [] calls) :
    ∃ outcomes final3 final4,
      (LockCall.performAll (V3Backend.backend host) file3 calls []).run v3 =
        some (.ok outcomes, final3) ∧
      (LockCall.performAll (V4Backend.backend (Locks.server issue).transport) file4 calls []).run
        v4 = some (.ok outcomes, final4) := by
  have alone : V3Backend.Alone port file3 [] [] v3 := by
    refine ⟨reaches, named, ?_, rfl⟩
    intro lock member
    rw [free3] at member
    cases member
  have covered : V4Backend.Covered issue file4 [] [] v4 := by
    refine ⟨established, rfl, ?_, ?_⟩
    · intro place other present
      cases present
    · intro lock member
      rw [free4] at member
      cases member
  obtain ⟨final3, ran3⟩ := performAll_of_invariant
    (fun call taken tokens state holds _ => V3Backend.perform_alone serves call taken tokens state
      holds) alone apart
  obtain ⟨final4, ran4⟩ := performAll_of_invariant (V4Backend.perform_covered short) covered apart
  exact ⟨_, final3, final4, ran3, ran4⟩

/-- A host whose lock manager is at a port of its own. -/
def lockHost : Host (List (Lock NlmOwner Bytes)) where
  nfs := nlmManager.transport
  protocol := .tcp
  portmapPort := 111
  connect _ := return ()
  port number :=
    if number = 111 then Proto.Portmap.transport fun _ _ _ => 4045 else nlmManager.transport

theorem lockHost_serves : ServesLocks lockHost 4045 :=
  ⟨fun _ _ => rfl, fun _ => Proto.Portmap.getport_eq (by decide), rfl⟩

def lockClient3 : V3Backend (List (Lock NlmOwner Bytes)) :=
  ⟨[], 65536, 65536, none, Proto.uniqueOwner 1 1, 1⟩

def lockClient4 : V4Backend Locks :=
  .new ⟨⟨[], []⟩, 0, 1, Proto.uniqueOwner 1 1, 0, 0, none, 0⟩

/-- A stateid that holds the last bytes of the owner's name. -/
def issueByName (owner : LockOwner) : Proto.Stateid4 :=
  ⟨1, ⟨((owner.2.reverse ++ List.replicate 12 0).take 12).toArray, by simp⟩⟩

def lockFile : OpenFile :=
  ⟨[1], none, true⟩

/-- A shared lock is taken twice and released. -/
theorem locks_agree_shared :
    ∃ outcomes final3 final4,
      (LockCall.performAll (V3Backend.backend lockHost) lockFile
        [.lock 0 10 false, .lock 5 10 false, .unlock 0, .testLock 0 5 true] []).run lockClient3 =
        some (.ok outcomes, final3) ∧
      (LockCall.performAll (V4Backend.backend (Locks.server issueByName).transport) lockFile
        [.lock 0 10 false, .lock 5 10 false, .unlock 0, .testLock 0 5 true] []).run lockClient4 =
        some (.ok outcomes, final4) :=
  locks_agree_of_apart lockHost_serves issueByName lockFile lockFile lockClient3 lockClient4
    ⟨by decide, by decide⟩ (.inl rfl) rfl ⟨.inl rfl, 1, 1, rfl⟩ (by decide) rfl _ (by decide)

/-- A context that takes an exclusive lock twice has it over NFSv3, and is in its own way
over NFSv4. -/
theorem locks_differ_exclusive :
    ((LockCall.performAll (V3Backend.backend lockHost) lockFile
      [.lock 0 10 true, .lock 5 10 true] []).run lockClient3).map Prod.fst =
        some (.ok [.granted, .granted]) ∧
    ((LockCall.performAll (V4Backend.backend (Locks.server issueByName).transport) lockFile
      [.lock 0 10 true, .lock 5 10 true] []).run lockClient4).map Prod.fst =
        some (.ok [.granted, .failed .locked]) := by
  constructor
  · decide +kernel
  · decide +kernel

end LibNfs.Client
