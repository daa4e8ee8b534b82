import LibNfs.Client.Leases

/-! # Leases exclude each other

Every lock of a context is asked for by an owner of its own, which is how the contexts
at a server follow the ledger of `RangeLocks`. Whatever the network delivers, and when,
a lease that was not released is held at the server, and two of them overlap only when
both are shared.
-/

namespace LibNfs.Client

open Proto (Stateid4 Nfs4)
open RangeLocks (Range Lock Ledger blocking release)
open V4Backend (Continues)

/-- The lock that a call asks for. -/
def Made.asks (made : Made) : Option (Lock LockOwner Bytes) :=
  match made.call with
  | .lock file offset length exclusive => some (made.before.asks file offset length exclusive)
  | _ => none

/-- The lock-owners that some calls name. -/
def named (calls : List Made) : Nat :=
  (calls.map fun made => made.call.names).sum

section Named

variable {calls : List Made} {made : Made} {place : Nat}

theorem named_append (calls more : List Made) : named (calls ++ more) = named calls + named more := by
  rw [named, List.map_append, List.sum_append]
  rfl

theorem named_take_succ (sent : calls[place]? = some made) :
    named (calls.take (place + 1)) = named (calls.take place) + made.call.names := by
  rw [List.take_add_one, sent, named_append]
  rfl

theorem named_take_last (sent : calls[place]? = some made) (last : place + 1 = calls.length) :
    named (calls.take place) + made.call.names = named calls := by
  rw [← named_take_succ sent, last, List.take_length]

theorem named_take_le (sent : calls[place]? = some made) :
    named (calls.take place) + made.call.names ≤ named calls := by
  rw [← named_take_succ sent]
  have parts := named_append (calls.take (place + 1)) (calls.drop (place + 1))
  rw [List.take_append_drop] at parts
  omega

theorem Made.call_of_asks {lock : Lock LockOwner Bytes} (asks : made.asks = some lock) :
    ∃ file offset length exclusive, made.call = .lock file offset length exclusive ∧
      lock = made.before.asks file offset length exclusive := by
  unfold Made.asks at asks
  split at asks
  · rename_i file offset length exclusive called
    exact ⟨file, offset, length, exclusive, called, (Option.some.inj asks).symm⟩
  · cases asks

theorem Made.names_of_asks {lock : Lock LockOwner Bytes} (asks : made.asks = some lock) :
    made.call.names = 1 := by
  obtain ⟨file, offset, length, exclusive, called, -⟩ := call_of_asks asks
  rw [called]
  rfl

end Named

namespace Cluster

variable {ι : Type} {contexts : ι → V4Backend Locks} {cluster next : Cluster ι}
  {issue : LockOwner → Stateid4}

/-- The contexts are those of the start, and each has named as many owners as its calls. -/
structure Counted (contexts : ι → V4Backend Locks) (cluster : Cluster ι) : Prop where
  before : ∀ i place made, (cluster.calls i)[place]? = some made →
    Continues (contexts i).nfs (named ((cluster.calls i).take place)) made.before
  context : ∀ i, cluster.waiting i = false →
    Continues (contexts i).nfs (named (cluster.calls i)) (cluster.context i)
  answers : ∀ answer ∈ cluster.answers, ∃ made,
    (cluster.calls answer.context)[answer.place]? = some made ∧
      Continues (contexts answer.context).nfs
        (named ((cluster.calls answer.context).take answer.place) + made.call.names) answer.next

theorem counted_start (contexts : ι → V4Backend Locks) : Counted contexts (start contexts) where
  before := fun _ _ _ absent => by cases absent
  context := fun i _ => Nfs4.Continues.refl (contexts i).nfs
  answers := fun _ absent => absurd absent List.not_mem_nil

variable [DecidableEq ι]

/-- What was known of a call is known after one more. -/
theorem Counted.making (counted : Counted contexts cluster) (i : ι) (call : LeaseCall)
    (idle : cluster.waiting i = false) : Counted contexts (cluster.making i call) where
  before := by
    intro j place made sent
    by_cases same : j = i
    · subst same
      simp only [Cluster.making, Function.update_self] at sent ⊢
      by_cases old : place < (cluster.calls j).length
      · rw [List.getElem?_append_left old] at sent
        rw [List.take_append_of_le_length old.le]
        exact counted.before j place made sent
      · have last : place = (cluster.calls j).length := by
          have inside := (List.getElem?_eq_some_iff.mp sent).1
          rw [List.length_append, List.length_singleton] at inside
          omega
        subst last
        rw [List.getElem?_concat_length] at sent
        cases sent
        rw [List.take_left]
        exact counted.context j idle
    · simp only [Cluster.making, Function.update_of_ne same] at sent ⊢
      exact counted.before j place made sent
  context := by
    intro j idle'
    by_cases same : j = i
    · subst same
      simp only [Cluster.making, Function.update_self] at idle'
      cases idle'
    · simp only [Cluster.making, Function.update_of_ne same] at idle' ⊢
      exact counted.context j idle'
  answers := by
    intro answer answered
    obtain ⟨made, sent, continues⟩ := counted.answers answer answered
    refine ⟨made, ?_⟩
    by_cases same : answer.context = i
    · have old := (List.getElem?_eq_some_iff.mp sent).1
      subst same
      simp only [Cluster.making, Function.update_self]
      rw [List.getElem?_append_left old, List.take_append_of_le_length old.le]
      exact ⟨sent, continues⟩
    · simp only [Cluster.making, Function.update_of_ne same]
      exact ⟨sent, continues⟩

theorem Counted.ending (counted : Counted contexts cluster) {i : ι} {after : V4Backend Locks}
    (continues : Continues (contexts i).nfs (named (cluster.calls i)) after) :
    Counted contexts (cluster.ending i after) where
  before := counted.before
  context := by
    intro j idle
    by_cases same : j = i
    · subst same
      simp only [Cluster.ending, Function.update_self]
      exact continues
    · simp only [Cluster.ending, Function.update_of_ne same] at idle ⊢
      exact counted.context j idle
  answers := counted.answers

theorem Counted.step (counted : Counted contexts cluster) (step : Step issue cluster next) :
    Counted contexts next := by
  cases step with
  | make i idle short keeps => exact counted.making i _ idle
  | @release file lease index i idle short present =>
      have made := counted.making i (.unlock file lease) idle
      exact ⟨made.before, made.context, made.answers⟩
  | @serve made outcome after i place sent served =>
      refine ⟨counted.before, counted.context, fun answer answered => ?_⟩
      rcases List.mem_append.mp answered with before | new
      · exact counted.answers answer before
      · rw [List.mem_singleton.mp new]
        have before : Continues (contexts i).nfs (named ((cluster.calls i).take place))
            (made.before.over cluster.locks) :=
          (counted.before i place made sent).over cluster.locks
        exact ⟨made, sent, LeaseCall.perform_continues _ _ _ _ before served⟩
  | @finish answer waiting answered last =>
      obtain ⟨made, sent, continues⟩ := counted.answers answer answered
      rw [named_take_last sent last] at continues
      have ended := counted.ending continues
      exact ⟨ended.before, ended.context, ended.answers⟩
  | giveUp i place waiting sent last failed =>
      have continues := LeaseCall.perform_continues _ _ _ _ (counted.before i place _ sent) failed
      rw [named_take_last sent last] at continues
      exact counted.ending continues

/-- The lease is what a context has of a lock. -/
structure Leased (issue : LockOwner → Stateid4) (lock : Lock LockOwner Bytes) (lease : Lease) :
    Prop where
  object : lease.file.fh = lock.object
  range : lease.range = lock.range
  exclusive : lease.exclusive = lock.exclusive
  token : ∃ locktype, lease.token = .v4 ⟨issue lock.owner, locktype⟩ lease.offset lease.length

/-- The lock-owners in whose names locks were asked for. -/
def owners (cluster : Cluster ι) : Set LockOwner :=
  {owner | ∃ i, ∃ made ∈ cluster.calls i, ∃ lock, made.asks = some lock ∧ lock.owner = owner}

/-- The ledger tells what the server holds and what the contexts asked for, were granted
and released. -/
structure Follows (issue : LockOwner → Stateid4) (cluster : Cluster ι)
    (ledger : Ledger LockOwner Bytes) : Prop where
  held : ledger.held = cluster.locks.held
  asked : ∀ lock, lock ∈ ledger.asked ↔ ∃ i, ∃ made ∈ cluster.calls i, made.asks = some lock
  answers : ∀ answer ∈ cluster.answers, ∀ lease ∈ LeaseCall.leases answer.outcome,
    ∃ made lock, (cluster.calls answer.context)[answer.place]? = some made ∧
      made.asks = some lock ∧ lock ∈ ledger.answers ∧ Leased issue lock lease
  awaited : ∀ i place made lock, cluster.waiting i = true →
    (cluster.calls i)[place]? = some made → place + 1 = (cluster.calls i).length →
    made.asks = some lock → lock ∉ ledger.settled
  leases : List.Forall₂ (Leased issue) ledger.granted cluster.leases
  released : ∀ i, ∀ made ∈ cluster.calls i, ∀ file lease, made.call = .unlock file lease →
    ∃ lock, Leased issue lock lease ∧ lock.owner ∈ ledger.returned ∧ lock ∈ ledger.asked
  short : ∀ i, ∀ made ∈ cluster.calls i, Proto.NfsFh4.Short ⟨made.call.file.fh⟩

variable {ledger : Ledger LockOwner Bytes} {made : Made} {lock : Lock LockOwner Bytes} {i : ι}
  {place : Nat}

omit [DecidableEq ι] in
theorem follows_start (contexts : ι → V4Backend Locks) :
    Follows issue (start contexts) .empty where
  held := rfl
  asked := fun lock => iff_of_false List.not_mem_nil fun ⟨_, _, absent, _⟩ =>
    List.not_mem_nil absent
  answers := fun _ absent => absurd absent List.not_mem_nil
  awaited := fun _ _ _ _ absent => by cases absent
  leases := .nil
  released := fun _ _ absent => absurd absent List.not_mem_nil
  short := fun _ _ absent => absurd absent List.not_mem_nil

omit [DecidableEq ι] in
/-- The owner of a lock is named by the client and its place among the calls. -/
theorem Counted.owner (counted : Counted contexts cluster)
    (sent : (cluster.calls i)[place]? = some made) (asks : made.asks = some lock) :
    lock.owner =
      ((contexts i).nfs.clientid, (contexts i).nfs.lockName (named ((cluster.calls i).take place))) := by
  obtain ⟨file, offset, length, exclusive, -, rfl⟩ := Made.call_of_asks asks
  have continues := counted.before i place made sent
  exact Prod.ext continues.clientid continues.nextLockOwner

omit [DecidableEq ι] in
theorem Follows.asked_of_sent (follows : Follows issue cluster ledger)
    (sent : (cluster.calls i)[place]? = some made) (asks : made.asks = some lock) :
    lock ∈ ledger.asked :=
  (follows.asked lock).mpr ⟨i, made, List.mem_of_getElem? sent, asks⟩

theorem mem_making {call : LeaseCall} {j : ι} :
    made ∈ (cluster.making i call).calls j ↔
      made ∈ cluster.calls j ∨ j = i ∧ made = ⟨call, cluster.context i⟩ := by
  by_cases same : j = i
  · subst same
    simp only [Cluster.making, Function.update_self, List.mem_append, List.mem_singleton, true_and]
  · simp only [Cluster.making, Function.update_of_ne same, same, false_and, or_false]

/-- A call is made; the ledger may tell more than before. -/
theorem Follows.making {call : LeaseCall} {leases : List Lease} {after : Ledger LockOwner Bytes}
    (follows : Follows issue cluster ledger) (short : Proto.NfsFh4.Short ⟨call.file.fh⟩)
    (held : after.held = ledger.held) (answers : after.answers = ledger.answers)
    (settled : after.settled = ledger.settled)
    (asked : ∀ lock, lock ∈ after.asked ↔
      lock ∈ ledger.asked ∨ Made.asks ⟨call, cluster.context i⟩ = some lock)
    (awaited : ∀ lock, Made.asks ⟨call, cluster.context i⟩ = some lock → lock ∉ ledger.settled)
    (granted : List.Forall₂ (Leased issue) after.granted leases)
    (returned : ∀ owner ∈ ledger.returned, owner ∈ after.returned)
    (released : ∀ file lease, call = .unlock file lease →
      ∃ lock, Leased issue lock lease ∧ lock.owner ∈ after.returned ∧ lock ∈ ledger.asked) :
    Follows issue { cluster.making i call with leases } after where
  held := held.trans follows.held
  asked := by
    intro lock
    rw [asked, follows.asked]
    constructor
    · rintro (⟨j, made, sent, asks⟩ | asks)
      · exact ⟨j, made, mem_making.mpr (.inl sent), asks⟩
      · exact ⟨i, _, mem_making.mpr (.inr ⟨rfl, rfl⟩), asks⟩
    · rintro ⟨j, made, sent, asks⟩
      rcases mem_making.mp sent with before | ⟨-, rfl⟩
      · exact .inl ⟨j, made, before, asks⟩
      · exact .inr asks
  answers := by
    intro answer answered lease given
    obtain ⟨made, lock, sent, asks, known, leased⟩ := follows.answers answer answered lease given
    refine ⟨made, lock, ?_, asks, answers ▸ known, leased⟩
    by_cases same : answer.context = i
    · have old := (List.getElem?_eq_some_iff.mp sent).1
      subst same
      simp only [Cluster.making, Function.update_self]
      rw [List.getElem?_append_left old, sent]
    · simp only [Cluster.making, Function.update_of_ne same, sent]
  awaited := by
    intro j place made lock waiting sent last asks
    rw [settled]
    by_cases same : j = i
    · subst same
      simp only [Cluster.making, Function.update_self] at sent last
      rw [List.length_append, List.length_singleton] at last
      rw [Nat.succ_inj.mp last, List.getElem?_concat_length] at sent
      cases sent
      exact awaited lock asks
    · simp only [Cluster.making, Function.update_of_ne same] at waiting sent last
      exact follows.awaited j place made lock waiting sent last asks
  leases := granted
  released := by
    intro j made sent file lease called
    rcases mem_making.mp sent with before | ⟨-, rfl⟩
    · obtain ⟨lock, leased, owner, known⟩ := follows.released j made before file lease called
      exact ⟨lock, leased, returned _ owner, (asked lock).mpr (.inl known)⟩
    · obtain ⟨lock, leased, owner, known⟩ := released file lease called
      exact ⟨lock, leased, owner, (asked lock).mpr (.inl known)⟩
  short := by
    intro j made sent
    rcases mem_making.mp sent with before | ⟨-, rfl⟩
    · exact follows.short j made before
    · exact short

omit [DecidableEq ι] in
/-- The server executes a call. -/
theorem Follows.serving (follows : Follows issue cluster ledger)
    (outcome : Except NfsError LeaseReply) (after : V4Backend Locks)
    (answers : List (Lock LockOwner Bytes)) (sent : (cluster.calls i)[place]? = some made)
    (known : ∀ lock ∈ ledger.answers, lock ∈ answers)
    (new : ∀ lease ∈ LeaseCall.leases outcome, ∃ lock, made.asks = some lock ∧ lock ∈ answers ∧
      Leased issue lock lease) :
    Follows issue
      { cluster with
        locks := after.nfs.rpc, answers := cluster.answers ++ [⟨i, place, outcome, after⟩] }
      { ledger with held := after.nfs.rpc.held, answers := answers } where
  held := rfl
  asked := follows.asked
  answers := by
    intro answer answered lease given
    rcases List.mem_append.mp answered with before | last
    · obtain ⟨made, lock, sent, asks, answered, leased⟩ :=
        follows.answers answer before lease given
      exact ⟨made, lock, sent, asks, known lock answered, leased⟩
    · rw [List.mem_singleton.mp last] at given ⊢
      obtain ⟨lock, asks, answered, leased⟩ := new lease given
      exact ⟨made, lock, sent, asks, answered, leased⟩
  awaited := follows.awaited
  leases := follows.leases
  released := follows.released
  short := follows.short

/-- A call of a context has ended. -/
theorem Follows.ending {after : V4Backend Locks} (follows : Follows issue cluster ledger) :
    Follows issue (cluster.ending i after) ledger where
  held := follows.held
  asked := follows.asked
  answers := follows.answers
  awaited := by
    intro j place made lock waiting
    by_cases same : j = i
    · subst same
      simp only [Cluster.ending, Function.update_self] at waiting
      cases waiting
    · simp only [Cluster.ending, Function.update_of_ne same] at waiting
      exact follows.awaited j place made lock waiting
  leases := follows.leases
  released := follows.released
  short := follows.short

section Simulating

variable (established : ∀ i, (contexts i).nfs.Established)
  (apart : ∀ i j, (contexts i).nfs.clientid = (contexts j).nfs.clientid → i = j)

include apart in
omit [DecidableEq ι] in
/-- A lock that a context asks for has an owner that no call before it named. -/
theorem Follows.fresh (follows : Follows issue cluster ledger)
    (counted : Counted contexts cluster) (idle : cluster.waiting i = false)
    (few : named (cluster.calls i) < 2 ^ 32) {call : LeaseCall}
    (asks : Made.asks ⟨call, cluster.context i⟩ = some lock) :
    ∀ other ∈ ledger.asked, other.owner ≠ lock.owner := by
  intro other asked same
  obtain ⟨j, made, member, asks'⟩ := (follows.asked other).mp asked
  obtain ⟨place, sent⟩ := List.mem_iff_getElem?.mp member
  obtain ⟨file, offset, length, exclusive, -, rfl⟩ := Made.call_of_asks asks
  have continues := counted.context i idle
  obtain ⟨client, name⟩ := Prod.mk.inj ((counted.owner sent asks').symm.trans same)
  rw [show (cluster.context i).nfs.clientid = (contexts i).nfs.clientid from continues.clientid]
    at client
  cases apart j i client
  rw [Nfs4.Continues.nextLockOwner continues] at name
  have earlier := named_take_le sent
  rw [Made.names_of_asks asks'] at earlier
  have counts := Nfs4.lockName_inj (by omega) few name
  omega

include established in
omit [DecidableEq ι] in
/-- The server makes of a call what the ledger allows. -/
theorem Follows.serve {outcome : Except NfsError LeaseReply} {after : V4Backend Locks}
    (sound : ledger.Sound) (follows : Follows issue cluster ledger)
    (counted : Counted contexts cluster) (distinct : Set.InjOn issue cluster.owners)
    (sent : (cluster.calls i)[place]? = some made)
    (served : (made.call.perform (Cluster.served issue)).run (made.before.over cluster.locks) =
      some (outcome, after)) :
    ∃ ledger', Relation.ReflTransGen Ledger.Step ledger ledger' ∧ Follows issue
      { cluster with
        locks := after.nfs.rpc, answers := cluster.answers ++ [⟨i, place, outcome, after⟩] }
      ledger' := by
  have ready : (made.before.over cluster.locks).nfs.Established :=
    ((counted.before i place made sent).over cluster.locks).established (established i)
  have short := follows.short i made (List.mem_of_getElem? sent)
  -- a call that leaves the locks alone leaves the ledger alone
  have silent (kept : after.nfs.rpc.held = cluster.locks.held)
      (none : LeaseCall.leases outcome = []) : Follows issue
        { cluster with
          locks := after.nfs.rpc, answers := cluster.answers ++ [⟨i, place, outcome, after⟩] }
        ledger := by
    have serving := follows.serving outcome after ledger.answers sent (fun _ => id)
      fun lease given => absurd (none ▸ given) List.not_mem_nil
    rwa [kept, ← follows.held] at serving
  obtain ⟨call, before⟩ := made
  cases call with
  | lock file offset length exclusive =>
      obtain ⟨outcome', after', ran, cases⟩ :=
        @LeaseCall.perform_lock issue _ file offset length exclusive ready short
      cases ran.symm.trans served
      rcases cases with ⟨free, held, granted⟩ | ⟨held, none⟩
      · -- the lock is taken, and its lease is on the way
        have asked := follows.asked_of_sent sent rfl
        refine ⟨_, .single (.acquire asked (follows.held ▸ free)), ?_⟩
        have serving := follows.serving outcome after
          (ledger.answers ++ [before.asks file offset length exclusive]) sent
          (fun _ known => List.mem_append_left _ known) fun lease given => by
            rw [granted] at given
            obtain rfl := List.mem_singleton.mp given
            exact ⟨_, rfl, List.mem_append_right _ (List.mem_singleton_self _), rfl, rfl, rfl, _, rfl⟩
        rw [held] at serving
        rw [follows.held]
        exact serving
      · exact ⟨ledger, .refl, silent held none⟩
  | testLock file offset length exclusive =>
      obtain ⟨outcome', after', ran, held, none⟩ :=
        @LeaseCall.perform_testLock issue _ file offset length exclusive ready short
      cases ran.symm.trans served
      exact ⟨ledger, .refl, silent held none⟩
  | unlock file lease =>
      obtain ⟨lock, leased, returned, asked⟩ :=
        follows.released i _ (List.mem_of_getElem? sent) file lease rfl
      obtain ⟨locktype, token⟩ := leased.token
      obtain ⟨outcome', after', ran, held, none⟩ :=
        @LeaseCall.perform_unlock issue _ file _ _ lease _ ready short token
      cases ran.symm.trans served
      have owned {other : Lock LockOwner Bytes} (asked : other ∈ ledger.asked) :
          other.owner ∈ cluster.owners := by
        obtain ⟨j, made, member, asks⟩ := (follows.asked other).mp asked
        exact ⟨j, made, member, other, asks, rfl⟩
      -- the stateid names one owner among those that hold locks
      have frees (held : Lock LockOwner Bytes) (locked : held ∈ ledger.held)
          (freed : decide (issue held.owner = issue lock.owner) = true) :
          held.owner ∈ ledger.returned := by
        obtain ⟨other, asked', same⟩ := sound.owners held locked
        have equal := distinct (same ▸ owned asked') (owned asked) (of_decide_eq_true freed)
        exact equal ▸ returned
      refine ⟨_, .single (@Ledger.Step.free _ _ _ _ ledger
        (fun owner => issue owner = issue lock.owner) file.fh lease.range frees), ?_⟩
      have serving := follows.serving outcome after ledger.answers sent (fun _ => id)
        fun lease given => absurd (none ▸ given) List.not_mem_nil
      rw [held] at serving
      rw [follows.held]
      exact serving

include established apart in
/-- What the contexts, the server and the network do follows the ledger. -/
theorem Follows.step (sound : ledger.Sound) (follows : Follows issue cluster ledger)
    (counted : Counted contexts cluster) (step : Step issue cluster next)
    (few : ∀ i, named (next.calls i) ≤ 2 ^ 32) (distinct : Set.InjOn issue next.owners) :
    ∃ ledger', Relation.ReflTransGen Ledger.Step ledger ledger' ∧ Follows issue next ledger' := by
  cases step with
  | @make call i idle short keeps =>
      have spare := few i
      simp only [Cluster.making, Function.update_self] at spare
      rw [named_append] at spare
      have new : named [⟨call, cluster.context i⟩] = call.names := Nat.add_zero _
      rcases asks : Made.asks ⟨call, cluster.context i⟩ with _ | lock
      · refine ⟨ledger, .refl, follows.making short rfl rfl rfl (fun lock => ?_)
          (fun lock absurd => ?_) follows.leases (fun _ => id) fun file lease called => ?_⟩
        · rw [asks]
          simp only [reduceCtorEq, or_false]
        · rw [asks] at absurd
          cases absurd
        · rw [called] at keeps
          cases keeps
      · have fresh := follows.fresh apart counted idle (by omega) asks
        refine ⟨_, .single (.ask lock fresh), follows.making short rfl rfl rfl (fun other => ?_)
          (fun other same => ?_) follows.leases (fun _ => id) fun file lease called => ?_⟩
        · rw [asks, List.mem_append, List.mem_singleton, Option.some_inj, eq_comm]
        · intro settled
          rw [asks, Option.some_inj] at same
          exact fresh other (sound.asked_of_settled settled) (same ▸ rfl)
        · rw [called] at keeps
          cases keeps
  | @release file lease index i idle short present =>
      obtain ⟨lock, granted, leased⟩ := RangeLocks.exists_of_forall₂ follows.leases present
      have settled := (sound.granted lock (List.mem_of_getElem? granted)).1
      refine ⟨_, .single (.giveBack granted), follows.making short rfl rfl rfl (fun other => ?_)
        (fun other absurd => ?_) (RangeLocks.forall₂_eraseIdx follows.leases index)
        (fun _ => List.mem_append_left _) fun file' lease' called => ?_⟩
      · simp only [Made.asks, reduceCtorEq, or_false]
      · cases absurd
      · cases called
        exact ⟨lock, leased, List.mem_append_right _ (List.mem_singleton_self _),
          sound.asked_of_settled settled⟩
  | serve i place sent served =>
      exact follows.serve established sound counted distinct sent served
  | @finish answer waiting answered last =>
      have ended : Follows issue (cluster.ending answer.context answer.next) ledger := follows.ending
      rcases replied : LeaseCall.leases answer.outcome with _ | ⟨lease, others⟩
      · refine ⟨ledger, .refl, ?_⟩
        rw [List.append_nil]
        exact ended
      · obtain rfl := LeaseCall.eq_nil_of_leases replied
        obtain ⟨made, lock, sent, asks, known, leased⟩ :=
          follows.answers answer answered lease (replied ▸ List.mem_singleton_self _)
        have awaited := follows.awaited _ _ made lock waiting sent last asks
        refine ⟨_, .single (.grant known awaited), ended.held, ended.asked, ended.answers, ?_,
          List.rel_append follows.leases (.cons leased .nil), ended.released, ended.short⟩
        intro j place made' lock' waiting' sent' last' asks' settled
        rcases List.mem_append.mp settled with before | same
        · exact ended.awaited j place made' lock' waiting' sent' last' asks' before
        · -- the lock that is granted is not the one another context waits for
          have elsewhere : j ≠ answer.context := by
            rintro rfl
            simp only [Cluster.ending, Function.update_self] at waiting'
            cases waiting'
          have owners := (counted.owner sent' asks').symm.trans
            ((congrArg Lock.owner (List.mem_singleton.mp same)).trans (counted.owner sent asks))
          exact elsewhere (apart _ _ (Prod.mk.inj owners).1)
  | giveUp i place waiting sent last failed => exact ⟨ledger, .refl, follows.ending⟩

omit [DecidableEq ι] in
theorem owners_mono (grown : ∀ i, ∃ more, next.calls i = cluster.calls i ++ more) :
    cluster.owners ⊆ next.owners := by
  rintro owner ⟨i, made, sent, rest⟩
  obtain ⟨more, same⟩ := grown i
  exact ⟨i, made, same ▸ List.mem_append_left more sent, rest⟩

/-- No call is forgotten. -/
theorem Step.grown (step : Step issue cluster next) (j : ι) :
    ∃ more, next.calls j = cluster.calls j ++ more := by
  have made (i : ι) (call : LeaseCall) :
      ∃ more, (cluster.making i call).calls j = cluster.calls j ++ more := by
    by_cases same : j = i
    · subst same
      exact ⟨_, Function.update_self j _ _⟩
    · exact ⟨[], (Function.update_of_ne same _ _).trans (List.append_nil _).symm⟩
  cases step with
  | make i idle short keeps => exact made i _
  | release i idle short present => exact made i _
  | serve i place sent served => exact ⟨[], (List.append_nil _).symm⟩
  | finish waiting answered last => exact ⟨[], (List.append_nil _).symm⟩
  | giveUp i place waiting sent last failed => exact ⟨[], (List.append_nil _).symm⟩

include established apart in
/-- Every run follows the ledger. -/
theorem follows_of_reaches (reaches : Reaches issue contexts cluster)
    (few : ∀ i, named (cluster.calls i) ≤ 2 ^ 32) (distinct : Set.InjOn issue cluster.owners) :
    Counted contexts cluster ∧ ∃ ledger : Ledger LockOwner Bytes,
      ledger.Reached ∧ Follows issue cluster ledger := by
  induction reaches with
  | refl => exact ⟨counted_start contexts, .empty, .refl, follows_start contexts⟩
  | @tail cluster next _ step ih =>
      have fewer (i : ι) : named (cluster.calls i) ≤ 2 ^ 32 := by
        obtain ⟨more, same⟩ := step.grown i
        have enough := few i
        rw [same, named_append] at enough
        omega
      obtain ⟨counted, ledger, reached, follows⟩ := ih fewer (distinct.mono (owners_mono step.grown))
      obtain ⟨ledger', steps, follows'⟩ :=
        follows.step established apart reached.sound counted step few distinct
      exact ⟨counted.step step, ledger', reached.trans steps, follows'⟩

end Simulating

/-- A client of v4.1 in its session. -/
structure InSession {τ : Type} (nfs : Nfs4 τ) : Prop where
  minor : nfs.minor = 1
  session : nfs.sessionid.isSome
  named : ∃ pid nanos, nfs.owner = Proto.uniqueOwner pid nanos

theorem InSession.established {τ : Type} {nfs : Nfs4 τ} (inSession : InSession nfs) :
    nfs.Established :=
  ⟨.inr ⟨inSession.minor, inSession.session⟩, inSession.named⟩

/-- Whatever the network does, every lease that was not released is held at the server in
its own owner's name, and two of them overlap only when both are shared. -/
theorem leases_exclude (inSession : ∀ i, InSession (contexts i).nfs)
    (apart : ∀ i j, (contexts i).nfs.clientid = (contexts j).nfs.clientid → i = j)
    (reaches : Reaches issue contexts cluster)
    (few : ∀ i, named (cluster.calls i) ≤ 2 ^ 32) (distinct : Set.InjOn issue cluster.owners) :
    (∀ lease ∈ cluster.leases, ∃ lock ∈ cluster.locks.held, Leased issue lock lease) ∧
      cluster.leases.Pairwise fun lease other => lease.file.fh = other.file.fh →
        lease.range.Overlaps other.range → lease.exclusive = false ∧ other.exclusive = false := by
  obtain ⟨-, ledger, reached, follows⟩ :=
    follows_of_reaches (fun i => (inSession i).established) apart reaches few distinct
  have sound := reached.sound
  constructor
  · intro lease member
    obtain ⟨index, present⟩ := List.mem_iff_getElem?.mp member
    obtain ⟨lock, granted, leased⟩ := RangeLocks.exists_of_forall₂ follows.leases present
    refine ⟨lock, ?_, leased⟩
    rw [← follows.held]
    exact sound.held_of_granted (List.mem_of_getElem? granted)
  · refine RangeLocks.pairwise_of_forall₂ follows.leases sound.granted_apart ?_
    intro lock other lease lease' leased leased' exclude same overlaps
    rw [leased.object, leased'.object] at same
    rw [leased.range, leased'.range] at overlaps
    rw [leased.exclusive, leased'.exclusive]
    exact exclude same overlaps

end Cluster

/-- Two contexts with client ids and sessions of their own. -/
def twoContexts (i : Bool) : V4Backend Locks :=
  .new ⟨⟨[], []⟩, 1, if i then 1 else 2, Proto.uniqueOwner 1 1, 0, 0,
    some (Vector.replicate 16 (if i then 1 else 2)), 1⟩

/-- A stateid that holds the client id and the end of the owner's name. -/
def issueByClient (owner : LockOwner) : Stateid4 :=
  ⟨owner.1.toUInt32, .ofFn fun i => owner.2.reverse.getD i 0⟩

/-- A file that both contexts have open. -/
def sharedFile : OpenFile :=
  ⟨[1], none, true⟩

/-- A context is granted an exclusive lock while another asks for one that overlaps it. -/
theorem leases_exclude_two : ∃ cluster : Cluster Bool,
    Cluster.Reaches issueByClient twoContexts cluster ∧ cluster.leases.length = 1 ∧
      (∀ lease ∈ cluster.leases, ∃ lock ∈ cluster.locks.held,
        Cluster.Leased issueByClient lock lease) ∧
      cluster.leases.Pairwise fun lease other => lease.file.fh = other.file.fh →
        lease.range.Overlaps other.range → lease.exclusive = false ∧ other.exclusive = false := by
  have inSession (i : Bool) : Cluster.InSession (twoContexts i).nfs := ⟨rfl, rfl, 1, 1, rfl⟩
  have apart (i j : Bool) (same : (twoContexts i).nfs.clientid = (twoContexts j).nfs.clientid) :
      i = j := by
    cases i <;> cases j <;> first | rfl | exact absurd same (by decide)
  let asking (i : Bool) (offset : UInt64) : Made :=
    ⟨.lock sharedFile offset 10 true, twoContexts i⟩
  let second := ((Cluster.start twoContexts).making true (asking true 0).call).making false
    (asking false 5).call
  have asked : Cluster.Reaches issueByClient twoContexts second :=
    .tail (.single (.make true rfl (by decide) rfl)) (.make false rfl (by decide) rfl)
  have sent : (second.calls true)[0]? = some (asking true 0) := rfl
  obtain ⟨next, locked, -⟩ := @V4Backend.lock_free issueByClient
    ((asking true 0).before.over second.locks) sharedFile 0 10 true (inSession true).established
    (by decide) rfl
  have executed := asked.tail (.serve true 0 sent (Prog.bind_of_ok locked))
  have reaches := executed.tail (.finish rfl (List.mem_singleton_self _) rfl)
  have calls (i : Bool) : second.calls i = [asking i (if i then 0 else 5)] := by
    cases i <;> rfl
  refine ⟨_, reaches, rfl, Cluster.leases_exclude inSession apart reaches (fun i => ?_) ?_⟩
  · change named (second.calls i) ≤ 2 ^ 32
    rw [calls]
    exact Nat.le_of_ble_eq_true rfl
  · have owned (owner : LockOwner) (member : owner ∈ second.owners) :
        ∃ i, owner = ((twoContexts i).nfs.clientid, (twoContexts i).nfs.nextLockOwner) := by
      obtain ⟨i, made, sent, lock, asks, rfl⟩ := member
      rw [calls] at sent
      cases List.mem_singleton.mp sent
      cases asks
      exact ⟨i, rfl⟩
    intro owner member owner' member' same
    obtain ⟨i, rfl⟩ := owned owner member
    obtain ⟨j, rfl⟩ := owned owner' member'
    cases i <;> cases j <;> first | rfl | exact absurd same (by decide +kernel)

end LibNfs.Client
