import LibNfs.Client.LockManager
import LibNfs.Lib.Ledger
import LibNfs.Proto.Identity
import Mathlib.Logic.Relation

/-! # Locks of several contexts

Contexts over NFSv4.1 take and release locks at one server, each making its calls one
after the other. A call is a request that the server executes whenever the network
delivers it: late, more than once, also after the context gave the call up. A lock
that a context was granted stays its own until it is released. In NFSv4.0 the server
answers a seqid of the open-owner that it knows with the reply to the request that had
it, so there a call after one that was given up may get that one's reply.
-/

namespace LibNfs.Client

open Proto (Stateid4 Nfs4 Transport)
open RangeLocks (Range Lock Ledger blocking release)

/-- A lock that a context was granted and can release. -/
structure Lease where
  file : OpenFile
  offset : UInt64
  length : UInt64
  exclusive : Bool
  token : LockToken
  deriving DecidableEq, Repr

def Lease.range (lease : Lease) : Range :=
  rangeOf lease.offset lease.length

/-- A call on an open file; a lock is released on any file, through any context. -/
inductive LeaseCall where
  | lock (file : OpenFile) (offset length : UInt64) (exclusive : Bool)
  | unlock (file : OpenFile) (lease : Lease)
  | testLock (file : OpenFile) (offset length : UInt64) (exclusive : Bool)
  deriving DecidableEq, Repr

/-- What a call returns. -/
inductive LeaseReply where
  | granted (lease : Lease)
  | released
  | available (free : Bool)
  deriving DecidableEq, Repr

namespace LeaseCall

def file : LeaseCall → OpenFile
  | lock file .. | unlock file _ | testLock file .. => file

/-- The lock-owners that a call names. -/
def names : LeaseCall → Nat
  | lock .. | testLock .. => 1
  | unlock .. => 0

/-- The leases that a reply hands out. -/
def leases : Except NfsError LeaseReply → List Lease
  | .ok (.granted lease) => [lease]
  | _ => []

/-- A reply hands out one lease at most. -/
theorem eq_nil_of_leases {outcome : Except NfsError LeaseReply} {lease : Lease}
    {others : List Lease} (some : leases outcome = lease :: others) : others = [] := by
  unfold leases at some
  split at some
  · exact (List.cons.inj some).2.symm
  · cases some

variable {σ : Type} (vfs : VfsBackend σ)

def perform : LeaseCall → Prog σ NfsError LeaseReply
  | lock file offset length exclusive => do
      let token ← NfsContext.lock vfs file offset length exclusive
      return .granted ⟨file, offset, length, exclusive, token⟩
  | unlock file lease => do
      NfsContext.unlock vfs file lease.token
      return .released
  | testLock file offset length exclusive => do
      let free ← NfsContext.testLock vfs file offset length exclusive
      return .available free

end LeaseCall

/-- A network that delivers nothing: every call ends with an error. -/
def lost {τ : Type} (error : Rpc.RpcError) : Transport τ where
  call _ _ _ _ := Prog.throw error

/-- A backend whose server is in some state. -/
def V4Backend.over {τ : Type} (backend : V4Backend τ) (rpc : τ) : V4Backend τ :=
  { backend with nfs := { backend.nfs with rpc } }

/-- A call that was made, and the context that made it as it was then. -/
structure Made where
  call : LeaseCall
  before : V4Backend Locks

/-- A reply of the server to a call of a context, and what the context is after it. -/
structure Answer (ι : Type) where
  context : ι
  place : Nat
  outcome : Except NfsError LeaseReply
  next : V4Backend Locks

/-- The locks at the server, the contexts with the calls that each has made, those that wait
for the end of their last one, the replies, and the leases that were not released. -/
structure Cluster (ι : Type) where
  locks : Locks
  context : ι → V4Backend Locks
  calls : ι → List Made
  waiting : ι → Bool
  answers : List (Answer ι)
  leases : List Lease

namespace Cluster

variable {ι : Type}

/-- Contexts that have made no call, at a server without locks. -/
def start (contexts : ι → V4Backend Locks) : Cluster ι :=
  ⟨⟨[], []⟩, contexts, fun _ => [], fun _ => false, [], []⟩

section Steps

variable [DecidableEq ι] (issue : LockOwner → Stateid4)

/-- A context makes a call. -/
def making (cluster : Cluster ι) (i : ι) (call : LeaseCall) : Cluster ι :=
  { cluster with
    calls := Function.update cluster.calls i (cluster.calls i ++ [⟨call, cluster.context i⟩])
    waiting := Function.update cluster.waiting i true }

/-- The last call of a context ends. -/
def ending (cluster : Cluster ι) (i : ι) (next : V4Backend Locks) : Cluster ι :=
  { cluster with
    context := Function.update cluster.context i next
    waiting := Function.update cluster.waiting i false }

/-- The lock calls over the server. -/
def served : VfsBackend (V4Backend Locks) :=
  V4Backend.backend (Locks.server issue).transport

/-- A context makes a call, with a lease that nobody has after it when it is for a release; the
server executes a call that was made; a context gets a reply to its last call or gives it
up. -/
inductive Step : Cluster ι → Cluster ι → Prop where
  | make {cluster : Cluster ι} {call : LeaseCall} (i : ι) (idle : cluster.waiting i = false)
      (short : Proto.NfsFh4.Short ⟨call.file.fh⟩) (keeps : call.names = 1) :
      Step cluster (cluster.making i call)
  | release {cluster : Cluster ι} {file : OpenFile} {lease : Lease} {index : Nat} (i : ι)
      (idle : cluster.waiting i = false) (short : Proto.NfsFh4.Short ⟨file.fh⟩)
      (present : cluster.leases[index]? = some lease) :
      Step cluster
        { cluster.making i (.unlock file lease) with leases := cluster.leases.eraseIdx index }
  | serve {cluster : Cluster ι} {made : Made} {outcome : Except NfsError LeaseReply}
      {next : V4Backend Locks} (i : ι) (place : Nat) (sent : (cluster.calls i)[place]? = some made)
      (served : (made.call.perform (served issue)).run (made.before.over cluster.locks) =
        some (outcome, next)) :
      Step cluster
        { cluster with
          locks := next.nfs.rpc, answers := cluster.answers ++ [⟨i, place, outcome, next⟩] }
  | finish {cluster : Cluster ι} {answer : Answer ι}
      (waiting : cluster.waiting answer.context = true)
      (answered : answer ∈ cluster.answers)
      (last : answer.place + 1 = (cluster.calls answer.context).length) :
      Step cluster
        { cluster.ending answer.context answer.next with
          leases := cluster.leases ++ LeaseCall.leases answer.outcome }
  | giveUp {cluster : Cluster ι} {made : Made} {error : Rpc.RpcError}
      {outcome : Except NfsError LeaseReply} {next : V4Backend Locks} (i : ι) (place : Nat)
      (waiting : cluster.waiting i = true) (sent : (cluster.calls i)[place]? = some made)
      (last : place + 1 = (cluster.calls i).length)
      (failed : (made.call.perform (V4Backend.backend (lost error))).run made.before =
        some (outcome, next)) :
      Step cluster (cluster.ending i next)

/-- What comes of contexts that have made no call. -/
def Reaches (contexts : ι → V4Backend Locks) (cluster : Cluster ι) : Prop :=
  Relation.ReflTransGen (Step issue) (start contexts) cluster

end Steps

end Cluster

section Serving

variable {issue : LockOwner → Stateid4} {backend : V4Backend Locks} {file : OpenFile}
  {offset length : UInt64} {exclusive : Bool}

namespace V4Backend

/-- A request of two operations of which the second is denied. -/
theorem converse_denied {op : Proto.ArgOp} {nfs : Nfs4 Locks} (fh : Proto.NfsFh4)
    (established : nfs.Established)
    (blocked : ((Locks.server issue).exec op).run ⟨nfs.rpc.held, fh.data⟩ =
      some (.error Locks.denied, ⟨nfs.rpc.held, fh.data⟩)) :
    ∃ next, (Nfs4.converse (Locks.server issue) [.putfh fh, op]).run nfs =
        some (.error (.nfs4 Proto.nfs4errDenied), next) ∧
      next.Established ∧ next.rpc.held = nfs.rpc.held := by
  have failing (locks : Locks) (same : locks.held = nfs.rpc.held) :
      ∃ next, ((Locks.server issue).perform [.putfh fh, op]).run locks =
        some (.error Locks.denied, next) ∧ next.held = nfs.rpc.held := by
    refine ⟨⟨nfs.rpc.held, fh.data⟩, ?_, rfl⟩
    obtain ⟨held, current⟩ := locks
    cases same
    exact (Locks.server issue).perform_cons_error rfl ((Locks.server issue).perform_fails blocked)
  exact Nfs4.converse_fails (Locks.attends issue) failing established rfl

theorem acquire_blocked {held : List (Lock LockOwner Bytes)} {asked : Lock LockOwner Bytes}
    (blocked : blocking held asked ≠ none) :
    Locks.acquire asked.owner asked.range asked.exclusive ⟨held, asked.object⟩ = none := by
  obtain ⟨lock, found⟩ := Option.ne_none_iff_exists'.mp blocked
  unfold Locks.acquire
  rw [show blocking held ⟨asked.owner, asked.object, asked.range, asked.exclusive⟩ = some lock from
    found]

theorem lock_blocked (established : backend.nfs.Established) (short : Proto.NfsFh4.Short ⟨file.fh⟩)
    (blocked : blocking backend.nfs.rpc.held (backend.asks file offset length exclusive) ≠ none) :
    ∃ error next, (lock (Locks.server issue).transport file offset length exclusive).run backend =
        some (.error error, next) ∧
      next.nfs.rpc.held = backend.nfs.rpc.held := by
  have refused := acquire_blocked blocked
  have executed : ((Locks.server issue).exec
      (backend.nfs.lockOp (file.stateid.getD Stateid4.default) offset length exclusive)).run
        ⟨backend.nfs.lockNamed.rpc.held, file.fh⟩ =
      some (.error Locks.denied, ⟨backend.nfs.lockNamed.rpc.held, file.fh⟩) := by
    simp only [Locks.server, Nfs4.lockOp, Locks.exec, Locks.exclusiveType_locktype]
    simp only [asks] at refused
    simp only [Nfs4.lockNamed, refused]
  obtain ⟨next, conversed, -, held⟩ := converse_denied ⟨file.fh⟩ established.lockNamed executed
  exact ⟨_, _, Prog.bind_of_error (within_error ((Nfs4.lock_eq _ offset length exclusive established
    short).trans (Prog.bind_of_error conversed))), held⟩

theorem testLock_blocked (established : backend.nfs.Established)
    (short : Proto.NfsFh4.Short ⟨file.fh⟩)
    (blocked : blocking backend.nfs.rpc.held (backend.asks file offset length exclusive) ≠ none) :
    ∃ next, (testLock (Locks.server issue).transport file offset length exclusive).run backend =
        some (.ok false, next) ∧ next.nfs.rpc.held = backend.nfs.rpc.held := by
  have refused := acquire_blocked blocked
  have executed : ((Locks.server issue).exec (.lockt (Nfs4.locktype exclusive) offset length
      backend.nfs.clientid backend.nfs.nextLockOwner)).run
        ⟨backend.nfs.lockNamed.rpc.held, file.fh⟩ =
      some (.error Locks.denied, ⟨backend.nfs.lockNamed.rpc.held, file.fh⟩) := by
    simp only [Locks.server, Locks.exec, Locks.exclusiveType_locktype]
    simp only [asks] at refused
    simp only [Nfs4.lockNamed, refused]
  obtain ⟨next, conversed, -, held⟩ := converse_denied ⟨file.fh⟩ established.lockNamed executed
  exact ⟨_, within_ok ((Nfs4.testLock_eq offset length exclusive established short).trans
    (Prog.bind_of_ok (Prog.outcome_of conversed))), held⟩

end V4Backend

/-- A request for a lock takes it, or leaves the locks as they are. -/
theorem LeaseCall.perform_lock (established : backend.nfs.Established)
    (short : Proto.NfsFh4.Short ⟨file.fh⟩) :
    ∃ outcome next, ((lock file offset length exclusive).perform (Cluster.served issue)).run backend =
        some (outcome, next) ∧
      (blocking backend.nfs.rpc.held (backend.asks file offset length exclusive) = none ∧
          next.nfs.rpc.held =
            backend.nfs.rpc.held ++ [backend.asks file offset length exclusive] ∧
          outcome = .ok (.granted ⟨file, offset, length, exclusive,
            .v4 ⟨issue (backend.asks file offset length exclusive).owner,
              Nfs4.locktype exclusive⟩ offset length⟩) ∨
        next.nfs.rpc.held = backend.nfs.rpc.held ∧ leases outcome = []) := by
  by_cases free : blocking backend.nfs.rpc.held (backend.asks file offset length exclusive) = none
  · obtain ⟨next, ran, -, held⟩ := @V4Backend.lock_free issue backend file offset length exclusive
      established short free
    exact ⟨_, next, Prog.bind_of_ok ran, .inl ⟨free, held, rfl⟩⟩
  · obtain ⟨error, next, ran, held⟩ := V4Backend.lock_blocked established short free
    exact ⟨.error error, next, Prog.bind_of_error ran, .inr ⟨held, rfl⟩⟩

/-- A test of a lock leaves the locks as they are. -/
theorem LeaseCall.perform_testLock (established : backend.nfs.Established)
    (short : Proto.NfsFh4.Short ⟨file.fh⟩) :
    ∃ outcome next,
      ((testLock file offset length exclusive).perform (Cluster.served issue)).run backend =
        some (outcome, next) ∧
      next.nfs.rpc.held = backend.nfs.rpc.held ∧ leases outcome = [] := by
  by_cases free : blocking backend.nfs.rpc.held (backend.asks file offset length exclusive) = none
  · obtain ⟨next, ran, -, held⟩ := V4Backend.testLock_free established short free
    exact ⟨_, next, Prog.bind_of_ok ran, held, rfl⟩
  · obtain ⟨next, ran, held⟩ := V4Backend.testLock_blocked established short free
    exact ⟨_, next, Prog.bind_of_ok ran, held, rfl⟩

/-- A release frees the range of the lease in the name of its owner. -/
theorem LeaseCall.perform_unlock {lease : Lease} {grant : Proto.LockGrant}
    (established : backend.nfs.Established) (short : Proto.NfsFh4.Short ⟨file.fh⟩)
    (token : lease.token = .v4 grant offset length) :
    ∃ outcome next, ((unlock file lease).perform (Cluster.served issue)).run backend =
        some (outcome, next) ∧
      next.nfs.rpc.held = release backend.nfs.rpc.held (fun owner => issue owner = grant.stateid)
        file.fh (rangeOf offset length) ∧
      leases outcome = [] := by
  obtain ⟨next, ran, -, held⟩ := V4Backend.unlock_eq grant established short
  rw [← token] at ran
  exact ⟨_, next, Prog.bind_of_ok ran, held, rfl⟩

end Serving

/-- The client of the backend is the one it was at the start. -/
def V4Backend.Continues {τ : Type} (start : Nfs4 τ) (count : Nat) (backend : V4Backend τ) : Prop :=
  start.Continues count backend.nfs

namespace LeaseCall

open V4Backend (Continues)

variable {τ : Type} {transport : Transport τ} {start : Nfs4 τ} {count : Nat}

/-- A method of the client, and what is made of its result. -/
theorem within_continues {α β : Type} {count' : Nat} {body : Prog (Nfs4 τ) Proto.ProtoError α}
    {made : α → β} (meets : body.Meets (start.Continues count) fun _ => start.Continues count') :
    (do
      let value ← V4Backend.within body
      return made value).Meets (Continues start count) fun _ => Continues start count' := by
  have inside : (V4Backend.within body).Meets (Continues start count)
      fun _ => Continues start count' :=
    Prog.Meets.within fun backend next result continues ended =>
      meets backend.nfs next result continues ended
  exact Prog.Meets.bind (fun _ => Continues start count') inside.byCases fun _ => Prog.Keeps.pure _

/-- Whatever the network does, a call uses up its names. -/
theorem perform_continues (call : LeaseCall) :
    (call.perform (V4Backend.backend transport)).Meets (Continues start count)
      fun _ => Continues start (count + call.names) := by
  cases call with
  | lock file offset length exclusive =>
      have locked : (V4Backend.lock transport file offset length exclusive).Meets
          (Continues start count) fun _ => Continues start (count + 1) :=
        within_continues (Nfs4.lock_continues _ _ _ _ _)
      exact Prog.Meets.bind (fun _ => Continues start (count + 1)) locked.byCases
        fun _ => Prog.Keeps.pure _
  | unlock file lease =>
      refine Prog.Keeps.bind ?_ fun _ => Prog.Keeps.pure _
      change (V4Backend.unlock transport file lease.token).Keeps _
      unfold V4Backend.unlock
      split
      · exact within_continues (Nfs4.unlock_continues _ _ _ _)
      · exact Prog.Keeps.pure _
  | testLock file offset length exclusive =>
      exact within_continues (Nfs4.testLock_continues _ _ _ _)

end LeaseCall

end LibNfs.Client
