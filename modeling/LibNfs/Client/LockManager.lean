import LibNfs.Client.BackendV3
import LibNfs.Client.BackendV4
import LibNfs.Lib.RangeLocks
import LibNfs.Proto.Methods

/-! # A lock manager behind both protocols

The manager of `RangeLocks` as an NLM server and as a server of the lock operations
of NFSv4, and what the lock calls of the two backends come to on it. NLM names an
owner by its caller, its handle and its process; NFSv4 by the client and the
lock-owner, and by the stateid that the server issues for it.
-/

namespace LibNfs.Client

open Proto (Stateid4 Nfs4 ArgOp Failure Success OpServer)
open RangeLocks (Range Lock blocking release)

/-- The range of a lock. -/
def rangeOf (offset length : UInt64) : Range :=
  ⟨offset.toNat, offset.toNat + length.toNat⟩

/-- An owner of NLM: its caller, its handle and its process. -/
abbrev NlmOwner := String × Bytes × Int32

/-- The owner that a request names. -/
def nlmOwner (lock : Proto.Nlm.Nlm4Lock) : NlmOwner :=
  (lock.callerName, lock.oh, lock.svid)

/-- The lock that a call asks for. -/
def nlmAsks (lock : Proto.Nlm.Nlm4Lock) (exclusive : Bool) : Lock NlmOwner Bytes :=
  ⟨nlmOwner lock, lock.fh, rangeOf lock.offset lock.len, exclusive⟩

/-- A lock that is in the way, as `TEST` reports it. -/
def nlmHolder (lock : Lock NlmOwner Bytes) : Proto.Nlm.TestReply :=
  .denied ⟨lock.exclusive, lock.owner.2.2, UInt64.ofNat lock.range.start,
    UInt64.ofNat (lock.range.stop - lock.range.start)⟩
    (if sized : Proto.Sized lock.owner.2.1 then ⟨lock.owner.2.1, sized⟩ else Proto.Data.empty)

/-- The manager as a server of NLM. -/
def nlmManager : Proto.Nlm.NlmServer (List (Lock NlmOwner Bytes)) where
  lock args held :=
    let asked := nlmAsks (.ofVal args.2.2.2.1) args.2.2.1
    match blocking held asked with
    | none => (Proto.Nlm.nlm4Granted, held ++ [asked])
    | some _ => (Proto.Nlm.nlm4Denied, held)
  unlock args held :=
    let lock : Proto.Nlm.Nlm4Lock := .ofVal args.2.1
    (Proto.Nlm.nlm4Granted,
      release held (fun owner => owner = nlmOwner lock) lock.fh (rangeOf lock.offset lock.len))
  test args held :=
    match blocking held (nlmAsks (.ofVal args.2.2.1) args.2.1) with
    | none => (.granted, held)
    | some lock => (nlmHolder lock, held)

/-- The lock manager of the host is registered and can be connected to. -/
structure ServesLocks (host : Host (List (Lock NlmOwner Bytes))) (port : UInt16) : Prop where
  connect : ∀ number held, (host.connect number).run held = some (.ok (), held)
  registered : ∀ held, (Proto.Portmap.getport (host.port host.portmapPort) Proto.Nlm.program
    Proto.Nlm.version4 host.protocol.number).run held = some (.ok port, held)
  manager : host.port port = nlmManager.transport

namespace V3Backend

variable {host : Host (List (Lock NlmOwner Bytes))} {port : UInt16}
  {backend : V3Backend (List (Lock NlmOwner Bytes))} {file : OpenFile} {offset length : UInt64}
  {exclusive : Bool}

/-- The lock manager is not connected to yet, or at its port. -/
def Reaches (port : UInt16) (backend : V3Backend (List (Lock NlmOwner Bytes))) : Prop :=
  backend.nlm = none ∨ backend.nlm = some port

/-- The backend once it is connected to the lock manager. -/
def connected (port : UInt16) (backend : V3Backend (List (Lock NlmOwner Bytes))) :
    V3Backend (List (Lock NlmOwner Bytes)) :=
  { backend with nlm := some port }

/-- `ensureNlm` finds the port of the manager. -/
theorem ensureNlm_eq (serves : ServesLocks host port) (reaches : backend.Reaches port) :
    (ensureNlm host).run backend = some (.ok port, backend.connected port) := by
  have connects (number : UInt16) : (within (NfsError.ofProto ∘ Proto.ProtoError.rpc)
      (host.connect number)).run backend = some (.ok (), backend) := by
    simp only [within, Prog.within, serves.connect, Option.map_some]
    rfl
  have found : (within NfsError.ofProto (Proto.Portmap.getport (host.port host.portmapPort)
      Proto.Nlm.program Proto.Nlm.version4 host.protocol.number)).run backend =
        some (.ok port, backend) := by
    simp only [within, Prog.within, serves.registered, Option.map_some]
    rfl
  rw [ensureNlm, Prog.bind_of_ok (rfl : Prog.get.run backend = _)]
  rcases reaches with unconnected | known
  · rw [unconnected]
    rw [Prog.bind_of_ok (connects _), Prog.bind_of_ok found, Prog.bind_of_ok (connects _)]
    rfl
  · obtain ⟨world, rsize, wsize, nlm, lockOwner, svid⟩ := backend
    cases known
    rfl

/-- The lock of a range as the manager is asked for it. -/
def asks (backend : V3Backend (List (Lock NlmOwner Bytes))) (file : OpenFile)
    (offset length : UInt64) (exclusive : Bool) : Lock NlmOwner Bytes :=
  nlmAsks (nlmLock file offset length backend) exclusive

/-- The backend after a call that left the manager with these locks. -/
def holding (held : List (Lock NlmOwner Bytes)) (port : UInt16)
    (backend : V3Backend (List (Lock NlmOwner Bytes))) :
    V3Backend (List (Lock NlmOwner Bytes)) :=
  { backend with world := held, nlm := some port }

/-- The names in the calls of the backend have an encoding. -/
structure Named (backend : V3Backend (List (Lock NlmOwner Bytes))) (file : OpenFile) : Prop where
  owner : Proto.Sized backend.lockOwner
  file : Proto.Sized file.fh

theorem Named.fits (named : backend.Named file) (offset length : UInt64) :
    (nlmLock file offset length backend).Fits :=
  ⟨(by decide : Proto.Sized (Xdr.asBytes nlmCaller)), named.file, named.owner⟩

theorem ofVal_val (lock : Proto.Nlm.Nlm4Lock) : Proto.Nlm.Nlm4Lock.ofVal lock.val = lock := rfl

/-- A lock that nothing blocks is granted. -/
theorem lock_free (serves : ServesLocks host port) (reaches : backend.Reaches port)
    (named : backend.Named file)
    (free : blocking backend.world (backend.asks file offset length exclusive) = none) :
    (lock host file offset length exclusive).run backend =
      some (.ok (.v3 offset length), backend.holding
        (backend.world ++ [backend.asks file offset length exclusive]) port) := by
  have granted : (within NfsError.ofProto (Proto.Nlm.lock (host.port port)
      (nlmLock file offset length backend) exclusive)).run (backend.connected port) =
      some (.ok (), backend.holding
        (backend.world ++ [backend.asks file offset length exclusive]) port) := by
    simp only [within, Prog.within, serves.manager,
      Proto.Nlm.lock_eq exclusive (named.fits offset length), Proto.Nlm.lockArgs, nlmManager,
      ofVal_val, connected, show blocking backend.world (nlmAsks (nlmLock file offset length backend)
        exclusive) = none from free, Option.map_some]
    rfl
  rw [lock, Prog.bind_of_ok (rfl : Prog.get.run backend = _),
    Prog.bind_of_ok (ensureNlm_eq serves reaches), Prog.bind_of_ok granted]
  rfl

theorem unlock_eq (serves : ServesLocks host port) (reaches : backend.Reaches port)
    (named : backend.Named file) :
    (unlock host file (.v3 offset length)).run backend =
      some (.ok (), backend.holding (release backend.world
        (fun owner => owner = (backend.asks file offset length false).owner) file.fh
        (rangeOf offset length)) port) := by
  have freed : (within NfsError.ofProto (Proto.Nlm.unlock (host.port port)
      (nlmLock file offset length backend))).run (backend.connected port) =
      some (.ok (), backend.holding (release backend.world
        (fun owner => owner = (backend.asks file offset length false).owner) file.fh
        (rangeOf offset length)) port) := by
    simp only [within, Prog.within, serves.manager,
      Proto.Nlm.unlock_eq (named.fits offset length), Option.map_some]
    rfl
  rw [unlock, Prog.bind_of_ok (rfl : Prog.get.run backend = _),
    Prog.bind_of_ok (ensureNlm_eq serves reaches), freed]

theorem testLock_free (serves : ServesLocks host port) (reaches : backend.Reaches port)
    (named : backend.Named file)
    (free : blocking backend.world (backend.asks file offset length exclusive) = none) :
    (testLock host file offset length exclusive).run backend =
      some (.ok true, backend.connected port) := by
  have granted : (within NfsError.ofProto (Proto.Nlm.test (host.port port)
      (nlmLock file offset length backend) exclusive)).run (backend.connected port) =
      some (.ok .granted, backend.connected port) := by
    simp only [within, Prog.within, serves.manager,
      Proto.Nlm.test_eq exclusive (named.fits offset length), Proto.Nlm.testArgs, nlmManager,
      ofVal_val, connected, show blocking backend.world (nlmAsks (nlmLock file offset length backend)
        exclusive) = none from free, Option.map_some]
    rfl
  rw [testLock, Prog.bind_of_ok (rfl : Prog.get.run backend = _),
    Prog.bind_of_ok (ensureNlm_eq serves reaches), Prog.bind_of_ok granted]
  rfl

end V3Backend

/-- A lock-owner: the client and its name for the owner. -/
abbrev LockOwner := UInt64 × Bytes

/-- The locks that are held, and the current file of a request. -/
structure Locks where
  held : List (Lock LockOwner Bytes)
  current : Bytes

namespace Locks

/-- Takes a lock on the current file, or denies it. -/
def acquire (owner : LockOwner) (range : Range) (exclusive : Bool) (locks : Locks) :
    Option Locks :=
  match blocking locks.held ⟨owner, locks.current, range, exclusive⟩ with
  | none => some { locks with held := locks.held ++ [⟨owner, locks.current, range, exclusive⟩] }
  | some _ => none

/-- `WRITE_LT` and `WRITEW_LT`. -/
def exclusiveType (locktype : UInt32) : Bool :=
  locktype = 2 ∨ locktype = 4

/-- The failure of a lock that is held by another owner. -/
def denied : Failure :=
  ⟨Proto.nfs4errDenied, by decide⟩

/-- The operations of locks; a lock-owner is named by the stateid that is issued for it. The seqid of
the open-owner is not looked at: no server of v4.1 does, and one of v4.0 that has counted every one
before answers alike. -/
def exec (issue : LockOwner → Stateid4) : (op : ArgOp) → Prog Locks Failure (Success op)
  | .sequence sessionid seqid slotid highest _ =>
      return ⟨(⟨sessionid, seqid, slotid, highest, highest, 0⟩ : Proto.SequenceRes), ()⟩
  | .putfh fh => ⟨fun locks => some (.ok ⟨(), ()⟩, { locks with current := fh.data })⟩
  | .lock locktype _ offset length (.fresh _ _ _ clientid owner) => ⟨fun locks =>
      match locks.acquire (clientid, owner) (rangeOf offset length) (exclusiveType locktype) with
      | some locks => some (.ok ⟨issue (clientid, owner), ()⟩, locks)
      | none => some (.error denied, locks)⟩
  | .lockt locktype offset length clientid owner => ⟨fun locks =>
      match locks.acquire (clientid, owner) (rangeOf offset length) (exclusiveType locktype) with
      | some _ => some (.ok ⟨(), ()⟩, locks)
      | none => some (.error denied, locks)⟩
  | .locku _ _ stateid offset length => ⟨fun locks =>
      some (.ok ⟨stateid, ()⟩, { locks with
        held := release locks.held (fun owner => issue owner = stateid) locks.current
          (rangeOf offset length) })⟩
  | _ => Prog.throw Proto.notSupported

/-- The manager as a server of NFSv4. -/
def server (issue : LockOwner → Stateid4) : OpServer Locks where
  receive _ locks := locks
  exec := exec issue

/-- The server takes every request, and answers its `SEQUENCE`. -/
theorem attends (issue : LockOwner → Stateid4) : (server issue).Attends :=
  ⟨fun _ _ => rfl, fun _ _ _ _ _ _ => ⟨_, rfl⟩⟩

/-- The lock type tells whether a lock is exclusive. -/
theorem exclusiveType_locktype (exclusive : Bool) :
    exclusiveType (Nfs4.locktype exclusive) = exclusive := by
  cases exclusive <;> rfl

end Locks

namespace V4Backend

variable {issue : LockOwner → Stateid4} {backend : V4Backend Locks} {file : OpenFile}
  {offset length : UInt64} {exclusive : Bool}

/-- The lock of a range by the next lock-owner, as the server is asked for it. -/
def asks (backend : V4Backend Locks) (file : OpenFile) (offset length : UInt64)
    (exclusive : Bool) : Lock LockOwner Bytes :=
  ⟨(backend.nfs.clientid, backend.nfs.nextLockOwner), file.fh, rangeOf offset length, exclusive⟩

theorem acquire_free {held : List (Lock LockOwner Bytes)} {asked : Lock LockOwner Bytes}
    (free : blocking held asked = none) :
    Locks.acquire asked.owner asked.range asked.exclusive ⟨held, asked.object⟩ =
      some ⟨held ++ [asked], asked.object⟩ := by
  unfold Locks.acquire
  rw [show blocking held ⟨asked.owner, asked.object, asked.range, asked.exclusive⟩ = none from free]

/-- A lock that nothing blocks is granted. -/
theorem lock_free (established : backend.nfs.Established) (short : Proto.NfsFh4.Short ⟨file.fh⟩)
    (free : blocking backend.nfs.rpc.held (backend.asks file offset length exclusive) = none) :
    ∃ next, (lock (Locks.server issue).transport file offset length exclusive).run backend =
        some (.ok (.v4 ⟨issue (backend.asks file offset length exclusive).owner,
          Nfs4.locktype exclusive⟩ offset length), next) ∧
      next.nfs.Established ∧
      next.nfs.rpc.held = backend.nfs.rpc.held ++ [backend.asks file offset length exclusive] := by
  have acquired := acquire_free free
  have executed : ((Locks.server issue).exec
      (backend.nfs.lockOp (file.stateid.getD Stateid4.default) offset length exclusive)).run
        ⟨backend.nfs.rpc.held, file.fh⟩ =
      some (.ok ⟨issue (backend.asks file offset length exclusive).owner, ()⟩,
        ⟨backend.nfs.rpc.held ++ [backend.asks file offset length exclusive], file.fh⟩) := by
    simp only [Locks.server, Nfs4.lockOp, Locks.exec, Locks.exclusiveType_locktype]
    simp only [asks] at acquired
    rw [acquired]
    rfl
  have conversed := Nfs4.converse_pair (Locks.attends issue) established.lockNamed
    (rfl : ((Locks.server issue).exec (.putfh ⟨file.fh⟩)).run backend.nfs.lockNamed.rpc = _) executed
  refine ⟨_, Prog.bind_of_ok (within_ok ((Nfs4.lock_eq _ offset length exclusive established
    short).trans (Prog.bind_of_ok conversed))), ?_, rfl⟩
  exact (established.lockNamed.sentTo _).advanced

theorem unlock_eq (grant : Proto.LockGrant) (established : backend.nfs.Established)
    (short : Proto.NfsFh4.Short ⟨file.fh⟩) :
    ∃ next, (unlock (Locks.server issue).transport file (.v4 grant offset length)).run backend =
        some (.ok (), next) ∧
      next.nfs.Established ∧
      next.nfs.rpc.held = release backend.nfs.rpc.held (fun owner => issue owner = grant.stateid)
        file.fh (rangeOf offset length) := by
  have conversed := Nfs4.converse_pair (Locks.attends issue) established
    (rfl : ((Locks.server issue).exec (.putfh ⟨file.fh⟩)).run backend.nfs.rpc = _)
    (rfl : ((Locks.server issue).exec (.locku grant.locktype 1 grant.stateid offset length)).run _ =
      _)
  refine ⟨_, Prog.bind_of_ok (within_ok ((Nfs4.unlock_eq grant offset length established
    short).trans (Prog.bind_of_ok conversed))), ?_, rfl⟩
  exact established.sentTo _

theorem testLock_free (established : backend.nfs.Established)
    (short : Proto.NfsFh4.Short ⟨file.fh⟩)
    (free : blocking backend.nfs.rpc.held (backend.asks file offset length exclusive) = none) :
    ∃ next, (testLock (Locks.server issue).transport file offset length exclusive).run backend =
        some (.ok true, next) ∧
      next.nfs.Established ∧ next.nfs.rpc.held = backend.nfs.rpc.held := by
  have acquired := acquire_free free
  have executed : ((Locks.server issue).exec (.lockt (Nfs4.locktype exclusive) offset length
      backend.nfs.clientid backend.nfs.nextLockOwner)).run ⟨backend.nfs.rpc.held, file.fh⟩ =
      some (.ok ⟨(), ()⟩, ⟨backend.nfs.rpc.held, file.fh⟩) := by
    simp only [Locks.server, Locks.exec, Locks.exclusiveType_locktype]
    simp only [asks] at acquired
    rw [acquired]
  have conversed := Nfs4.converse_pair (Locks.attends issue) established.lockNamed
    (rfl : ((Locks.server issue).exec (.putfh ⟨file.fh⟩)).run backend.nfs.lockNamed.rpc = _) executed
  refine ⟨_, within_ok ((Nfs4.testLock_eq offset length exclusive established short).trans
    (Prog.bind_of_ok (Prog.outcome_of conversed))), ?_, rfl⟩
  exact established.lockNamed.sentTo _

end V4Backend

end LibNfs.Client
