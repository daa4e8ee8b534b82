import LibNfs.Proto.Answering
import LibNfs.Proto.Methods

/-! # Requests and results against the grammar

A reference server parses each request by the grammar, keeps what it read, and
answers every operation with `NFS4_OK` and results of its choice. Every method of
the client sends it the operations it is meant to send, and returns the results
that the server chose.
-/

namespace LibNfs.Proto

open Coding Reading
open Xdr (XdrError XdrEncode XdrDecode beU32 beU64)

/-- A server that succeeds in everything. It chooses what an operation returns by
the number of the request; no request asks twice for an operation that returns
anything. -/
structure RefServer where
  answer : Nat → (op : ArgOp) → op.Result
  seen : List CompoundArgs

namespace RefServer

/-- The server keeps a request and answers each of its operations. -/
def server : OpServer RefServer where
  receive args state := { state with seen := state.seen ++ [args] }
  exec op := ⟨fun state =>
    some (.ok ⟨state.answer (state.seen.length - 1) op, op.noExtra⟩, state)⟩

/-- The server as a transport that delivers its replies intact. -/
def transport : Transport RefServer :=
  server.transport

/-- The results of some operations of a request. -/
def results (state : RefServer) : (ops : List ArgOp) → Results ops
  | [] => ()
  | op :: ops => (⟨state.answer (state.seen.length - 1) op, op.noExtra⟩, results state ops)

theorem perform_ok (state : RefServer) (ops : List ArgOp) :
    (server.perform ops).run state = some (.ok (state.results ops), state) := by
  induction ops with
  | nil => rfl
  | cons op ops ih =>
      rw [OpServer.perform, Prog.bind_of_ok rfl, Prog.bind_of_ok ih]
      rfl

end RefServer

namespace Nfs4

/-- The client after the server has answered a request for some operations. -/
def sent (nfs : Nfs4 RefServer) (ops : List ArgOp) : Nfs4 RefServer :=
  { nfs with
    rpc := { nfs.rpc with seen := nfs.rpc.seen ++ [nfs.intends ops] }
    seqId := if nfs.minor = 0 then nfs.seqId else nfs.seqId + 1 }

/-- What the server returns for an operation of the next request. -/
def gets (nfs : Nfs4 RefServer) (op : ArgOp) : op.Result :=
  nfs.rpc.answer nfs.rpc.seen.length op

namespace Opening

variable (opening : Opening) (nfs : Nfs4 RefServer)

def res : OpenRes :=
  nfs.gets (opening.op nfs)

def fh : NfsFh4 :=
  Handle.fh (nfs.gets .getfh)

/-- The server asks for `OPEN_CONFIRM`. -/
def Unconfirmed : Prop :=
  (opening.res nfs).rflags &&& open4ResultConfirm ≠ 0

instance : Decidable (opening.Unconfirmed nfs) :=
  inferInstanceAs (Decidable (_ ≠ _))

/-- The client after `OPEN`. -/
def after : Nfs4 RefServer :=
  (nfs.sent (opening.ops nfs)).advanced

def confirmOp : ArgOp :=
  .openConfirm (opening.res nfs).stateid (opening.after nfs).openSeqid

def confirmOps : List ArgOp :=
  [.putfh (fh nfs), opening.confirmOp nfs]

/-- The stateid in the end. -/
def stateid : Stateid4 :=
  if opening.Unconfirmed nfs then (opening.after nfs).gets (opening.confirmOp nfs)
  else (opening.res nfs).stateid

/-- The client in the end. -/
def final : Nfs4 RefServer :=
  if opening.Unconfirmed nfs then ((opening.after nfs).sent (opening.confirmOps nfs)).advanced
  else opening.after nfs

end Opening

variable {nfs : Nfs4 RefServer}

/-- The results of the next request. -/
def answers (nfs : Nfs4 RefServer) : (ops : List ArgOp) → Results ops
  | [] => ()
  | op :: ops => (⟨nfs.gets op, op.noExtra⟩, answers nfs ops)

theorem results_eq (ops : List ArgOp) (args : CompoundArgs) :
    RefServer.results { nfs.rpc with seen := nfs.rpc.seen ++ [args] } ops = nfs.answers ops := by
  induction ops with
  | nil => rfl
  | cons op ops ih =>
      rw [RefServer.results, ih, List.length_append, List.length_singleton, Nat.add_sub_cancel]
      rfl

/-- A request for some operations is answered with their results. -/
theorem converse_ok (ops : List ArgOp) :
    (converse RefServer.server ops).run nfs = some (.ok (nfs.answers ops), nfs.sent ops) := by
  refine converse_of_ok ?_
  have same : RefServer.results (RefServer.server.receive (nfs.intends ops) nfs.rpc) ops =
      nfs.answers ops := results_eq ops (nfs.intends ops)
  rw [answered_eq rfl, Prog.bind_of_ok (RefServer.perform_ok _ _), RefServer.perform_ok, same]
  rfl

/-- A method that makes one request. -/
theorem conversed {α : Type} {ops : List ArgOp} {body : Prog (Nfs4 RefServer) ProtoError α}
    {value : Results ops → α}
    (same : body.run nfs =
      (do
        let results ← converse RefServer.server ops
        return value results).run nfs) :
    body.run nfs = some (.ok (value (nfs.answers ops)), nfs.sent ops) :=
  same.trans (Prog.bind_of_ok (converse_ok ops))

theorem close_ok {fh : NfsFh4} (stateid : Stateid4) (established : nfs.Established)
    (short : fh.Short) :
    (close RefServer.transport fh stateid).run nfs =
      some (.ok (), (nfs.sent [.putfh fh, .close nfs.openSeqid stateid]).advanced) :=
  (close_eq stateid established short).trans (Prog.bind_of_ok (converse_ok _))

theorem lock_ok {fh : NfsFh4} (openStateid : Stateid4) (offset length : UInt64) (exclusive : Bool)
    (established : nfs.Established) (short : fh.Short) :
    (lock RefServer.transport fh openStateid offset length exclusive).run nfs =
      some (.ok ⟨nfs.gets (nfs.lockOp openStateid offset length exclusive), locktype exclusive⟩,
        (nfs.lockNamed.sent
          [.putfh fh, nfs.lockOp openStateid offset length exclusive]).advanced) :=
  (lock_eq openStateid offset length exclusive established short).trans
    (Prog.bind_of_ok (converse_ok _))

theorem testLock_ok {fh : NfsFh4} (offset length : UInt64) (exclusive : Bool)
    (established : nfs.Established) (short : fh.Short) :
    (testLock RefServer.transport fh offset length exclusive).run nfs =
      some (.ok true, nfs.lockNamed.sent
        [.putfh fh, .lockt (locktype exclusive) offset length nfs.clientid nfs.nextLockOwner]) := by
  refine (testLock_eq offset length exclusive established short).trans ?_
  rw [Prog.bind_of_ok (Prog.outcome_of (converse_ok _))]
  rfl

theorem open_ok (opening : Opening) (established : nfs.Established) (short : opening.dir.Short)
    (sized : Sized (Xdr.asBytes opening.name)) :
    (Nfs4.open RefServer.transport opening.dir opening.name opening.shareAccess
      opening.create).run nfs =
      some (.ok ⟨Opening.fh nfs, opening.stateid nfs⟩, opening.final nfs) := by
  refine (open_eq opening established short sized).trans ?_
  rw [Prog.bind_of_ok (converse_ok _)]
  change Prog.run (afterOpen RefServer.server (opening.res nfs) none (Opening.fh nfs)) _ = _
  rw [afterOpen, if_neg (by simp), Prog.bind_of_ok (advance_ok _)]
  change Prog.run (ite (opening.Unconfirmed nfs) _ _) (opening.after nfs) = _
  by_cases asks : opening.Unconfirmed nfs
  · rw [if_pos asks, confirming, Prog.bind_of_ok (rfl : Prog.get.run (opening.after nfs) = _),
      Prog.bind_of_ok (converse_ok _), show opening.stateid nfs = _ from if_pos asks,
      show opening.final nfs = _ from if_pos asks]
    rfl
  · rw [if_neg asks, show opening.stateid nfs = _ from if_neg asks,
      show opening.final nfs = _ from if_neg asks]
    rfl

end Nfs4

/-- A call of a method of the client. -/
inductive Method where
  | renew
  | rootFh
  | getattr (fh : NfsFh4)
  | statvfs (fh : NfsFh4)
  | lookup (dir : NfsFh4) (name : String)
  | access (fh : NfsFh4) (mask : UInt32)
  | readlink (fh : NfsFh4)
  | open (opening : Nfs4.Opening)
  | close (fh : NfsFh4) (stateid : Stateid4)
  | lock (fh : NfsFh4) (openStateid : Stateid4) (offset length : UInt64) (exclusive : Bool)
  | unlock (fh : NfsFh4) (grant : LockGrant) (offset length : UInt64)
  | testLock (fh : NfsFh4) (offset length : UInt64) (exclusive : Bool)
  | read (fh : NfsFh4) (stateid : Stateid4) (offset : UInt64) (count : UInt32)
  | write (fh : NfsFh4) (stateid : Stateid4) (offset : UInt64) (stable : UInt32) (data : Bytes)
  | commit (fh : NfsFh4) (offset : UInt64) (count : UInt32)
  | setattr (fh : NfsFh4) (attrs : SetAttr4)
  | mkdir (dir : NfsFh4) (name : String)
  | symlink (dir : NfsFh4) (name target : String)
  | remove (dir : NfsFh4) (name : String)
  | link (file dir : NfsFh4) (name : String)
  | rename (fromDir : NfsFh4) (fromName : String) (toDir : NfsFh4) (toName : String)
  | readdir (dir : NfsFh4) (cookie : UInt64) (cookieverf : Vector UInt8 8) (maxcount : UInt32)

namespace Method

/-- What a method returns. -/
def Value : Method → Type
  | getattr _ | statvfs _ => Fattr4
  | lookup .. => NfsFh4 × Fattr4
  | access .. => UInt32
  | readlink _ => String
  | «open» _ => OpenResult
  | lock .. => LockGrant
  | unlock .. => Stateid4
  | testLock .. => Bool
  | read .. => ReadResult
  | write .. => UInt32
  | rootFh | mkdir .. | symlink .. => NfsFh4
  | readdir .. => ReaddirResult
  | renew | close .. | commit .. | setattr .. | remove .. | link .. | rename .. => Unit

def perform {τ : Type} (transport : Transport τ) :
    (method : Method) → Prog (Nfs4 τ) ProtoError method.Value
  | renew => Nfs4.renew transport
  | rootFh => Nfs4.rootFh transport
  | getattr fh => Nfs4.getattr transport fh
  | statvfs fh => Nfs4.statvfs transport fh
  | lookup dir name => Nfs4.lookup transport dir name
  | access fh mask => Nfs4.access transport fh mask
  | readlink fh => Nfs4.readlink transport fh
  | «open» opening =>
      Nfs4.open transport opening.dir opening.name opening.shareAccess opening.create
  | close fh stateid => Nfs4.close transport fh stateid
  | lock fh openStateid offset length exclusive =>
      Nfs4.lock transport fh openStateid offset length exclusive
  | unlock fh grant offset length => Nfs4.unlock transport fh grant offset length
  | testLock fh offset length exclusive => Nfs4.testLock transport fh offset length exclusive
  | read fh stateid offset count => Nfs4.read transport fh stateid offset count
  | write fh stateid offset stable data => Nfs4.write transport fh stateid offset stable data
  | commit fh offset count => Nfs4.commit transport fh offset count
  | setattr fh attrs => Nfs4.setattr transport fh attrs
  | mkdir dir name => Nfs4.mkdir transport dir name
  | symlink dir name target => Nfs4.symlink transport dir name target
  | remove dir name => Nfs4.remove transport dir name
  | link file dir name => Nfs4.link transport file dir name
  | rename fromDir fromName toDir toName =>
      Nfs4.rename transport fromDir fromName toDir toName
  | readdir dir cookie cookieverf maxcount => Nfs4.readdir transport dir cookie cookieverf maxcount

/-- The handles of a call. -/
def handles : Method → List NfsFh4
  | renew | rootFh => []
  | getattr fh | statvfs fh | lookup fh _ | access fh _ | readlink fh | close fh _
  | lock fh _ _ _ _ | unlock fh _ _ _ | testLock fh _ _ _ | read fh _ _ _ | write fh _ _ _ _
  | commit fh _ _ | setattr fh _ | mkdir fh _ | symlink fh _ _ | remove fh _
  | readdir fh _ _ _ => [fh]
  | «open» opening => [opening.dir]
  | link file dir _ => [file, dir]
  | rename fromDir _ toDir _ => [fromDir, toDir]

/-- The texts and the data of a call. -/
def payloads : Method → List Bytes
  | lookup _ name | mkdir _ name | remove _ name | link _ _ name => [Xdr.asBytes name]
  | «open» opening => [Xdr.asBytes opening.name]
  | symlink _ name target => [Xdr.asBytes name, Xdr.asBytes target]
  | rename _ fromName _ toName => [Xdr.asBytes fromName, Xdr.asBytes toName]
  | write _ _ _ _ data => [data]
  | renew | rootFh | getattr _ | statvfs _ | access .. | readlink _ | close .. | lock .. | unlock ..
  | testLock .. | read .. | commit .. | setattr .. | readdir .. => []

open Nfs4 (requested locktype setting)

/-- The operations of the first request of a call. -/
def ops (nfs : Nfs4 RefServer) : Method → List ArgOp
  | renew => [.renew nfs.clientid]
  | rootFh => [.putrootfh, .getfh]
  | getattr fh => [.putfh fh, .getattr requested]
  | statvfs fh => [.putfh fh, .getattr (statvfsAttrs.map UInt32.toNat)]
  | lookup dir name => [.putfh dir, .lookup name, .getfh, .getattr requested]
  | access fh mask => [.putfh fh, .access mask]
  | readlink fh => [.putfh fh, .readlink]
  | «open» opening => opening.ops nfs
  | close fh stateid => [.putfh fh, .close nfs.openSeqid stateid]
  | lock fh openStateid offset length exclusive =>
      [.putfh fh, nfs.lockOp openStateid offset length exclusive]
  | unlock fh grant offset length =>
      [.putfh fh, .locku grant.locktype 1 grant.stateid offset length]
  | testLock fh offset length exclusive =>
      [.putfh fh, .lockt (locktype exclusive) offset length nfs.clientid nfs.nextLockOwner]
  | read fh stateid offset count => [.putfh fh, .read stateid offset count]
  | write fh stateid offset stable data => [.putfh fh, .write stateid offset stable data]
  | commit fh offset count => [.putfh fh, .commit offset count]
  | setattr fh attrs => [.putfh fh, .setattr Stateid4.default (setting attrs)]
  | mkdir dir name => [.putfh dir, .create .dir name [], .getfh]
  | symlink dir name target => [.putfh dir, .create (.link target) name [], .getfh]
  | remove dir name => [.putfh dir, .remove name]
  | link file dir name => [.putfh file, .savefh, .putfh dir, .link name]
  | rename fromDir fromName toDir toName =>
      [.putfh fromDir, .savefh, .putfh toDir, .rename fromName toName]
  | readdir dir cookie cookieverf maxcount =>
      [.putfh dir, .readdir cookie cookieverf (maxcount / 2) maxcount requested]

/-- The requests of a call: `OPEN` is followed by `OPEN_CONFIRM` when the server asks
for it. -/
def requests (nfs : Nfs4 RefServer) : Method → List CompoundArgs
  | «open» opening =>
      nfs.intends (opening.ops nfs) ::
        if opening.Unconfirmed nfs then
          [(opening.after nfs).intends (opening.confirmOps nfs)]
        else
          []
  | method => [nfs.intends (method.ops nfs)]

/-- The results that the server chose, as the method returns them. -/
def results (nfs : Nfs4 RefServer) : (method : Method) → method.Value
  | rootFh | mkdir .. | symlink .. => Handle.fh (nfs.gets .getfh)
  | getattr _ => Attrs.attrs (nfs.gets (.getattr requested))
  | statvfs _ => Attrs.attrs (nfs.gets (.getattr (statvfsAttrs.map UInt32.toNat)))
  | lookup .. => (Handle.fh (nfs.gets .getfh), Attrs.attrs (nfs.gets (.getattr requested)))
  | access _ mask => Prod.snd (nfs.gets (.access mask))
  | readlink _ => Subtype.val (nfs.gets .readlink)
  | «open» opening => ⟨Nfs4.Opening.fh nfs, opening.stateid nfs⟩
  | lock _ openStateid offset length exclusive =>
      ⟨nfs.gets (nfs.lockOp openStateid offset length exclusive), locktype exclusive⟩
  | unlock _ grant offset length =>
      nfs.gets (.locku grant.locktype 1 grant.stateid offset length)
  | testLock .. => true
  | read _ stateid offset count =>
      ⟨Prod.fst (nfs.gets (.read stateid offset count)),
        (Prod.snd (nfs.gets (.read stateid offset count))).1⟩
  | write _ stateid offset stable data =>
      WriteRes.count (nfs.gets (.write stateid offset stable data))
  | readdir _ cookie cookieverf maxcount =>
      CompoundReader.dirOf (nfs.gets (.readdir cookie cookieverf (maxcount / 2) maxcount requested))
  | renew | close .. | commit .. | setattr .. | remove .. | link .. | rename .. => ()

/-- Every method sends the requests it is meant to send, which the server reads back
operation by operation, and returns the results that the server chose. -/
theorem perform_conforms (method : Method) (nfs : Nfs4 RefServer) (established : nfs.Established)
    (short : ∀ fh ∈ method.handles, fh.Short) (sized : ∀ payload ∈ method.payloads, Sized payload) :
    ∃ final, (method.perform RefServer.transport).run nfs = some (.ok (method.results nfs), final) ∧
      final.rpc.seen = nfs.rpc.seen ++ method.requests nfs := by
  cases method with
  | renew => exact ⟨_, Nfs4.conversed (Nfs4.renew_eq established), rfl⟩
  | rootFh => exact ⟨_, Nfs4.conversed (Nfs4.rootFh_eq established), rfl⟩
  | getattr fh =>
      have isShort := short fh (by simp [handles])
      exact ⟨_, Nfs4.conversed (Nfs4.getattrBits_eq established isShort (by decide)
        Compound.attributesOf_buildBitmap.1), rfl⟩
  | statvfs fh =>
      have isShort := short fh (by simp [handles])
      exact ⟨_, Nfs4.conversed (Nfs4.getattrBits_eq established isShort (by decide)
        Compound.attributesOf_buildBitmap.2), rfl⟩
  | lookup dir name =>
      exact ⟨_, Nfs4.conversed (Nfs4.lookup_eq established (short dir (by simp [handles]))
        (sized _ (by simp [payloads]))), rfl⟩
  | access fh mask =>
      have isShort := short fh (by simp [handles])
      exact ⟨_, Nfs4.conversed (Nfs4.access_eq mask established isShort), rfl⟩
  | readlink fh =>
      have isShort := short fh (by simp [handles])
      exact ⟨_, Nfs4.conversed (Nfs4.readlink_eq established isShort), rfl⟩
  | «open» opening =>
      refine ⟨_, Nfs4.open_ok opening established (short _ (by simp [handles]))
        (sized _ (by simp [payloads])), ?_⟩
      rw [Nfs4.Opening.final, requests]
      split
      · exact List.append_assoc _ [_] [_]
      · rfl
  | close fh stateid =>
      exact ⟨_, Nfs4.close_ok stateid established (short fh (by simp [handles])), rfl⟩
  | lock fh openStateid offset length exclusive =>
      exact ⟨_, Nfs4.lock_ok openStateid offset length exclusive established
        (short fh (by simp [handles])), rfl⟩
  | unlock fh grant offset length =>
      have isShort := short fh (by simp [handles])
      exact ⟨_, Nfs4.conversed (Nfs4.unlock_eq grant offset length established isShort), rfl⟩
  | testLock fh offset length exclusive =>
      exact ⟨_, Nfs4.testLock_ok offset length exclusive established
        (short fh (by simp [handles])), rfl⟩
  | read fh stateid offset count =>
      have isShort := short fh (by simp [handles])
      exact ⟨_, Nfs4.conversed (Nfs4.read_eq stateid offset count established isShort), rfl⟩
  | write fh stateid offset stable data =>
      have isShort := short fh (by simp [handles])
      exact ⟨_, Nfs4.conversed (Nfs4.write_eq stateid offset stable established isShort
        (sized data (by simp [payloads]))), rfl⟩
  | commit fh offset count =>
      have isShort := short fh (by simp [handles])
      exact ⟨_, Nfs4.conversed (Nfs4.commit_eq offset count established isShort), rfl⟩
  | setattr fh attrs =>
      have isShort := short fh (by simp [handles])
      exact ⟨_, Nfs4.conversed (Nfs4.setattr_eq attrs established isShort), rfl⟩
  | mkdir dir name =>
      exact ⟨_, Nfs4.conversed (Nfs4.create_eq established (short dir (by simp [handles]))
        (Compound.adds_createDir (sized _ (by simp [payloads])))), rfl⟩
  | symlink dir name target =>
      exact ⟨_, Nfs4.conversed (Nfs4.create_eq established (short dir (by simp [handles]))
        (Compound.adds_createSymlink (sized _ (by simp [payloads]))
          (sized _ (by simp [payloads])))), rfl⟩
  | remove dir name =>
      exact ⟨_, Nfs4.conversed (Nfs4.remove_eq established (short dir (by simp [handles]))
        (sized _ (by simp [payloads]))), rfl⟩
  | link file dir name =>
      exact ⟨_, Nfs4.conversed (Nfs4.link_eq established (short file (by simp [handles]))
        (short dir (by simp [handles])) (sized _ (by simp [payloads]))), rfl⟩
  | rename fromDir fromName toDir toName =>
      exact ⟨_, Nfs4.conversed (Nfs4.rename_eq established (short fromDir (by simp [handles]))
        (sized _ (by simp [payloads])) (short toDir (by simp [handles]))
        (sized _ (by simp [payloads]))), rfl⟩
  | readdir dir cookie cookieverf maxcount =>
      exact ⟨_, Nfs4.conversed (Nfs4.readdir_eq cookie cookieverf maxcount established
        (short dir (by simp [handles]))), rfl⟩

/-- No attributes. -/
def noAttrs (asked : List Nat) : Attrs asked where
  words := []
  attrs := {}
  subset := by simp [attributesOf]
  describes := by
    intro bit
    simp [bitSet, Fattr4.value]
  fits := by simp [Fattr4.Fits]
  short := Nat.two_pow_pos 27
  sized := by decide

/-- Results without content. -/
def blank : (op : ArgOp) → op.Result
  | .access .. => (0, 0)
  | .close .. | .lock .. | .locku .. | .openConfirm .. => Stateid4.default
  | .commit .. => Vector.replicate 8 0
  | .create .. => (⟨false, 0, 0⟩, Bitmap.empty)
  | .getattr asked => noAttrs asked
  | .getfh => (⟨⟨[7]⟩, by decide⟩ : Handle)
  | .link .. | .remove .. => (⟨false, 0, 0⟩ : ChangeInfo4)
  | .open .. => (⟨Stateid4.default, ⟨false, 0, 0⟩, 0, Bitmap.empty⟩ : OpenRes)
  | .read .. => (true, Data.empty)
  | .readdir _ _ _ _ asked => (⟨Vector.replicate 8 0, [], true⟩ : DirRes asked)
  | .readlink => (⟨"", by decide⟩ : Text)
  | .rename .. => (⟨false, 0, 0⟩, ⟨false, 0, 0⟩)
  | .setattr .. => Bitmap.empty
  | .write .. => (⟨0, 0, Vector.replicate 8 0⟩ : WriteRes)
  | .sequence .. => (⟨Vector.replicate 16 0, 0, 0, 0, 0, 0⟩ : SequenceRes)
  | .lockt .. | .lookup .. | .putfh .. | .putrootfh | .renew .. | .savefh => ()

/-- Two attributes of a directory. -/
def directory : Fattr4 :=
  { ftype := some 2, size := some 4096 }

theorem brief_directory : directory.Brief := by
  constructor
  · rintro text ⟨⟩
  · rintro text ⟨⟩

/-- Results without content, but for the attributes. -/
def described : (op : ArgOp) → op.Result
  | .getattr asked => directory.answering brief_directory asked
  | op => blank op

/-- A client with a session. -/
def inSession : Nfs4 RefServer :=
  ⟨⟨fun _ => described, []⟩, 1, 1, uniqueOwner 1 1, 0, 0, some (Vector.replicate 16 0), 1⟩

theorem inSession_established : inSession.Established :=
  ⟨.inr ⟨rfl, rfl⟩, 1, 1, rfl⟩

/-- A directory is looked up in a session, with its attributes. -/
theorem perform_conforms_lookup :
    ∃ final, (Method.perform RefServer.transport (lookup ⟨[1]⟩ "etc")).run inSession =
        some (.ok (⟨[7]⟩, directory), final) ∧
      final.rpc.seen = [⟨"", 1, [.sequence (Vector.replicate 16 0) 1 0 0 false, .putfh ⟨[1]⟩,
        .lookup "etc", .getfh, .getattr requested]⟩] :=
  perform_conforms (lookup ⟨[1]⟩ "etc") inSession inSession_established (by decide) (by decide)

theorem length_asBytes_replicate (count : Nat) :
    (Xdr.asBytes (String.ofList (List.replicate count 'a'))).length = count := by
  change (String.ofList (List.replicate count 'a')).utf8ByteSize = count
  induction count with
  | zero => rfl
  | succ count ih =>
      rw [List.replicate_succ, String.ofList_cons, String.utf8ByteSize_append,
        String.utf8ByteSize_singleton, ih]
      exact Nat.add_comm 1 count

theorem lookup_refuses {name : String} {size : Nat} (long : (Xdr.asBytes name).length = size)
    (tooLong : u32Max < size) (inside : size ≤ usizeMax) :
    (Method.perform RefServer.transport (lookup ⟨[1]⟩ name)).run inSession =
      some (.error (.xdr (.lengthOverflow size)), inSession) := by
  have refused (c : Compound) : c.lookup name = .error (.lengthOverflow size) := by
    simp [Compound.lookup, Compound.put, XdrEncode.encode, Xdr.encodeOpaque, long, tooLong,
      Nat.not_lt.mpr inside, bind, Except.bind]
  have put := Compound.put_of_writes (NfsFh4.writes (by decide : NfsFh4.Short ⟨[1]⟩))
  have built : (Compound.new.putfh ⟨[1]⟩ >>= fun c => c.lookup name >>= fun c => c.getfh >>= fun c =>
      c.getattr requestAttrs) = .error (.lengthOverflow size) := by
    simp [Compound.putfh, put, refused, bind, Except.bind]
  exact Prog.bind_of_error (congrArg (fun built => some (liftXdr built, inSession)) built)

/-- A server that has one list of results for every request. -/
def repeats (count : UInt32) (results : Bytes) : Transport Unit where
  call _ _ _ args :=
    match args with
    | .ok _ => return (⟨nfs4Ok, "", count, results⟩ : CompoundRes).encode
    | .error error => Prog.throw (.xdr error)

/-- A client of that server, in v4.0. -/
def outside : Nfs4 Unit :=
  ⟨(), 0, 1, uniqueOwner 1 1, 0, 0, none, 1⟩

theorem outside_established : outside.Established :=
  ⟨.inl rfl, 1, 1, rfl⟩

/-- What a request of that client returns. -/
theorem request_repeats {α : Type} {built : Except XdrError Compound} {ops : List ArgOp}
    {read : ReadM α} {count : UInt32} {results : Bytes} (builds : Compound.Builds built ops)
    (small : ops.length + 1 < 2 ^ 32) :
    (Nfs4.request (repeats count results) built read).run outside =
      some (read.run' ⟨results⟩, outside) := by
  obtain ⟨c, rfl, holds⟩ := builds
  obtain ⟨args, assembled, -⟩ := Nfs4.assemble_ok outside_established holds small
  have untagged : (Xdr.asBytes "").length < 2 ^ 32 := by decide
  have parsed := @parse_encode ⟨nfs4Ok, "", count, results⟩ untagged
  rw [if_pos rfl] at parsed
  have attempted : (Nfs4.attempt (repeats count results) c).run outside =
      some (.ok (.ok ⟨results⟩), outside) := by
    rw [Nfs4.attempt, Nfs4.exchange, Prog.bind_apply, Prog.bind_apply, assembled]
    exact congrArg (fun reader => some (Except.ok reader, outside)) parsed
  have ran : (Nfs4.run (repeats count results) c).run outside =
      some (.ok ⟨results⟩, outside) := by
    rw [Nfs4.run, maxResends, Nfs4.attempts, Nfs4.runTurn, Prog.bind_of_ok attempted]
    rfl
  rw [Nfs4.request, Prog.bind_of_ok rfl, Prog.bind_of_ok ran]
  rfl

/-- The reply to a `GETATTR` with a bitmap and attributes. -/
def attrsReply (words : List UInt32) (attrs : Fattr4) : Bytes :=
  resultHeader opPutfh nfs4Ok ++ (resultHeader opGetattr nfs4Ok ++
    (bitmapCode words ++ dataCode (attrs.values words)))

open CompoundReader (beginOp fattr4) in
/-- `getattr` returns what `decode_fattr4` makes of them. -/
theorem getattr_repeats {words : List UInt32} {attrs value : Fattr4}
    (bitmap : words.length < 2 ^ 32) (sized : Sized (attrs.values words))
    (values : decodeFattr4 words (attrs.values words) = .ok value) :
    (Method.perform (repeats 2 (attrsReply words attrs)) (getattr ⟨[1]⟩)).run outside =
      some (.ok value, outside) := by
  have builds := Compound.holds_new.andThen (Compound.adds_putfh (by decide : NfsFh4.Short ⟨[1]⟩))
    fun _ holds => holds.step
      (Compound.adds_getattr (by decide) Compound.attributesOf_buildBitmap.1)
  have takes : Takes CompoundReader.mk (do
        beginOp opPutfh
        beginOp opGetattr
        fattr4) value (attrsReply words attrs) :=
    (CompoundReader.takes_beginOp opPutfh).bind ((CompoundReader.takes_beginOp opGetattr).bind
      (CompoundReader.takes_fattr4_of bitmap sized values))
  exact (request_repeats builds (by decide)).trans
    (congrArg (fun outcome => some (outcome, outside)) takes.run')

open Fattr4 (onlyType typeBitmap) in
/-- Where the methods do otherwise: a name of 4 GiB has no encoding, and nothing is sent; of
well-formed attributes whose bitmap has 2^27 words the type is left out. -/
theorem perform_departs :
    (Method.perform RefServer.transport
        (lookup ⟨[1]⟩ (String.ofList (List.replicate (2 ^ 32) 'a')))).run inSession =
        some (.error (.xdr (.lengthOverflow (2 ^ 32))), inSession) ∧
      (Fattr4.Describes (typeBitmap (2 ^ 27 - 1)) onlyType ∧ onlyType.Fits ∧
        attributesOf (typeBitmap (2 ^ 27 - 1)) = [1] ∧ 1 ∈ requested) ∧
      (Method.perform (repeats 2 (attrsReply (typeBitmap (2 ^ 27 - 1)) onlyType))
        (getattr ⟨[1]⟩)).run outside = some (.ok ({} : Fattr4), outside) := by
  refine ⟨lookup_refuses (length_asBytes_replicate (2 ^ 32)) (by decide) (by decide),
    ⟨?_, Fattr4.fits_onlyType, Fattr4.attributesOf_typeBitmap _, by decide⟩, ?_⟩
  · intro bit
    have spelled := Fattr4.spelled_onlyType (2 ^ 27 - 1) (bit.toNat + 1) bit.toNat
      (Nat.lt_succ_self _)
    rwa [Fattr4.valueAt_toNat] at spelled
  · have bitmap : (typeBitmap (2 ^ 27 - 1)).length < 2 ^ 32 := by
      rw [typeBitmap, List.length_append, List.length_replicate, List.length_singleton]
      decide
    have sized : Sized (onlyType.values (typeBitmap (2 ^ 27 - 1))) := by
      rw [Fattr4.values, Fattr4.attributesOf_typeBitmap]
      decide
    exact getattr_repeats bitmap sized Fattr4.decodeFattr4_drops_type.2.2

end Method

end LibNfs.Proto
