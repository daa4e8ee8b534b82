import LibNfs.Proto.Serving

/-! # The methods of the client as conversations

Every method of `Nfs4` over a server of operations: which operations it asks for,
and what it makes of their results. A method with a name or data too long for its
length prefix sends nothing.
-/

namespace LibNfs.Proto

open Coding Reading
open Xdr (XdrError XdrEncode XdrDecode beU32 beU64)

namespace Nfs4

section Asking

variable {τ : Type}

/-- The attributes that are asked for, by number. -/
def requested : List Nat :=
  requestAttrs.map UInt32.toNat

/-- The lock-owner of the next lock. -/
def nextLockOwner (nfs : Nfs4 τ) : Bytes :=
  nfs.owner ++ Xdr.asBytes (":lock:" ++ toString (nfs.lockCounter + 1))

/-- The client after it has named a lock-owner. -/
def lockNamed (nfs : Nfs4 τ) : Nfs4 τ :=
  { nfs with lockCounter := nfs.lockCounter + 1 }

/-- The client after an operation that used the seqid of the open-owner. -/
def advanced (nfs : Nfs4 τ) : Nfs4 τ :=
  { nfs with openSeqid := nfs.openSeqid + 1 }

/-- The type of a lock. -/
def locktype (exclusive : Bool) : UInt32 :=
  if exclusive then writeLt else readLt

/-- The operation of a lock by the next lock-owner. -/
def lockOp (nfs : Nfs4 τ) (openStateid : Stateid4) (offset length : UInt64)
    (exclusive : Bool) : ArgOp :=
  .lock (locktype exclusive) false offset length
    (.fresh nfs.openSeqid openStateid 0 nfs.clientid nfs.nextLockOwner)

/-- The attributes that a `SETATTR` is meant to set. -/
def setting (attrs : SetAttr4) : List Attribute :=
  (Compound.setattrValues attrs).map Prod.fst

/-- What `open` asks for. -/
structure Opening where
  dir : NfsFh4
  name : String
  shareAccess : UInt32
  create : Bool

/-- The `OPEN` that is sent. -/
def Opening.op (opening : Opening) (nfs : Nfs4 τ) : ArgOp :=
  .open nfs.openSeqid opening.shareAccess open4ShareDenyNone nfs.clientid nfs.owner
    (Compound.how opening.create) opening.name

/-- The operations of the request. -/
def Opening.ops (opening : Opening) (nfs : Nfs4 τ) : List ArgOp :=
  [.putfh opening.dir, opening.op nfs, .getfh]

/-- Naming a lock-owner keeps the client established. -/
theorem Established.lockNamed {nfs : Nfs4 τ} (established : nfs.Established) :
    nfs.lockNamed.Established :=
  ⟨established.version, established.named⟩

/-- Counting an operation keeps the client established. -/
theorem Established.advanced {nfs : Nfs4 τ} (established : nfs.Established) :
    nfs.advanced.Established :=
  ⟨established.version, established.named⟩

/-- The name of the open-owner has a length prefix. -/
theorem Established.sized {nfs : Nfs4 τ} (established : nfs.Established) : Sized nfs.owner := by
  obtain ⟨pid, nanos, named⟩ := established.named
  have short := length_uniqueOwner pid nanos
  rw [Sized, named]
  omega

/-- The name of the next lock-owner has a length prefix. -/
theorem Established.sized_nextLockOwner {nfs : Nfs4 τ} (established : nfs.Established) :
    Sized nfs.nextLockOwner := by
  obtain ⟨pid, nanos, named⟩ := established.named
  have short := length_uniqueOwner pid nanos
  have digits : (toString (nfs.lockCounter + 1).toNat).utf8ByteSize ≤ 80 :=
    length_asBytes_toString _ (Nat.lt_trans (nfs.lockCounter + 1).toNat_lt (by decide))
  have mark : ":lock:".utf8ByteSize = 6 := by decide
  have text : (Xdr.asBytes (":lock:" ++ toString (nfs.lockCounter + 1))).length ≤ 86 := by
    change (":lock:" ++ toString (nfs.lockCounter + 1).toNat).utf8ByteSize ≤ 86
    rw [String.utf8ByteSize_append]
    omega
  rw [Sized, nextLockOwner, named, List.length_append]
  omega

theorem advance_ok (nfs : Nfs4 τ) : advance.run nfs = some (.ok (), nfs.advanced) := rfl

theorem freshLockOwner_ok (nfs : Nfs4 τ) :
    freshLockOwner.run nfs = some (.ok nfs.nextLockOwner, nfs.lockNamed) := rfl

end Asking

variable {S : Type} {server : OpServer S} {nfs : Nfs4 S} {c : Compound} {ops : List ArgOp}

open CompoundReader

/-- A request whose results are read one after the other. -/
theorem request_takes {α : Type} {built : Except XdrError Compound} {read : ReadM α}
    {value : Results ops → α} {code : Results ops → Bytes} (builds : Compound.Builds built ops)
    (small : ops.length + 1 < 2 ^ 32)
    (takes : ∀ results, Takes CompoundReader.mk read (value results) (code results))
    (same : ∀ results, Results.code results = code results) (established : nfs.Established) :
    (request server.transport built read).run nfs =
      (do
        let results ← converse server ops
        return value results).run nfs :=
  request_eq builds small (fun results => same results ▸ (takes results).run') established

-- the results of a given operation compute to their code
attribute [local simp] Success.code ArgOp.res ArgOp.opnum ArgOp.body Results.second

open Compound

section Methods

variable {fh dir : NfsFh4} {name : String}

theorem renew_eq (established : nfs.Established) :
    (renew server.transport).run nfs =
      (do
        let _ ← converse server [.renew nfs.clientid]
        return ()).run nfs := by
  rw [renew, Prog.bind_of_ok (rfl : Prog.get.run nfs = _)]
  refine request_takes (holds_new.step (adds_renew nfs.clientid)) (by simp)
    (fun _ => takes_beginOp opRenew) (fun results => ?_) established
  simp

/-- Asking for the root is a conversation of two operations. -/
theorem rootFh_eq (established : nfs.Established) :
    (rootFh server.transport).run nfs =
      (do
        let results ← converse server [.putrootfh, .getfh]
        return Handle.fh results.second.result).run nfs := by
  refine request_takes (holds_new.andThen adds_putrootfh fun _ holds => holds.step adds_getfh)
    (by simp)
    (fun results => (takes_beginOp opPutrootfh).bind ((takes_beginOp opGetfh).bind
      (takes_decode (NfsFh4.reads (Handle.short results.second.result)))))
    (fun results => ?_) established
  simp

/-- Asking for attributes is a conversation of two operations. -/
theorem getattrBits_eq {bits : List UInt32} {asked : List Nat} (established : nfs.Established)
    (short : fh.Short) (few : (buildBitmap bits).length < 2 ^ 32)
    (same : attributesOf (buildBitmap bits) = asked) :
    (getattrBits server.transport fh bits).run nfs =
      (do
        let results ← converse server [.putfh fh, .getattr asked]
        return Attrs.attrs results.second.result).run nfs := by
  refine request_takes
    (holds_new.andThen (adds_putfh short) fun _ holds => holds.step (adds_getattr few same))
    (by simp)
    (fun results => (takes_beginOp opPutfh).bind ((takes_beginOp opGetattr).bind
      (takes_fattr4 results.second.result)))
    (fun results => ?_) established
  simp

theorem lookup_eq (established : nfs.Established) (short : dir.Short)
    (sized : Sized (Xdr.asBytes name)) :
    (lookup server.transport dir name).run nfs =
      (do
        let results ← converse server [.putfh dir, .lookup name, .getfh, .getattr requested]
        return (Handle.fh results.rest.second.result,
          Attrs.attrs results.rest.rest.second.result)).run nfs := by
  refine request_takes
    (holds_new.andThen (adds_putfh short) fun _ holds =>
      holds.andThen (adds_lookup sized) fun _ holds => holds.andThen adds_getfh fun _ holds =>
        holds.step (adds_getattr (by decide) attributesOf_buildBitmap.1)) (by simp)
    (fun results => (takes_beginOp opPutfh).bind ((takes_beginOp opLookup).bind
      ((takes_beginOp opGetfh).bind
        ((takes_decode (NfsFh4.reads (Handle.short results.rest.second.result))).bind
          ((takes_beginOp opGetattr).bind
            ((takes_fattr4 results.rest.rest.second.result).ret fun attrs => (_, attrs)))))))
    (fun results => ?_) established
  simp

/-- Asking for access is a conversation of two operations. -/
theorem access_eq (mask : UInt32) (established : nfs.Established) (short : fh.Short) :
    (access server.transport fh mask).run nfs =
      (do
        let results ← converse server [.putfh fh, .access mask]
        return Prod.snd results.second.result).run nfs := by
  refine request_takes
    (holds_new.andThen (adds_putfh short) fun _ holds => holds.step (adds_access mask)) (by simp)
    (fun results => (takes_beginOp opPutfh).bind ((takes_beginOp opAccess).bind
      ((takes_word (Prod.fst results.second.result)).bind (takes_word _))))
    (fun results => ?_) established
  simp

/-- Reading a link is a conversation of two operations. -/
theorem readlink_eq (established : nfs.Established) (short : fh.Short) :
    (readlink server.transport fh).run nfs =
      (do
        let results ← converse server [.putfh fh, .readlink]
        return Subtype.val results.second.result).run nfs := by
  refine request_takes
    (holds_new.andThen (adds_putfh short) fun _ holds => holds.step adds_readlink) (by simp)
    (fun results => (takes_beginOp opPutfh).bind ((takes_beginOp opReadlink).bind
      (takes_decode (Fattr4.reads_text (Subtype.property results.second.result)))))
    (fun results => ?_) established
  simp

/-- An unlock is a conversation of two operations. -/
theorem unlock_eq (grant : LockGrant) (offset length : UInt64) (established : nfs.Established)
    (short : fh.Short) :
    (unlock server.transport fh grant offset length).run nfs =
      (do
        let results ← converse server
          [.putfh fh, .locku grant.locktype 1 grant.stateid offset length]
        return (results.second.result : Stateid4)).run nfs := by
  refine request_takes
    (holds_new.andThen (adds_putfh short) fun _ holds => holds.step (adds_locku _ _ _ _ _))
    (by simp)
    (fun results => (takes_beginOp opPutfh).bind ((takes_beginOp opLocku).bind
      (takes_decode (Stateid4.reads results.second.result))))
    (fun results => ?_) established
  simp

theorem read_eq (stateid : Stateid4) (offset : UInt64) (count : UInt32)
    (established : nfs.Established) (short : fh.Short) :
    (read server.transport fh stateid offset count).run nfs =
      (do
        let results ← converse server [.putfh fh, .read stateid offset count]
        return (⟨Prod.fst results.second.result, (Prod.snd results.second.result).1⟩ :
          ReadResult)).run nfs := by
  refine request_takes
    (holds_new.andThen (adds_putfh short) fun _ holds => holds.step (adds_read _ _ _)) (by simp)
    (fun results => (takes_beginOp opPutfh).bind ((takes_beginOp opRead).bind ((takes_flag _).bind
      ((takes_opaqueData (Prod.snd results.second.result).2).ret fun data =>
        ReadResult.mk _ data))))
    (fun results => ?_) established
  simp

theorem write_eq (stateid : Stateid4) (offset : UInt64) (stable : UInt32) {data : Bytes}
    (established : nfs.Established) (short : fh.Short) (sized : Sized data) :
    (write server.transport fh stateid offset stable data).run nfs =
      (do
        let results ← converse server [.putfh fh, .write stateid offset stable data]
        return WriteRes.count results.second.result).run nfs := by
  refine request_takes
    (holds_new.andThen (adds_putfh short) fun _ holds => holds.step (adds_write _ _ _ sized))
    (by simp)
    (fun results => (takes_beginOp opPutfh).bind ((takes_beginOp opWrite).bind ((takes_word _).bind
      ((takes_word (WriteRes.committed results.second.result)).bind
        ((takes_decode (reads_fixed (WriteRes.verf results.second.result))).ret fun _ => _)))))
    (fun results => ?_) established
  simp

theorem commit_eq (offset : UInt64) (count : UInt32) (established : nfs.Established)
    (short : fh.Short) :
    (commit server.transport fh offset count).run nfs =
      (do
        let _ ← converse server [.putfh fh, .commit offset count]
        return ()).run nfs := by
  refine request_takes
    (holds_new.andThen (adds_putfh short) fun _ holds => holds.step (adds_commit _ _)) (by simp)
    (fun results => (takes_beginOp opPutfh).bind ((takes_beginOp opCommit).bind
      ((takes_decode (@reads_fixed 8 results.second.result)).ret fun _ => ())))
    (fun results => ?_) established
  simp

/-- A change of attributes is a conversation of two operations. -/
theorem setattr_eq (attrs : SetAttr4) (established : nfs.Established) (short : fh.Short) :
    (setattr server.transport fh attrs).run nfs =
      (do
        let _ ← converse server [.putfh fh, .setattr Stateid4.default (setting attrs)]
        return ()).run nfs := by
  refine request_takes
    (holds_new.andThen (adds_putfh short) fun _ holds => holds.step (adds_setattr _ attrs))
    (by simp)
    (fun results => (takes_beginOp opPutfh).bind ((takes_beginOp opSetattr).bind
      ((takes_words results.second.result).ret fun _ => ())))
    (fun results => ?_) established
  simp

/-- A directory or a link is created and its handle is read. -/
theorem create_eq {step : Compound → Except XdrError Compound} {kind : CreateType}
    (established : nfs.Established) (short : dir.Short) (adds : Adds step (.create kind name [])) :
    (request server.transport (do
        let c ← Compound.new.putfh dir
        let c ← step c
        c.getfh) readCreated).run nfs =
      (do
        let results ← converse server [.putfh dir, .create kind name [], .getfh]
        return Handle.fh results.rest.second.result).run nfs := by
  refine request_takes
    (holds_new.andThen (adds_putfh short) fun _ holds => holds.andThen adds fun _ holds =>
      holds.step adds_getfh) (by simp)
    (fun results => (takes_beginOp opPutfh).bind ((takes_beginOp opCreate).bind
      ((takes_decode (ChangeInfo4.reads (Prod.fst results.second.result))).bind
        ((takes_words (Prod.snd results.second.result)).bind
          ((takes_beginOp opGetfh).bind
            (takes_decode (NfsFh4.reads (Handle.short results.rest.second.result))))))))
    (fun results => ?_) established
  simp

/-- A removal is a conversation of two operations. -/
theorem remove_eq (established : nfs.Established) (short : dir.Short)
    (sized : Sized (Xdr.asBytes name)) :
    (remove server.transport dir name).run nfs =
      (do
        let _ ← converse server [.putfh dir, .remove name]
        return ()).run nfs := by
  refine request_takes
    (holds_new.andThen (adds_putfh short) fun _ holds => holds.step (adds_remove sized)) (by simp)
    (fun results => (takes_beginOp opPutfh).bind ((takes_beginOp opRemove).bind
      ((takes_decode (ChangeInfo4.reads results.second.result)).ret fun _ => ())))
    (fun results => ?_) established
  simp

theorem link_eq (established : nfs.Established) (shortFile : fh.Short) (short : dir.Short)
    (sized : Sized (Xdr.asBytes name)) :
    (link server.transport fh dir name).run nfs =
      (do
        let _ ← converse server [.putfh fh, .savefh, .putfh dir, .link name]
        return ()).run nfs := by
  refine request_takes
    (holds_new.andThen (adds_putfh shortFile) fun _ holds => holds.andThen adds_savefh fun _ holds =>
      holds.andThen (adds_putfh short) fun _ holds => holds.step (adds_link sized)) (by simp)
    (fun results => (takes_beginOp opPutfh).bind ((takes_beginOp opSavefh).bind
      ((takes_beginOp opPutfh).bind ((takes_beginOp opLink).bind
        ((takes_decode (ChangeInfo4.reads results.rest.rest.second.result)).ret fun _ => ())))))
    (fun results => ?_) established
  simp

/-- A renaming is a conversation of four operations. -/
theorem rename_eq {toDir : NfsFh4} {toName : String} (established : nfs.Established)
    (short : dir.Short) (sized : Sized (Xdr.asBytes name)) (shortTo : toDir.Short)
    (sizedTo : Sized (Xdr.asBytes toName)) :
    (rename server.transport dir name toDir toName).run nfs =
      (do
        let _ ← converse server [.putfh dir, .savefh, .putfh toDir, .rename name toName]
        return ()).run nfs := by
  refine request_takes
    (holds_new.andThen (adds_putfh short) fun _ holds => holds.andThen adds_savefh fun _ holds =>
      holds.andThen (adds_putfh shortTo) fun _ holds => holds.step (adds_rename sized sizedTo))
    (by simp)
    (fun results => (takes_beginOp opPutfh).bind ((takes_beginOp opSavefh).bind
      ((takes_beginOp opPutfh).bind ((takes_beginOp opRename).bind
        ((takes_decode (ChangeInfo4.reads (Prod.fst results.rest.rest.second.result))).bind
          ((takes_decode (ChangeInfo4.reads (Prod.snd results.rest.rest.second.result))).ret
            fun _ => ()))))))
    (fun results => ?_) established
  simp

/-- A page of a directory is a conversation of two operations. -/
theorem readdir_eq (cookie : UInt64) (cookieverf : Vector UInt8 8) (maxcount : UInt32)
    (established : nfs.Established) (short : dir.Short) :
    (readdir server.transport dir cookie cookieverf maxcount).run nfs =
      (do
        let results ← converse server
          [.putfh dir, .readdir cookie cookieverf (maxcount / 2) maxcount requested]
        return dirOf results.second.result).run nfs := by
  refine request_takes
    (holds_new.andThen (adds_putfh short) fun _ holds => holds.step (adds_readdir _ _ _ _)) (by simp)
    (fun results => (takes_beginOp opPutfh).bind ((takes_beginOp opReaddir).bind
      (takes_dirlist results.second.result)))
    (fun results => ?_) established
  simp

/-- An operation that returns a stateid uses the seqid of the open-owner. -/
theorem runStateful_eq {op : ArgOp} {opcode : UInt32} {stateid : Success op → Stateid4}
    (established : nfs.Established) (holds : c.Holds [.putfh fh, op])
    (written : ∀ success : Success op,
      success.code = resultHeader opcode nfs4Ok ++ (stateid success).code) :
    (runStateful server.transport opcode c).run nfs =
      (do
        let results ← converse server [.putfh fh, op]
        advance
        return stateid results.second).run nfs := by
  rw [runStateful, Prog.bind_apply, run_eq holds (by simp) established, unread, Prog.bind_apply,
    Prog.bind_apply]
  rcases (converse server [.putfh fh, op]).run nfs with _ | ⟨error | results, next⟩
  · rfl
  · rfl
  · have read : (readStateid opcode).run' ⟨results.code⟩ = .ok (stateid results.second) := by
      rw [← readStateid_ok opcode (stateid results.second), ← written]
      simp
    exact Prog.bind_of_ok (congrArg (fun outcome => some (outcome, next)) read)

/-- A close is a conversation of two operations, and counts. -/
theorem close_eq (stateid : Stateid4) (established : nfs.Established) (short : fh.Short) :
    (close server.transport fh stateid).run nfs =
      (do
        let _ ← converse server [.putfh fh, .close nfs.openSeqid stateid]
        advance).run nfs := by
  obtain ⟨c, built, holds⟩ := holds_new.andThen (adds_putfh short) fun _ holds =>
    holds.step (adds_close nfs.openSeqid stateid)
  have ran := @runStateful_eq S server nfs c fh (.close nfs.openSeqid stateid) opClose
    (fun success => success.result) established holds fun _ => rfl
  rw [close, Prog.bind_of_ok (rfl : Prog.get.run nfs = _),
    Prog.bind_of_ok (congrArg (fun built => some (liftXdr built, nfs)) built), Prog.bind_apply, ran,
    Prog.bind_apply, Prog.bind_apply]
  rcases (converse server [.putfh fh, .close nfs.openSeqid stateid]).run nfs with
    _ | ⟨error | results, next⟩ <;> rfl

/-- A lock names its owner, and is a conversation of two operations. -/
theorem lock_eq (openStateid : Stateid4) (offset length : UInt64) (exclusive : Bool)
    (established : nfs.Established) (short : fh.Short) :
    (lock server.transport fh openStateid offset length exclusive).run nfs =
      (do
        let results ← converse server [.putfh fh, nfs.lockOp openStateid offset length exclusive]
        advance
        return (⟨results.second.result, locktype exclusive⟩ : LockGrant)).run nfs.lockNamed := by
  obtain ⟨c, built, holds⟩ := holds_new.andThen (adds_putfh short) fun _ holds =>
    holds.step (adds_lockNew (locktype exclusive) offset length nfs.openSeqid openStateid 0
      nfs.clientid established.sized_nextLockOwner)
  have ran := @runStateful_eq S server nfs.lockNamed c fh
    (nfs.lockOp openStateid offset length exclusive) opLock (fun success => success.result)
    established.lockNamed holds fun _ => rfl
  rw [lock, Prog.bind_of_ok (freshLockOwner_ok nfs),
    Prog.bind_of_ok (rfl : Prog.get.run nfs.lockNamed = _),
    Prog.bind_of_ok (congrArg (fun built => some (liftXdr built, nfs.lockNamed)) built),
    Prog.bind_apply, ran, Prog.bind_apply, Prog.bind_apply]
  rcases (converse server [.putfh fh, nfs.lockOp openStateid offset length exclusive]).run
    nfs.lockNamed with _ | ⟨error | results, next⟩ <;> rfl

/-- A lock that is denied is not available; any other failure is an error. -/
theorem testLock_eq (offset length : UInt64) (exclusive : Bool) (established : nfs.Established)
    (short : fh.Short) :
    (testLock server.transport fh offset length exclusive).run nfs =
      (do
        match ← Prog.outcome (converse server [.putfh fh,
          .lockt (locktype exclusive) offset length nfs.clientid nfs.nextLockOwner]) with
        | .ok _ => return true
        | .error error =>
            if error = ProtoError.nfs4 nfs4errDenied then return false
            else Prog.throw error).run nfs.lockNamed := by
  obtain ⟨c, built, holds⟩ := holds_new.andThen (adds_putfh short) fun _ holds =>
    holds.step (adds_lockt (locktype exclusive) offset length nfs.clientid
      established.sized_nextLockOwner)
  have ran := @run_eq S server nfs.lockNamed c [.putfh fh,
    .lockt (locktype exclusive) offset length nfs.clientid nfs.nextLockOwner] holds (by simp)
    established.lockNamed
  have tested : Takes CompoundReader.mk (do
      beginOp opPutfh
      beginOp opLockt
      return true : ReadM Bool) true (resultHeader opPutfh nfs4Ok ++ resultHeader opLockt nfs4Ok) :=
    (takes_beginOp opPutfh).bind ((takes_beginOp opLockt).ret fun _ => true)
  rw [testLock, Prog.bind_of_ok (freshLockOwner_ok nfs),
    Prog.bind_of_ok (rfl : Prog.get.run nfs.lockNamed = _),
    Prog.bind_of_ok (congrArg (fun built => some (liftXdr built, nfs.lockNamed)) built),
    Prog.bind_apply, Prog.bind_apply, Prog.outcome, Prog.outcome]
  simp only
  rw [ran, unread, Prog.bind_apply]
  rcases (converse server [.putfh fh,
    .lockt (locktype exclusive) offset length nfs.clientid nfs.nextLockOwner]).run
    nfs.lockNamed with _ | ⟨error | results, next⟩
  · rfl
  · rfl
  · exact congrArg (fun outcome => some (outcome, next)) tested.run'

/-- The confirmation of an open file. -/
def confirming (server : OpServer S) (fh : NfsFh4) (stateid : Stateid4) :
    Prog (Nfs4 S) ProtoError OpenResult := do
  let nfs ← Prog.get
  let results ← converse server [.putfh fh, .openConfirm stateid nfs.openSeqid]
  advance
  return ⟨fh, results.second.result⟩

/-- What follows an `OPEN` that succeeded: a delegation is refused, and the stateid is
confirmed when the server asks for that. -/
def afterOpen (server : OpServer S) (opened : OpenRes) (delegation : Option Delegation)
    (fh : NfsFh4) : Prog (Nfs4 S) ProtoError OpenResult :=
  if delegation.isSome then
    Prog.throw (.protocol "el servidor concedió una delegación (no soportado)")
  else do
    advance
    if opened.rflags &&& open4ResultConfirm ≠ 0 then
      confirming server fh opened.stateid
    else
      return ⟨fh, opened.stateid⟩

theorem readOpen_results {opening : Opening} (results : Results (opening.ops nfs)) :
    readOpen.run' ⟨results.code⟩ =
      if (results.second.extra : Option Delegation).isSome then
        .error (.protocol "el servidor concedió una delegación (no soportado)")
      else
        .ok (OpenRes.stateid results.second.result, OpenRes.rflags results.second.result,
          Handle.fh results.rest.second.result) := by
  rcases results with ⟨put, ⟨⟨stateid, cinfo, rflags, attrset⟩, delegation⟩, ⟨handle, extra⟩, done⟩
  have read := readOpen_eq ⟨cinfo, rflags, attrset.1, attrset.2, delegation, .ok handle⟩
    stateid handle
  rcases delegation with _ | delegation
  · rw [if_pos rfl] at read
    refine Eq.trans ?_ read
    simp [Opening.ops, Opening.op, Results.code, Opened.code, delegationCode]
  · rw [if_neg (Option.some_ne_none _)] at read
    refine Eq.trans ?_ read
    simp [Opening.ops, Opening.op, Results.code, Opened.code, delegationCode]

/-- The confirmation of an open is a conversation of two operations, and counts. -/
theorem confirming_eq (stateid : Stateid4) (established : nfs.Established) (short : fh.Short) :
    (do
      let nfs ← Prog.get
      let c ← Prog.ofExcept (liftXdr (do
        let c ← Compound.new.putfh fh
        c.openConfirm stateid nfs.openSeqid))
      let stateid ← runStateful server.transport opOpenConfirm c
      return ⟨fh, stateid⟩ : Prog (Nfs4 S) ProtoError OpenResult).run nfs =
      (confirming server fh stateid).run nfs := by
  obtain ⟨c, built, holds⟩ := holds_new.andThen (adds_putfh short) fun _ holds =>
    holds.step (adds_openConfirm stateid nfs.openSeqid)
  have ran := @runStateful_eq S server nfs c fh (.openConfirm stateid nfs.openSeqid) opOpenConfirm
    (fun success => success.result) established holds fun _ => rfl
  rw [confirming, Prog.bind_of_ok (rfl : Prog.get.run nfs = _),
    Prog.bind_of_ok (rfl : Prog.get.run nfs = _),
    Prog.bind_of_ok (congrArg (fun built => some (liftXdr built, nfs)) built), Prog.bind_apply, ran,
    Prog.bind_apply, Prog.bind_apply]
  rcases (converse server [.putfh fh, .openConfirm stateid nfs.openSeqid]).run nfs with
    _ | ⟨error | results, next⟩ <;> rfl

/-- Opening a file is asking for it and doing what `afterOpen` says. -/
theorem open_eq (opening : Opening) (established : nfs.Established) (short : opening.dir.Short)
    (sized : Sized (Xdr.asBytes opening.name)) :
    (Nfs4.open server.transport opening.dir opening.name opening.shareAccess opening.create).run
      nfs =
      (do
        let results ← converse server (opening.ops nfs)
        afterOpen server results.second.result results.second.extra
          (Handle.fh results.rest.second.result)).run nfs := by
  obtain ⟨c, built, holds⟩ := holds_new.andThen (adds_putfh short) fun _ holds =>
    holds.andThen (adds_open nfs.openSeqid nfs.clientid opening.shareAccess opening.create
      established.sized sized) fun _ holds => holds.step adds_getfh
  have ran := @run_eq S server nfs c (opening.ops nfs) holds (by simp [Opening.ops]) established
  rw [Nfs4.open, Prog.bind_of_ok (rfl : Prog.get.run nfs = _),
    Prog.bind_of_ok (congrArg (fun built => some (liftXdr built, nfs)) built), Prog.bind_apply, ran,
    unread, Prog.bind_apply, Prog.bind_apply]
  rcases ended : (converse server (opening.ops nfs)).run nfs with _ | ⟨error | results, next⟩
  · rfl
  · rfl
  · have read := readOpen_results results
    obtain ⟨opened, isOpened⟩ : ∃ opened : OpenRes, opened = results.second.result := ⟨_, rfl⟩
    obtain ⟨delegation, isDelegation⟩ : ∃ delegation : Option Delegation,
      delegation = results.second.extra := ⟨_, rfl⟩
    obtain ⟨handle, isHandle⟩ : ∃ handle : Handle, handle = results.rest.second.result := ⟨_, rfl⟩
    rw [← isOpened, ← isDelegation, ← isHandle] at read
    change Prog.run (Prog.ofExcept (readOpen.run' ⟨results.code⟩) >>= _) next =
      (afterOpen server results.second.result results.second.extra
        (Handle.fh results.rest.second.result)).run next
    rw [← isOpened, ← isDelegation, ← isHandle, afterOpen]
    split at read
    · rename_i granted
      rw [if_pos granted, Prog.ofExcept, read]
      rfl
    · rename_i plain
      rw [if_neg plain, Prog.bind_of_ok (congrArg (fun outcome => some (outcome, next)) read),
        Prog.bind_of_ok (advance_ok next)]
      rw [Prog.bind_of_ok (advance_ok next)]
      split
      · exact confirming_eq opened.stateid (established.converse ended).advanced handle.short
      · rfl

section Long

variable {τ : Type} {transport : Transport τ} {client : Nfs4 τ}

/-- A text without a length prefix is not put into a request. -/
theorem put_long (long : ¬ Sized (Xdr.asBytes name)) :
    ∃ error, ∀ c : Compound, c.put name = .error error := by
  have tooLong : (Xdr.asBytes name).length > u32Max := Nat.lt_of_not_le fun within =>
    long (Nat.lt_of_le_of_lt within (by decide))
  by_cases limited : (Xdr.asBytes name).length > usizeMax
  · refine ⟨.limitExceeded (Xdr.asBytes name).length usizeMax, fun c => ?_⟩
    simp [put, XdrEncode.encode, Xdr.encodeOpaque, limited, bind, Except.bind]
  · refine ⟨.lengthOverflow (Xdr.asBytes name).length, fun c => ?_⟩
    simp [put, XdrEncode.encode, Xdr.encodeOpaque, limited, tooLong, bind, Except.bind]

/-- A request that is not built is not sent. -/
theorem unbuilt {α : Type} {built : Except XdrError Compound} {error : XdrError}
    (refused : built = .error error) (next : Compound → Prog (Nfs4 τ) ProtoError α) :
    (Prog.ofExcept (liftXdr built) >>= next).run client = some (.error (.xdr error), client) := by
  rw [refused]
  rfl

/-- A name without a length prefix is not looked up. -/
theorem lookup_long (short : dir.Short) (long : ¬ Sized (Xdr.asBytes name)) :
    ∃ error, (lookup transport dir name).run client = some (.error (.xdr error), client) := by
  obtain ⟨error, refused⟩ := put_long long
  have put := put_of_writes (NfsFh4.writes short)
  refine ⟨error, unbuilt ?_ _⟩
  simp [Compound.putfh, Compound.lookup, put, refused, bind, Except.bind]

end Long

end Methods

end Nfs4

end LibNfs.Proto
