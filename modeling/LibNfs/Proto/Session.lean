import LibNfs.Proto.Operations

/-! # The handshakes of the NFSv4 client

`SETCLIENTID` of NFSv4.0, and `EXCHANGE_ID`, `CREATE_SESSION` and
`RECLAIM_COMPLETE` of NFSv4.1. The clock and the process id that make the
verifier and the owner are parameters.
-/

namespace LibNfs.Proto

open Xdr (XdrError XdrEncode XdrDecode)

/-- The verifier of a client: the time in nanoseconds. -/
def bootVerifier (nanos : UInt64) : Vector UInt8 8 :=
  ⟨(Xdr.beU64 nanos).toArray, by simp⟩

/-- The name of a client: its process and the time. -/
def uniqueOwner (pid : UInt32) (nanos : UInt64) : Bytes :=
  Xdr.asBytes ("libnfs-rs:" ++ toString pid ++ ":" ++ toString nanos)

theorem length_asBytes_ofList (chars : List Char) :
    (Xdr.asBytes (String.ofList chars)).length ≤ 4 * chars.length := by
  induction chars with
  | nil => decide
  | cons c rest ih =>
      have one := c.utf8Size_le_four
      change (String.ofList rest).utf8ByteSize ≤ _ at ih
      change (String.ofList (c :: rest)).utf8ByteSize ≤ _
      rw [String.ofList_cons, String.utf8ByteSize_append, String.utf8ByteSize_singleton,
        List.length_cons]
      omega

/-- A number of 64 bits has at most 20 digits. -/
theorem length_asBytes_toString (n : Nat) (bound : n < 2 ^ 64) :
    (Xdr.asBytes (toString n)).length ≤ 80 := by
  have digits : (Nat.repr n).length ≤ 20 :=
    (Nat.length_repr_le_iff (by decide)).mpr (Nat.lt_trans bound (by decide))
  have size := length_asBytes_ofList (Nat.toDigits 10 n)
  rw [Nat.repr_eq_ofList_toDigits, String.length_ofList] at digits
  change (Xdr.asBytes (Nat.repr n)).length ≤ 80
  rw [Nat.repr_eq_ofList_toDigits]
  omega

theorem length_uniqueOwner (pid : UInt32) (nanos : UInt64) :
    (uniqueOwner pid nanos).length ≤ 171 := by
  have first : (toString pid.toNat).utf8ByteSize ≤ 80 :=
    length_asBytes_toString pid.toNat (Nat.lt_trans pid.toNat_lt (by decide))
  have second : (toString nanos.toNat).utf8ByteSize ≤ 80 :=
    length_asBytes_toString nanos.toNat nanos.toNat_lt
  have head : "libnfs-rs:".utf8ByteSize = 10 := by decide
  have colon : ":".utf8ByteSize = 1 := by decide
  change ("libnfs-rs:" ++ toString pid.toNat ++ ":" ++ toString nanos.toNat).utf8ByteSize ≤ 171
  simp only [String.utf8ByteSize_append]
  omega

/-- `channel_attrs4` with the values of the client: one slot, 1 MiB. -/
def encodeChannelAttrs (buf : Bytes) : Except XdrError Bytes := do
  let buf ← XdrEncode.encode (0 : UInt32) buf
  let buf ← XdrEncode.encode (1048576 : UInt32) buf
  let buf ← XdrEncode.encode (1048576 : UInt32) buf
  let buf ← XdrEncode.encode (0 : UInt32) buf
  let buf ← XdrEncode.encode (8 : UInt32) buf
  let buf ← XdrEncode.encode (1 : UInt32) buf
  XdrEncode.encode (0 : UInt32) buf

/-- Reads past a `channel_attrs4`. -/
def skipChannelAttrs : ReadM Unit := do
  for _ in List.range 6 do
    let _ : UInt32 ← CompoundReader.decode
  let _rdmaIrd : List UInt32 ← CompoundReader.decode

namespace Compound

def exchangeId (verifier : Vector UInt8 8) (owner : Bytes) (c : Compound) :
    Except XdrError Compound := do
  let c ← c.op opExchangeId
  let c ← c.put verifier
  let c ← c.put owner
  let c ← c.put (0 : UInt32)
  let c ← c.put (0 : UInt32)
  c.put (0 : UInt32)

def createSession (clientid : UInt64) (createSeqid : UInt32) (c : Compound) :
    Except XdrError Compound := do
  let c ← c.op opCreateSession
  let c ← c.put clientid
  let c ← c.put createSeqid
  let c ← c.put (0 : UInt32)
  let c ← c.append encodeChannelAttrs
  let c ← c.append encodeChannelAttrs
  let c ← c.put (0 : UInt32)
  let c ← c.put (1 : UInt32)
  c.put (0 : UInt32)

def reclaimComplete (c : Compound) : Except XdrError Compound := do
  let c ← c.op opReclaimComplete
  c.put false

def setclientid (verifier : Vector UInt8 8) (id : Bytes) (c : Compound) :
    Except XdrError Compound := do
  let c ← c.op opSetclientid
  let c ← c.put verifier
  let c ← c.put id
  let c ← c.put (0 : UInt32)
  let c ← c.put ""
  let c ← c.put ""
  c.put (0 : UInt32)

def setclientidConfirm (clientid : UInt64) (confirm : Vector UInt8 8) (c : Compound) :
    Except XdrError Compound := do
  let c ← c.op opSetclientidConfirm
  let c ← c.put clientid
  c.put confirm

def destroySession (sessionid : Vector UInt8 16) (c : Compound) : Except XdrError Compound := do
  let c ← c.op opDestroySession
  c.put sessionid

end Compound

namespace Nfs4

variable {τ : Type} (transport : Transport τ)

open CompoundReader (beginOp decode opaqueData)

/-- The client id and the sequence number that `CREATE_SESSION` has to carry. -/
def readExchangeId : ReadM (UInt64 × UInt32) := do
  beginOp opExchangeId
  let clientid : UInt64 ← decode
  let createSeqid : UInt32 ← decode
  let _flags : UInt32 ← decode
  let _stateProtect : UInt32 ← decode
  let _serverMinorId : UInt64 ← decode
  let _serverMajorId ← opaqueData usizeMax
  let _serverScope ← opaqueData usizeMax
  let _implIdCount : UInt32 ← decode
  return (clientid, createSeqid)

/-- The session and `csr_sequence`. -/
def readCreateSession : ReadM (Vector UInt8 16 × UInt32) := do
  beginOp opCreateSession
  let sessionid : Vector UInt8 16 ← decode
  let csrSeq : UInt32 ← decode
  let _csrFlags : UInt32 ← decode
  skipChannelAttrs
  skipChannelAttrs
  return (sessionid, csrSeq)

/-- Runs a request without `SEQUENCE` and reads its results. -/
def requestRaw {α : Type} (c : Except XdrError Compound) (read : ReadM α) :
    Prog (Nfs4 τ) ProtoError α := do
  let c ← Prog.ofExcept (liftXdr c)
  let reader ← runRaw transport c
  Prog.ofExcept (read.run' reader)

/-- `EXCHANGE_ID`, `CREATE_SESSION` and `RECLAIM_COMPLETE`. The first request of the
session carries `csr_sequence`. -/
def establishSession (nanos : UInt64) : Prog (Nfs4 τ) ProtoError Unit := do
  let nfs ← Prog.get
  let (clientid, createSeqid) ←
    requestRaw transport (Compound.new.exchangeId (bootVerifier nanos) nfs.owner) readExchangeId
  Prog.modify fun nfs => { nfs with clientid := clientid }
  let (sessionid, csrSeq) ←
    requestRaw transport (Compound.new.createSession clientid createSeqid) readCreateSession
  Prog.modify fun nfs => { nfs with sessionid := some sessionid, seqId := csrSeq }
  request transport Compound.new.reclaimComplete (beginOp opReclaimComplete)

def destroySession : Prog (Nfs4 τ) ProtoError Unit := do
  let nfs ← Prog.get
  match nfs.sessionid with
  | none => return ()
  | some sessionid =>
      requestRaw transport (Compound.new.destroySession sessionid) (beginOp opDestroySession)
      Prog.modify fun nfs => { nfs with sessionid := none }

def setclientid (nanos : UInt64) (id : Bytes) : Prog (Nfs4 τ) ProtoError Unit := do
  let (clientid, confirm) ←
    request transport (Compound.new.setclientid (bootVerifier nanos) id) (do
      beginOp opSetclientid
      let clientid : UInt64 ← decode
      let confirm : Vector UInt8 8 ← decode
      return (clientid, confirm))
  request transport (Compound.new.setclientidConfirm clientid confirm)
    (beginOp opSetclientidConfirm)
  Prog.modify fun nfs => { nfs with clientid := clientid }

/-- A client that has not spoken to the server yet. -/
def fresh (rpc : τ) (minor : UInt32) (owner : Bytes) : Nfs4 τ :=
  ⟨rpc, minor, 0, owner, 0, 0, none, 0⟩

/-- The handshake of `from_client`. -/
def handshake (nanos : UInt64) (id : Bytes) : Prog (Nfs4 τ) ProtoError Unit := do
  let nfs ← Prog.get
  if nfs.minor ≥ 1 then
    establishSession transport nanos
  else
    setclientid transport nanos id

end Nfs4

end LibNfs.Proto
