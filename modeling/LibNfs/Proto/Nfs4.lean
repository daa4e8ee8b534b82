import LibNfs.Proto.Compound
import LibNfs.Rpc.Client

/-! # The NFSv4 client

`Nfs4` over a transport that calls RPC procedures: the exchange of a `COMPOUND`
with its retries, and the operations that carry a seqid of the open-owner. The
delays between retries are not modelled.
-/

namespace LibNfs.Proto

open Xdr (XdrError XdrEncode XdrDecode)

/-- What the client calls procedures on, with the result as a byte string. -/
structure Transport (τ : Type) where
  call : UInt32 → UInt32 → UInt32 → Except XdrError Bytes → Prog τ Rpc.RpcError Bytes

/-- The RPC client as a transport: `R` in `RpcClient::call` is `Bytes`. -/
def rpcTransport {ω : Type} (env : Rpc.Env ω) : Transport (Rpc.World ω) where
  call := Rpc.RpcClient.call env (XdrDecode.decode : Bytes → Except XdrError (Bytes × Bytes))

structure Nfs4 (τ : Type) where
  rpc : τ
  minor : UInt32
  clientid : UInt64
  owner : Bytes
  openSeqid : UInt32
  lockCounter : UInt32
  sessionid : Option (Vector UInt8 16)
  seqId : UInt32

structure OpenResult where
  fh : NfsFh4
  stateid : Stateid4
  deriving DecidableEq, Repr

structure LockGrant where
  stateid : Stateid4
  locktype : UInt32
  deriving DecidableEq, Repr

/-- Attempts of a `COMPOUND` after the first one. -/
def maxResends : Nat := 5

namespace Nfs4

variable {τ : Type}

/-- The request of a v4.1 client: `SEQUENCE` on slot 0 and then the operations. -/
def sequenced (minor : UInt32) (sessionid : Vector UInt8 16) (seqid : UInt32) (c : Compound) :
    Except XdrError Bytes := do
  let buf ← XdrEncode.encode "" []
  let buf ← XdrEncode.encode minor buf
  let buf ← XdrEncode.encode (c.nops + 1) buf
  let buf ← XdrEncode.encode opSequence buf
  let buf ← XdrEncode.encode sessionid buf
  let buf ← XdrEncode.encode seqid buf
  let buf ← XdrEncode.encode (0 : UInt32) buf
  let buf ← XdrEncode.encode (0 : UInt32) buf
  let buf ← XdrEncode.encode false buf
  return buf ++ c.ops

/-- The request to send; a v4.1 session spends a sequence number on it. -/
def assemble (c : Compound) : Prog (Nfs4 τ) ProtoError Bytes := do
  let nfs ← Prog.get
  if nfs.minor = 0 then
    Prog.ofExcept (liftXdr (c.finish 0))
  else
    match nfs.sessionid with
    | none => Prog.throw (.protocol "sesión NFSv4.1 no establecida")
    | some sessionid =>
        Prog.modify fun nfs => { nfs with seqId := nfs.seqId + 1 }
        Prog.ofExcept (liftXdr (sequenced nfs.minor sessionid nfs.seqId c))

/-- The result of `SEQUENCE`: the session and five numbers. -/
def skipSequence : ReadM Unit := do
  CompoundReader.beginOp opSequence
  let _sid : Vector UInt8 16 ← CompoundReader.decode
  for _ in List.range 5 do
    let _ : UInt32 ← CompoundReader.decode

section Operations

variable (transport : Transport τ)

/-- Sends a request and returns the bytes of its reply. -/
def call (args : Bytes) : Prog (Nfs4 τ) ProtoError Bytes :=
  Prog.within (·.rpc) (fun rpc nfs => { nfs with rpc := rpc }) .rpc
    (transport.call program version4 compoundProc (.ok args))

/-- The bytes that an attempt of `run` hands to `CompoundReader::parse`. -/
def exchange (c : Compound) : Prog (Nfs4 τ) ProtoError Bytes := do
  let args ← assemble c
  call transport args

/-- The bytes that `run_raw` hands to `CompoundReader::parse`. -/
def exchangeRaw (c : Compound) : Prog (Nfs4 τ) ProtoError Bytes := do
  let nfs ← Prog.get
  let args ← Prog.ofExcept (liftXdr (c.finish nfs.minor))
  call transport args

/-- One attempt of `run`: the reply and what it parses to. -/
def attempt (c : Compound) : Prog (Nfs4 τ) ProtoError (Except ProtoError CompoundReader) := do
  let reply ← exchange transport c
  return CompoundReader.parse reply

/-- What is left to read of the results: in v4.1 they start with `SEQUENCE`. -/
def ownResults (reader : CompoundReader) : Prog (Nfs4 τ) ProtoError CompoundReader := do
  let nfs ← Prog.get
  if nfs.minor ≥ 1 then
    let (_, reader) ← Prog.ofExcept (skipSequence.run reader)
    return reader
  else
    return reader

/-- One turn of the loop of `run`; `again` is what follows `NFS4ERR_GRACE` and
`NFS4ERR_DELAY`. -/
def runTurn (c : Compound) (again : UInt32 → Prog (Nfs4 τ) ProtoError CompoundReader) :
    Prog (Nfs4 τ) ProtoError CompoundReader := do
  match ← attempt transport c with
  | .ok reader => ownResults reader
  | .error (.nfs4 code) =>
      if code = nfs4errGrace ∨ code = nfs4errDelay then
        again code
      else
        Prog.throw (.nfs4 code)
  | .error error => Prog.throw error

/-- The attempts of `run`: one, and `resends` more at most. -/
def attempts (c : Compound) : Nat → Prog (Nfs4 τ) ProtoError CompoundReader
  | 0 => runTurn transport c fun code => Prog.throw (.nfs4 code)
  | resends + 1 => runTurn transport c fun _ => attempts c resends

/-- Runs a `COMPOUND`. -/
def run (c : Compound) : Prog (Nfs4 τ) ProtoError CompoundReader :=
  attempts transport c maxResends

/-- Runs a `COMPOUND` without `SEQUENCE`. -/
def runRaw (c : Compound) : Prog (Nfs4 τ) ProtoError CompoundReader := do
  let reply ← exchangeRaw transport c
  Prog.ofExcept (CompoundReader.parse reply)

/-- The open-owner has used its seqid. -/
def advance : Prog (Nfs4 τ) ProtoError Unit :=
  Prog.modify fun nfs => { nfs with openSeqid := nfs.openSeqid + 1 }

/-- The results of `PUTFH` and of an operation that returns a stateid. -/
def readStateid (opcode : UInt32) : ReadM Stateid4 := do
  CompoundReader.beginOp opPutfh
  CompoundReader.beginOp opcode
  CompoundReader.decode

/-- Runs a `COMPOUND` of `PUTFH` and an operation that returns a stateid, and
counts the seqid it used. -/
def runStateful (opcode : UInt32) (c : Compound) : Prog (Nfs4 τ) ProtoError Stateid4 := do
  let reader ← run transport c
  let stateid ← Prog.ofExcept ((readStateid opcode).run' reader)
  advance
  return stateid

/-- The results of `PUTFH`, `OPEN` and `GETFH`: the stateid, the flags and the
handle. A delegation is refused. -/
def readOpen : ReadM (Stateid4 × UInt32 × NfsFh4) := do
  CompoundReader.beginOp opPutfh
  CompoundReader.beginOp opOpen
  let stateid : Stateid4 ← CompoundReader.decode
  let _cinfo : ChangeInfo4 ← CompoundReader.decode
  let rflags : UInt32 ← CompoundReader.decode
  let _attrset : List UInt32 ← CompoundReader.decode
  let delegationType : UInt32 ← CompoundReader.decode
  if delegationType ≠ 0 then
    throw (.protocol "el servidor concedió una delegación (no soportado)")
  CompoundReader.beginOp opGetfh
  let fh : NfsFh4 ← CompoundReader.decode
  return (stateid, rflags, fh)

/-- Opens a file and confirms it when the server asks for that. -/
def «open» (dir : NfsFh4) (name : String) (shareAccess : UInt32) (create : Bool) :
    Prog (Nfs4 τ) ProtoError OpenResult := do
  let nfs ← Prog.get
  let c ← Prog.ofExcept (liftXdr (do
    let c ← Compound.new.putfh dir
    let c ← c.open nfs.openSeqid nfs.clientid nfs.owner shareAccess create name
    c.getfh))
  let reader ← run transport c
  let (stateid, rflags, fh) ← Prog.ofExcept (readOpen.run' reader)
  advance
  if rflags &&& open4ResultConfirm ≠ 0 then
    let nfs ← Prog.get
    let c ← Prog.ofExcept (liftXdr (do
      let c ← Compound.new.putfh fh
      c.openConfirm stateid nfs.openSeqid))
    let stateid ← runStateful transport opOpenConfirm c
    return ⟨fh, stateid⟩
  else
    return ⟨fh, stateid⟩

def close (fh : NfsFh4) (stateid : Stateid4) : Prog (Nfs4 τ) ProtoError Unit := do
  let nfs ← Prog.get
  let c ← Prog.ofExcept (liftXdr (do
    let c ← Compound.new.putfh fh
    c.close nfs.openSeqid stateid))
  let _stateid ← runStateful transport opClose c
  return ()

/-- A lock-owner not used before. -/
def freshLockOwner : Prog (Nfs4 τ) ProtoError Bytes := do
  Prog.modify fun nfs => { nfs with lockCounter := nfs.lockCounter + 1 }
  let nfs ← Prog.get
  return nfs.owner ++ Xdr.asBytes (":lock:" ++ toString nfs.lockCounter)

def lock (fh : NfsFh4) (openStateid : Stateid4) (offset length : UInt64) (exclusive : Bool) :
    Prog (Nfs4 τ) ProtoError LockGrant := do
  let locktype := if exclusive then writeLt else readLt
  let lockOwner ← freshLockOwner
  let nfs ← Prog.get
  let c ← Prog.ofExcept (liftXdr (do
    let c ← Compound.new.putfh fh
    c.lockNew locktype offset length nfs.openSeqid openStateid 0 nfs.clientid lockOwner))
  let stateid ← runStateful transport opLock c
  return ⟨stateid, locktype⟩

end Operations

end Nfs4

end LibNfs.Proto
