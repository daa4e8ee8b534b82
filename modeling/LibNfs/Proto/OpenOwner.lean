import LibNfs.Proto.Nfs4

/-! # A server that counts the requests of an open-owner

The server of RFC 7530, section 9.1.7, for one open-owner: it remembers the last
seqid `L` it processed, executes an operation with seqid `L + 1`, repeats its
reply to one with seqid `L`, and refuses any other. It reads the seqid off the
request as it stands on the wire. What an operation answers is for the server to
choose, so `choose` ranges over every server; the log holds, newest first, what
was asked of it.
-/

namespace LibNfs.Proto

open Coding
open Xdr (XdrError XdrDecode beU32 decodeU32)

/-- The operations that carry a seqid of the open-owner. -/
inductive SeqidOp where
  | open
  | openConfirm
  | close
  | lock
  deriving DecidableEq, Repr

namespace SeqidOp

def opcode : SeqidOp → UInt32
  | .open => opOpen
  | .openConfirm => opOpenConfirm
  | .close => opClose
  | .lock => opLock

/-- Reads past the arguments that stand ahead of the seqid. -/
def skip (op : SeqidOp) (buf : Bytes) : Except XdrError (Unit × Bytes) :=
  match op with
  | .open | .close => .ok ((), buf)
  | .openConfirm => do
      let (_stateid, buf) ← (XdrDecode.decode buf : Except XdrError (Stateid4 × Bytes))
      return ((), buf)
  | .lock => do
      let (_locktype, buf) ← decodeU32 buf
      let (_reclaim, buf) ← (XdrDecode.decode buf : Except XdrError (Bool × Bytes))
      let (_offset, buf) ← Xdr.decodeU64 buf
      let (_length, buf) ← Xdr.decodeU64 buf
      let (_newOwner, buf) ← (XdrDecode.decode buf : Except XdrError (Bool × Bytes))
      return ((), buf)

/-- The operation of an opcode. -/
def ofOpcode (opcode : UInt32) : Option SeqidOp :=
  [SeqidOp.open, .openConfirm, .close, .lock].find? (·.opcode = opcode)

theorem ofOpcode_opcode (op : SeqidOp) : ofOpcode op.opcode = some op := by
  cases op <;> decide

end SeqidOp

/-- The operation and the seqid of a `COMPOUND` of `PUTFH` and an operation of
the open-owner. -/
def readRequest (buf : Bytes) : Except XdrError (SeqidOp × UInt32) := do
  let (_tag, buf) ← (XdrDecode.decode buf : Except XdrError (String × Bytes))
  let (_minor, buf) ← decodeU32 buf
  let (_count, buf) ← decodeU32 buf
  let (_putfh, buf) ← decodeU32 buf
  let (_fh, buf) ← (XdrDecode.decode buf : Except XdrError (NfsFh4 × Bytes))
  let (opcode, buf) ← decodeU32 buf
  match SeqidOp.ofOpcode opcode with
  | none => .error (.invalidUnion opcode)
  | some op => do
      let (_, buf) ← op.skip buf
      let (seqid, _) ← decodeU32 buf
      return (op, seqid)

def nfs4errResource : UInt32 := 10018

def nfs4errMoved : UInt32 := 10019

def nfs4errNofilehandle : UInt32 := 10020

def nfs4errStaleClientid : UInt32 := 10022

def nfs4errStaleStateid : UInt32 := 10023

def nfs4errBadStateid : UInt32 := 10025

def nfs4errBadSeqid : UInt32 := 10026

def nfs4errBadxdr : UInt32 := 10036

/-- The statuses after which the server does not count the seqid. -/
def uncounted : List UInt32 :=
  [nfs4errStaleClientid, nfs4errStaleStateid, nfs4errBadStateid, nfs4errBadSeqid, nfs4errBadxdr,
    nfs4errResource, nfs4errNofilehandle, nfs4errMoved]

/-- A status other than `NFS4_OK`. -/
structure Failure where
  status : UInt32
  bad : status ≠ nfs4Ok
  deriving DecidableEq, Repr

/-- A handle that respects `NFS4_FHSIZE`. -/
structure Handle where
  fh : NfsFh4
  short : fh.Short
  deriving DecidableEq, Repr

/-- A delegation that is granted, with the data of its kind. -/
structure Delegation where
  kind : UInt32
  granted : kind ≠ 0
  data : Bytes
  deriving DecidableEq, Repr

/-- What `OPEN` returns besides the stateid, and what the `GETFH` after it
returns. -/
structure Opened where
  cinfo : ChangeInfo4
  rflags : UInt32
  attrset : List UInt32
  attrsetFits : attrset.length < 2 ^ 32
  delegation : Option Delegation
  getfh : Except Failure Handle
  deriving DecidableEq, Repr

/-- What the server chooses to answer: the operation is not reached, because
`PUTFH` or the whole request failed; it fails; or it succeeds, where `opened` is
for `OPEN`. -/
inductive Answer where
  | unreached (failure : Failure)
  | failed (failure : Failure) (data : Bytes)
  | succeeded (stateid : Stateid4) (opened : Opened)
  deriving DecidableEq, Repr

/-- The opcode and the status a result starts with. -/
def resultHeader (opcode status : UInt32) : Bytes :=
  beU32 opcode ++ beU32 status

/-- A bitmap on the wire. -/
def bitmapCode (words : List UInt32) : Bytes :=
  Xdr.SizedTy.code (.vec .u32) words

/-- What `OPEN` returns after its status. -/
def Opened.code (opened : Opened) (stateid : Stateid4) : Bytes :=
  stateid.code ++ (opened.cinfo.code ++ (beU32 opened.rflags ++ (bitmapCode opened.attrset ++
    match opened.delegation with
    | none => beU32 0
    | some delegation => beU32 delegation.kind ++ delegation.data)))

/-- The status and the results of `GETFH`. -/
def Opened.getfhRes (opened : Opened) : UInt32 × Bytes :=
  match opened.getfh with
  | .ok handle => (nfs4Ok, resultHeader opGetfh nfs4Ok ++ handle.fh.code)
  | .error failure => (failure.status, resultHeader opGetfh failure.status)

/-- The reply to an operation that is executed. -/
def Answer.res (op : SeqidOp) : Answer → CompoundRes
  | .unreached failure => ⟨failure.status, "", 1, resultHeader opPutfh failure.status⟩
  | .failed failure data =>
      ⟨failure.status, "", 2,
        resultHeader opPutfh nfs4Ok ++ (resultHeader op.opcode failure.status ++ data)⟩
  | .succeeded stateid opened =>
      if op = .open then
        ⟨opened.getfhRes.1, "", 3,
          resultHeader opPutfh nfs4Ok ++ (resultHeader op.opcode nfs4Ok ++
            (opened.code stateid ++ opened.getfhRes.2))⟩
      else
        ⟨nfs4Ok, "", 2,
          resultHeader opPutfh nfs4Ok ++ (resultHeader op.opcode nfs4Ok ++ stateid.code)⟩

/-- The server counts the seqid of an operation it answers so. -/
def Answer.Counts : Answer → Prop
  | .unreached _ => False
  | .failed failure _ => failure.status ∉ uncounted
  | .succeeded _ _ => True

instance : (answer : Answer) → Decidable answer.Counts
  | .unreached _ => .isFalse id
  | .failed failure _ => inferInstanceAs (Decidable (failure.status ∉ uncounted))
  | .succeeded _ _ => .isTrue trivial

/-- An operation asked of the server: the last seqid processed before it, the
operation with its seqid, and the answer chosen for it. -/
structure Entry where
  last : Option UInt32
  op : SeqidOp
  seqid : UInt32
  answer : Answer
  deriving DecidableEq, Repr

/-- The seqid is the one after the last; a new owner may start anywhere. -/
def Entry.Fresh (entry : Entry) : Prop :=
  ∀ last ∈ entry.last, entry.seqid = last + 1

instance : DecidablePred Entry.Fresh
  | ⟨none, _, _, _⟩ => .isTrue fun _ absent => nomatch absent
  | ⟨some last, _, seqid, _⟩ =>
      decidable_of_iff (seqid = last + 1) ⟨fun next _ same => Option.some.inj same ▸ next,
        fun fresh => fresh last rfl⟩

structure OwnerServer where
  choose : Nat → Answer
  turn : Nat
  last : Option UInt32
  lastReply : Bytes
  log : List Entry

namespace OwnerServer

/-- A server that has not met the open-owner yet. -/
def new (choose : Nat → Answer) : OwnerServer where
  choose := choose
  turn := 0
  last := none
  lastReply := []
  log := []

/-- The reply to a request that is refused as a whole. -/
def refusal (status : UInt32) : Bytes :=
  CompoundRes.encode ⟨status, "", 0, []⟩

/-- Evaluates an operation that has been reached. -/
def evaluate (server : OwnerServer) (entry : Entry) : Bytes × OwnerServer :=
  if entry.Fresh then
    let reply := (entry.answer.res entry.op).encode
    if entry.answer.Counts then
      (reply, { server with last := some entry.seqid, lastReply := reply })
    else
      (reply, server)
  else if entry.last = some entry.seqid then
    (server.lastReply, server)
  else
    (refusal nfs4errBadSeqid, server)

/-- Answers a request. -/
def serve (server : OwnerServer) (request : Bytes) : Bytes × OwnerServer :=
  match readRequest request with
  | .error _ => (refusal nfs4errBadxdr, server)
  | .ok (op, seqid) =>
      let entry : Entry := ⟨server.last, op, seqid, server.choose server.turn⟩
      let server := { server with turn := server.turn + 1, log := entry :: server.log }
      match entry.answer with
      | .unreached _ => ((entry.answer.res op).encode, server)
      | _ => evaluate server entry

/-- The server as a transport that delivers its replies intact. -/
def transport : Transport OwnerServer where
  call _ _ _ args :=
    match args with
    | .error error => Prog.throw (.xdr error)
    | .ok request => ⟨fun server =>
        let (reply, server) := server.serve request
        some (.ok reply, server)⟩

end OwnerServer

end LibNfs.Proto
