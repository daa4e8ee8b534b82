import LibNfs.Proto.Conformance

/-! # A server that counts the requests of a slot

The server of NFSv4.1 for one session with one slot: it remembers the last
sequence number `S` it executed on the slot, executes a request with `S + 1`,
repeats its reply to the same request with `S`, and refuses any other. It reads
the number off the `SEQUENCE` that a request starts with. Whether a request
arrives, whether its `SEQUENCE` succeeds and what follows is for `choose`; the log
holds, newest first, what was sent on the slot.
-/

namespace LibNfs.Proto

open Coding Reading
open Xdr (XdrError XdrDecode beU32 beU64)

def nfs4errSeqMisordered : UInt32 := 10063

def nfs4errSeqFalseRetry : UInt32 := 10076

/-- What the network and the server do with a request. -/
inductive Choice where
  /-- The request does not arrive. -/
  | lost (error : Rpc.RpcError)
  /-- Its first operation fails. -/
  | refused (failure : Failure)
  /-- Its first operation succeeds, and the others end with some status and results;
  the reply may be lost. -/
  | executed (slot : SequenceRes) (status count : UInt32) (results : Bytes)
      (reply : Except Rpc.RpcError Unit)

/-- The server executes `SEQUENCE`. -/
def Choice.Consumes : Choice → Prop
  | .lost _ | .refused _ => False
  | .executed .. => True

instance : DecidablePred Choice.Consumes
  | .lost _ | .refused _ => .isFalse id
  | .executed .. => .isTrue trivial

/-- `EXCHANGE_ID4resok` with `SP4_NONE`. -/
structure ExchangeRes where
  clientid : UInt64
  seqid : UInt32
  flags : UInt32
  minorId : UInt64
  majorId : Data
  scope : Data

/-- `channel_attrs4`. -/
structure ChannelAttrs where
  headerpadSize : UInt32
  maxRequestSize : UInt32
  maxResponseSize : UInt32
  maxResponseSizeCached : UInt32
  maxOperations : UInt32
  maxRequests : UInt32
  rdmaIrd : Bitmap

/-- `CREATE_SESSION4resok`. -/
structure SessionRes where
  sessionid : Vector UInt8 16
  sequence : UInt32
  flags : UInt32
  fore : ChannelAttrs
  back : ChannelAttrs

def ExchangeRes.code (res : ExchangeRes) : Bytes :=
  beU64 res.clientid ++ (beU32 res.seqid ++ (beU32 res.flags ++ (beU32 0 ++ (beU64 res.minorId ++
    (dataCode res.majorId.1 ++ (dataCode res.scope.1 ++ beU32 0))))))

def ChannelAttrs.code (attrs : ChannelAttrs) : Bytes :=
  beU32 attrs.headerpadSize ++ (beU32 attrs.maxRequestSize ++ (beU32 attrs.maxResponseSize ++
    (beU32 attrs.maxResponseSizeCached ++ (beU32 attrs.maxOperations ++ (beU32 attrs.maxRequests ++
      bitmapCode attrs.rdmaIrd.1)))))

def SessionRes.code (res : SessionRes) : Bytes :=
  fixedCode res.sessionid ++ (beU32 res.sequence ++ (beU32 res.flags ++
    (res.fore.code ++ res.back.code)))

/-- A request on the slot: the last number executed before it, its own number and
what becomes of it. -/
structure SlotEntry where
  last : UInt32
  seqid : UInt32
  choice : Choice

/-- The request carries the number after the last one executed. -/
def SlotEntry.Next (entry : SlotEntry) : Prop :=
  entry.seqid = entry.last + 1

instance : DecidablePred SlotEntry.Next :=
  fun entry => inferInstanceAs (Decidable (entry.seqid = entry.last + 1))

/-- The last number executed after the request. -/
def SlotEntry.after (entry : SlotEntry) : UInt32 :=
  if entry.Next ∧ entry.choice.Consumes then entry.last + 1 else entry.last

structure SlotServer where
  choose : Nat → Choice
  exchange : ExchangeRes
  session : SessionRes
  turn : Nat
  last : UInt32
  cached : Option (Bytes × Bytes)
  log : List SlotEntry

/-- The first operation of a request, and the number that a `SEQUENCE` carries. -/
def readFirst (buf : Bytes) : Except XdrError (UInt32 × Option UInt32) := do
  let (_tag, buf) ← (XdrDecode.decode buf : Except XdrError (String × Bytes))
  let (_minor, buf) ← Xdr.decodeU32 buf
  let (_count, buf) ← Xdr.decodeU32 buf
  let (opcode, buf) ← Xdr.decodeU32 buf
  if opcode = opSequence then
    let (_sessionid, buf) ← (XdrDecode.decode buf : Except XdrError (Vector UInt8 16 × Bytes))
    let (seqid, _) ← Xdr.decodeU32 buf
    return (opcode, some seqid)
  else
    return (opcode, none)

namespace SlotServer

/-- The reply to a request whose first operation fails. -/
def refusal (opcode status : UInt32) : Bytes :=
  CompoundRes.encode ⟨status, "", 1, resultHeader opcode status⟩

/-- What an operation outside the session returns. -/
def rawResults (server : SlotServer) (opcode : UInt32) : Bytes :=
  if opcode = opExchangeId then server.exchange.code
  else if opcode = opCreateSession then server.session.code
  else []

/-- A request without `SEQUENCE`: a session starts with the number 0. -/
def serveRaw (server : SlotServer) (opcode : UInt32) :
    Choice → Except Rpc.RpcError Bytes × SlotServer
  | .lost error => (.error error, server)
  | .refused failure => (.ok (refusal opcode failure.status), server)
  | .executed _ _ _ _ reply =>
      (reply.map fun _ => CompoundRes.encode
          ⟨nfs4Ok, "", 1, resultHeader opcode nfs4Ok ++ server.rawResults opcode⟩,
        if opcode = opCreateSession then { server with last := 0, cached := none } else server)

/-- The reply to a request whose `SEQUENCE` succeeds. -/
def executedReply (slot : SequenceRes) (status count : UInt32) (results : Bytes) : Bytes :=
  CompoundRes.encode ⟨status, "", count,
    (ArgOp.sequence slot.sessionid slot.seqid 0 0 false).res slot ++ results⟩

/-- A number that is not the next one: the reply to the same request is repeated. -/
def repeated (server : SlotServer) (request : Bytes) (entry : SlotEntry) :
    Except Rpc.RpcError Bytes × SlotServer :=
  match server.cached with
  | none => (.ok (refusal opSequence nfs4errSeqMisordered), server)
  | some (same, reply) =>
      if entry.seqid ≠ entry.last then
        (.ok (refusal opSequence nfs4errSeqMisordered), server)
      else if same = request then
        (.ok reply, server)
      else
        (.ok (refusal opSequence nfs4errSeqFalseRetry), server)

/-- A request on the slot. -/
def serveSlot (server : SlotServer) (request : Bytes) (entry : SlotEntry) :
    Except Rpc.RpcError Bytes × SlotServer :=
  match entry.choice with
  | .lost error => (.error error, server)
  | .refused failure =>
      if entry.Next then
        (.ok (refusal opSequence failure.status), server)
      else
        server.repeated request entry
  | .executed slot status count results reply =>
      if entry.Next then
        let whole := executedReply slot status count results
        (reply.map fun _ => whole,
          { server with last := entry.last + 1, cached := some (request, whole) })
      else
        server.repeated request entry

/-- Answers a request. -/
def serve (server : SlotServer) (request : Bytes) : Except Rpc.RpcError Bytes × SlotServer :=
  let choice := server.choose server.turn
  let server := { server with turn := server.turn + 1 }
  match readFirst request with
  | .error _ => (.ok (refusal opSequence nfs4errBadxdr), server)
  | .ok (opcode, none) => server.serveRaw opcode choice
  | .ok (_, some seqid) =>
      let entry : SlotEntry := ⟨server.last, seqid, choice⟩
      { server with log := entry :: server.log }.serveSlot request entry

def transport : Transport SlotServer where
  call _ _ _ args :=
    match args with
    | .error error => Prog.throw (.xdr error)
    | .ok request => ⟨fun server => some (server.serve request)⟩

end SlotServer

end LibNfs.Proto
