import LibNfs.Rpc.Record
import LibNfs.Xdr.Derive

/-! # RPC messages

Credentials, the header of a `CALL` and the parsing of a `REPLY`. `Reply` is the
`rpc_reply` grammar of RFC 5531 as the server writes it; `parse_reply` reads each
of its messages back.
-/

namespace LibNfs.Rpc

open Xdr (XdrError XdrEncode decodeU32 decodeOpaque encodeOpaque beU32)

/-- `From<XdrError> for RpcError`, as the `?` operator applies it. -/
def liftXdr {α : Type} (result : Except XdrError α) : Except RpcError α :=
  result.mapError .xdr

@[simp] theorem liftXdr_ok {α : Type} (value : α) : liftXdr (.ok value) = .ok value := rfl

@[simp] theorem liftXdr_error {α : Type} (error : XdrError) :
    liftXdr (.error error : Except XdrError α) = .error (.xdr error) := rfl

/-- What a sequence that begins with a read did, when it succeeded. -/
theorem of_liftXdr_bind {α β : Type} {read : Except XdrError α} {next : α → Except RpcError β}
    {result : β} (ended : (liftXdr read >>= next) = .ok result) :
    ∃ value, read = .ok value ∧ next value = .ok result := by
  cases read with
  | error error => cases ended
  | ok value => exact ⟨value, rfl, ended⟩

/-- The flavor without credentials. -/
def authNone : UInt32 := 0

/-- The flavor with user and group numbers. -/
def authSys : UInt32 := 1

/-- Longest body of an `opaque_auth`. -/
def maxAuthBody : Nat := 400

/-- The `authsys_parms` of RFC 5531. -/
structure AuthSysParams where
  stamp : UInt32
  machineName : String
  uid : UInt32
  gid : UInt32
  gids : List UInt32
  deriving DecidableEq, Repr

/-- The type the derive is applied to, with the limits of its fields. -/
def AuthSysParams.ty : Xdr.Ty :=
  .struct (.plain .u32 (.limited 255 .string (.plain .u32 (.plain .u32
    (.limited 16 (.vec .u32) .nil)))))

instance : XdrEncode AuthSysParams where
  encode params := AuthSysParams.ty.encode
    (params.stamp, params.machineName, params.uid, params.gid, params.gids, ())

/-- The credentials that sign the calls. -/
inductive Credentials where
  | none
  | sys (params : AuthSysParams)
  deriving DecidableEq, Repr

namespace Credentials

/-- A minimal `AUTH_SYS` credential. -/
def unix (uid gid : UInt32) : Credentials :=
  .sys { stamp := 0, machineName := "", uid := uid, gid := gid, gids := [] }

/-- Appends the credential as an `opaque_auth`. -/
def encodeAuth (cred : Credentials) (buf : Bytes) : Except RpcError Bytes :=
  match cred with
  | .none => do
      let buf ← liftXdr (XdrEncode.encode authNone buf)
      liftXdr (encodeOpaque [] maxAuthBody buf)
  | .sys params => do
      let buf ← liftXdr (XdrEncode.encode authSys buf)
      let body ← liftXdr (Xdr.toBytes params)
      liftXdr (encodeOpaque body maxAuthBody buf)

end Credentials

/-- The version of RPC. -/
def rpcVersion : UInt32 := 2

/-- A message that is a call. -/
def msgCall : UInt32 := 0

/-- A message that is a reply. -/
def msgReply : UInt32 := 1

/-- Appends the header of a `CALL`; the verifier is always `AUTH_NONE`. -/
def encodeCall (xid prog vers proc : UInt32) (cred : Credentials) (buf : Bytes) :
    Except RpcError Bytes := do
  let buf ← liftXdr (XdrEncode.encode xid buf)
  let buf ← liftXdr (XdrEncode.encode msgCall buf)
  let buf ← liftXdr (XdrEncode.encode rpcVersion buf)
  let buf ← liftXdr (XdrEncode.encode prog buf)
  let buf ← liftXdr (XdrEncode.encode vers buf)
  let buf ← liftXdr (XdrEncode.encode proc buf)
  let buf ← cred.encodeAuth buf
  Credentials.encodeAuth .none buf

/-- The reply is accepted. -/
def msgAccepted : UInt32 := 0

/-- The reply is denied. -/
def msgDenied : UInt32 := 1

/-- The call was executed. -/
def success : UInt32 := 0

/-- The program is not there. -/
def progUnavail : UInt32 := 1

/-- The program has other versions. -/
def progMismatch : UInt32 := 2

/-- The procedure is not there. -/
def procUnavail : UInt32 := 3

/-- The arguments could not be read. -/
def garbageArgs : UInt32 := 4

/-- The server failed. -/
def systemErr : UInt32 := 5

/-- The version of RPC is another. -/
def rpcMismatch : UInt32 := 0

/-- The credentials are not taken. -/
def authError : UInt32 := 1

/-- The rest of an accepted reply, from its `accept_stat`. The outer error is one
of the message, the inner one is the outcome of the call. -/
def parseAccepted (body : Bytes) : Except RpcError (Except RpcError Bytes) := do
  let (stat, body) ← liftXdr (decodeU32 body)
  if stat = success then
    return .ok body
  else if stat = progUnavail then
    return .error .progUnavail
  else if stat = progMismatch then
    let (low, body) ← liftXdr (decodeU32 body)
    let (high, _) ← liftXdr (decodeU32 body)
    return .error (.progMismatch low high)
  else if stat = procUnavail then
    return .error .procUnavail
  else if stat = garbageArgs then
    return .error .garbageArgs
  else if stat = systemErr then
    return .error .systemErr
  else
    return .error (.unknownAcceptStat stat)

/-- The rest of a denied reply, from its `reject_stat`. -/
def parseDenied (body : Bytes) : Except RpcError (Except RpcError Bytes) := do
  let (stat, body) ← liftXdr (decodeU32 body)
  if stat = rpcMismatch then
    let (low, body) ← liftXdr (decodeU32 body)
    let (high, _) ← liftXdr (decodeU32 body)
    return .error (.rpcMismatch low high)
  else if stat = authError then
    let (stat, _) ← liftXdr (decodeU32 body)
    return .error (.authError stat)
  else
    return .error .malformedReply

/-- The rest of a reply, from its message type. -/
def parseReplyBody (body : Bytes) : Except RpcError (Except RpcError Bytes) := do
  let (kind, body) ← liftXdr (decodeU32 body)
  if kind ≠ msgReply then
    .error .malformedReply
  else
    let (stat, body) ← liftXdr (decodeU32 body)
    if stat = msgAccepted then
      -- the verifier is read and ignored
      let (_flavor, body) ← liftXdr (decodeU32 body)
      let (_verf, body) ← liftXdr (decodeOpaque maxAuthBody body)
      parseAccepted body
    else if stat = msgDenied then
      parseDenied body
    else
      .error .malformedReply

/-- Parses a `REPLY`: its xid, and the outcome of the call with the bytes of the
procedure's result. -/
def parseReply (body : Bytes) : Except RpcError (UInt32 × Except RpcError Bytes) := do
  let (xid, body) ← liftXdr (decodeU32 body)
  let inner ← parseReplyBody body
  return (xid, inner)

/-- The data of an accepted call. -/
inductive Accepted where
  | success (result : Bytes)
  | progUnavail
  | progMismatch (low high : UInt32)
  | procUnavail
  | garbageArgs
  | systemErr
  deriving DecidableEq, Repr

/-- What a server answers to a call. -/
inductive Reply where
  | accepted (flavor : UInt32) (verf : Bytes) (data : Accepted)
  | rpcMismatch (low high : UInt32)
  | authError (stat : UInt32)
  deriving DecidableEq, Repr

namespace Accepted

/-- The bytes of an accepted reply. -/
def encode : Accepted → Bytes
  | .success result => beU32 Rpc.success ++ result
  | .progUnavail => beU32 Rpc.progUnavail
  | .progMismatch low high => beU32 Rpc.progMismatch ++ beU32 low ++ beU32 high
  | .procUnavail => beU32 Rpc.procUnavail
  | .garbageArgs => beU32 Rpc.garbageArgs
  | .systemErr => beU32 Rpc.systemErr

/-- The outcome the client is to report. -/
def outcome : Accepted → Except RpcError Bytes
  | .success result => .ok result
  | .progUnavail => .error .progUnavail
  | .progMismatch low high => .error (.progMismatch low high)
  | .procUnavail => .error .procUnavail
  | .garbageArgs => .error .garbageArgs
  | .systemErr => .error .systemErr

end Accepted

namespace Reply

/-- The verifier of the reply, if it has one, respects its limit. -/
def WellFormed : Reply → Prop
  | .accepted _ verf _ => verf.length ≤ maxAuthBody
  | _ => True

instance : (reply : Reply) → Decidable reply.WellFormed
  | .accepted _ verf _ => inferInstanceAs (Decidable (verf.length ≤ maxAuthBody))
  | .rpcMismatch _ _ => .isTrue trivial
  | .authError _ => .isTrue trivial

/-- The reply to the call with a given xid, on the wire. -/
def encode (xid : UInt32) (reply : Reply) : Bytes :=
  beU32 xid ++ (beU32 msgReply ++
    match reply with
    | .accepted flavor verf data =>
        beU32 msgAccepted ++ (beU32 flavor ++
          (Xdr.opaqueCode verf (List.replicate (Xdr.padding verf.length) 0) ++ data.encode))
    | .rpcMismatch low high =>
        beU32 msgDenied ++ (beU32 Rpc.rpcMismatch ++ (beU32 low ++ beU32 high))
    | .authError stat => beU32 msgDenied ++ (beU32 Rpc.authError ++ beU32 stat))

/-- What a reply comes to for the caller. -/
def outcome : Reply → Except RpcError Bytes
  | .accepted _ _ data => data.outcome
  | .rpcMismatch low high => .error (.rpcMismatch low high)
  | .authError stat => .error (.authError stat)

end Reply

@[simp] theorem decodeU32_beU32 (value : UInt32) : decodeU32 (beU32 value) = .ok (value, []) := by
  simpa using Xdr.decodeU32_append value []

theorem parseAccepted_encode (data : Accepted) :
    parseAccepted data.encode = .ok data.outcome := by
  cases data <;>
    simp [parseAccepted, Accepted.encode, Accepted.outcome, bind, Except.bind, pure, Except.pure,
      success, progUnavail, progMismatch, procUnavail, garbageArgs, systemErr]

/-- The client reads back the reply of a server. -/
theorem parseReply_encode (xid : UInt32) {reply : Reply} (wellFormed : reply.WellFormed) :
    parseReply (reply.encode xid) = .ok (xid, reply.outcome) := by
  cases reply with
  | accepted flavor verf data =>
      have within : verf.length ≤ maxAuthBody := wellFormed
      have small : verf.length < 2 ^ 32 := by
        unfold maxAuthBody at within
        omega
      have verifier := @Xdr.reads_opaque verf (List.replicate (Xdr.padding verf.length) 0)
        maxAuthBody within small List.length_replicate data.encode
      simp [parseReply, parseReplyBody, Reply.encode, Reply.outcome, bind, Except.bind, pure,
        Except.pure, msgAccepted, verifier, parseAccepted_encode]
  | rpcMismatch low high =>
      simp [parseReply, parseReplyBody, Reply.encode, Reply.outcome, bind, Except.bind, pure,
        Except.pure, msgAccepted, msgDenied, parseDenied]
  | authError stat =>
      simp [parseReply, parseReplyBody, Reply.encode, Reply.outcome, bind, Except.bind, pure,
        Except.pure, msgAccepted, msgDenied, parseDenied, rpcMismatch, authError]

/-- Only an accepted call that succeeded has a result. -/
theorem Reply.outcome_ok {reply : Reply} {result : Bytes} (ok : reply.outcome = .ok result) :
    ∃ flavor verf, reply = .accepted flavor verf (.success result) := by
  rcases reply with ⟨flavor, verf, data⟩ | _ | _
  · cases data <;> cases ok
    exact ⟨flavor, verf, rfl⟩
  · cases ok
  · cases ok

/-- The xid of a parsed reply is its first word. -/
theorem parseReply_xid {message : Bytes} {xid : UInt32} {outcome : Except RpcError Bytes}
    (parsed : parseReply message = .ok (xid, outcome)) : ∃ rest, message = beU32 xid ++ rest := by
  unfold parseReply at parsed
  rcases read : decodeU32 message with error | ⟨word, rest⟩
  · simp [read, bind, Except.bind] at parsed
  · rcases inner : parseReplyBody rest with error | outcome
    · simp [read, inner, bind, Except.bind] at parsed
    · simp only [read, inner, liftXdr_ok, bind, Except.bind, pure, Except.pure, Except.ok.injEq,
        Prod.mk.injEq] at parsed
      obtain ⟨rfl, -⟩ := parsed
      exact ⟨rest, Xdr.decodeU32_inv read⟩

/-- The xid a message starts with. -/
def leadingXid (message : Bytes) : UInt32 :=
  UInt32.ofNat (BigEndian.decode (message.take 4))

theorem leadingXid_append (xid : UInt32) (rest : Bytes) : leadingXid (beU32 xid ++ rest) = xid := by
  rw [leadingXid, List.take_left' (Xdr.length_beU32 xid), Xdr.decode_beU32]

theorem leadingXid_of_parsed {message : Bytes} {replyXid : UInt32}
    {result : Except RpcError Bytes} (parsed : parseReply message = .ok (replyXid, result)) :
    leadingXid message = replyXid := by
  obtain ⟨rest, rfl⟩ := parseReply_xid parsed
  exact leadingXid_append replyXid rest

theorem encodeOpaque_appends {data buf message : Bytes} {limit : Nat}
    (encoded : encodeOpaque data limit buf = .ok message) : buf <+: message := by
  unfold encodeOpaque at encoded
  split at encoded
  · cases encoded
  · split at encoded
    · cases encoded
    · cases encoded
      simp only [List.append_assoc]
      exact List.prefix_append _ _

/-- A credential is appended to the message. -/
theorem encodeAuth_appends {cred : Credentials} {buf message : Bytes}
    (encoded : cred.encodeAuth buf = .ok message) : buf <+: message := by
  have body : ∀ {flavor : UInt32} {data : Bytes},
      liftXdr (encodeOpaque data maxAuthBody (buf ++ beU32 flavor)) = .ok message →
        buf <+: message := by
    intro flavor data written
    rcases done : encodeOpaque data maxAuthBody (buf ++ beU32 flavor) with error | whole
    · simp [done] at written
    · rw [done] at written
      cases written
      exact (List.prefix_append _ _).trans (encodeOpaque_appends done)
  cases cred with
  | none => exact @body authNone [] encoded
  | sys params =>
      rcases built : Xdr.toBytes params with error | data
      · simp [Credentials.encodeAuth, built, XdrEncode.encode, bind, Except.bind] at encoded
      · simp only [Credentials.encodeAuth, built, XdrEncode.encode, liftXdr_ok, bind,
          Except.bind] at encoded
        exact body encoded

/-- A call starts with its xid. -/
theorem encodeCall_xid {xid prog vers proc : UInt32} {cred : Credentials} {message : Bytes}
    (encoded : encodeCall xid prog vers proc cred [] = .ok message) : beU32 xid <+: message := by
  simp only [encodeCall, XdrEncode.encode, liftXdr_ok, bind, Except.bind, List.nil_append,
    List.append_assoc] at encoded
  split at encoded
  · cases encoded
  · rename_i signed withCred
    exact (List.prefix_append _ _).trans
      ((encodeAuth_appends withCred).trans (encodeAuth_appends encoded))

end LibNfs.Rpc
