import LibNfs.Rpc.Client
import LibNfs.Xdr.RoundTrip

/-! # Calls on the wire

The `rpc_msg` of a call by the grammar of RFC 5531, with the credential inside its
`opaque_auth`. `build_call` makes a message exactly when the limits of the credential
hold, and the grammar reads what was asked for out of it.
-/

namespace LibNfs.Rpc

open Coding
open Xdr (XdrError XdrEncode Ty beU32)

/-- `opaque_auth`: a flavor and a body. -/
def OpaqueAuth.ty : Ty :=
  .struct (.plain .u32 (.limited 400 .bytes .nil))

/-- A call up to its arguments: xid, message type, RPC version, program, version,
procedure, credential and verifier. -/
def CallHeader.ty : Ty :=
  .struct (.plain .u32 (.plain .u32 (.plain .u32 (.plain .u32 (.plain .u32 (.plain .u32
    (.plain OpaqueAuth.ty (.plain OpaqueAuth.ty .nil))))))))

/-- The parameters as a value of their type. -/
def AuthSysParams.val (params : AuthSysParams) : AuthSysParams.ty.Val :=
  (params.stamp, params.machineName, params.uid, params.gid, params.gids, ())

/-- The parameters of a value. -/
def AuthSysParams.ofVal (val : AuthSysParams.ty.Val) : AuthSysParams :=
  ⟨val.1, val.2.1, val.2.2.1, val.2.2.2.1, val.2.2.2.2.1⟩

/-- The credential that an `opaque_auth` stands for. -/
def Credentials.ofAuth (auth : OpaqueAuth.ty.Val) : Option Credentials :=
  if auth.1 = authNone then
    if auth.2.1 = ([] : Bytes) then some .none else none
  else if auth.1 = authSys then
    match AuthSysParams.ty.decode auth.2.1 with
    | .ok (params, []) => some (.sys (.ofVal params))
    | .ok (_, _ :: _) | .error _ => none
  else
    none

/-- What a call asks for. -/
structure Call where
  xid : UInt32
  mtype : UInt32
  rpcvers : UInt32
  prog : UInt32
  vers : UInt32
  proc : UInt32
  cred : Credentials
  verf : Credentials
  args : Bytes
  deriving DecidableEq, Repr

/-- Reads a message as a call; nothing when it is none. -/
def Call.parse (message : Bytes) : Option Call :=
  match CallHeader.ty.decode message with
  | .error _ => none
  | .ok ((xid, mtype, rpcvers, prog, vers, proc, cred, verf, ()), args) => do
      let cred ← Credentials.ofAuth cred
      let verf ← Credentials.ofAuth verf
      return ⟨xid, mtype, rpcvers, prog, vers, proc, cred, verf, args⟩

/-- A group number of the parameters has a non-empty encoding. -/
theorem AuthSysParams.occupied : AuthSysParams.ty.Occupied := by
  refine ⟨trivial, trivial, trivial, trivial, ⟨trivial, ?_⟩, trivial⟩
  intro value code written empty
  have length := congrArg List.length (written.unique (Ty.u32.writes value trivial trivial))
  rw [empty] at length
  exact absurd length (by simp [Ty.code])

theorem AuthSysParams.distinct : AuthSysParams.ty.Distinct := by
  simp [AuthSysParams.ty, Ty.Distinct, Xdr.Fields.Distinct, Xdr.SizedTy.Distinct]

theorem CallHeader.occupied : CallHeader.ty.Occupied := by
  simp [CallHeader.ty, OpaqueAuth.ty, Ty.Occupied, Xdr.Fields.Occupied, Xdr.SizedTy.Occupied]

theorem CallHeader.distinct : CallHeader.ty.Distinct := by
  simp [CallHeader.ty, OpaqueAuth.ty, Ty.Distinct, Xdr.Fields.Distinct, Xdr.SizedTy.Distinct]

namespace Credentials

/-- The limits of `authsys_parms`: a name of 255 bytes and 16 groups. -/
def Acceptable : Credentials → Prop
  | .none => True
  | .sys params => (Xdr.asBytes params.machineName).length ≤ 255 ∧ params.gids.length ≤ 16

/-- The `opaque_auth` of a credential. -/
def auth : Credentials → OpaqueAuth.ty.Val
  | .none => (authNone, [], ())
  | .sys params => (authSys, AuthSysParams.ty.code params.val, ())

end Credentials

section Sys

variable {params : AuthSysParams}

theorem AuthSysParams.fits (acceptable : (Credentials.sys params).Acceptable) :
    AuthSysParams.ty.Fits params.val :=
  ⟨trivial, ⟨trivial, Nat.lt_of_le_of_lt acceptable.1 (by decide)⟩, trivial, trivial,
    ⟨trivial, Nat.lt_of_le_of_lt acceptable.2 (by decide), fun _ _ => trivial⟩, trivial⟩

/-- Acceptable parameters are within the limits of their type. -/
theorem AuthSysParams.within (acceptable : (Credentials.sys params).Acceptable) :
    AuthSysParams.ty.Within params.val :=
  ⟨trivial, ⟨acceptable.1, trivial⟩, trivial, trivial,
    ⟨acceptable.2, trivial, fun _ _ => trivial⟩, trivial⟩

/-- The length of the encoding of some words. -/
theorem length_words (words : List UInt32) : (words.map beU32).flatten.length = 4 * words.length := by
  induction words with
  | nil => rfl
  | cons word words ih =>
      rw [List.map_cons, List.flatten_cons, List.length_append, Xdr.length_beU32, ih,
        List.length_cons]
      omega

/-- The body of a credential stays below the limit of `opaque_auth`. -/
theorem AuthSysParams.length_code (acceptable : (Credentials.sys params).Acceptable) :
    (AuthSysParams.ty.code params.val).length ≤ 340 := by
  obtain ⟨name, groups⟩ := acceptable
  have counted := length_words params.gids
  have padded : (Xdr.asBytes params.machineName).length +
      Xdr.padding (Xdr.asBytes params.machineName).length ≤ 256 := by
    unfold Xdr.padding
    omega
  simp only [AuthSysParams.ty, AuthSysParams.val, Ty.code, Xdr.SizedTy.code, Xdr.Fields.code,
    List.length_append, Xdr.length_beU32, Xdr.length_opaqueCode, List.length_replicate,
    List.length_nil]
  omega

/-- A credential that breaks a limit of its fields is refused. -/
theorem AuthSysParams.refuses (unacceptable : ¬ (Credentials.sys params).Acceptable) :
    Xdr.Refuses AuthSysParams.ty.encode params.val := by
  by_cases name : (Xdr.asBytes params.machineName).length ≤ 255
  · have groups : ¬ params.gids.length ≤ 16 := fun groups => unacceptable ⟨name, groups⟩
    have named : Writes (Xdr.encodeLimited 255 Xdr.SizedTy.string.xdrLen
        Xdr.SizedTy.string.encode) params.machineName _ :=
      Xdr.writes_limited name (Xdr.SizedTy.writes .string params.machineName
        (Nat.lt_of_le_of_lt name (by decide)) trivial)
    refine .pair_right (fun _ => rfl) (.pair_right named (.pair_right (fun _ => rfl)
      (.pair_right (fun _ => rfl) (.pair_left (Xdr.refuses_limited fun within => ?_)))))
    exact (groups within).elim
  · refine .pair_right (fun _ => rfl) (.pair_left (Xdr.refuses_limited fun within => ?_))
    exact (name within).elim

end Sys

namespace Credentials

variable {cred : Credentials}

/-- The authenticator of acceptable credentials has an encoding within its limit. -/
theorem auth_encodable (acceptable : cred.Acceptable) :
    OpaqueAuth.ty.Fits cred.auth ∧ OpaqueAuth.ty.Within cred.auth := by
  have length : cred.auth.2.1.length ≤ 400 := by
    cases cred with
    | none => exact Nat.zero_le _
    | sys params => exact Nat.le_trans (AuthSysParams.length_code acceptable) (by decide)
  exact ⟨⟨trivial, ⟨trivial, Nat.lt_of_le_of_lt length (by decide)⟩, trivial⟩,
    trivial, ⟨length, trivial⟩, trivial⟩

/-- Acceptable credentials are written as their authenticator. -/
theorem encodeAuth_ok (acceptable : cred.Acceptable) (buf : Bytes) :
    cred.encodeAuth buf = .ok (buf ++ OpaqueAuth.ty.code cred.auth) := by
  cases cred with
  | none =>
      have written := @Xdr.writes_opaque [] maxAuthBody (by decide) (by decide) (buf ++ beU32 authNone)
      simp only [encodeAuth, XdrEncode.encode, liftXdr_ok, written, bind, Except.bind, auth,
        OpaqueAuth.ty, Ty.code, Xdr.Fields.code, Xdr.SizedTy.code, List.append_assoc,
        List.append_nil]
  | sys params =>
      have body : Xdr.toBytes params = .ok (AuthSysParams.ty.code params.val) :=
        AuthSysParams.ty.writes params.val (AuthSysParams.fits acceptable)
          (AuthSysParams.within acceptable) []
      have length := AuthSysParams.length_code acceptable
      have written := @Xdr.writes_opaque (AuthSysParams.ty.code params.val) maxAuthBody
        (Nat.le_trans length (by decide)) (Nat.lt_of_le_of_lt length (by decide))
        (buf ++ beU32 authSys)
      simp only [encodeAuth, XdrEncode.encode, liftXdr_ok, body, written, bind, Except.bind, auth,
        OpaqueAuth.ty, Ty.code, Xdr.Fields.code, Xdr.SizedTy.code, List.append_assoc,
        List.append_nil]

theorem encodeAuth_error (unacceptable : ¬ cred.Acceptable) (buf : Bytes) :
    ∃ error, cred.encodeAuth buf = .error error := by
  cases cred with
  | none => exact (unacceptable trivial).elim
  | sys params =>
      obtain ⟨len, limit, refused⟩ := AuthSysParams.refuses unacceptable []
      refine ⟨.xdr (.limitExceeded len limit), ?_⟩
      have body : Xdr.toBytes params = .error (.limitExceeded len limit) := refused
      simp only [encodeAuth, XdrEncode.encode, liftXdr_ok, body, liftXdr_error, bind, Except.bind]

/-- The grammar reads the credential back. -/
theorem ofAuth_auth (acceptable : cred.Acceptable) : ofAuth cred.auth = some cred := by
  cases cred with
  | none => rfl
  | sys params =>
      have read := AuthSysParams.ty.reads params.val AuthSysParams.occupied AuthSysParams.distinct
        (AuthSysParams.fits acceptable) (AuthSysParams.within acceptable) []
      rw [List.append_nil] at read
      simp only [ofAuth, auth, read]
      rfl

end Credentials

/-- The header that a call is to have. -/
def callHeader (xid prog vers proc : UInt32) (cred : Credentials) : CallHeader.ty.Val :=
  (xid, msgCall, rpcVersion, prog, vers, proc, cred.auth, Credentials.none.auth, ())

/-- A call with acceptable credentials is written as its header. -/
theorem encodeCall_ok {cred : Credentials} (acceptable : cred.Acceptable)
    (xid prog vers proc : UInt32) :
    encodeCall xid prog vers proc cred [] =
      .ok (CallHeader.ty.code (callHeader xid prog vers proc cred)) := by
  have none (buf : Bytes) := @Credentials.encodeAuth_ok .none trivial buf
  simp only [encodeCall, XdrEncode.encode, liftXdr_ok, bind, Except.bind,
    Credentials.encodeAuth_ok acceptable, none]
  simp only [callHeader, CallHeader.ty, Ty.code, Xdr.Fields.code, List.append_assoc, List.nil_append,
    List.append_nil]

/-- A call with other credentials is refused. -/
theorem encodeCall_error {cred : Credentials} (unacceptable : ¬ cred.Acceptable)
    (xid prog vers proc : UInt32) :
    ∃ error, encodeCall xid prog vers proc cred [] = .error error := by
  have refused (buf : Bytes) := Credentials.encodeAuth_error unacceptable buf
  obtain ⟨error, failed⟩ := refused ((((([] ++ beU32 xid) ++ beU32 msgCall) ++ beU32 rpcVersion) ++
    beU32 prog) ++ beU32 vers ++ beU32 proc)
  refine ⟨error, ?_⟩
  simp only [encodeCall, XdrEncode.encode, liftXdr_ok, bind, Except.bind, failed]

/-- The grammar reads a call back, whatever its arguments are. -/
theorem Call.parse_code {cred : Credentials} (acceptable : cred.Acceptable)
    (xid prog vers proc : UInt32) (args : Bytes) :
    Call.parse (CallHeader.ty.code (callHeader xid prog vers proc cred) ++ args) =
      some ⟨xid, msgCall, rpcVersion, prog, vers, proc, cred, .none, args⟩ := by
  obtain ⟨fits, within⟩ := Credentials.auth_encodable acceptable
  obtain ⟨fitsNone, withinNone⟩ := @Credentials.auth_encodable .none trivial
  have read := CallHeader.ty.reads (callHeader xid prog vers proc cred) CallHeader.occupied
    CallHeader.distinct
    ⟨trivial, trivial, trivial, trivial, trivial, trivial, fits, fitsNone, trivial⟩
    ⟨trivial, trivial, trivial, trivial, trivial, trivial, within, withinNone, trivial⟩ args
  rw [Call.parse, read]
  simp only [callHeader, Credentials.ofAuth_auth acceptable,
    @Credentials.ofAuth_auth .none trivial]
  rfl

/-- `build_call` makes a message exactly when the limits of the credential hold, and the
grammar then reads the call out of it, with the arguments as they were encoded. -/
theorem buildCall_parses {ω : Type} (prog vers proc : UInt32) (args : Bytes) (world : World ω) :
    ((∃ xid message next, (RpcClient.buildCall prog vers proc (.ok args)).run world =
        some (.ok (xid, message), next)) ↔ world.client.cred.Acceptable) ∧
      ∀ xid message next, (RpcClient.buildCall prog vers proc (.ok args)).run world =
        some (.ok (xid, message), next) →
          xid = world.client.nextXid ∧
            Call.parse message =
              some ⟨xid, msgCall, rpcVersion, prog, vers, proc, world.client.cred, .none, args⟩ := by
  rw [RpcClient.buildCall_apply]
  by_cases acceptable : world.client.cred.Acceptable
  · have built : world.client.callMessage prog vers proc (.ok args) = .ok (CallHeader.ty.code
        (callHeader world.client.nextXid prog vers proc world.client.cred) ++ args) := by
      simp only [RpcClient.callMessage, encodeCall_ok acceptable, liftXdr_ok, bind, Except.bind]
      rfl
    rw [built]
    refine ⟨iff_of_true ⟨_, _, _, rfl⟩ acceptable, ?_⟩
    rintro xid message next ⟨⟩
    exact ⟨rfl, Call.parse_code acceptable _ _ _ _ _⟩
  · obtain ⟨error, failed⟩ := encodeCall_error acceptable world.client.nextXid prog vers proc
    have unbuilt : world.client.callMessage prog vers proc (.ok args) = .error error := by
      simp only [RpcClient.callMessage, failed, bind, Except.bind]
    rw [unbuilt]
    refine ⟨iff_of_false ?_ acceptable, ?_⟩
    · rintro ⟨xid, message, next, ⟨⟩⟩
    · rintro xid message next ⟨⟩

end LibNfs.Rpc
