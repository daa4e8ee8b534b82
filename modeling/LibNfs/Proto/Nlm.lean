import LibNfs.Proto.Requests
import LibNfs.Proto.Serving3

/-! # The lock manager of NFSv3

The client of NLM version 4 and the query of the portmapper that finds its port,
and a server of its procedures, as in `LibNfs.Proto.Serving3`.
-/

namespace LibNfs.Proto

open Coding
open Xdr (XdrError XdrEncode XdrDecode Ty beU32 beU64 decodeU32)

namespace Portmap

/-- The number of the port mapper. -/
def program : UInt32 := 100000

/-- The version of the port mapper. -/
def version2 : UInt32 := 2

/-- The procedure that tells a port. -/
def getportProc : UInt32 := 3

/-- The protocol number of TCP. -/
def ipprotoTcp : UInt32 := 6

/-- The protocol number of UDP. -/
def ipprotoUdp : UInt32 := 17

/-- `mapping`: program, version, protocol and port. -/
def Mapping.ty : Ty :=
  .struct (.plain .u32 (.plain .u32 (.plain .u32 (.plain .u32 .nil))))

/-- The port that a program is registered at; the portmapper answers 0 for one that is
not. -/
def getport {τ : Type} (transport : Transport τ) (prog vers prot : UInt32) :
    Prog τ ProtoError UInt16 := do
  let port : UInt32 ← transport.callAs program version2 getportProc
    (Mapping.ty.encode (prog, vers, prot, 0, ()) []) XdrDecode.decode
  if port = 0 then
    Prog.throw (.portNotRegistered prog vers)
  else
    return port.toUInt16

/-- A portmapper that answers queries for a port. -/
def transport {S : Type} (port : UInt32 → UInt32 → UInt32 → UInt32) : Transport S where
  call prog vers proc args :=
    match args with
    | .error error => Prog.throw (.xdr error)
    | .ok request =>
        if prog = program ∧ vers = version2 ∧ proc = getportProc then
          match Mapping.ty.decode request with
          | .ok ((prog, vers, prot, _, ()), []) => return beU32 (port prog vers prot)
          | .ok (_, _ :: _) | .error _ => Prog.throw .garbageArgs
        else
          Prog.throw .procUnavail

theorem getport_eq {S : Type} {port : UInt32 → UInt32 → UInt32 → UInt32} {prog vers prot : UInt32}
    {state : S} (registered : port prog vers prot ≠ 0) :
    (getport (transport port) prog vers prot).run state =
      some (.ok (port prog vers prot).toUInt16, state) := by
  have written := Mapping.ty.writes (prog, vers, prot, 0, ())
    ⟨trivial, trivial, trivial, trivial, trivial⟩ ⟨trivial, trivial, trivial, trivial, trivial⟩ []
  have read := Mapping.ty.reads (prog, vers, prot, 0, ())
    ⟨trivial, trivial, trivial, trivial, trivial⟩ ⟨trivial, trivial, trivial, trivial, trivial⟩
    ⟨trivial, trivial, trivial, trivial, trivial⟩ ⟨trivial, trivial, trivial, trivial, trivial⟩ []
  have answer : (XdrDecode.decode (beU32 (port prog vers prot)) :
      Except XdrError (UInt32 × Bytes)) = .ok (port prog vers prot, []) := by
    have decoded := Xdr.reads_u32 (port prog vers prot) []
    rw [List.append_nil] at decoded
    exact decoded
  rw [List.append_nil] at read
  simp only [getport, Transport.callAs, transport, Prog.bind_apply, Prog.within, written,
    List.nil_append, and_self, ↓reduceIte, read, Prog.pure_apply, id_eq, Option.map_some,
    Except.mapError, answer, Prog.ofExcept, if_neg registered]

end Portmap

namespace Nlm

/-- The number of the lock manager. -/
def program : UInt32 := 100021

/-- The version of the lock manager. -/
def version4 : UInt32 := 4

/-- The lock is granted. -/
def nlm4Granted : UInt32 := 0

/-- Another lock stands against it. -/
def nlm4Denied : UInt32 := 1

/-- `nlm4_lock`. -/
structure Nlm4Lock where
  callerName : String
  fh : Bytes
  oh : Bytes
  svid : Int32
  offset : UInt64
  len : UInt64
  deriving DecidableEq, Repr

namespace Nlm4Lock

/-- The caller, the handle, the owner, its number and the range. -/
def ty : Ty :=
  .struct (.plain (.sized .string) (.plain (.sized .bytes) (.plain (.sized .bytes) (.plain .i32
    (.plain .u64 (.plain .u64 .nil))))))

/-- The value of the description. -/
def val (lock : Nlm4Lock) : ty.Val :=
  (lock.callerName, lock.fh, lock.oh, lock.svid, lock.offset, lock.len, ())

/-- The lock of a value. -/
def ofVal (val : ty.Val) : Nlm4Lock :=
  ⟨val.1, val.2.1, val.2.2.1, val.2.2.2.1, val.2.2.2.2.1, val.2.2.2.2.2.1⟩

end Nlm4Lock

/-- The holder of a lock that conflicts. -/
structure Nlm4Holder where
  exclusive : Bool
  svid : Int32
  offset : UInt64
  len : UInt64
  deriving DecidableEq, Repr

/-- What `TEST` found: nothing, or a lock that stands against it. -/
inductive TestResult where
  | granted
  | denied (holder : Nlm4Holder)
  | other (stat : UInt32)
  deriving DecidableEq, Repr

/-- Reads what `TEST` found. -/
def TestResult.decode (buf : Bytes) : Except XdrError (TestResult × Bytes) := do
  let (_cookie, buf) ← (XdrDecode.decode buf : Except XdrError (Bytes × Bytes))
  let (stat, buf) ← decodeU32 buf
  if stat = nlm4Granted then
    return (.granted, buf)
  else if stat = nlm4Denied then
    let (exclusive, buf) ← (XdrDecode.decode buf : Except XdrError (Bool × Bytes))
    let (svid, buf) ← (XdrDecode.decode buf : Except XdrError (Int32 × Bytes))
    let (_oh, buf) ← (XdrDecode.decode buf : Except XdrError (Bytes × Bytes))
    let (offset, buf) ← (XdrDecode.decode buf : Except XdrError (UInt64 × Bytes))
    let (len, buf) ← (XdrDecode.decode buf : Except XdrError (UInt64 × Bytes))
    return (.denied ⟨exclusive, svid, offset, len⟩, buf)
  else
    return (.other stat, buf)

/-- The procedures that the client calls. -/
inductive NlmProc where
  | test
  | lock
  | unlock
  deriving DecidableEq, Repr

namespace NlmProc

/-- The number of the procedure in the program. -/
def number : NlmProc → UInt32
  | test => 1
  | lock => 2
  | unlock => 4

/-- `Nlm4TestArgs`: cookie, exclusive and lock. `Nlm4LockArgs`: cookie, block,
exclusive, lock, reclaim and state. `Nlm4UnlockArgs`: cookie and lock. -/
def Args : NlmProc → Ty
  | test => .struct (.plain (.sized .bytes) (.plain .bool (.plain Nlm4Lock.ty .nil)))
  | lock =>
      .struct (.plain (.sized .bytes) (.plain .bool (.plain .bool (.plain Nlm4Lock.ty
        (.plain .bool (.plain .i32 .nil))))))
  | unlock => .struct (.plain (.sized .bytes) (.plain Nlm4Lock.ty .nil))

end NlmProc

/-- `nlm4_res`: cookie and status. -/
def Nlm4Res.ty : Ty :=
  .struct (.plain (.sized .bytes) (.plain .u32 .nil))

/-- The cookie that every call carries. -/
def cookie : Bytes :=
  [0, 0, 0, 0]

/-- A status other than the granted one is an error. -/
def statToResult (stat : UInt32) : Except ProtoError Unit :=
  if stat = nlm4Granted then .ok () else .error (.nlm stat)

section Client

variable {τ : Type} (transport : Transport τ)

/-- Calls a procedure that returns a status. -/
def callRes (proc : NlmProc) (args : proc.Args.Val) : Prog τ ProtoError Unit := do
  let res ← transport.callAs program version4 proc.number (proc.Args.encode args [])
    Nlm4Res.ty.decode
  Prog.ofExcept (statToResult res.2.1)

/-- Asks for a lock, without waiting for it. -/
def lock (lock : Nlm4Lock) (exclusive : Bool) : Prog τ ProtoError Unit :=
  callRes transport .lock (cookie, false, exclusive, lock.val, false, 0, ())

/-- Releases a lock. -/
def unlock (lock : Nlm4Lock) : Prog τ ProtoError Unit :=
  callRes transport .unlock (cookie, lock.val, ())

/-- Whether a lock would be granted. -/
def test (lock : Nlm4Lock) (exclusive : Bool) : Prog τ ProtoError TestResult :=
  transport.callAs program version4 NlmProc.test.number
    (NlmProc.test.Args.encode (cookie, exclusive, lock.val, ()) []) TestResult.decode

end Client

/-- What `TEST` returns; the holder of a lock that conflicts has an owner. -/
inductive TestReply where
  | granted
  | denied (holder : Nlm4Holder) (oh : Data)
  | other (stat : UInt32) (neither : stat ≠ nlm4Granted ∧ stat ≠ nlm4Denied)

namespace TestReply

/-- The code of a reply to `TEST`. -/
def code : TestReply → Bytes
  | granted => beU32 nlm4Granted
  | denied holder oh =>
      beU32 nlm4Denied ++ (beU32 (Xdr.boolWord holder.exclusive) ++ (beU32 holder.svid.toUInt32 ++
        (dataCode oh.1 ++ (beU64 holder.offset ++ beU64 holder.len))))
  | other stat _ => beU32 stat

/-- What the client reads of a reply. -/
def result : TestReply → TestResult
  | granted => .granted
  | denied holder _ => .denied holder
  | other stat _ => .other stat

end TestReply

/-- A lock manager, with the operations that the client uses. -/
structure NlmServer (S : Type) where
  lock : NlmProc.lock.Args.Val → S → UInt32 × S
  unlock : NlmProc.unlock.Args.Val → S → UInt32 × S
  test : NlmProc.test.Args.Val → S → TestReply × S

namespace NlmServer

variable {S : Type} (server : NlmServer S)

/-- Decodes the arguments of a call and answers it, with the cookie that came. -/
def serve {α : Type} (proc : NlmProc) (cookie : proc.Args.Val → Bytes)
    (exec : proc.Args.Val → S → α × S) (code : α → Bytes) (request : Bytes) :
    Prog S Rpc.RpcError Bytes :=
  match proc.Args.decode request with
  | .ok (args, []) => ⟨fun state =>
      some (.ok (dataCode (cookie args) ++ code (exec args state).1), (exec args state).2)⟩
  | .ok (_, _ :: _) | .error _ => Prog.throw .garbageArgs

/-- The server as a transport that delivers its replies intact. -/
def transport : Transport S where
  call prog vers number args :=
    match args with
    | .error error => Prog.throw (.xdr error)
    | .ok request =>
        if prog = program ∧ vers = version4 then
          if number = NlmProc.test.number then
            serve .test (fun args => args.1) server.test TestReply.code request
          else if number = NlmProc.lock.number then
            serve .lock (fun args => args.1) server.lock beU32 request
          else if number = NlmProc.unlock.number then
            serve .unlock (fun args => args.1) server.unlock beU32 request
          else
            Prog.throw .procUnavail
        else
          Prog.throw .procUnavail

end NlmServer

/-- The texts of a lock have an encoding. -/
structure Nlm4Lock.Fits (lock : Nlm4Lock) : Prop where
  callerName : Sized (Xdr.asBytes lock.callerName)
  fh : Sized lock.fh
  oh : Sized lock.oh

section Calls

variable {S : Type} {server : NlmServer S} {state : S} {lock : Nlm4Lock}

/-- A lock with texts that have a length prefix fits its description. -/
theorem Nlm4Lock.Fits.fits (fits : lock.Fits) : Nlm4Lock.ty.Fits lock.val :=
  ⟨fits.callerName, fits.fh, fits.oh, trivial, trivial, trivial, trivial⟩

theorem Nlm4Lock.within (lock : Nlm4Lock) : Nlm4Lock.ty.Within lock.val :=
  ⟨trivial, trivial, trivial, trivial, trivial, trivial, trivial⟩

theorem sized_cookie : Sized cookie := by decide

/-- Arguments are read by the server as they were given. -/
theorem serve_encode {α : Type} {proc : NlmProc} {args : proc.Args.Val}
    {cookieOf : proc.Args.Val → Bytes} {exec : proc.Args.Val → S → α × S} {code : α → Bytes}
    (fits : proc.Args.Fits args) (within : proc.Args.Within args) :
    ∃ request, proc.Args.encode args [] = .ok request ∧
      (NlmServer.serve proc cookieOf exec code request).run state =
        some (.ok (dataCode (cookieOf args) ++ code (exec args state).1), (exec args state).2) := by
  have occupied : proc.Args.Occupied := by
    cases proc <;> simp [NlmProc.Args, Nlm4Lock.ty, Ty.Occupied, Xdr.SizedTy.Occupied,
      Xdr.Fields.Occupied]
  have distinct : proc.Args.Distinct := by
    cases proc <;> simp [NlmProc.Args, Nlm4Lock.ty, Ty.Distinct, Xdr.SizedTy.Distinct,
      Xdr.Fields.Distinct]
  have read := proc.Args.reads args occupied distinct fits within []
  rw [List.append_nil] at read
  refine ⟨_, proc.Args.writes args fits within [], ?_⟩
  rw [List.nil_append, NlmServer.serve, read]

theorem decode_res (stat : UInt32) :
    (Nlm4Res.ty.decode (dataCode cookie ++ beU32 stat)).map (fun res => res.1.2.1) = .ok stat := by
  have read := Nlm4Res.ty.reads (cookie, stat, ()) ⟨trivial, trivial, trivial⟩
    ⟨trivial, trivial, trivial⟩ ⟨sized_cookie, trivial, trivial⟩ ⟨trivial, trivial, trivial⟩ []
  rw [List.append_nil] at read
  have same : Nlm4Res.ty.code (cookie, stat, ()) = dataCode cookie ++ beU32 stat := by
    simp [Nlm4Res.ty, Ty.code, Xdr.Fields.code, dataCode]
  rw [← same, read]
  rfl

theorem decode_test (reply : TestReply) :
    (TestResult.decode (dataCode cookie ++ reply.code)).map Prod.fst = .ok reply.result := by
  have leads := reads_data sized_cookie reply.code
  cases reply with
  | granted =>
      simp only [TestResult.decode, TestReply.code, bind, Except.bind]
      rfl
  | denied holder oh =>
      have owner := reads_data oh.2 (beU64 holder.offset ++ beU64 holder.len)
      have offset : (XdrDecode.decode (beU64 holder.offset ++ beU64 holder.len) :
          Except XdrError (UInt64 × Bytes)) = .ok (holder.offset, beU64 holder.len) :=
        Xdr.reads_u64 holder.offset _
      have len : (XdrDecode.decode (beU64 holder.len) : Except XdrError (UInt64 × Bytes)) =
          .ok (holder.len, []) := by
        have read := Xdr.reads_u64 holder.len []
        rw [List.append_nil] at read
        exact read
      simp only [TestResult.decode, leads, bind, Except.bind]
      simp only [TestReply.code, Xdr.reads_u32 nlm4Denied _, Xdr.reads_bool holder.exclusive _,
        Xdr.reads_i32 holder.svid _, owner, offset, len]
      rfl
  | other stat neither =>
      have last := Xdr.reads_u32 stat []
      rw [List.append_nil] at last
      simp only [TestResult.decode, leads, bind, Except.bind]
      simp only [TestReply.code, last, if_neg neither.1, if_neg neither.2]
      rfl

theorem callRes_eq {proc : NlmProc} {args : proc.Args.Val}
    {exec : proc.Args.Val → S → UInt32 × S} {cookieOf : proc.Args.Val → Bytes}
    (serves : ∀ request, server.transport.call program version4 proc.number (.ok request) =
      NlmServer.serve proc cookieOf exec beU32 request)
    (own : cookieOf args = cookie) (fits : proc.Args.Fits args) (within : proc.Args.Within args) :
    (callRes server.transport proc args).run state =
      some (statToResult (exec args state).1, (exec args state).2) := by
  obtain ⟨request, encoded, served⟩ :=
    @serve_encode S state UInt32 proc args cookieOf exec beU32 fits within
  have decoded := decode_res (exec args state).1
  rw [own] at served
  simp only [callRes, Transport.callAs, Prog.bind_apply, Prog.within, encoded, serves, served, id_eq,
    Option.map_some, Except.mapError, Prog.ofExcept]
  rcases parsed : Nlm4Res.ty.decode (dataCode cookie ++ beU32 (exec args state).1) with
    error | ⟨res, rest⟩
  · rw [parsed] at decoded
    cases decoded
  · rw [parsed] at decoded
    have stat : res.2.1 = (exec args state).1 := Except.ok.inj decoded
    simp only [Prog.pure_apply, stat]

/-- The arguments of `LOCK`, `UNLOCK` and `TEST` for a lock. -/
def lockArgs (lock : Nlm4Lock) (exclusive : Bool) : NlmProc.lock.Args.Val :=
  (cookie, false, exclusive, lock.val, false, 0, ())

/-- The arguments of `UNLOCK`. -/
def unlockArgs (lock : Nlm4Lock) : NlmProc.unlock.Args.Val :=
  (cookie, lock.val, ())

/-- The arguments of `TEST`. -/
def testArgs (lock : Nlm4Lock) (exclusive : Bool) : NlmProc.test.Args.Val :=
  (cookie, exclusive, lock.val, ())

theorem lock_eq (exclusive : Bool) (fits : lock.Fits) :
    (Nlm.lock server.transport lock exclusive).run state =
      some (statToResult (server.lock (lockArgs lock exclusive) state).1,
        (server.lock (lockArgs lock exclusive) state).2) :=
  callRes_eq (fun _ => rfl) rfl
    ⟨sized_cookie, trivial, trivial, fits.fits, trivial, trivial, trivial⟩
    ⟨trivial, trivial, trivial, lock.within, trivial, trivial, trivial⟩

theorem unlock_eq (fits : lock.Fits) :
    (Nlm.unlock server.transport lock).run state =
      some (statToResult (server.unlock (unlockArgs lock) state).1,
        (server.unlock (unlockArgs lock) state).2) :=
  callRes_eq (fun _ => rfl) rfl ⟨sized_cookie, fits.fits, trivial⟩ ⟨trivial, lock.within, trivial⟩

theorem test_eq (exclusive : Bool) (fits : lock.Fits) :
    (Nlm.test server.transport lock exclusive).run state =
      some (.ok (server.test (testArgs lock exclusive) state).1.result,
        (server.test (testArgs lock exclusive) state).2) := by
  obtain ⟨request, encoded, served⟩ :=
    @serve_encode S state TestReply .test (testArgs lock exclusive) (fun args => args.1) server.test
      TestReply.code ⟨sized_cookie, trivial, fits.fits, trivial⟩
      ⟨trivial, trivial, lock.within, trivial⟩
  have serves : server.transport.call program version4 NlmProc.test.number (.ok request) =
    NlmServer.serve .test (fun args => args.1) server.test TestReply.code request := rfl
  have decoded := decode_test (server.test (testArgs lock exclusive) state).1
  rw [testArgs] at encoded
  simp only [Nlm.test, Transport.callAs, Prog.bind_apply, Prog.within, encoded, serves, served,
    id_eq, Option.map_some, Except.mapError, Prog.ofExcept]
  rcases parsed : TestResult.decode
    (dataCode cookie ++ (server.test (testArgs lock exclusive) state).1.code) with
    error | ⟨result, rest⟩
  · rw [parsed] at decoded
    cases decoded
  · rw [parsed] at decoded
    have read : result = _ := Except.ok.inj decoded
    rw [show (testArgs lock exclusive).1 = cookie from rfl, parsed]
    simp only [Prog.pure_apply, read]

end Calls

end Nlm

end LibNfs.Proto
