import LibNfs.Client.BackendV3
import LibNfs.Proto.Serving3

/-! # The NFSv3 backend over a server of procedures

What a call of the backend comes to when its host is a server of `Serving3`: the
server executes the procedure, and its status becomes an error of the file API.
-/

namespace LibNfs.Client

open Proto (Proc3 Server3 Failure3)

/-- A host that has nothing but an NFS server. -/
def serverHost {S : Type} (server : Server3 S) : Host S where
  nfs := server.transport
  protocol := .tcp
  portmapPort := 111
  connect _ := return ()
  port _ := server.transport

namespace V3Backend

variable {S : Type} {server : Server3 S} {host : Host S} {proc : Proc3} {args : proc.Args.Val}

/-- The backend after a call that left the server in some state. -/
def withWorld (backend : V3Backend S) (world : S) : V3Backend S :=
  { backend with world := world }

/-- What the client makes of the outcome of a procedure. -/
def outcomeOf : Except Failure3 proc.Success → Except NfsError proc.Ok.Val
  | .ok success => .ok success.1
  | .error failure => .error (.fromNfsstat3 failure.status)

theorem within_call (serves : host.nfs = server.transport) (encodable : proc.Encodable args)
    (backend : V3Backend S) :
    (within .ofProto (Proto.Nfs3.call host.nfs proc args)).run backend =
      ((server.exec proc args).run backend.world).map fun (outcome, world) =>
        (outcomeOf outcome, backend.withWorld world) := by
  rw [serves, within, Prog.within]
  simp only [Proto.Nfs3.call_eq encodable, Server3.result]
  rcases (server.exec proc args).run backend.world with _ | ⟨failure | success, world⟩ <;> rfl

/-- A call whose procedure succeeds. -/
theorem within_call_ok (serves : host.nfs = server.transport) (encodable : proc.Encodable args)
    {backend : V3Backend S} {success : proc.Success} {world : S}
    (executed : (server.exec proc args).run backend.world = some (.ok success, world)) :
    (within .ofProto (Proto.Nfs3.call host.nfs proc args)).run backend =
      some (.ok success.1, backend.withWorld world) := by
  rw [within_call serves encodable, executed]
  rfl

/-- A call whose procedure fails. -/
theorem within_call_error (serves : host.nfs = server.transport)
    (encodable : proc.Encodable args) {backend : V3Backend S} {failure : Failure3} {world : S}
    (executed : (server.exec proc args).run backend.world = some (.error failure, world)) :
    (within .ofProto (Proto.Nfs3.call host.nfs proc args)).run backend =
      some (.error (.fromNfsstat3 failure.status), backend.withWorld world) := by
  rw [within_call serves encodable, executed]
  rfl

/-- A call that is not sent. -/
theorem call_unsent (serves : host.nfs = server.transport) {error : Xdr.XdrError}
    (refused : proc.Args.encode args [] = .error error) (backend : V3Backend S) :
    (within .ofProto (Proto.Nfs3.call host.nfs proc args)).run backend =
      some (.error (.proto (.rpc (.xdr error))), backend) := by
  simp only [serves, within, Prog.within, Proto.Nfs3.call_of_error refused]
  rfl

end V3Backend

end LibNfs.Client
