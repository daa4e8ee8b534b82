import LibNfs.Client.BackendV3
import LibNfs.Client.BackendV4
import LibNfs.Client.Url
import LibNfs.Proto.Mount
import LibNfs.Rpc.StartTls

/-! # Mounting a URL

`mount_url`, from the text to a context over the connections it opens. A mount has one
connection in use at a time, the one opened last; what is written to it is recorded
with the kind of its stream.
-/

namespace LibNfs.Client

open Proto (ProtoError Transport Nfs4 NfsFh4)
open Rpc (RpcClient RpcError IoErrorKind Inbound World)

inductive IpAddr where
  | v4 (octets : Vector UInt8 4)
  | v6 (octets : Vector UInt8 16)
  deriving DecidableEq

/-- Whether a stream is encrypted. -/
inductive Channel where
  | plain
  | tls
  deriving DecidableEq, Repr

/-- What was handed to a stream: the probe that precedes TLS, or data of an RPC client. -/
inductive Written where
  | probe (data : Bytes)
  | data (channel : Channel) (data : Bytes)
  deriving DecidableEq, Repr

/-- The network, the kind of the open stream and what was written so far. -/
structure Wired (ω : Type) where
  net : ω
  channel : Channel
  written : List Written

/-- The parameters of the TLS transport. -/
structure TlsParams where
  serverName : String
  dangerAcceptInvalid : Bool
  rootCertsDer : List Bytes
  clientCertDer : List Bytes
  clientKeyDer : Option Bytes

namespace TlsParams

def insecure (serverName : String) : TlsParams where
  serverName := serverName
  dangerAcceptInvalid := true
  rootCertsDer := []
  clientCertDer := []
  clientKeyDer := none

def withRoots (serverName : String) (roots : List Bytes) : TlsParams where
  serverName := serverName
  dangerAcceptInvalid := false
  rootCertsDer := roots
  clientCertDer := []
  clientKeyDer := none

end TlsParams

/-- A build of the client, the process and the answers of its system: names, new
connections, the exchange of the probe and the set-up of a TLS session over it. -/
structure Platform (ω : Type) where
  tlsFeature : Bool
  pid : UInt32
  env : Rpc.Env ω
  resolve : String → UInt16 → ω → Option (Except IoErrorKind (Option IpAddr) × ω)
  dial : IpAddr → UInt16 → UInt64 → ω → Option (Except IoErrorKind Unit × ω)
  exchange : Bytes → ω → Option (Except IoErrorKind Inbound × ω)
  session : TlsParams → ω → Option (Except RpcError Unit × ω)
  seedXid : ω → Option (UInt32 × ω)
  nanos : ω → Option (UInt64 × ω)

/-- Errors of a mount: those of the other operations, and two of its own. -/
inductive MountError where
  | nfs (error : NfsError)
  | unresolvable (server : String)
  | mount (status : UInt32)
  deriving DecidableEq, Repr

def MountError.ofProto (error : ProtoError) : MountError :=
  .nfs (.ofProto error)

def MountError.ofRpc (error : RpcError) : MountError :=
  .ofProto (.rpc error)

/-- A client and the network that its connection is part of. -/
abbrev Link (ω : Type) :=
  World (Wired ω)

namespace Platform

variable {ω : Type} (platform : Platform ω)

/-- The system calls of a client, with a record of its writes. A reconnection opens a
stream without TLS. -/
def wire : Rpc.Env (Wired ω) where
  write data wired := (platform.env.write data wired.net).map fun (answer, net) =>
    (answer, { wired with net := net, written := wired.written ++ [.data wired.channel data] })
  send data wired := (platform.env.send data wired.net).map fun (answer, net) =>
    (answer, { wired with net := net, written := wired.written ++ [.data wired.channel data] })
  read wired := (platform.env.read wired.net).map fun (answer, net) =>
    (answer, { wired with net := net })
  recv wired := (platform.env.recv wired.net).map fun (answer, net) =>
    (answer, { wired with net := net })
  connect wired := (platform.env.connect wired.net).map fun (answer, net) =>
    (answer, { wired with net := net, channel := .plain })
  budget wired := platform.env.budget wired.net
  read_lt := by
    intro arrival wired next answered
    obtain ⟨⟨answer, net⟩, asked, same⟩ := Option.map_eq_some_iff.mp answered
    cases same
    exact platform.env.read_lt asked
  recv_lt := by
    intro arrival wired next answered
    obtain ⟨⟨answer, net⟩, asked, same⟩ := Option.map_eq_some_iff.mp answered
    cases same
    exact platform.env.recv_lt asked
  read_le := by
    intro bytes wired next answered
    obtain ⟨⟨answer, net⟩, asked, same⟩ := Option.map_eq_some_iff.mp answered
    cases same
    exact platform.env.read_le asked

/-- Waits for an answer of the system. -/
def ask {α : Type} (question : ω → Option (α × ω)) : Prog (Link ω) RpcError α :=
  RpcClient.ask fun wired => (question wired.net).map fun (answer, net) =>
    (answer, { wired with net := net })

/-- An answer that may be a failure of the system. -/
def attempt {α : Type} (question : ω → Option (Except IoErrorKind α × ω)) :
    Prog (Link ω) RpcError α := do
  match ← ask question with
  | .ok value => return value
  | .error kind => Prog.throw (.io kind)

/-- The client from now on, over a stream of some kind. -/
def enter (client : RpcClient) (channel : Channel) : Prog (Link ω) RpcError Unit :=
  Prog.modify fun link => ⟨client, { link.env with channel := channel }⟩

/-- `RpcClient::connect` over TCP. -/
def connect (ip : IpAddr) (port : UInt16) (timeo : UInt64) (cred : Rpc.Credentials) :
    Prog (Link ω) RpcError Unit := do
  attempt (platform.dial ip port timeo)
  let seed ← ask platform.seedXid
  enter (RpcClient.connect .tcp cred seed) .plain

/-- Writes the probe and reads what answers it. -/
def probe (prog vers : UInt32) : Prog (Link ω) RpcError Unit := do
  let framed ← Prog.ofExcept (Rpc.probeFrame prog vers)
  Prog.modify fun link =>
    { link with env := { link.env with written := link.env.written ++ [.probe framed] } }
  let received ← attempt (platform.exchange framed)
  Prog.ofExcept (Rpc.probeVerdict received)

/-- `RpcClient::connect_tls`. -/
def connectTls (ip : IpAddr) (port : UInt16) (prog vers : UInt32) (timeo : UInt64)
    (cred : Rpc.Credentials) (params : TlsParams) : Prog (Link ω) RpcError Unit := do
  attempt (platform.dial ip port timeo)
  platform.probe prog vers
  let session ← ask (platform.session params)
  Prog.ofExcept session
  let seed ← ask platform.seedXid
  enter (RpcClient.fromStream cred seed) .tls

/-- `unique_owner`. -/
def uniqueOwner : Prog (Link ω) RpcError Bytes := do
  return Proto.uniqueOwner platform.pid (← ask platform.nanos)

end Platform

def portmapPort : UInt16 := 111

def nfsPort : UInt16 := 2049

/-- The options of the mount over TCP. -/
structure MountOptions where
  cred : Rpc.Credentials
  timeo : UInt64
  portmapPort : UInt16 := Client.portmapPort
  mountPort : Option UInt16
  nfsPort : Option UInt16

structure MountInfo where
  server : IpAddr
  rootFh : ObjId
  authFlavors : List UInt32
  nfsPort : UInt16

section Mounting

variable {ω : Type}

/-- The errors of RPC, of a protocol and of the client become errors of the mount. -/
def asMount {α ε : Type} (wrap : ε → MountError) (body : Prog (Link ω) ε α) :
    Prog (Link ω) MountError α :=
  Prog.within id (fun next _ => next) wrap body

variable (platform : Platform ω)

/-- The port of a program, which the portmapper is connected to for. -/
def findPort (ip : IpAddr) (opts : MountOptions) (fixed : Option UInt16) (prog vers : UInt32) :
    Prog (Link ω) MountError UInt16 :=
  match fixed with
  | some port => return port
  | none => do
      asMount .ofRpc (platform.connect ip opts.portmapPort opts.timeo opts.cred)
      asMount .ofProto (Proto.Portmap.getport (Proto.rawTransport platform.wire) prog vers
        Proto.Portmap.ipprotoTcp)

/-- `mount::mnt`. -/
def mnt (path : String) : Prog (Link ω) MountError Proto.Mount.MountOk := do
  match ← asMount .ofProto ((Proto.rawTransport platform.wire).callAs Proto.Mount.program
    Proto.Mount.version3 Proto.Mount.mntProc (Xdr.XdrEncode.encode path [])
    Proto.Mount.Mountres3.decode) with
  | .ok mounted => return mounted
  | .err code => Prog.throw (.mount code)

/-- `connect::mount`. -/
def mount (server «export» : String) (opts : MountOptions) :
    Prog (Link ω) MountError MountInfo := do
  match ← asMount .ofRpc (Platform.ask (platform.resolve server opts.portmapPort)) with
  | .error kind => Prog.throw (.nfs (.io kind))
  | .ok none => Prog.throw (.unresolvable server)
  | .ok (some ip) =>
      let mountPort ← findPort platform ip opts opts.mountPort Proto.Mount.program
        Proto.Mount.version3
      asMount .ofRpc (platform.connect ip mountPort opts.timeo opts.cred)
      let mounted ← mnt platform «export»
      let nfsPort ← findPort platform ip opts opts.nfsPort Proto.program Proto.version3
      return ⟨ip, mounted.fhandle, mounted.authFlavors, nfsPort⟩

/-- A context: a backend and the handle of its root. -/
inductive Mounted (τ : Type) where
  | v3 (backend : V3Backend τ) (root : ObjId)
  | v4 (backend : V4Backend τ) (root : ObjId)

/-- The host of an NFSv3 mount; a mount calls nothing but its NFS server. -/
def Platform.host : Host (Link ω) where
  nfs := Proto.rawTransport platform.wire
  protocol := .tcp
  portmapPort := portmapPort
  connect _ := Prog.abort
  port _ := Proto.rawTransport platform.wire

def mountV3 (url : NfsUrl) (cred : Rpc.Credentials) :
    Prog (Link ω) MountError (Mounted (Link ω)) := do
  let info ← mount platform url.server url.path
    { cred := cred, timeo := url.timeo, mountPort := url.mountport, nfsPort := url.nfsport }
  asMount .ofRpc (platform.connect info.server info.nfsPort url.timeo cred)
  let nanos ← asMount .ofRpc (Platform.ask platform.nanos)
  let backend ← ⟨fun link =>
    (V3Backend.new platform.host info.rootFh platform.pid nanos link).map fun backend =>
      (.ok backend, backend.world)⟩
  return .v3 backend info.rootFh

/-- Runs a program of an NFSv4 client over the connection. -/
def onNfs4 {α : Type} (nfs : Nfs4 (Link ω)) (body : Prog (Nfs4 (Link ω)) ProtoError α) :
    Prog (Link ω) MountError (α × Nfs4 (Link ω)) :=
  ⟨fun link => (body.run { nfs with rpc := link }).map fun (result, next) =>
    ((result.map fun value => (value, next)).mapError .ofProto, next.rpc)⟩

/-- `Nfs4::from_client`. -/
def fromClient (minor : UInt32) : Prog (Link ω) MountError (Nfs4 (Link ω)) := do
  let owner ← asMount .ofRpc platform.uniqueOwner
  let boot ← asMount .ofRpc (Platform.ask platform.nanos)
  let id ← asMount .ofRpc platform.uniqueOwner
  let link ← Prog.get
  let ((), nfs) ← onNfs4 (Nfs4.fresh link minor owner)
    (Nfs4.handshake (Proto.rpcTransport platform.wire) boot id)
  return nfs

/-- Connects with TLS when the URL asks for it, which takes a build with the feature. -/
def connectV4 (ip : IpAddr) (port : UInt16) (cred : Rpc.Credentials) (url : NfsUrl) :
    Prog (Link ω) MountError (Nfs4 (Link ω)) := do
  if url.tls then
    if platform.tlsFeature then
      let params := if url.tlsInsecure then TlsParams.insecure url.server
        else TlsParams.withRoots url.server []
      asMount .ofRpc
        (platform.connectTls ip port Proto.program Proto.version4 url.timeo cred params)
      fromClient platform url.minorversion
    else
      Prog.throw (.nfs (.invalidUrl "TLS solicitado pero la feature `tls` no está activada"))
  else
    asMount .ofRpc (platform.connect ip port url.timeo cred)
    fromClient platform url.minorversion

/-- `resolve_ip`. -/
def resolveIp (server : String) (port : UInt16) : Prog (Link ω) MountError IpAddr := do
  match ← asMount .ofRpc (Platform.ask (platform.resolve server port)) with
  | .error kind => Prog.throw (.nfs (.io kind))
  | .ok none => Prog.throw (.nfs (.invalidUrl ("no se pudo resolver «" ++ server ++ "»")))
  | .ok (some ip) => return ip

/-- The handle of the export, looked up component by component from the root of the
pseudo file system. -/
def lookupAll (transport : Transport (Link ω)) (root : NfsFh4) :
    List String → Prog (Nfs4 (Link ω)) ProtoError NfsFh4
  | [] => return root
  | comp :: comps => do
      let (fh, _) ← Nfs4.lookup transport root comp
      lookupAll transport fh comps

def mountV4 (url : NfsUrl) (cred : Rpc.Credentials) :
    Prog (Link ω) MountError (Mounted (Link ω)) := do
  let port := url.nfsport.getD nfsPort
  let ip ← resolveIp platform url.server port
  let nfs ← connectV4 platform ip port cred url
  let (root, nfs) ← onNfs4 nfs (Nfs4.rootFh (Proto.rpcTransport platform.wire))
  let (root, nfs) ← onNfs4 nfs (lookupAll (Proto.rpcTransport platform.wire) root
    (splitComponents url.path))
  return .v4 (V4Backend.new nfs) root.data

def mountParsed (url : NfsUrl) : Prog (Link ω) MountError (Mounted (Link ω)) :=
  let cred := Rpc.Credentials.unix url.uid url.gid
  if url.version = 4 then
    mountV4 platform url cred
  else
    mountV3 platform url cred

/-- `NfsContext::mount_url`. -/
def mountUrl (url : String) : Prog (Link ω) MountError (Mounted (Link ω)) := do
  let url ← Prog.ofExcept ((NfsUrl.parse url).mapError .nfs)
  mountParsed platform url

end Mounting

end LibNfs.Client
