import LibNfs.Client.Context
import LibNfs.Client.Convert
import LibNfs.Proto.Nlm
import LibNfs.Proto.Readdirplus
import LibNfs.Proto.Session

/-! # The NFSv3 backend

`V3Backend` over the connections of one host: the NFS server, and the portmapper
and the lock manager once a lock is asked for.
-/

namespace LibNfs.Client

open Proto (ProtoError Transport NfsFh3 CreateHow3)

/-- The transport protocol of a connection. -/
inductive Protocol where
  | tcp
  | udp
  deriving DecidableEq, Repr

/-- The protocol number that the port mapper knows. -/
def Protocol.number : Protocol → UInt32
  | tcp => Proto.Portmap.ipprotoTcp
  | udp => Proto.Portmap.ipprotoUdp

/-- The host that a backend talks to: the connection to its NFS server, how a port of
it is connected to, and what is called there. -/
structure Host (τ : Type) where
  nfs : Transport τ
  protocol : Protocol
  portmapPort : UInt16
  connect : UInt16 → Prog τ Rpc.RpcError Unit
  port : UInt16 → Transport τ

/-- The lock manager is named by its port, once it is connected to. -/
structure V3Backend (τ : Type) where
  world : τ
  rsize : UInt32
  wsize : UInt32
  nlm : Option UInt16
  lockOwner : Bytes
  svid : Int32

namespace V3Backend

variable {τ : Type} (host : Host τ)

/-- Runs a program of the connections. -/
def within {α ε : Type} (wrap : ε → NfsError) (body : Prog τ ε α) :
    Prog (V3Backend τ) NfsError α :=
  Prog.within (·.world) (fun world backend => { backend with world := world }) wrap body

/-- Takes the preferred sizes from `FSINFO`. -/
def new (root : ObjId) (pid : UInt32) (nanos : UInt64) (world : τ) : Option (V3Backend τ) :=
  ((Proto.Nfs3.fsinfo host.nfs ⟨root⟩).run world).map fun (info, world) =>
    let (rsize, wsize) := match info with
      | .ok info => (clampPref info.rtpref, clampPref info.wtpref)
      | .error _ => (64 * 1024, 64 * 1024)
    { world := world, rsize := rsize, wsize := wsize, nlm := none,
      lockOwner := Proto.uniqueOwner pid nanos, svid := pid.toInt32 }

/-- The port of the lock manager, which is connected to at its first use. -/
def ensureNlm : Prog (V3Backend τ) NfsError UInt16 := do
  let backend ← Prog.get
  match backend.nlm with
  | some port => return port
  | none =>
      within (.ofProto ∘ .rpc) (host.connect host.portmapPort)
      let port ← within .ofProto (Proto.Portmap.getport (host.port host.portmapPort)
        Proto.Nlm.program Proto.Nlm.version4 host.protocol.number)
      within (.ofProto ∘ .rpc) (host.connect port)
      Prog.modify fun backend => { backend with nlm := some port }
      return port

/-- The name that the client gives itself in NLM. -/
def nlmCaller : String := "libnfs-rs"

/-- The lock of a range, by the one owner that the backend has. -/
def nlmLock (file : OpenFile) (offset length : UInt64) (backend : V3Backend τ) :
    Proto.Nlm.Nlm4Lock :=
  ⟨nlmCaller, file.fh, backend.lockOwner, backend.svid, offset, length⟩

/-- The attributes of an object. -/
def getattr (fh : ObjId) : Prog (V3Backend τ) NfsError Attr := do
  let attr ← within .ofProto (Proto.Nfs3.getattr host.nfs ⟨fh⟩)
  return .fromFattr3 attr

/-- The object that a directory has under a name, with its attributes; they are asked for when the
reply has none. -/
def lookup (dir : ObjId) (name : String) : Prog (V3Backend τ) NfsError (ObjId × Attr) := do
  let res ← within .ofProto (Proto.Nfs3.lookup host.nfs ⟨dir⟩ name)
  match res.objAttributes with
  | some attr => return (res.object.data, .fromFattr3 attr)
  | none =>
      let attr ← within .ofProto (Proto.Nfs3.getattr host.nfs res.object)
      return (res.object.data, .fromFattr3 attr)

/-- How a file is created. -/
def createHow (opts : OpenOpts) : CreateHow3 :=
  if opts.exclusive then .guarded { mode := some opts.mode }
  else .unchecked { mode := some opts.mode }

/-- Opens a file: with `create` by a `CREATE`, else by a lookup. -/
def «open» (dir : ObjId) (name : String) (opts : OpenOpts) :
    Prog (V3Backend τ) NfsError OpenFile := do
  if opts.create then
    let res ← within .ofProto (Proto.Nfs3.create host.nfs ⟨dir⟩ name (createHow opts))
    match res.obj with
    | some fh => return ⟨fh.data, none, opts.write⟩
    | none => Prog.throw (.proto (.protocol "CREATE no devolvió file handle"))
  else
    let res ← within .ofProto (Proto.Nfs3.lookup host.nfs ⟨dir⟩ name)
    return ⟨res.object.data, none, opts.write⟩

/-- Reads from a file. -/
def pread (file : OpenFile) (offset : UInt64) (count : UInt32) :
    Prog (V3Backend τ) NfsError (Bytes × Bool) := do
  let res ← within .ofProto (Proto.Nfs3.read host.nfs ⟨file.fh⟩ offset count)
  return (res.data, res.eof)

/-- Writes to a file, `UNSTABLE`; the verifier of the reply is dropped. -/
def pwrite (file : OpenFile) (offset : UInt64) (data : Bytes) :
    Prog (V3Backend τ) NfsError UInt32 := do
  let res ← within .ofProto (Proto.Nfs3.write host.nfs ⟨file.fh⟩ offset Proto.unstable data)
  return res.count

/-- The write verifier is dropped. -/
def commit (file : OpenFile) : Prog (V3Backend τ) NfsError Unit := do
  let _ ← within .ofProto (Proto.Nfs3.commit host.nfs ⟨file.fh⟩ 0 0)
  return ()

/-- Makes a directory; a reply without its handle is an error. -/
def mkdir (dir : ObjId) (name : String) (mode : UInt32) : Prog (V3Backend τ) NfsError ObjId := do
  let res ← within .ofProto (Proto.Nfs3.mkdir host.nfs ⟨dir⟩ name { mode := some mode })
  match res.obj with
  | some fh => return fh.data
  | none =>
      let res ← within .ofProto (Proto.Nfs3.lookup host.nfs ⟨dir⟩ name)
      return res.object.data

/-- The target of a link. -/
def readlink (fh : ObjId) : Prog (V3Backend τ) NfsError String := do
  let res ← within .ofProto (Proto.Nfs3.readlink host.nfs ⟨fh⟩)
  return res.data

/-- Sets attributes. -/
def setattr (fh : ObjId) (attr : SetAttr) : Prog (V3Backend τ) NfsError Unit := do
  let _ ← within .ofProto (Proto.Nfs3.setattr host.nfs ⟨fh⟩ attr.toSattr3 none)
  return ()

/-- An entry of a page, with its cookie. -/
def dirEntry (entry : Proto.EntryPlus3) : UInt64 × DirEntry :=
  (entry.cookie, ⟨entry.name, entry.fileid, entry.nameAttributes.map Attr.fromFattr3⟩)

/-- A page of a directory. -/
def readPage (dir : ObjId) (cookie : UInt64) (verf : Vector UInt8 8) :
    Prog (V3Backend τ) NfsError DirPage := do
  let page ← within .ofProto (Proto.Nfs3.readdirplus host.nfs ⟨dir⟩ cookie verf 8192 32768)
  return ⟨page.cookieverf, page.entries.map dirEntry, page.eof⟩

/-- The entries of a directory, by pages of `READDIRPLUS`. -/
def readdir (pages : Nat) (dir : ObjId) : Prog (V3Backend τ) NfsError (List DirEntry) :=
  readPages (readPage host dir) pages 0 (Vector.replicate 8 0) []

/-- Takes a lock from the NLM server. -/
def lock (file : OpenFile) (offset length : UInt64) (exclusive : Bool) :
    Prog (V3Backend τ) NfsError LockToken := do
  let backend ← Prog.get
  let port ← ensureNlm host
  within .ofProto (Proto.Nlm.lock (host.port port) (nlmLock file offset length backend) exclusive)
  return .v3 offset length

/-- A token of the other version is left alone. -/
def unlock (file : OpenFile) (token : LockToken) : Prog (V3Backend τ) NfsError Unit := do
  match token with
  | .v3 offset length =>
      let backend ← Prog.get
      let port ← ensureNlm host
      within .ofProto (Proto.Nlm.unlock (host.port port) (nlmLock file offset length backend))
  | .v4 .. => return ()

/-- Whether a range could be locked. -/
def testLock (file : OpenFile) (offset length : UInt64) (exclusive : Bool) :
    Prog (V3Backend τ) NfsError Bool := do
  let backend ← Prog.get
  let port ← ensureNlm host
  match ← within .ofProto
    (Proto.Nlm.test (host.port port) (nlmLock file offset length backend) exclusive) with
  | .granted => return true
  | .denied _ => return false
  | .other stat => Prog.throw (.proto (.nlm stat))

/-- The backend for `NfsContext`; NFSv3 has no open state to close. -/
def backend : VfsBackend (V3Backend τ) where
  prefWrite backend := backend.wsize
  lookup := lookup host
  «open» := V3Backend.open host
  close _ := return ()
  pwrite := pwrite host
  commit := commit host
  readlink := readlink host
  setattr := setattr host
  prefRead backend := backend.rsize
  getattr := getattr host
  readdir := readdir host
  pread := pread host
  mkdir := mkdir host
  lock := lock host
  unlock := unlock host
  testLock := testLock host

end V3Backend

end LibNfs.Client
