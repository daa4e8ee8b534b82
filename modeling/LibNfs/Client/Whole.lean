import LibNfs.Client.BackendV3
import LibNfs.Client.Names
import LibNfs.Proto.Procedures3

/-! # The whole of the file API

The operations of the `Backend` trait that the other modules leave out, for both versions,
and those of `NfsContext` that use them.
-/

namespace LibNfs.Client

open Proto (Transport Nfs4)

/-- The sizes of a file system; a block is a byte. -/
structure StatVfs where
  blockSize : UInt32
  totalBlocks : UInt64
  freeBlocks : UInt64
  availBlocks : UInt64
  totalFiles : UInt64
  freeFiles : UInt64
  availFiles : UInt64
  deriving DecidableEq, Repr

/-- A backend with every operation of the trait. -/
structure WholeBackend (σ : Type) extends NameBackend σ where
  version : UInt32
  statvfs : ObjId → Prog σ NfsError StatVfs
  access : ObjId → UInt32 → Prog σ NfsError UInt32

namespace V3Backend

variable {τ : Type} (host : Host τ)

def rmdir (dir : ObjId) (name : String) : Prog (V3Backend τ) NfsError Unit := do
  let _ ← within .ofProto (Proto.Nfs3.rmdir host.nfs ⟨dir⟩ name)
  return ()

def remove (dir : ObjId) (name : String) : Prog (V3Backend τ) NfsError Unit := do
  let _ ← within .ofProto (Proto.Nfs3.remove host.nfs ⟨dir⟩ name)
  return ()

def rename (fromDir : ObjId) (fromName : String) (toDir : ObjId) (toName : String) :
    Prog (V3Backend τ) NfsError Unit := do
  let _ ← within .ofProto (Proto.Nfs3.rename host.nfs ⟨fromDir⟩ fromName ⟨toDir⟩ toName)
  return ()

def symlink (dir : ObjId) (name target : String) : Prog (V3Backend τ) NfsError Unit := do
  let _ ← within .ofProto (Proto.Nfs3.symlink host.nfs ⟨dir⟩ name target {})
  return ()

def link (fh dir : ObjId) (name : String) : Prog (V3Backend τ) NfsError Unit := do
  let _ ← within .ofProto (Proto.Nfs3.link host.nfs ⟨fh⟩ ⟨dir⟩ name)
  return ()

def statvfs (fh : ObjId) : Prog (V3Backend τ) NfsError StatVfs := do
  let stat ← within .ofProto (Proto.Nfs3.fsstat host.nfs ⟨fh⟩)
  return {
    blockSize := 1
    totalBlocks := stat.tbytes
    freeBlocks := stat.fbytes
    availBlocks := stat.abytes
    totalFiles := stat.tfiles
    freeFiles := stat.ffiles
    availFiles := stat.afiles }

def access (fh : ObjId) (mask : UInt32) : Prog (V3Backend τ) NfsError UInt32 := do
  let res ← within .ofProto (Proto.Nfs3.access host.nfs ⟨fh⟩ mask)
  return res.access

/-- The backend with every operation. -/
def whole : WholeBackend (V3Backend τ) where
  toVfsBackend := backend host
  rmdir := rmdir host
  remove := remove host
  rename := rename host
  symlink := symlink host
  link := link host
  version := 3
  statvfs := statvfs host
  access := access host

end V3Backend

namespace V4Backend

variable {τ : Type} (transport : Transport τ)

/-- A number that the server leaves out is 0. -/
def statvfs (fh : ObjId) : Prog (V4Backend τ) NfsError StatVfs := do
  let attrs ← within (Nfs4.statvfs transport ⟨fh⟩)
  return {
    blockSize := 1
    totalBlocks := attrs.spaceTotal.getD 0
    freeBlocks := attrs.spaceFree.getD 0
    availBlocks := attrs.spaceAvail.getD 0
    totalFiles := attrs.filesTotal.getD 0
    freeFiles := attrs.filesFree.getD 0
    availFiles := attrs.filesAvail.getD 0 }

def access (fh : ObjId) (mask : UInt32) : Prog (V4Backend τ) NfsError UInt32 :=
  within (Nfs4.access transport ⟨fh⟩ mask)

/-- The backend with every operation. -/
def whole : WholeBackend (V4Backend τ) where
  toNameBackend := named transport
  version := 4
  statvfs := statvfs transport
  access := access transport

end V4Backend

/-- The bit of `ACCESS` that asks for reading. -/
def access3Read : UInt32 := 1

namespace NfsContext

variable {σ : Type} (root : ObjId) (whole : WholeBackend σ)

def version : UInt32 :=
  whole.version

/-- Whether the object that a path leads to may be read. -/
def access (path : String) : Prog σ NfsError Bool := do
  let fh ← resolve whole.toBackend root path true
  let granted ← whole.access fh access3Read
  return granted &&& access3Read ≠ 0

/-- The sizes of the file system that a path leads to. -/
def statvfs (path : String) : Prog σ NfsError StatVfs := do
  let fh ← resolve whole.toBackend root path true
  whole.statvfs fh

end NfsContext

/-- The attributes of a file of one byte. -/
def oneByte : Attr :=
  { Attr.ofType .regular with size := 1 }

/-- A backend that answers every request and counts it. All there is are files of one byte, and
it prefers to write nothing at a time. -/
def counting {σ : Type} (count : σ → σ) : WholeBackend σ :=
  let answers {α : Type} (value : α) : Prog σ NfsError α :=
    ⟨fun state => some (.ok value, count state)⟩
  { prefWrite := fun _ => 0
    lookup := fun dir _ => answers (dir, oneByte)
    «open» := fun dir _ opts => answers ⟨dir, none, opts.write⟩
    close := fun _ => answers ()
    pwrite := fun _ _ data => answers (UInt32.ofNat data.length)
    commit := fun _ => answers ()
    readlink := fun _ => answers ""
    setattr := fun _ _ => answers ()
    prefRead := fun _ => 1
    getattr := fun _ => answers oneByte
    readdir := fun _ _ => answers []
    pread := fun _ _ _ => answers ([7], true)
    mkdir := fun dir _ _ => answers dir
    lock := fun _ offset length _ => answers (.v3 offset length)
    unlock := fun _ _ => answers ()
    testLock := fun _ _ _ _ => answers true
    rmdir := fun _ _ => answers ()
    remove := fun _ _ => answers ()
    rename := fun _ _ _ _ => answers ()
    symlink := fun _ _ _ => answers ()
    link := fun _ _ _ => answers ()
    version := 3
    statvfs := fun _ => answers ⟨1, 0, 0, 0, 0, 0, 0⟩
    access := fun _ mask => answers mask }

end LibNfs.Client
