import LibNfs.Client.BackendV4
import LibNfs.Lib.Noted

/-! # Calls on paths

The operations of a backend on names, those of `NfsContext` that use them, and the
calls that resolve a path. Beside a call stand notes of the symbolic links that it
follows: the targets, as the server gave them.
-/

namespace LibNfs.Client

/-- A backend with the operations that change the names in a directory. -/
structure NameBackend (σ : Type) extends VfsBackend σ where
  rmdir : ObjId → String → Prog σ NfsError Unit
  remove : ObjId → String → Prog σ NfsError Unit
  rename : ObjId → String → ObjId → String → Prog σ NfsError Unit
  symlink : ObjId → String → String → Prog σ NfsError Unit
  link : ObjId → ObjId → String → Prog σ NfsError Unit

namespace V4Backend

open Proto (Transport Nfs4)

variable {τ : Type} (transport : Transport τ)

/-- A directory is removed as a file is. -/
def rmdir (dir : ObjId) (name : String) : Prog (V4Backend τ) NfsError Unit :=
  within (Nfs4.remove transport ⟨dir⟩ name)

def remove (dir : ObjId) (name : String) : Prog (V4Backend τ) NfsError Unit :=
  within (Nfs4.remove transport ⟨dir⟩ name)

def rename (fromDir : ObjId) (fromName : String) (toDir : ObjId) (toName : String) :
    Prog (V4Backend τ) NfsError Unit :=
  within (Nfs4.rename transport ⟨fromDir⟩ fromName ⟨toDir⟩ toName)

def symlink (dir : ObjId) (name target : String) : Prog (V4Backend τ) NfsError Unit := do
  let _ ← within (Nfs4.symlink transport ⟨dir⟩ name target)
  return ()

def link (fh dir : ObjId) (name : String) : Prog (V4Backend τ) NfsError Unit :=
  within (Nfs4.link transport ⟨fh⟩ ⟨dir⟩ name)

/-- The backend with its operations on names. -/
def named : NameBackend (V4Backend τ) where
  toVfsBackend := backend transport
  rmdir := rmdir transport
  remove := remove transport
  rename := rename transport
  symlink := symlink transport
  link := link transport

end V4Backend

namespace NfsContext

variable {σ : Type} (root : ObjId) (named : NameBackend σ)

/-- The attributes of the object that a path leads to, without following a last link. -/
def lstat (path : String) : Prog σ NfsError Attr := do
  let fh ← resolve named.toBackend root path false
  named.getattr fh

def rmdir (path : String) : Prog σ NfsError Unit := do
  let (dir, name) ← resolveParent named.toBackend root path
  named.rmdir dir name

def unlink (path : String) : Prog σ NfsError Unit := do
  let (dir, name) ← resolveParent named.toBackend root path
  named.remove dir name

def rename (fromPath toPath : String) : Prog σ NfsError Unit := do
  let (fromDir, fromName) ← resolveParent named.toBackend root fromPath
  let (toDir, toName) ← resolveParent named.toBackend root toPath
  named.rename fromDir fromName toDir toName

/-- A symbolic link to a target; the target is not resolved. -/
def symlink (target linkpath : String) : Prog σ NfsError Unit := do
  let (dir, name) ← resolveParent named.toBackend root linkpath
  named.symlink dir name target

/-- The target of a symbolic link. -/
def readlink (path : String) : Prog σ NfsError String := do
  let fh ← resolve named.toBackend root path false
  named.readlink fh

/-- A hard link to what the old path leads to. -/
def link (oldpath newpath : String) : Prog σ NfsError Unit := do
  let fh ← resolve named.toBackend root oldpath true
  let (dir, name) ← resolveParent named.toBackend root newpath
  named.link fh dir name

end NfsContext

/-- A call that resolves a path. -/
inductive PathCall where
  | stat (path : String)
  | lstat (path : String)
  | open (path : String) (flags : OpenFlags)
  | mkdir (path : String)
  | rmdir (path : String)
  | unlink (path : String)
  | rename (fromPath toPath : String)
  | symlink (target linkpath : String)
  | link (oldpath newpath : String)
  | readlink (path : String)
  | readdir (pages : Nat) (path : String)

namespace PathCall

/-- What a call returns. -/
def Answer : PathCall → Type
  | stat _ | lstat _ => Attr
  | .open .. => OpenFile
  | mkdir _ | rmdir _ | unlink _ | rename .. | symlink .. | link .. => Unit
  | readlink _ => String
  | readdir .. => List DirEntry

variable {σ : Type}

def perform (named : NameBackend σ) (root : ObjId) : (call : PathCall) →
    Prog σ NfsError call.Answer
  | stat path => NfsContext.stat root named.toVfsBackend path
  | lstat path => NfsContext.lstat root named path
  | .open path flags => NfsContext.open named.toBackend root path flags
  | mkdir path => NfsContext.mkdir root named.toVfsBackend path
  | rmdir path => NfsContext.rmdir root named path
  | unlink path => NfsContext.unlink root named path
  | rename fromPath toPath => NfsContext.rename root named fromPath toPath
  | symlink target linkpath => NfsContext.symlink root named target linkpath
  | link oldpath newpath => NfsContext.link root named oldpath newpath
  | readlink path => NfsContext.readlink root named path
  | readdir pages path => NfsContext.readdir root named.toVfsBackend pages path

end PathCall

/-- The backend with notes of the targets that are read. -/
def NameBackend.noting {σ : Type} (named : NameBackend σ) : NameBackend (σ × List String) where
  prefWrite state := named.prefWrite state.1
  lookup dir name := (named.lookup dir name).beside
  «open» dir name opts := (named.open dir name opts).beside
  close file := (named.close file).beside
  pwrite file offset data := (named.pwrite file offset data).beside
  commit file := (named.commit file).beside
  readlink fh := (named.readlink fh).noting
  setattr fh attr := (named.setattr fh attr).beside
  prefRead state := named.prefRead state.1
  getattr fh := (named.getattr fh).beside
  readdir pages dir := (named.readdir pages dir).beside
  pread file offset count := (named.pread file offset count).beside
  mkdir dir name mode := (named.mkdir dir name mode).beside
  lock file offset length exclusive := (named.lock file offset length exclusive).beside
  unlock file token := (named.unlock file token).beside
  testLock file offset length exclusive := (named.testLock file offset length exclusive).beside
  rmdir dir name := (named.rmdir dir name).beside
  remove dir name := (named.remove dir name).beside
  rename fromDir fromName toDir toName := (named.rename fromDir fromName toDir toName).beside
  symlink dir name target := (named.symlink dir name target).beside
  link fh dir name := (named.link fh dir name).beside

/-- The call with notes of the targets of the links that it follows; what `readlink`
returns is not followed. -/
def PathCall.traced {σ : Type} (named : NameBackend σ) (root : ObjId) : (call : PathCall) →
    Prog (σ × List String) NfsError call.Answer
  | readlink path => do
      let fh ← NfsContext.resolve named.noting.toBackend root path false
      (named.readlink fh).beside
  | call => call.perform named.noting root

end LibNfs.Client
