import LibNfs.Client.Backend

/-! # The synchronous file API

`NfsContext`: the resolution of paths and the operations on whole files, over any
backend. The state is that of the backend; the handle of the export's root does
not change and is a parameter.
-/

namespace LibNfs.Client

structure OpenFlags where
  write : Bool := false
  create : Bool := false
  exclusive : Bool := false
  truncate : Bool := false
  mode : UInt32 := 0
  deriving DecidableEq, Repr

def OpenFlags.readOnly : OpenFlags := {}

/-- Read and write. -/
def OpenFlags.readWrite : OpenFlags where
  write := true

/-- Create or truncate for writing, with mode 0o644. -/
def OpenFlags.createWrite : OpenFlags where
  write := true
  create := true
  truncate := true
  mode := 0o644

def maxSymlinkDepth : Nat := 40

/-- The components of a path that are not empty. -/
def splitComponents (path : String) : List String :=
  ((path.toList.splitOn '/').filter (· ≠ [])).map String.ofList

/-- `slice::chunks`: pieces of the given size, the last one maybe shorter. -/
def chunks (size : Nat) (data : Bytes) : List Bytes :=
  if 0 < size ∧ data ≠ [] then
    data.take size :: chunks size (data.drop size)
  else
    []
termination_by data.length
decreasing_by
  rename_i more
  have nonempty := List.length_pos_iff.mpr more.2
  rw [List.length_drop]
  omega

namespace NfsContext

variable {σ : Type} (backend : Backend σ) (root : ObjId)

/-- The turns of the loop of `resolve` up to the next symbolic link to follow,
from the object reached so far and the components left; `follow` goes on from the
link, in the directory `cur`. -/
def walk (followFinal : Bool) (follow : ObjId → ObjId → List String → Prog σ NfsError ObjId) :
    ObjId → List String → Prog σ NfsError ObjId
  | cur, [] => return cur
  | cur, name :: comps =>
      if name = "." then
        walk followFinal follow cur comps
      else do
        let (fh, attr) ← backend.lookup cur name
        if attr.isSymlink ∧ (comps ≠ [] ∨ followFinal) then
          follow cur fh comps
        else
          walk followFinal follow fh comps

/-- The loop of `resolve`, with the number of symbolic links it may still follow:
`MAX_SYMLINK_DEPTH` less the `depth` of the source. -/
def resolveFrom (followFinal : Bool) : Nat → ObjId → List String → Prog σ NfsError ObjId
  | 0 => walk backend followFinal fun _ _ _ => Prog.throw .tooManySymlinks
  | links + 1 => walk backend followFinal fun cur fh comps => do
      let target ← backend.readlink fh
      -- a relative target starts in the directory of the link
      resolveFrom followFinal links (if target.toList.head? = some '/' then root else cur)
        (splitComponents target ++ comps)

/-- The handle of the object that a path leads to. -/
def resolve (path : String) (followFinal : Bool) : Prog σ NfsError ObjId :=
  resolveFrom backend root followFinal maxSymlinkDepth root (splitComponents path)

/-- The handle of the parent directory and the final name. -/
def resolveParent (path : String) : Prog σ NfsError (ObjId × String) := do
  let comps := splitComponents path
  match comps.getLast? with
  | none => Prog.throw (.invalidPath path)
  | some name =>
      let dir ← resolve backend root ("/" ++ String.intercalate "/" comps.dropLast) true
      return (dir, name)

/-- Opens a file, or creates it, and truncates it when the flags say so. -/
def «open» (path : String) (flags : OpenFlags) : Prog σ NfsError OpenFile := do
  let (dir, name) ← resolveParent backend root path
  let mode := if flags.mode = 0 then 0o644 else flags.mode
  let file ← backend.open dir name
    { write := flags.write, create := flags.create, exclusive := flags.exclusive, mode := mode }
  if flags.truncate ∧ flags.write then
    backend.setattr file.fh { size := some 0 }
    return file
  else
    return file

/-- Creates a file, or truncates it, for writing. -/
def create (path : String) : Prog σ NfsError OpenFile :=
  NfsContext.open backend root path .createWrite

/-- Commits a file open for writing, whether that succeeds or not, and closes it. -/
def close (file : OpenFile) : Prog σ NfsError Unit := do
  if file.writable then
    let _ ← Prog.outcome (backend.commit file)
    backend.close file
  else
    backend.close file

/-- The loop of `pwrite`: it stops after a piece that was written short. -/
def pwritePieces (file : OpenFile) : List Bytes → UInt64 → UInt64 → Prog σ NfsError UInt64
  | [], _, written => return written
  | piece :: pieces, pos, written => do
      let count ← backend.pwrite file pos piece
      if count.toNat < piece.length then
        return written + count.toUInt64
      else
        pwritePieces file pieces (pos + count.toUInt64) (written + count.toUInt64)

/-- Writes in pieces of the preferred size and returns how much was written;
`chunks(0)` panics. -/
def pwrite (file : OpenFile) (offset : UInt64) (data : Slice) : Prog σ NfsError UInt64 := do
  let state ← Prog.get
  if backend.prefWrite state = 0 then
    Prog.abort
  else
    pwritePieces backend file (chunks (backend.prefWrite state).toNat data.bytes) offset 0

/-- Makes what was written to a file durable. -/
def fsync (file : OpenFile) : Prog σ NfsError Unit :=
  backend.commit file

/-- Writes the whole content of a file. -/
def writeWhole (path : String) (data : Slice) : Prog σ NfsError Unit := do
  let file ← create backend root path
  let result ← Prog.outcome (do
    let _ ← pwrite backend file 0 data
    return ())
  close backend file
  Prog.ofExcept result

def chmod (path : String) (mode : UInt32) : Prog σ NfsError Unit := do
  let fh ← resolve backend root path true
  backend.setattr fh { mode := some mode }

def chown (path : String) (uid gid : UInt32) : Prog σ NfsError Unit := do
  let fh ← resolve backend root path true
  backend.setattr fh { uid := some uid, gid := some gid }

def truncate (path : String) (size : UInt64) : Prog σ NfsError Unit := do
  let fh ← resolve backend root path true
  backend.setattr fh { size := some size }

section Vfs

variable (vfs : VfsBackend σ)

/-- The loop of `pread`, from what has been read so far; `turns` bounds the number of
turns, each of which reads a byte at least. -/
def preadTurns (file : OpenFile) (chunk : UInt64) :
    Nat → UInt64 → UInt64 → Bytes → Prog σ NfsError Bytes
  | 0, _, _, out => return out
  | turns + 1, pos, left, out =>
      if left = 0 then
        return out
      else do
        let (data, eof) ← vfs.pread file pos (min left chunk).toUInt32
        let got := UInt64.ofNat data.length
        if eof ∨ got = 0 then
          return out ++ data
        else
          preadTurns file chunk turns (pos + got) (left - min got left) (out ++ data)

/-- Reads in pieces of the preferred size, up to the end of the file. -/
def pread (file : OpenFile) (offset count : UInt64) : Prog σ NfsError Bytes := do
  let state ← Prog.get
  preadTurns vfs file (vfs.prefRead state).toUInt64 count.toNat offset count []

/-- The attributes of the object that a path leads to. -/
def stat (path : String) : Prog σ NfsError Attr := do
  let fh ← resolve vfs.toBackend root path true
  vfs.getattr fh

/-- Reads a whole file, up to the size that `stat` gives. -/
def readWhole (path : String) : Prog σ NfsError Bytes := do
  let attr ← stat root vfs path
  let file ← NfsContext.open vfs.toBackend root path .readOnly
  let data ← Prog.outcome (pread vfs file 0 attr.size)
  let _ ← Prog.outcome (close vfs.toBackend file)
  Prog.ofExcept data

/-- Lists a directory. -/
def readdir (pages : Nat) (path : String) : Prog σ NfsError (List DirEntry) := do
  let fh ← resolve vfs.toBackend root path true
  vfs.readdir pages fh

def mkdir (path : String) : Prog σ NfsError Unit := do
  let (dir, name) ← resolveParent vfs.toBackend root path
  let _ ← vfs.mkdir dir name 0o755
  return ()

def lock (file : OpenFile) (offset length : UInt64) (exclusive : Bool) :
    Prog σ NfsError LockToken :=
  vfs.lock file offset length exclusive

def unlock (file : OpenFile) (token : LockToken) : Prog σ NfsError Unit :=
  vfs.unlock file token

def testLock (file : OpenFile) (offset length : UInt64) (exclusive : Bool) :
    Prog σ NfsError Bool :=
  vfs.testLock file offset length exclusive

end Vfs

end NfsContext

end LibNfs.Client
