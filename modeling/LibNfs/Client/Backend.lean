import LibNfs.Proto.Nfs4

/-! # Backends of the file API

The operations that each version of NFS implements for `NfsContext`, as programs
over the state of the backend. A backend is a parameter of the context, as the
`dyn Backend` of the source is.
-/

namespace LibNfs.Client

/-- A byte slice of the caller: its length is at most `isize::MAX`. -/
structure Slice where
  bytes : Bytes
  bounded : bytes.length < 2 ^ 63

/-- The handle of an object. -/
abbrev ObjId := Bytes

inductive NfsError where
  | notFound
  | notADirectory
  | isADirectory
  | alreadyExists
  | permissionDenied
  | notEmpty
  | nameTooLong
  | noSpace
  | readOnly
  | stale
  | invalidArgument
  | tooManySymlinks
  | locked
  | invalidPath (path : String)
  | invalidUrl (text : String)
  | io (kind : Rpc.IoErrorKind)
  | proto (error : Proto.ProtoError)
  deriving DecidableEq, Repr

inductive FileType where
  | regular
  | directory
  | symlink
  | block
  | char
  | socket
  | fifo
  | unknown
  deriving DecidableEq, Repr

structure Timestamp where
  secs : Int64
  nsecs : UInt32
  deriving DecidableEq, Repr

/-- The epoch. -/
def Timestamp.default : Timestamp := ⟨0, 0⟩

/-- The attributes of an object, for both versions. -/
structure Attr where
  fileType : FileType
  mode : UInt32
  nlink : UInt32
  uid : UInt32
  gid : UInt32
  size : UInt64
  used : UInt64
  fileid : UInt64
  fsid : UInt64
  rdev : UInt32 × UInt32
  atime : Timestamp
  mtime : Timestamp
  ctime : Timestamp
  deriving DecidableEq, Repr

/-- Attributes of a type, and nothing else. -/
def Attr.ofType (fileType : FileType) : Attr :=
  ⟨fileType, 0, 1, 0, 0, 0, 0, 0, 0, (0, 0), .default, .default, .default⟩

def Attr.isSymlink (attr : Attr) : Bool :=
  attr.fileType = .symlink

/-- An entry of a directory; its attributes when the server gave them. -/
structure DirEntry where
  name : String
  fileid : UInt64
  attr : Option Attr
  deriving DecidableEq, Repr

/-- Attributes to set; by default none is. -/
structure SetAttr where
  mode : Option UInt32 := none
  uid : Option UInt32 := none
  gid : Option UInt32 := none
  size : Option UInt64 := none
  atime : Option Timestamp := none
  mtime : Option Timestamp := none
  deriving DecidableEq, Repr

/-- An open file; NFSv4 has a stateid for it. -/
structure OpenFile where
  fh : ObjId
  stateid : Option Proto.Stateid4
  writable : Bool
  deriving DecidableEq, Repr

structure OpenOpts where
  write : Bool
  create : Bool
  exclusive : Bool
  mode : UInt32
  deriving DecidableEq, Repr

structure Backend (σ : Type) where
  prefWrite : σ → UInt32
  lookup : ObjId → String → Prog σ NfsError (ObjId × Attr)
  «open» : ObjId → String → OpenOpts → Prog σ NfsError OpenFile
  close : OpenFile → Prog σ NfsError Unit
  pwrite : OpenFile → UInt64 → Bytes → Prog σ NfsError UInt32
  commit : OpenFile → Prog σ NfsError Unit
  readlink : ObjId → Prog σ NfsError String
  setattr : ObjId → SetAttr → Prog σ NfsError Unit

/-- A lock that is held: its range, and in NFSv4 what `LOCK` returned. -/
inductive LockToken where
  | v3 (offset length : UInt64)
  | v4 (grant : Proto.LockGrant) (offset length : UInt64)
  deriving DecidableEq, Repr

/-- A backend with the operations that read, list and make directories and lock. A
directory is listed in a number of pages at most. -/
structure VfsBackend (σ : Type) extends Backend σ where
  prefRead : σ → UInt32
  getattr : ObjId → Prog σ NfsError Attr
  readdir : Nat → ObjId → Prog σ NfsError (List DirEntry)
  pread : OpenFile → UInt64 → UInt32 → Prog σ NfsError (Bytes × Bool)
  mkdir : ObjId → String → UInt32 → Prog σ NfsError ObjId
  lock : OpenFile → UInt64 → UInt64 → Bool → Prog σ NfsError LockToken
  unlock : OpenFile → LockToken → Prog σ NfsError Unit
  testLock : OpenFile → UInt64 → UInt64 → Bool → Prog σ NfsError Bool

/-- A page of a directory: the verifier to go on with, and each entry with its cookie. -/
structure DirPage where
  cookieverf : Vector UInt8 8
  entries : List (UInt64 × DirEntry)
  eof : Bool

/-- The loop of `readdir`, from the cookie and the verifier to go on with and the entries
so far. It ends with a page that says so or is empty; `pages` bounds the number of turns. -/
def readPages {σ : Type} (fetch : UInt64 → Vector UInt8 8 → Prog σ NfsError DirPage) :
    Nat → UInt64 → Vector UInt8 8 → List DirEntry → Prog σ NfsError (List DirEntry)
  | 0, _, _, _ => Prog.abort
  | pages + 1, cookie, verf, out => do
      let page ← fetch cookie verf
      let out := out ++ page.entries.map Prod.snd
      if page.eof ∨ page.entries = [] then
        return out
      else
        readPages fetch pages ((page.entries.getLast?.map Prod.fst).getD cookie) page.cookieverf out

/-- A preferred size, from 32 KiB to 1 MiB. -/
def clampPref (value : UInt32) : UInt32 :=
  max (32 * 1024) (min value (1024 * 1024))

end LibNfs.Client
