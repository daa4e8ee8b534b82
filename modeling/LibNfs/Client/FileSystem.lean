import LibNfs.Client.Names
import LibNfs.Client.VolumeV4
import LibNfs.Client.Whole
import LibNfs.Lib.Simulation

/-! # File systems

What a file system offers to the servers of both versions: its objects by their handles,
the names in its directories, and the operations on them. `view` is the backend of a
client that has a file system before it, with no protocol in between; what the
versions make of a request differs, and is a parameter of it.
-/

namespace LibNfs.Client

open Proto (Fattr3 Fattr4 Nfstime3 Nfstime4)

/-- The attributes of an object. Its times are those that both versions can show. -/
structure Metadata where
  ftype : UInt32
  mode : UInt32
  nlink : UInt32
  uid : UInt32
  gid : UInt32
  size : UInt64
  used : UInt64
  rdev : UInt32 × UInt32
  fsid : UInt64
  fileid : UInt64
  change : UInt64
  atime : Nfstime3
  mtime : Nfstime3
  ctime : Nfstime3

namespace Metadata

/-- The attributes that a client is shown. -/
def attr (metadata : Metadata) : Attr where
  fileType := .fromNfs metadata.ftype
  mode := metadata.mode
  nlink := metadata.nlink
  uid := metadata.uid
  gid := metadata.gid
  size := metadata.size
  used := metadata.used
  fileid := metadata.fileid
  fsid := metadata.fsid
  rdev := metadata.rdev
  atime := .fromNfstime3 metadata.atime
  mtime := .fromNfstime3 metadata.mtime
  ctime := .fromNfstime3 metadata.ctime

def isDirectory (metadata : Metadata) : Bool :=
  metadata.ftype = 2

end Metadata

/-- The sizes of a file system, in bytes and in files. -/
structure Sizes where
  totalBytes : UInt64
  freeBytes : UInt64
  availBytes : UInt64
  totalFiles : UInt64
  freeFiles : UInt64
  availFiles : UInt64

/-- What a client is shown of the sizes; a block is a byte. -/
def Sizes.statvfs (sizes : Sizes) : StatVfs where
  blockSize := 1
  totalBlocks := sizes.totalBytes
  freeBlocks := sizes.freeBytes
  availBlocks := sizes.availBytes
  totalFiles := sizes.totalFiles
  freeFiles := sizes.freeFiles
  availFiles := sizes.availFiles

/-- Attributes to set. -/
structure Settings where
  mode : Option UInt32
  uid : Option UInt32
  gid : Option UInt32
  size : Option UInt64
  deriving DecidableEq

/-- A file system with states of some type. An operation that fails leaves the state alone,
and a directory that was made is found by its name. -/
structure FileSystem (S : Type) where
  lookup : S → ObjId → String → Except Status FileHandle
  getattr : S → ObjId → Except Status Metadata
  readlink : S → ObjId → Except Status Proto.Text
  access : S → ObjId → UInt32 → Except Status UInt32
  sizes : S → ObjId → Except Status Sizes
  mkdir : S → ObjId → String → Option UInt32 → Except Status (FileHandle × S)
  symlink : S → ObjId → String → String → Except Status (FileHandle × S)
  erase : S → ObjId → String → Except Status S
  rename : S → ObjId → String → ObjId → String → Except Status S
  link : S → ObjId → ObjId → String → Except Status S
  setattr : S → ObjId → Settings → Except Status S
  found : ∀ {state dir name mode fh next}, mkdir state dir name mode = .ok (fh, next) →
    lookup next dir name = .ok fh

/-- What a version of the protocol makes of a request: the error that a status becomes, the
names that a server takes, whether it asks for the kind of what it removes, and what is sent
of the mode of a directory and of the attributes to set. -/
structure Dialect where
  version : UInt32
  fails : Status → NfsError
  allows : String → Except Status Unit
  asksKind : Bool
  dirMode : UInt32 → Option UInt32
  settings : SetAttr → Settings

/-- NFSv3 sends everything but the times, which no call on a path sets. -/
def dialect3 : Dialect where
  version := 3
  fails status := .fromNfsstat3 status.code
  allows _ := .ok ()
  asksKind := true
  dirMode := some
  settings attr := ⟨attr.mode, attr.uid, attr.gid, attr.size⟩

/-- NFSv4 has one operation to remove files and directories; the mode of a directory and
owners are not sent. -/
def dialect4 : Dialect where
  version := 4
  fails status := .fromNfsstat4 status.code
  allows name := if Legal name then .ok () else .error (.refused badName)
  asksKind := false
  dirMode _ := none
  settings attr := ⟨attr.mode, none, none, attr.size⟩

namespace FileSystem

variable {S : Type} (fs : FileSystem S) (dialect : Dialect)

/-- The object with a name in a directory, and its attributes. -/
def entry (dir : ObjId) (name : String) (state : S) : Except Status (FileHandle × Metadata) := do
  let fh ← fs.lookup state dir name
  let metadata ← fs.getattr state fh.1
  return (fh, metadata)

def lookupAs (dir : ObjId) (name : String) (state : S) :
    Except Status (FileHandle × Metadata) := do
  dialect.allows name
  fs.entry dir name state

def mkdirAs (dir : ObjId) (name : String) (mode : UInt32) (state : S) :
    Except Status (FileHandle × S) := do
  dialect.allows name
  fs.mkdir state dir name (dialect.dirMode mode)

def symlinkAs (dir : ObjId) (name target : String) (state : S) :
    Except Status (FileHandle × S) := do
  dialect.allows name
  fs.symlink state dir name target

/-- Removes a name: that of a directory, or of anything else, if the server asks. -/
def removeAs (directory : Bool) (dir : ObjId) (name : String) (state : S) : Except Status S := do
  dialect.allows name
  if dialect.asksKind then
    let (_, metadata) ← fs.entry dir name state
    if metadata.isDirectory = directory then
      fs.erase state dir name
    else
      .error (if directory then .notdir else .isdir)
  else
    fs.erase state dir name

def renameAs (fromDir : ObjId) (fromName : String) (toDir : ObjId) (toName : String) (state : S) :
    Except Status S := do
  dialect.allows fromName
  dialect.allows toName
  fs.rename state fromDir fromName toDir toName

def linkAs (fh dir : ObjId) (name : String) (state : S) : Except Status S := do
  dialect.allows name
  fs.link state fh dir name

/-- An operation that changes nothing. -/
def seeing {α : Type} (outcome : S → Except Status α) (state : S) : Except Status (α × S) :=
  (outcome state).map (·, state)

/-- Makes something of what an operation returns, and of its status when it fails. -/
def acts {α β : Type} (made : α → β) (outcome : S → Except Status (α × S)) :
    Prog S NfsError β :=
  ⟨fun state =>
    match outcome state with
    | .ok (value, next) => some (.ok (made value), next)
    | .error status => some (.error (dialect.fails status), state)⟩

/-- An operation that returns nothing. -/
def only (outcome : S → Except Status S) (state : S) : Except Status (Unit × S) :=
  (outcome state).map ((), ·)

/-- The file system as the backend of a client. It has no open files and lists no directory. -/
def view : WholeBackend S where
  prefWrite _ := 0
  lookup dir name := acts dialect (fun found => (found.1.1, found.2.attr))
    (seeing (fs.lookupAs dialect dir name))
  «open» _ _ _ := Prog.abort
  close _ := Prog.abort
  pwrite _ _ _ := Prog.abort
  commit _ := Prog.abort
  readlink fh := acts dialect Subtype.val (seeing fun state => fs.readlink state fh)
  setattr fh attr := acts dialect id (only fun state => fs.setattr state fh (dialect.settings attr))
  prefRead _ := 0
  getattr fh := acts dialect Metadata.attr (seeing fun state => fs.getattr state fh)
  readdir _ _ := Prog.abort
  pread _ _ _ := Prog.abort
  mkdir dir name mode := acts dialect Subtype.val (fs.mkdirAs dialect dir name mode)
  lock _ _ _ _ := Prog.abort
  unlock _ _ := Prog.abort
  testLock _ _ _ _ := Prog.abort
  rmdir dir name := acts dialect id (only (fs.removeAs dialect true dir name))
  remove dir name := acts dialect id (only (fs.removeAs dialect false dir name))
  rename fromDir fromName toDir toName :=
    acts dialect id (only (fs.renameAs dialect fromDir fromName toDir toName))
  symlink dir name target := acts dialect (fun _ => ()) (fs.symlinkAs dialect dir name target)
  link fh dir name := acts dialect id (only (fs.linkAs dialect fh dir name))
  version := dialect.version
  statvfs fh := acts dialect Sizes.statvfs (seeing fun state => fs.sizes state fh)
  access fh mask := acts dialect id (seeing fun state => fs.access state fh mask)

section Entries

variable {fs} {dir : ObjId} {name : String} {fh : FileHandle} {status : Status} {state : S}

theorem entry_missing (missing : fs.lookup state dir name = .error status) :
    fs.entry dir name state = .error status := by
  rw [entry, missing]
  rfl

theorem entry_unknown (looked : fs.lookup state dir name = .ok fh)
    (unknown : fs.getattr state fh.1 = .error status) : fs.entry dir name state = .error status := by
  rw [entry, looked]
  simp only [bind, Except.bind, unknown]

theorem entry_found {metadata : Metadata} (looked : fs.lookup state dir name = .ok fh)
    (known : fs.getattr state fh.1 = .ok metadata) :
    fs.entry dir name state = .ok (fh, metadata) := by
  rw [entry, looked]
  simp only [bind, Except.bind, known]
  rfl

end Entries

section Acting

variable {dialect} {α β : Type} {made : α → β} {outcome : S → Except Status (α × S)}
  {state next : S}

theorem acts_ok {value : α} (decided : outcome state = .ok (value, next)) :
    (acts dialect made outcome).run state = some (.ok (made value), next) := by
  simp only [acts, decided]

theorem acts_error {status : Status} (decided : outcome state = .error status) :
    (acts dialect made outcome).run state = some (.error (dialect.fails status), state) := by
  simp only [acts, decided]

theorem seeing_ok {outcome : S → Except Status α} {value : α}
    (decided : outcome state = .ok value) : seeing outcome state = .ok (value, state) := by
  rw [seeing, decided]
  rfl

theorem seeing_error {outcome : S → Except Status α} {status : Status}
    (decided : outcome state = .error status) : seeing outcome state = .error status := by
  rw [seeing, decided]
  rfl

theorem seeing_inv {outcome : S → Except Status α} {value : α}
    (decided : seeing outcome state = .ok (value, next)) :
    outcome state = .ok value ∧ next = state := by
  rcases known : outcome state with status | found
  · rw [seeing_error known] at decided
    cases decided
  · rw [seeing_ok known] at decided
    cases decided
    exact ⟨rfl, rfl⟩

/-- What is made of what an operation makes. -/
theorem acts_after {γ : Type} (after : β → γ) :
    acts dialect (fun value => after (made value)) outcome = (do
      let value ← acts dialect made outcome
      return after value) := by
  apply Prog.ext
  intro state
  rw [Prog.bind_apply, acts, acts]
  dsimp only
  rcases outcome state with status | ⟨value, next⟩ <;> rfl

/-- What is returned is made of what the operation returns. -/
theorem acts_inv {value : β}
    (ended : (acts dialect made outcome).run state = some (.ok value, next)) :
    ∃ found, outcome state = .ok (found, next) ∧ made found = value := by
  rcases decided : outcome state with status | ⟨found, after⟩
  · rw [acts_error decided] at ended
    cases ended
  · rw [acts_ok decided] at ended
    cases ended
    exact ⟨found, rfl, rfl⟩

end Acting

/-- The handle of a directory `d`. -/
def directoryHandle : FileHandle :=
  ⟨[2], Nat.le_add_left 1 63⟩

/-- A root that may have a directory `d`, and nothing else. -/
def ofDirectory : FileSystem Bool where
  lookup present dir name :=
    if dir = [1] ∧ name = "d" ∧ present then .ok directoryHandle else .error .noent
  getattr present fh :=
    if fh = [1] ∨ fh = [2] ∧ present then
      .ok ⟨2, 0o755, 2, 0, 0, 4096, 4096, (0, 0), 1, 1, 0, ⟨0, 0⟩, ⟨0, 0⟩, ⟨0, 0⟩⟩
    else
      .error .stale
  readlink _ _ := .error .inval
  access _ _ mask := .ok mask
  sizes _ _ := .ok ⟨4096, 0, 0, 2, 0, 0⟩
  mkdir present dir name _ :=
    if dir = [1] ∧ name = "d" then
      if present then .error .exist else .ok (directoryHandle, true)
    else
      .error .inval
  symlink _ _ _ _ := .error .inval
  erase present dir name :=
    if dir = [1] ∧ name = "d" ∧ present then .ok false else .error .noent
  rename _ _ _ _ _ := .error .inval
  link _ _ _ _ := .error .inval
  setattr _ _ _ := .error .inval
  found := by
    intro present dir name mode fh next made
    split_ifs at made with placed there
    · cases made
      exact if_pos ⟨placed.1, placed.2, rfl⟩

end FileSystem

/-- The attributes of its directories. -/
def directoryAttr : Attr :=
  ⟨.directory, 0o755, 2, 0, 0, 4096, 4096, 1, 1, (0, 0), ⟨0, 0⟩, ⟨0, 0⟩, ⟨0, 0⟩⟩

end LibNfs.Client
