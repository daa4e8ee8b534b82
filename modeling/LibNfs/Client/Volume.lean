import LibNfs.Client.Pread
import LibNfs.Client.Pwrite
import LibNfs.Client.Walking
import LibNfs.Proto.Serving

/-! # The files of a server

The tree of files that a server exports, for both versions of the protocol: its
objects by their handles, the operations on them, and the choices that a server may
make when a file is opened.
-/

namespace LibNfs.Client

/-- No bytes. -/
def Content.empty : Content :=
  ⟨[], Nat.two_pow_pos 64⟩

/-- A handle that both versions can carry. -/
abbrev FileHandle := { fh : ObjId // fh.length ≤ 64 }

/-- What an object is. -/
inductive Body where
  | file (content : Content)
  | dir (names : String → Option FileHandle)
  | link (target : Proto.Text)

/-- The type that the client sees. -/
def Body.fileType : Body → FileType
  | file _ => .regular
  | dir _ => .directory
  | link _ => .symlink

/-- The number of the type, the same in both versions. -/
def Body.ftype : Body → UInt32
  | file _ => 1
  | dir _ => 2
  | link _ => 5

/-- The size that the client sees. -/
def Body.size : Body → Nat
  | file content => content.bytes.length
  | dir _ | link _ => 0

/-- An object with its mode. -/
structure Node where
  body : Body
  mode : UInt32

/-- The attributes that a client is shown. -/
def Node.attr (node : Node) : Attr :=
  { Attr.ofType node.body.fileType with mode := node.mode, size := UInt64.ofNat node.body.size }

/-- A status by which a server declines what it may decline; `EXIST` is not one, since it
says that a name is there. -/
structure Refusal where
  code : UInt32
  bad : code ≠ 0
  other : code ≠ 17

/-- Why an operation fails. -/
inductive Status where
  | noent
  | exist
  | notdir
  | isdir
  | inval
  | stale
  | symlink
  | badStateid
  | openmode
  | refused (refusal : Refusal)

namespace Status

/-- The number of the status, the same in both versions. -/
def code : Status → UInt32
  | noent => 2
  | exist => 17
  | notdir => 20
  | isdir => 21
  | inval => 22
  | stale => 70
  | badStateid => 10025
  | symlink => 10029
  | openmode => 10038
  | refused refusal => refusal.code

theorem bad (status : Status) : status.code ≠ 0 := by
  cases status with
  | refused refusal => exact refusal.bad
  | _ => decide

end Status

/-- The objects of a server, by their handles. -/
structure Volume where
  node : ObjId → Option Node

/-- What a server may choose: the handle of a new file, which is not that of its directory;
whether the reply to `CREATE` has it; what is declined; and for `OPEN`, the stateid of a
file, whether it is to be confirmed, whether that is declined, and a delegation. -/
structure Policy where
  fresh : Volume → ObjId → String → FileHandle
  distinct : ∀ volume dir name, (fresh volume dir name).1 ≠ dir
  omitsHandle : Bool
  creating : Option Refusal
  truncating : Option Refusal
  stateid : ObjId → Proto.Stateid4
  confirming : Option (Option Refusal)
  delegation : Option Proto.Delegation

namespace Volume

/-- The object with a handle. -/
def find (volume : Volume) (fh : ObjId) : Except Status Node :=
  match volume.node fh with
  | some node => .ok node
  | none => .error .stale

/-- The names in a directory. -/
def names (volume : Volume) (dir : ObjId) : Except Status (String → Option FileHandle) := do
  let node ← volume.find dir
  match node.body with
  | .dir names => .ok names
  | .file _ | .link _ => .error .notdir

/-- The object of a name in a directory. -/
def lookup (volume : Volume) (dir : ObjId) (name : String) : Except Status (FileHandle × Node) := do
  let names ← volume.names dir
  match names name with
  | some fh => do
      let node ← volume.find fh
      return (fh, node)
  | none => .error .noent

/-- The target of a symbolic link. -/
def readlink (volume : Volume) (fh : ObjId) : Except Status Proto.Text := do
  let node ← volume.find fh
  match node.body with
  | .link target => .ok target
  | .file _ | .dir _ => .error .inval

/-- The content of a regular file. -/
def content (volume : Volume) (fh : ObjId) : Except Status Content := do
  let node ← volume.find fh
  match node.body with
  | .file content => .ok content
  | .dir _ => .error .isdir
  | .link _ => .error .inval

/-- Puts an object in the place of a handle. -/
def put (volume : Volume) (fh : ObjId) (node : Node) : Volume :=
  ⟨Function.update volume.node fh (some node)⟩

/-- Adds a regular file without content to a directory. -/
def create (policy : Policy) (dir : ObjId) (name : String) (mode : UInt32) (volume : Volume) :
    Except Status (FileHandle × Volume) := do
  let node ← volume.find dir
  match node.body with
  | .dir names =>
      match policy.creating with
      | some refusal => .error (.refused refusal)
      | none =>
          let fh := policy.fresh volume dir name
          return (fh, (volume.put fh ⟨.file .empty, mode⟩).put dir
            { node with body := .dir (Function.update names name (some fh)) })
  | .file _ | .link _ => .error .notdir

/-- The content of a file, cut or filled up with zeros. -/
def resize (content : Content) (size : UInt64) : Content where
  bytes := content.bytes.take size.toNat ++
    List.replicate (size.toNat - content.bytes.length) 0
  bounded := by
    have bound := size.toNat_lt
    rw [List.length_append, List.length_take, List.length_replicate]
    omega

/-- Sets the mode of an object and the size of a file. -/
def setattr (policy : Policy) (fh : ObjId) (mode : Option UInt32) (size : Option UInt64)
    (volume : Volume) : Except Status Volume := do
  let node ← volume.find fh
  let mode := mode.getD node.mode
  match size with
  | none => return volume.put fh { node with mode := mode }
  | some size =>
      match node.body, policy.truncating with
      | .file _, some refusal => .error (.refused refusal)
      | .file content, none => return volume.put fh ⟨.file (resize content size), mode⟩
      | .dir _, _ => .error .isdir
      | .link _, _ => .error .inval

/-- What a read returns, and whether the end of the file was reached. -/
def read (volume : Volume) (fh : ObjId) (offset : UInt64) (count : UInt32) :
    Except Status (Proto.Data × Bool) := do
  let content ← volume.content fh
  return readAtMost count content.bytes offset count

/-- The content after a write, unless it would be too long. -/
def stored (content : Content) (offset : UInt64) (data : Bytes) : Option Content :=
  if within : (store content.bytes offset.toNat data).length < 2 ^ 64 then
    some ⟨store content.bytes offset.toNat data, within⟩
  else
    none

/-- Writes a regular file. -/
def write (fh : ObjId) (offset : UInt64) (data : Bytes) (volume : Volume) :
    Except Status Volume := do
  let node ← volume.find fh
  match node.body with
  | .file content =>
      match stored content offset data with
      | some content => return volume.put fh { node with body := .file content }
      | none => .error .inval
  | .dir _ => .error .isdir
  | .link _ => .error .inval

section Finding

variable {volume : Volume} {dir fh : ObjId} {name : String}

/-- A sequence that succeeds has both parts succeed. -/
theorem ok_of_bind {ε α β : Type} {first : Except ε α} {next : α → Except ε β} {result : β}
    (done : (first >>= next) = .ok result) : ∃ value, first = .ok value ∧ next value = .ok result := by
  cases first with
  | error error => cases done
  | ok value => exact ⟨value, rfl, done⟩

theorem names_inv {found : String → Option FileHandle} (read : volume.names dir = .ok found) :
    ∃ mode, volume.find dir = .ok ⟨.dir found, mode⟩ := by
  obtain ⟨⟨body, mode⟩, present, rest⟩ := ok_of_bind read
  cases body with
  | dir names =>
      cases rest
      exact ⟨mode, present⟩
  | file content => cases rest
  | link target => cases rest

/-- A lookup that succeeds finds an entry and its object. -/
theorem lookup_inv {entry : FileHandle} {node : Node}
    (looked : volume.lookup dir name = .ok (entry, node)) :
    ∃ found, volume.names dir = .ok found ∧ found name = some entry ∧
      volume.find entry.1 = .ok node := by
  obtain ⟨found, read, rest⟩ := ok_of_bind looked
  rcases present : found name with _ | child
  · simp only [present] at rest
    cases rest
  · simp only [present] at rest
    obtain ⟨other, known, same⟩ := ok_of_bind rest
    cases same
    exact ⟨found, read, present, known⟩

theorem content_of_file {content : Content} {mode : UInt32}
    (present : volume.find fh = .ok ⟨.file content, mode⟩) : volume.content fh = .ok content := by
  rw [Volume.content, present]
  rfl

/-- A name that is not there is missing from a directory. -/
theorem lookup_noent (absent : volume.lookup dir name = .error .noent) :
    ∃ found mode, volume.find dir = .ok ⟨.dir found, mode⟩ ∧ found name = none := by
  rcases known : volume.node dir with _ | ⟨body, mode⟩
  · simp only [lookup, names, find, known] at absent
    cases absent
  · have present : volume.find dir = .ok ⟨body, mode⟩ := by simp only [find, known]
    cases body with
    | dir found =>
        refine ⟨found, mode, present, ?_⟩
        rcases entry : found name with _ | fh
        · rfl
        · rcases child : volume.node fh.1 with _ | node <;>
            · simp only [lookup, names, find, known, bind, Except.bind, entry, child] at absent
              cases absent
    | file content =>
        rw [lookup, names, present] at absent
        cases absent
    | link target =>
        rw [lookup, names, present] at absent
        cases absent

end Finding

section Changing

variable {volume : Volume} {policy : Policy} {dir fh : ObjId} {name : String} {mode : UInt32}

theorem find_put (volume : Volume) (fh : ObjId) (node : Node) :
    (volume.put fh node).find fh = .ok node := by
  simp [find, put]

/-- What stands under another handle is still found. -/
theorem find_put_ne (volume : Volume) {fh other : ObjId} (node : Node) (differ : other ≠ fh) :
    (volume.put fh node).find other = volume.find other := by
  simp [find, put, Function.update_of_ne differ]

theorem put_put (volume : Volume) (fh : ObjId) (first second : Node) :
    (volume.put fh first).put fh second = volume.put fh second := by
  simp [put]

theorem put_self {node : Node} (present : volume.find fh = .ok node) :
    volume.put fh node = volume := by
  have known : volume.node fh = some node := by
    unfold find at present
    rcases known : volume.node fh with _ | other
    · rw [known] at present
      cases present
    · rw [known] at present
      cases present
      rfl
  rw [put, ← known, Function.update_eq_self]

/-- Writing to a regular file. -/
theorem write_file {content : Content} {offset : UInt64} {data : Bytes}
    (present : volume.find fh = .ok ⟨.file content, mode⟩)
    (within : (store content.bytes offset.toNat data).length < 2 ^ 64) :
    Volume.write fh offset data volume =
      .ok (volume.put fh ⟨.file ⟨store content.bytes offset.toNat data, within⟩, mode⟩) := by
  have fits : stored content offset data = some ⟨store content.bytes offset.toNat data, within⟩ :=
    dif_pos within
  rw [Volume.write, present]
  simp only [bind, Except.bind, fits]
  rfl

theorem store_bounded {content data : Bytes} {pos : Nat} (bounded : content.length < 2 ^ 64)
    (inside : pos + data.length < 2 ^ 64) : (store content pos data).length < 2 ^ 64 := by
  rw [length_store]
  split
  · exact bounded
  · omega

/-- A volume with another content of a file. -/
def filled (volume : Volume) (fh : ObjId) (mode : UInt32) (bytes : Bytes)
    (bounded : bytes.length < 2 ^ 64) : Volume :=
  volume.put fh ⟨.file ⟨bytes, bounded⟩, mode⟩

theorem write_filled (volume : Volume) (fh : ObjId) {mode : UInt32} {bytes data : Bytes}
    {bounded : bytes.length < 2 ^ 64} {pos : UInt64} (inside : pos.toNat + data.length < 2 ^ 64) :
    Volume.write fh pos data (volume.filled fh mode bytes bounded) =
      .ok (volume.filled fh mode (store bytes pos.toNat data) (store_bounded bounded inside)) := by
  unfold filled
  rw [write_file (find_put _ _ _) (store_bounded bounded inside), put_put]

/-- Creating a file puts it in its place, and its name in the directory. -/
theorem create_eq {found : String → Option FileHandle} {dirMode : UInt32}
    (present : volume.find dir = .ok ⟨.dir found, dirMode⟩) (allowed : policy.creating = none) :
    volume.create policy dir name mode = .ok (policy.fresh volume dir name,
      (volume.put (policy.fresh volume dir name).1 ⟨.file .empty, mode⟩).put dir
        ⟨.dir (Function.update found name (some (policy.fresh volume dir name))), dirMode⟩) := by
  rw [create, present]
  simp only [allowed]
  rfl

/-- A file that is created: it is empty, and has changed its directory. -/
theorem create_ok (absent : volume.lookup dir name = .error .noent)
    (allowed : policy.creating = none) :
    ∃ next, volume.create policy dir name mode = .ok (policy.fresh volume dir name, next) ∧
      next.find (policy.fresh volume dir name).1 = .ok ⟨.file .empty, mode⟩ ∧ next ≠ volume := by
  obtain ⟨found, dirMode, present, missing⟩ := lookup_noent absent
  refine ⟨_, create_eq present allowed, ?_, ?_⟩
  · rw [find_put_ne _ _ (policy.distinct volume dir name), find_put]
  · intro same
    have changed := find_put (volume.put (policy.fresh volume dir name).1 ⟨.file .empty, mode⟩) dir
      ⟨.dir (Function.update found name (some (policy.fresh volume dir name))), dirMode⟩
    rw [same, present] at changed
    have names : found = Function.update found name (some (policy.fresh volume dir name)) :=
      Body.dir.inj (Node.mk.inj (Except.ok.inj changed)).1
    rw [names, Function.update_self] at missing
    cases missing

theorem create_refused (absent : volume.lookup dir name = .error .noent) {refusal : Refusal}
    (declined : policy.creating = some refusal) :
    volume.create policy dir name mode = .error (.refused refusal) := by
  obtain ⟨found, dirMode, present, missing⟩ := lookup_noent absent
  rw [create, present]
  simp only [declined]
  rfl

/-- Truncating a regular file. -/
theorem setattr_file {content : Content} (present : volume.find fh = .ok ⟨.file content, mode⟩)
    (size : UInt64) :
    volume.setattr policy fh none (some size) =
      match policy.truncating with
      | some refusal => .error (.refused refusal)
      | none => .ok (volume.put fh ⟨.file (resize content size), mode⟩) := by
  rw [setattr, present]
  cases policy.truncating <;> rfl

end Changing

end Volume

/-- What a version of the protocol makes of a request: whether the arguments can be sent,
and the error that a status becomes. -/
structure Wire where
  sends : ObjId → Except NfsError Unit
  sendsName : ObjId → String → Except NfsError Unit
  fails : Status → NfsError

/-- What a client finds by its lookups. -/
def Volume.tree (wire : Wire) (volume : Volume) : Tree where
  lookup dir name := do
    wire.sendsName dir name
    let (fh, node) ← (volume.lookup dir name).mapError wire.fails
    return (fh.1, node.attr)
  readlink fh := do
    wire.sends fh
    let target ← (volume.readlink fh).mapError wire.fails
    return target.1

end LibNfs.Client
