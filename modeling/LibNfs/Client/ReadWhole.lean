import LibNfs.Client.VolumeV3

/-! # Opening what `stat` describes

`stat` resolves the whole path and follows a link at its end; `open` resolves the
parent and leaves the last component to an open by name. Both reach the same file
exactly when that component is the name of an entry which is not a link.
-/

namespace LibNfs.Client

open Proto (NfsFh3)

/-- A tree of directories, regular files and links. Each lookup shows the type of what it
finds, and only a directory has names. -/
structure FileTree extends Tree where
  attr : ObjId → Attr
  content : ObjId → Content
  typed : ∀ {dir name fh shown}, lookup dir name = .ok (fh, shown) →
    shown.fileType = (attr fh).fileType
  within : ∀ {dir name found}, lookup dir name = .ok found → (attr dir).fileType = .directory

namespace FileTree

variable (tree : FileTree) (root : ObjId)

/-- The object has a name. -/
def Found (fh : ObjId) : Prop :=
  ∃ dir name shown, tree.lookup dir name = .ok (fh, shown)

/-- The last component of the path is not `.`, and does not name a link. -/
def EndsInEntry (path : String) : Prop :=
  ∃ name, (splitComponents path).getLast? = some name ∧ name ≠ "." ∧
    ∀ dir fh shown, tree.parent root path = .ok dir → tree.lookup dir name = .ok (fh, shown) →
      shown.isSymlink = false

end FileTree

/-- What `open` for reading asks a backend for. -/
def readOpts : OpenOpts :=
  { write := false, create := false, exclusive := false, mode := 0o644 }

/-- The backend serves the files of the tree as long as it is ready; `holds` says that a file
is open. What is opened by name is what a lookup of the name finds, and a regular file can
be opened. -/
structure ServesFiles {σ : Type} (vfs : VfsBackend σ) (tree : FileTree) (ready : σ → Prop)
    (holds : OpenFile → σ → Prop) : Prop where
  shows : Shows vfs.toBackend tree.toTree ready
  getattr : ∀ {fh state}, tree.Found fh → ready state → ∃ next,
    (vfs.getattr fh).run state = some (.ok (tree.attr fh), next) ∧ ready next
  opens : ∀ {dir name state file next}, ready state →
    (vfs.open dir name readOpts).run state = some (.ok file, next) →
      ∃ shown, tree.lookup dir name = .ok (file.fh, shown)
  opensFile : ∀ {dir name fh shown state}, ready state → tree.lookup dir name = .ok (fh, shown) →
    shown.fileType = .regular → ∃ file next,
      (vfs.open dir name readOpts).run state = some (.ok file, next) ∧ file.fh = fh ∧
        file.writable = false ∧ holds file next
  reads : ∀ file, ReadsFrom vfs file (tree.content file.fh) (holds file)
  closes : ∀ {file state}, holds file state → ∃ outcome next,
    (vfs.close file).run state = some (outcome, next)
  chunked : ∀ {file state}, holds file state → 0 < vfs.prefRead state

namespace NfsContext

variable {σ : Type} {vfs : VfsBackend σ} {tree : FileTree} {ready : σ → Prop}
  {holds : OpenFile → σ → Prop} {root : ObjId} {path name : String} {state : σ}

/-- The last component is looked up where the others lead. -/
theorem resolve_last (serves : ServesFiles vfs tree ready holds)
    (last : (splitComponents path).getLast? = some name) (isReady : ready state) {fh : ObjId}
    {final : σ} (resolved : (resolve vfs.toBackend root path true).run state = some (.ok fh, final)) :
    ∃ dir left next, tree.parent root path = .ok dir ∧ ready next ∧
      (resolveFrom vfs.toBackend root true left dir [name]).run next = some (.ok fh, final) := by
  have whole : resolve vfs.toBackend root path true =
      resolveFrom vfs.toBackend root true maxSymlinkDepth root
        ((splitComponents path).dropLast ++ [name]) := by
    rw [resolve, List.dropLast_append_getLast? name last]
  obtain ⟨next, nextReady, ran⟩ : Spliced vfs.toBackend root ready true [name]
      ((resolve vfs.toBackend root path true).run state)
      (tree.walk root true maxSymlinkDepth root (splitComponents path).dropLast) := by
    rw [whole]
    exact resolveFrom_append serves.shows rfl (.inl (List.cons_ne_nil _ _)) _ _ _ state isReady
  rw [resolved] at ran
  rcases walked : tree.walk root true maxSymlinkDepth root (splitComponents path).dropLast with
    error | ended
  · rw [walked] at ran
    cases ran
  · rw [walked] at ran
    refine ⟨ended.cur, ended.left, next, ?_, nextReady, ran.symm⟩
    rw [Tree.parent, walked]
    rfl

/-- What `open` for reading did: the parent was resolved, and the last component opened. -/
theorem open_inv (serves : ServesFiles vfs tree ready holds) (isReady : ready state)
    {file : OpenFile} {final : σ}
    (opened : (NfsContext.open vfs.toBackend root path .readOnly).run state = some (.ok file, final)) :
    ∃ name dir shown, (splitComponents path).getLast? = some name ∧
      tree.parent root path = .ok dir ∧ tree.lookup dir name = .ok (file.fh, shown) := by
  obtain ⟨⟨dir, name⟩, mid, parent, rest⟩ := Prog.bind_eq_ok opened
  rcases last : (splitComponents path).getLast? with _ | other
  · rw [resolveParent] at parent
    simp only [last] at parent
    cases parent
  · obtain ⟨next, nextReady, ran⟩ := @resolveParent_run σ vfs.toBackend root tree.toTree ready path
      other serves.shows last state isReady
    rw [parent] at ran
    rcases led : tree.parent root path with error | found
    · rw [led] at ran
      cases ran
    · rw [led] at ran
      cases ran
      obtain ⟨file', next, began, ended⟩ := Prog.bind_eq_ok rest
      cases ended
      obtain ⟨shown, looked⟩ := serves.opens nextReady began
      exact ⟨name, dir, shown, rfl, rfl, looked⟩

/-- The entry that the last component names, when `resolve` finds a regular file. -/
theorem entry_of_resolve (serves : ServesFiles vfs tree ready holds) (isReady : ready state)
    {fh : ObjId} {final : σ}
    (resolved : (resolve vfs.toBackend root path true).run state = some (.ok fh, final))
    (last : (splitComponents path).getLast? = some name) (named : name ≠ ".")
    (plain : ∀ dir fh shown, tree.parent root path = .ok dir →
      tree.lookup dir name = .ok (fh, shown) → shown.isSymlink = false) :
    ∃ dir shown, tree.parent root path = .ok dir ∧ tree.lookup dir name = .ok (fh, shown) := by
  obtain ⟨dir, left, next, led, nextReady, ran⟩ := resolve_last serves last isReady resolved
  obtain ⟨after, looked, -⟩ := serves.shows.lookup dir name next nextReady
  rcases found : tree.lookup dir name with error | ⟨entry, shown⟩
  · rw [found] at looked
    rw [resolveFrom_missing named looked] at ran
    cases ran
  · rw [found] at looked
    have file : ¬ (shown.isSymlink ∧ (([] : List String) ≠ [] ∨ true)) := by
      simp [plain dir entry shown led found]
    rw [resolveFrom_plain named looked file, resolveFrom_nil] at ran
    cases ran
    exact ⟨dir, shown, led, found⟩

/-- Opening an entry that is a regular file. -/
theorem open_of_entry (serves : ServesFiles vfs tree ready holds) (isReady : ready state)
    (last : (splitComponents path).getLast? = some name) {dir fh : ObjId} {shown : Attr}
    (led : tree.parent root path = .ok dir) (looked : tree.lookup dir name = .ok (fh, shown))
    (regular : shown.fileType = .regular) :
    ∃ file next, (NfsContext.open vfs.toBackend root path .readOnly).run state =
        some (.ok file, next) ∧ file.fh = fh ∧ file.writable = false ∧ holds file next := by
  obtain ⟨mid, midReady, parent⟩ := @resolveParent_run σ vfs.toBackend root tree.toTree ready path
    name serves.shows last state isReady
  rw [led] at parent
  obtain ⟨file, next, opened, same, readable, isOpen⟩ := serves.opensFile midReady looked regular
  refine ⟨file, next, ?_, same, readable, isOpen⟩
  have began : (vfs.open dir name readOpts >>= fun file => pure file).run mid =
      some (.ok file, next) := Prog.bind_of_ok opened
  exact (Prog.bind_of_ok parent).trans began

/-- Reading a file that is open, and closing it. -/
theorem read_of_open (serves : ServesFiles vfs tree ready holds) {file : OpenFile}
    (isOpen : holds file state) (readable : file.writable = false) (size : UInt64) :
    ∃ next, (do
      let data ← Prog.outcome (pread vfs file 0 size)
      let _ ← Prog.outcome (close vfs.toBackend file)
      Prog.ofExcept data : Prog σ NfsError Bytes).run state =
        some (.ok ((tree.content file.fh).bytes.take size.toNat), next) := by
  obtain ⟨mid, midOpen, read⟩ := @preadTurns_eq σ vfs file (tree.content file.fh) (holds file)
    (serves.reads file) (vfs.prefRead state) (serves.chunked isOpen) size.toNat 0 size
    (Nat.le_refl _) [] state isOpen
  have pread : (pread vfs file 0 size).run state =
      some (.ok ((tree.content file.fh).bytes.take size.toNat), mid) := read
  obtain ⟨outcome, next, closed⟩ := serves.closes midOpen
  have close : (close vfs.toBackend file).run mid = some (outcome, next) := by
    rw [NfsContext.close, readable]
    exact closed
  refine ⟨next, ?_⟩
  rw [Prog.bind_of_ok (Prog.outcome_of pread), Prog.bind_of_ok (Prog.outcome_of close)]
  rfl

/-- When `stat` resolves a path to a regular file, `open` opens that file, and `read_whole`
reads it up to the size that `stat` reports, exactly when the last component of the path is
not `.` and does not name a link. -/
theorem readWhole_iff (serves : ServesFiles vfs tree ready holds) (isReady : ready state)
    {fh : ObjId} {final : σ}
    (resolved : (resolve vfs.toBackend root path true).run state = some (.ok fh, final))
    (regular : (tree.attr fh).fileType = .regular) :
    ((∃ file next, (NfsContext.open vfs.toBackend root path .readOnly).run state =
          some (.ok file, next) ∧ file.fh = fh) ∧
        ∃ next, (readWhole root vfs path).run state =
          some (.ok ((tree.content fh).bytes.take (tree.attr fh).size.toNat), next)) ↔
      tree.EndsInEntry root path := by
  constructor
  · rintro ⟨⟨file, next, opened, rfl⟩, -⟩
    obtain ⟨name, dir, shown, last, led, looked⟩ := open_inv serves isReady opened
    refine ⟨name, last, ?_, ?_⟩
    · rintro rfl
      obtain ⟨dir', left, next, led', -, ran⟩ := resolve_last serves last isReady resolved
      rw [led] at led'
      cases led'
      rw [resolveFrom_dot, resolveFrom_nil] at ran
      cases ran
      rw [tree.within looked] at regular
      cases regular
    · intro dir' fh' shown' led' looked'
      rw [led] at led'
      cases led'
      rw [looked] at looked'
      cases looked'
      rw [Attr.isSymlink, tree.typed looked, regular]
      rfl
  · rintro ⟨name, last, named, plain⟩
    obtain ⟨dir, shown, led, looked⟩ := entry_of_resolve serves isReady resolved last named plain
    have isFile : shown.fileType = .regular := (tree.typed looked).trans regular
    constructor
    · obtain ⟨file, next, opened, same, -⟩ := open_of_entry serves isReady last led looked isFile
      exact ⟨file, next, opened, same⟩
    · obtain ⟨mid, midReady, walked⟩ : ∃ next, ready next ∧
          (resolve vfs.toBackend root path true).run state =
            some (tree.resolve root path true, next) :=
        resolveFrom_eq_walk serves.shows _ _ _ state isReady
      rw [resolved] at walked
      obtain ⟨-, rfl⟩ := Prod.mk.inj (Option.some.inj walked)
      obtain ⟨after, described, afterReady⟩ := serves.getattr ⟨dir, name, shown, looked⟩ midReady
      obtain ⟨file, next, opened, rfl, readable, isOpen⟩ :=
        open_of_entry serves afterReady last led looked isFile
      obtain ⟨last, read⟩ := read_of_open serves isOpen readable (tree.attr file.fh).size
      have stated : (stat root vfs path).run state = some (.ok (tree.attr file.fh), after) :=
        (Prog.bind_of_ok resolved).trans described
      refine ⟨last, ?_⟩
      rw [readWhole, Prog.bind_of_ok stated, Prog.bind_of_ok opened]
      exact read

end NfsContext

namespace Volume

variable {wire : Wire} {volume : Volume} {dir : ObjId} {name : String}

/-- What a lookup by a client finds is in the directory. -/
theorem tree_lookup_inv {fh : ObjId} {shown : Attr}
    (looked : (volume.tree wire).lookup dir name = .ok (fh, shown)) :
    ∃ entry node, volume.lookup dir name = .ok (entry, node) ∧ fh = entry.1 ∧ shown = node.attr := by
  obtain ⟨⟨⟩, -, rest⟩ := ok_of_bind looked
  obtain ⟨⟨entry, node⟩, found, same⟩ := ok_of_bind rest
  cases same
  rcases known : volume.lookup dir name with status | other
  · rw [known] at found
    cases found
  · rw [known] at found
    cases found
    exact ⟨entry, node, rfl, rfl, rfl⟩

/-- The attributes of an object; of none, those of no type. -/
def attrOf (volume : Volume) (fh : ObjId) : Attr :=
  match volume.find fh with
  | .ok node => node.attr
  | .error _ => .ofType .unknown

/-- The content of a regular file; of another object, nothing. -/
def contentOf (volume : Volume) (fh : ObjId) : Content :=
  match volume.content fh with
  | .ok content => content
  | .error _ => .empty

theorem attrOf_of_find {fh : ObjId} {node : Node} (present : volume.find fh = .ok node) :
    volume.attrOf fh = node.attr := by
  simp only [attrOf, present]

/-- The files of a server as a client finds them. -/
def fileTree (wire : Wire) (volume : Volume) : FileTree where
  toTree := volume.tree wire
  attr := volume.attrOf
  content := volume.contentOf
  typed := by
    intro dir name fh shown looked
    obtain ⟨entry, node, found, rfl, rfl⟩ := tree_lookup_inv looked
    obtain ⟨-, -, -, present⟩ := lookup_inv found
    rw [attrOf_of_find present]
  within := by
    rintro dir name ⟨fh, shown⟩ looked
    obtain ⟨entry, node, found, -, -⟩ := tree_lookup_inv looked
    obtain ⟨names, read, -, -⟩ := lookup_inv found
    obtain ⟨mode, present⟩ := names_inv read
    rw [attrOf_of_find present]
    rfl

end Volume

namespace V3Backend

/-- The connection shows the files, and reads are not empty. -/
def Attached (volume : Volume) (backend : V3Backend Volume) : Prop :=
  backend.world = volume ∧ 0 < backend.rsize

/-- The handle is that of a regular file. -/
def Holds (volume : Volume) (file : OpenFile) (backend : V3Backend Volume) : Prop :=
  Attached volume backend ∧ NfsFh3.Short ⟨file.fh⟩ ∧
    ∃ content, volume.content file.fh = .ok content

/-- Opening a name for reading looks it up. -/
theorem open_readOpts {policy : Policy} {host : Host Volume}
    (served : host.nfs = (volumeServer policy).transport) {backend : V3Backend Volume} (dir : ObjId)
    (name : String) :
    (V3Backend.open host dir name readOpts).run backend =
      some (((backend.world.tree wire3).lookup dir name).map fun found => ⟨found.1, none, false⟩,
        backend) :=
  open_volume served dir name readOpts

/-- NFSv3 serves the files of a server. -/
theorem serves_volume {policy : Policy} {host : Host Volume}
    (served : host.nfs = (volumeServer policy).transport) (volume : Volume) :
    ServesFiles (V3Backend.backend host) (volume.fileTree wire3) (Attached volume)
      (Holds volume) where
  shows := by
    constructor
    · rintro dir name backend ⟨rfl, positive⟩
      exact ⟨backend, lookup_volume served dir name, rfl, positive⟩
    · rintro fh backend ⟨rfl, positive⟩
      exact ⟨backend, readlink_volume served fh, rfl, positive⟩
  getattr := by
    rintro fh backend ⟨dir, name, shown, looked⟩ ⟨rfl, positive⟩
    obtain ⟨entry, node, found, rfl, rfl⟩ := Volume.tree_lookup_inv looked
    obtain ⟨-, -, -, present⟩ := Volume.lookup_inv found
    refine ⟨backend, ?_, rfl, positive⟩
    have called := getattr_volume served entry.2 present
    rw [← Volume.attrOf_of_find present] at called
    exact called
  opens := by
    rintro dir name backend file next ⟨rfl, positive⟩ opened
    have ran := (open_readOpts served dir name).symm.trans opened
    rcases looked : (backend.world.tree wire3).lookup dir name with error | ⟨fh, shown⟩
    · rw [looked] at ran
      cases ran
    · rw [looked] at ran
      cases ran
      exact ⟨shown, looked⟩
  opensFile := by
    rintro dir name fh shown backend ⟨rfl, positive⟩ looked regular
    have opened := @open_readOpts policy host served backend dir name
    have tree : (backend.world.tree wire3).lookup dir name = .ok (fh, shown) := looked
    rw [tree] at opened
    obtain ⟨entry, ⟨body, mode⟩, found, rfl, rfl⟩ := Volume.tree_lookup_inv looked
    obtain ⟨-, -, -, present⟩ := Volume.lookup_inv found
    refine ⟨_, backend, opened, rfl, rfl, ⟨rfl, positive⟩, entry.2, ?_⟩
    cases body with
    | file content => exact ⟨content, Volume.content_of_file present⟩
    | dir names => cases regular
    | link target => cases regular
  reads := by
    rintro file pos want backend asked ⟨⟨rfl, positive⟩, short, content, present⟩
    have same : (backend.world.fileTree wire3).content file.fh = content := by
      change backend.world.contentOf file.fh = content
      simp only [Volume.contentOf, present]
    rw [same]
    exact ⟨_, _, backend, pread_volume served short present pos want,
      answers_readAtMost asked asked, ⟨rfl, positive⟩, short, content, present⟩
  closes := fun _ => ⟨_, _, rfl⟩
  chunked := fun isOpen => isOpen.1.2

end V3Backend

/-- A directory with a file `f` and a link `l` to it. -/
def linkedVolume : Volume where
  node fh :=
    if fh = [0] then
      some ⟨.dir fun name => if name = "f" then some ⟨[1], by decide⟩
        else if name = "l" then some ⟨[2], by decide⟩ else none, 0o755⟩
    else if fh = [1] then some ⟨.file NfsContext.threeBytes, 0o644⟩
    else if fh = [2] then some ⟨.link ⟨"f", by decide⟩, 0o777⟩
    else none

/-- The handle of a new file. -/
def newHandle (dir : ObjId) : FileHandle :=
  if dir = [9] then ⟨[8], by decide⟩ else ⟨[9], by decide⟩

theorem newHandle_ne (dir : ObjId) : (newHandle dir).1 ≠ dir := by
  unfold newHandle
  split
  · rename_i same
    rw [same]
    decide
  · rename_i other
    exact fun same => other same.symm

/-- A server that declines nothing. -/
def openPolicy : Policy where
  fresh _ dir _ := newHandle dir
  distinct _ dir _ := newHandle_ne dir
  omitsHandle := false
  creating := none
  truncating := none
  stateid _ := ⟨1, Vector.replicate 12 1⟩
  confirming := none
  delegation := none

def linkedHost : Host Volume :=
  serverHost (volumeServer openPolicy)

def linkedClient : V3Backend Volume :=
  ⟨linkedVolume, 65536, 65536, none, [], 1⟩

namespace NfsContext

/-- The file is read by its own name. -/
theorem readWhole_iff_file :
    ∃ next, (readWhole [0] (V3Backend.backend linkedHost) "/f").run linkedClient =
      some (.ok [1, 2, 3], next) := by
  have ended : ((resolve (V3Backend.backend linkedHost).toBackend [0] "/f" true).run
      linkedClient).map Prod.fst = some (.ok [1]) := by decide +kernel
  obtain ⟨⟨result, final⟩, resolved, rfl⟩ := Option.map_eq_some_iff.mp ended
  have comps : splitComponents "/f" = ["f"] := by decide
  have led : (linkedVolume.tree wire3).parent [0] "/f" = .ok [0] := by
    simp only [Tree.parent, comps, List.dropLast_singleton, Tree.walk]
    rfl
  have entry : (linkedVolume.fileTree wire3).EndsInEntry [0] "/f" := by
    refine ⟨"f", by rw [comps]; rfl, by decide, fun dir fh shown parent looked => ?_⟩
    rw [show (linkedVolume.fileTree wire3).toTree.parent [0] "/f" = _ from led] at parent
    cases parent
    obtain ⟨entry, node, found, rfl, rfl⟩ := Volume.tree_lookup_inv looked
    have file : linkedVolume.lookup [0] "f" =
        .ok (⟨[1], by decide⟩, ⟨.file threeBytes, 0o644⟩) := rfl
    rw [file] at found
    cases found
    rfl
  have both := (readWhole_iff (V3Backend.serves_volume rfl linkedVolume) ⟨rfl, by decide⟩ resolved
    rfl).mpr entry
  exact both.2

/-- Through the link `stat` finds the file, and `open` opens the link itself. -/
theorem open_takes_link :
    (∃ next, (resolve (V3Backend.backend linkedHost).toBackend [0] "/l" true).run linkedClient =
        some (.ok [1], next)) ∧
      ((linkedVolume.fileTree wire3).attr [1]).fileType = .regular ∧
      (∃ next, (NfsContext.open (V3Backend.backend linkedHost).toBackend [0] "/l" .readOnly).run
        linkedClient = some (.ok ⟨[2], none, false⟩, next)) ∧
      ∃ next, (readWhole [0] (V3Backend.backend linkedHost) "/l").run linkedClient =
        some (.error .invalidArgument, next) := by
  have resolved : ((resolve (V3Backend.backend linkedHost).toBackend [0] "/l" true).run
      linkedClient).map Prod.fst = some (.ok [1]) := by decide +kernel
  have opened : ((NfsContext.open (V3Backend.backend linkedHost).toBackend [0] "/l" .readOnly).run
      linkedClient).map Prod.fst = some (.ok ⟨[2], none, false⟩) := by decide +kernel
  have read : ((readWhole [0] (V3Backend.backend linkedHost) "/l").run linkedClient).map Prod.fst =
      some (.error .invalidArgument) := by decide +kernel
  obtain ⟨⟨result, after⟩, ranResolve, rfl⟩ := Option.map_eq_some_iff.mp resolved
  obtain ⟨⟨file, next⟩, ranOpen, rfl⟩ := Option.map_eq_some_iff.mp opened
  obtain ⟨⟨data, final⟩, ranRead, rfl⟩ := Option.map_eq_some_iff.mp read
  exact ⟨⟨after, ranResolve⟩, rfl, ⟨next, ranOpen⟩, final, ranRead⟩

end NfsContext

end LibNfs.Client
