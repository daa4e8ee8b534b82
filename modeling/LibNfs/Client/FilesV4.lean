import LibNfs.Client.NameCalls
import LibNfs.Lib.Text
import LibNfs.Proto.Answering
import Mathlib.Data.List.TakeWhile

/-! # A file system over NFSv4

An NFSv4 server of a file system: it executes the operations of a request on the current
object, and on the one it saved. A request that fails is tried again or given up, but
changes nothing, so the calls of a client come to what they are on the file system itself.
-/

namespace LibNfs.Client

open Proto (ArgOp Attribute Fattr4 Failure Handle NfsFh4 Nfs4 Nfstime4 OpServer ProtoError Results
  Success)
open Prog (Kindred Simulates)

/-- What a server has to show of an object. -/
structure Shown where
  metadata : Option Metadata
  sizes : Option Sizes

/-- The seconds of a time, in the 64 bits of NFSv4. -/
def nfstime4 (time : Proto.Nfstime3) : Nfstime4 :=
  ⟨time.seconds.toUInt64.toInt64, time.nseconds⟩

namespace Shown

/-- The attributes; owners are given by their numbers. -/
def fattr4 (shown : Shown) : Fattr4 where
  ftype := shown.metadata.map Metadata.ftype
  change := shown.metadata.map Metadata.change
  size := shown.metadata.map Metadata.size
  fsid := shown.metadata.map fun metadata => (metadata.fsid, 0)
  fileid := shown.metadata.map Metadata.fileid
  mode := shown.metadata.map Metadata.mode
  numlinks := shown.metadata.map Metadata.nlink
  owner := shown.metadata.map fun metadata => Nat.repr metadata.uid.toNat
  ownerGroup := shown.metadata.map fun metadata => Nat.repr metadata.gid.toNat
  rawdev := shown.metadata.map Metadata.rdev
  spaceUsed := shown.metadata.map Metadata.used
  filesAvail := shown.sizes.map Sizes.availFiles
  filesFree := shown.sizes.map Sizes.freeFiles
  filesTotal := shown.sizes.map Sizes.totalFiles
  spaceAvail := shown.sizes.map Sizes.availBytes
  spaceFree := shown.sizes.map Sizes.freeBytes
  spaceTotal := shown.sizes.map Sizes.totalBytes
  timeAccess := shown.metadata.map fun metadata => nfstime4 metadata.atime
  timeMetadata := shown.metadata.map fun metadata => nfstime4 metadata.ctime
  timeModify := shown.metadata.map fun metadata => nfstime4 metadata.mtime

theorem length_repr_le (number : UInt32) : (Xdr.asBytes (Nat.repr number.toNat)).length ≤ 80 :=
  Proto.length_asBytes_toString number.toNat (Nat.lt_trans number.toNat_lt (by decide))

/-- The attributes that are shown have few bytes. -/
theorem brief (shown : Shown) : shown.fattr4.Brief := by
  constructor
  · intro text given
    obtain ⟨metadata, -, rfl⟩ := Option.map_eq_some_iff.mp given
    exact length_repr_le metadata.uid
  · intro text given
    obtain ⟨metadata, -, rfl⟩ := Option.map_eq_some_iff.mp given
    exact length_repr_le metadata.gid

/-- What is shown of the attributes that are asked for. -/
def answer (shown : Shown) (asked : List Nat) : Proto.Attrs asked :=
  shown.fattr4.answering shown.brief asked

end Shown

/-- A number is read back from its digits. -/
theorem parseId_repr (number : UInt32) : parseId (Nat.repr number.toNat) = some number := by
  have numeral := Text.numeral_toDigits number.toNat
  have domainless : ∀ digit ∈ Nat.toDigits 10 number.toNat, decide (digit ≠ '@') = true := by
    intro digit member
    refine decide_eq_true fun same => ?_
    have isDigit := numeral.2.1 digit member
    rw [same] at isDigit
    exact absurd isDigit (by decide)
  have value : (Nat.toDigits 10 number.toNat).foldl
      (fun value digit => 10 * value + (digit.toNat - '0'.toNat)) 0 = number.toNat := numeral.2.2
  rw [parseId, Nat.toList_repr, List.takeWhile_eq_self_iff.mpr domainless, parseU32]
  · rw [value, if_pos ⟨numeral.1, List.all_eq_true.mpr numeral.2.1, number.toNat_lt⟩,
      UInt32.ofNat_toNat]
  · intro rest signed
    exact numeral.head_ne_plus (congrArg List.head? signed)

/-- The client is shown the attributes of the file system. -/
theorem Metadata.fromFattr4 (metadata : Metadata) :
    Attr.fromFattr4 ((Shown.mk (some metadata) none).answer Nfs4.requested).attrs =
      metadata.attr := by
  have uid := parseId_repr metadata.uid
  have gid := parseId_repr metadata.gid
  have all : ∀ bit ∈ Proto.requestAttrs, bit.toNat ∈ Nfs4.requested := fun bit member =>
    List.mem_map_of_mem member
  simp only [Proto.requestAttrs, List.forall_mem_cons] at all
  simp only [Shown.answer, Fattr4.answering, Fattr4.among, Fattr4.mapFields, Attr.fromFattr4, all,
    if_true]
  simp [Shown.fattr4, uid, gid]
  rfl

/-- The attributes that `statvfs` asks for, by number. -/
def sizesAsked : List Nat :=
  Proto.statvfsAttrs.map UInt32.toNat

/-- The client is shown the sizes of the file system. -/
theorem Sizes.fromFattr4 (sizes : Sizes) :
    let attrs := ((Shown.mk none (some sizes)).answer sizesAsked).attrs
    StatVfs.mk 1 (attrs.spaceTotal.getD 0) (attrs.spaceFree.getD 0) (attrs.spaceAvail.getD 0)
      (attrs.filesTotal.getD 0) (attrs.filesFree.getD 0) (attrs.filesAvail.getD 0) =
        sizes.statvfs := by
  have all : ∀ bit ∈ Proto.statvfsAttrs, bit.toNat ∈ sizesAsked := fun bit member =>
    List.mem_map_of_mem member
  simp only [Proto.statvfsAttrs, List.forall_mem_cons] at all
  simp only [Shown.answer, Fattr4.answering, Fattr4.among, Fattr4.mapFields, all, if_true]
  rfl

/-- What there is to show of an object of what is asked for. -/
def FileSystem.shown {S : Type} (fs : FileSystem S) (asked : List Nat) (fh : ObjId) (state : S) :
    Except Status Shown := do
  let metadata ← if asked.any (· ∈ Nfs4.requested) then (fs.getattr state fh).map some else .ok none
  let sizes ← if asked.any (· ∈ sizesAsked) then (fs.sizes state fh).map some else .ok none
  return ⟨metadata, sizes⟩

/-- The state of a server: the file system, the current object and the one that was saved. -/
structure Seat (S : Type) where
  files : S
  current : Handle
  saved : Handle

namespace Seat

variable {S α : Type} {op : ArgOp} (seat : Seat S)

/-- The current object. -/
def fh : ObjId :=
  seat.current.fh.data

/-- Executes an operation of the file system; one that succeeds may change the current object. -/
def does (success : α → op.Result) (extra : op.Extra) (goes : α → Handle)
    (outcome : S → Except Status (α × S)) : Except Failure (Success op × Seat S) :=
  match outcome seat.files with
  | .ok (value, files) =>
      .ok (⟨success value, extra⟩, { seat with files := files, current := goes value })
  | .error status => .error status.failure

/-- What an operation comes to. -/
def outcome (fs : FileSystem S) : (op : ArgOp) → Except Failure (Success op × Seat S)
  | .putfh fh =>
      if short : fh.Short then .ok (⟨(), ()⟩, { seat with current := ⟨fh, short⟩ })
      else .error (Status.failure .stale)
  | .savefh => .ok (⟨(), ()⟩, { seat with saved := seat.current })
  | .getfh => .ok (⟨seat.current, ()⟩, seat)
  | .lookup name =>
      seat.does (fun _ => ()) () FileHandle.handle (FileSystem.seeing fun state => do
        dialect4.allows name
        fs.lookup state seat.fh name)
  | .getattr asked =>
      seat.does (fun shown => shown.answer asked) () (fun _ => seat.current)
        (FileSystem.seeing (fs.shown asked seat.fh))
  | .readlink =>
      seat.does id () (fun _ => seat.current)
        (FileSystem.seeing fun state => fs.readlink state seat.fh)
  | .access mask =>
      seat.does (fun granted => (mask, granted)) () (fun _ => seat.current)
        (FileSystem.seeing fun state => fs.access state seat.fh mask)
  | .create .dir name attrs =>
      seat.does (fun _ => (⟨false, 0, 0⟩, Proto.Bitmap.empty)) () FileHandle.handle fun state => do
        dialect4.allows name
        fs.mkdir state seat.fh name (modeIn attrs)
  | .create (.link target) name _ =>
      seat.does (fun _ => (⟨false, 0, 0⟩, Proto.Bitmap.empty)) () FileHandle.handle
        (fs.symlinkAs dialect4 seat.fh name target)
  | .remove name =>
      seat.does (fun _ => (⟨false, 0, 0⟩ : Proto.ChangeInfo4)) () (fun _ => seat.current)
        (FileSystem.only (fs.removeAs dialect4 false seat.fh name))
  | .rename old new =>
      seat.does (fun _ => (⟨false, 0, 0⟩, ⟨false, 0, 0⟩)) () (fun _ => seat.current)
        (FileSystem.only (fs.renameAs dialect4 seat.saved.fh.data old seat.fh new))
  | .link name =>
      seat.does (fun _ => (⟨false, 0, 0⟩ : Proto.ChangeInfo4)) () (fun _ => seat.current)
        (FileSystem.only (fs.linkAs dialect4 seat.saved.fh.data seat.fh name))
  | .setattr _ attrs =>
      seat.does (fun _ => Proto.Bitmap.empty) () (fun _ => seat.current)
        (FileSystem.only fun state =>
          fs.setattr state seat.fh ⟨modeIn attrs, none, none, sizeIn attrs⟩)
  | .sequence sessionid seqid slotid highest _ =>
      .ok (⟨⟨sessionid, seqid, slotid, highest, highest, 0⟩, ()⟩, seat)
  | .create .. | .close .. | .commit .. | .lock .. | .lockt .. | .locku .. | .open ..
  | .openConfirm .. | .putrootfh | .read .. | .readdir .. | .renew .. | .write .. =>
      .error Proto.notSupported

end Seat

/-- The server of a file system. -/
def FileSystem.server {S : Type} (fs : FileSystem S) : OpServer (Seat S) where
  receive _ seat := seat
  exec op := ⟨fun seat =>
    match seat.outcome fs op with
    | .ok (success, next) => some (.ok success, next)
    | .error failure => some (.error failure, seat)⟩

/-- The server attends to every request, and to every `SEQUENCE`. -/
theorem FileSystem.attends {S : Type} (fs : FileSystem S) : fs.server.Attends where
  receive _ _ := rfl
  sequence _ _ _ _ _ _ := ⟨_, rfl⟩

section Performing

variable {S α : Type} {fs : FileSystem S} {op : ArgOp} {ops : List ArgOp} {seat next : Seat S}

theorem exec_ok {success : Success op} (decided : seat.outcome fs op = .ok (success, next)) :
    (fs.server.exec op).run seat = some (.ok success, next) := by
  simp only [FileSystem.server, decided]

/-- An operation that fails changes nothing. -/
theorem exec_fails {failure : Failure} (decided : seat.outcome fs op = .error failure) :
    (fs.server.exec op).run seat = some (.error failure, seat) := by
  simp only [FileSystem.server, decided]

/-- An operation on the file system that succeeds. -/
theorem Seat.does_ok {success : α → op.Result} {extra : op.Extra} {goes : α → Handle}
    {outcome : S → Except Status (α × S)} {value : α} {files : S}
    (decided : outcome seat.files = .ok (value, files)) :
    seat.does success extra goes outcome =
      .ok (⟨success value, extra⟩, { seat with files := files, current := goes value }) := by
  rw [Seat.does, decided]

/-- An operation on the file system that fails. -/
theorem Seat.does_error {success : α → op.Result} {extra : op.Extra} {goes : α → Handle}
    {outcome : S → Except Status (α × S)} {status : Status}
    (decided : outcome seat.files = .error status) :
    seat.does success extra goes outcome = .error status.failure := by
  rw [Seat.does, decided]

/-- The operations of a request are about an object. -/
def About (fh : ObjId) (seat : Seat S) : Prop :=
  seat.fh = fh

/-- The operations of a request are about an object, and another one was saved. -/
def Between (savedFh fh : ObjId) (seat : Seat S) : Prop :=
  seat.saved.fh.data = savedFh ∧ seat.fh = fh

/-- Both versions can carry the handles of a file system. -/
theorem short {fh : ObjId} (fits : fh.length ≤ 64) : NfsFh4.Short ⟨fh⟩ :=
  Nat.le_trans fits (by decide)

/-- An operation executes one of the file system. -/
def Executes (fs : FileSystem S) (here : Seat S → Prop) (op : ArgOp) (result : α → op.Result)
    (extra : op.Extra) (goes : Seat S → α → Handle) (outcome : S → Except Status (α × S)) : Prop :=
  ∀ seat, here seat → seat.outcome fs op = seat.does result extra (goes seat) outcome

/-- Some operations come to what an operation of the file system comes to. -/
structure Performs (fs : FileSystem S) (here : Seat S → Prop) (ops : List ArgOp)
    (success : α → Results ops) (outcome : S → Except Status (α × S)) : Prop where
  ok : ∀ {seat value files}, here seat → outcome seat.files = .ok (value, files) → ∃ next,
    (fs.server.perform ops).run seat = some (.ok (success value), next) ∧ next.files = files
  error : ∀ {seat status}, here seat → outcome seat.files = .error status → ∃ next,
    (fs.server.perform ops).run seat = some (.error status.failure, next) ∧
      next.files = seat.files

namespace Performs

variable {here there : Seat S → Prop} {success : α → Results ops}
  {outcome : S → Except Status (α × S)}

/-- An operation that changes no more than the current object comes first. -/
theorem after {one : Success op}
    (moves : ∀ seat, here seat → ∃ next, seat.outcome fs op = .ok (one, next) ∧
      next.files = seat.files ∧ there next)
    (rest : Performs fs there ops success outcome) :
    Performs fs here (op :: ops) (fun value => (one, success value)) outcome where
  ok := by
    intro seat value files before decided
    obtain ⟨mid, moved, same, between⟩ := moves seat before
    rw [← same] at decided
    obtain ⟨next, ran, after⟩ := rest.ok between decided
    exact ⟨next, OpServer.perform_cons_ok _ (exec_ok moved) ran, after⟩
  error := by
    intro seat status before decided
    obtain ⟨mid, moved, same, between⟩ := moves seat before
    rw [← same] at decided
    obtain ⟨next, ran, after⟩ := rest.error between decided
    exact ⟨next, OpServer.perform_cons_error _ (exec_ok moved) ran, after.trans same⟩

/-- An operation of the file system. -/
theorem single {result : α → op.Result} {extra : op.Extra} {goes : Seat S → α → Handle}
    (executes : Executes fs here op result extra goes outcome) :
    Performs fs here [op] (fun value => (⟨result value, extra⟩, ())) outcome where
  ok := by
    intro seat value files before decided
    have done := (executes seat before).trans (Seat.does_ok decided)
    exact ⟨_, OpServer.perform_cons_ok _ (exec_ok done) rfl, rfl⟩
  error := by
    intro seat status before decided
    have refused := (executes seat before).trans (Seat.does_error decided)
    exact ⟨seat, OpServer.perform_fails _ (exec_fails refused), rfl⟩

/-- The object of what follows. -/
theorem putfh {fh : NfsFh4} (short : fh.Short) (rest : Performs fs there ops success outcome)
    (goes : ∀ seat : Seat S, here seat → there { seat with current := ⟨fh, short⟩ }) :
    Performs fs here (.putfh fh :: ops) (fun value => (⟨(), ()⟩, success value)) outcome :=
  rest.after fun seat before => ⟨_, dif_pos short, rfl, goes seat before⟩

/-- A request about an object. -/
theorem on {fh : ObjId} (fits : fh.length ≤ 64)
    (rest : Performs fs (About fh) ops success outcome) :
    Performs fs (fun _ => True) (.putfh ⟨fh⟩ :: ops) (fun value => (⟨(), ()⟩, success value))
      outcome :=
  rest.putfh (short fits) fun _ _ => rfl

/-- A request about an object and another one, which comes first. -/
theorem across {savedFh fh : ObjId} (fitsSaved : savedFh.length ≤ 64) (fits : fh.length ≤ 64)
    (rest : Performs fs (Between savedFh fh) ops success outcome) :
    Performs fs (fun _ => True) (.putfh ⟨savedFh⟩ :: .savefh :: .putfh ⟨fh⟩ :: ops)
      (fun value => (⟨(), ()⟩, ⟨(), ()⟩, ⟨(), ()⟩, success value)) outcome := by
  have second : Performs fs (fun seat => seat.saved.fh.data = savedFh) (.putfh ⟨fh⟩ :: ops)
      (fun value => (⟨(), ()⟩, success value)) outcome :=
    rest.putfh (short fits) fun _ saved => ⟨saved, rfl⟩
  have saving : Performs fs (About savedFh) (.savefh :: .putfh ⟨fh⟩ :: ops)
      (fun value => (⟨(), ()⟩, ⟨(), ()⟩, success value)) outcome :=
    second.after fun seat about => ⟨_, rfl, rfl, about⟩
  exact saving.on fitsSaved

/-- An operation that makes an object, whose handle is asked for. -/
theorem created {result : FileHandle → op.Result} {extra : op.Extra}
    {outcome : S → Except Status (FileHandle × S)}
    (executes : Executes fs here op result extra (fun _ => FileHandle.handle) outcome) :
    Performs fs here [op, .getfh]
      (fun fh => (⟨result fh, extra⟩, ⟨fh.handle, ()⟩, ())) outcome where
  ok := by
    intro seat fh files before decided
    have done := (executes seat before).trans (Seat.does_ok decided)
    exact ⟨_, OpServer.perform_cons_ok _ (exec_ok done)
      (OpServer.perform_cons_ok _ (exec_ok rfl) rfl), rfl⟩
  error := by
    intro seat status before decided
    have refused := (executes seat before).trans (Seat.does_error decided)
    exact ⟨seat, OpServer.perform_fails _ (exec_fails refused), rfl⟩

end Performs

end Performing

section Operations

variable {S : Type} {fs : FileSystem S} {fh dir : ObjId} {name : String}

/-- What a listing shows of an object. -/
theorem shown_requested (fh : ObjId) (state : S) :
    fs.shown Nfs4.requested fh state =
      (fs.getattr state fh).map fun metadata => ⟨some metadata, none⟩ := by
  have asked : Nfs4.requested.any (· ∈ Nfs4.requested) = true := by decide
  have other : Nfs4.requested.any (· ∈ sizesAsked) = false := by decide
  rw [FileSystem.shown, asked, other]
  rcases fs.getattr state fh with status | metadata <;> rfl

theorem shown_sizes (fh : ObjId) (state : S) :
    fs.shown sizesAsked fh state = (fs.sizes state fh).map fun sizes => ⟨none, some sizes⟩ := by
  have other : sizesAsked.any (· ∈ Nfs4.requested) = false := by decide
  have asked : sizesAsked.any (· ∈ sizesAsked) = true := by decide
  rw [FileSystem.shown, asked, other]
  rcases fs.sizes state fh with status | sizes <;> rfl

/-- What is shown of an object is what is asked for of it. -/
theorem performs_getattr {α : Type} {asked : List Nat} {told : α → Shown}
    {known : S → Except Status α}
    (shown : ∀ state, fs.shown asked fh state = (known state).map told) :
    Performs fs (About fh) [.getattr asked]
      (fun value => (⟨(told value).answer asked, ()⟩, ())) (FileSystem.seeing known) := by
  have executes : Executes fs (About fh) (.getattr asked)
      (fun value => (told value).answer asked) () (fun seat _ => seat.current)
      (FileSystem.seeing known) := by
    rintro seat rfl
    change seat.does _ _ _ (FileSystem.seeing (fs.shown asked seat.fh)) = _
    simp only [Seat.does, FileSystem.seeing, shown]
    rcases known seat.files with status | value <;> rfl
  exact Performs.single executes

/-- An object is found, its handle is asked for, and then something of the object. -/
theorem Performs.found {α : Type} {here : Seat S → Prop} {op : ArgOp} {ops : List ArgOp}
    {result : FileHandle → op.Result} {extra : op.Extra} {success : α → Results ops}
    {first : S → Except Status FileHandle} {second : FileHandle → S → Except Status α}
    (executes : Executes fs here op result extra (fun _ => FileHandle.handle)
      (FileSystem.seeing first))
    (rest : ∀ fh, Performs fs (About fh.1) ops success (FileSystem.seeing (second fh))) :
    Performs fs here (op :: .getfh :: ops)
      (fun found => (⟨result found.1, extra⟩, ⟨found.1.handle, ()⟩, success found.2))
      (FileSystem.seeing fun state => do
        let fh ← first state
        let value ← second fh state
        return (fh, value)) where
  ok := by
    intro seat found files before decided
    rcases named : first seat.files with status | fh
    · simp only [FileSystem.seeing, named, bind, Except.bind, Except.map, reduceCtorEq] at decided
    rcases known : second fh seat.files with status | value
    · simp only [FileSystem.seeing, named, known, bind, Except.bind, Except.map,
        reduceCtorEq] at decided
    have looked := exec_ok ((executes seat before).trans
      (Seat.does_ok (FileSystem.seeing_ok named)))
    obtain ⟨next, ran, after⟩ := @(rest fh).ok { seat with current := fh.handle } _ _ rfl
      (FileSystem.seeing_ok known)
    simp only [FileSystem.seeing, named, known, bind, Except.bind, Except.map, pure,
      Except.pure] at decided
    cases decided
    exact ⟨next, OpServer.perform_cons_ok _ looked (OpServer.perform_cons_ok _ (exec_ok rfl) ran),
      after⟩
  error := by
    intro seat status before decided
    rcases named : first seat.files with failed | fh
    · simp only [FileSystem.seeing, named, bind, Except.bind, Except.map] at decided
      cases decided
      have refused := exec_fails ((executes seat before).trans
        (Seat.does_error (FileSystem.seeing_error named)))
      exact ⟨seat, OpServer.perform_fails _ refused, rfl⟩
    · have looked := exec_ok ((executes seat before).trans
        (Seat.does_ok (FileSystem.seeing_ok named)))
      have failed : FileSystem.seeing (second fh) seat.files = .error status := by
        rcases known : second fh seat.files with failed | value
        · simp only [FileSystem.seeing, named, known, bind, Except.bind, Except.map] at decided
          rw [FileSystem.seeing_error known, Except.error.inj decided]
        · simp only [FileSystem.seeing, named, known, bind, Except.bind, Except.map, pure,
            Except.pure, reduceCtorEq] at decided
      obtain ⟨next, ran, after⟩ := @(rest fh).error { seat with current := fh.handle } _ rfl failed
      exact ⟨next, OpServer.perform_cons_error _ looked
        (OpServer.perform_cons_error _ (exec_ok rfl) ran), after⟩

/-- What `LOOKUP`, `GETFH` and `GETATTR` come to. -/
theorem performs_lookup (dir : ObjId) (name : String) :
    Performs fs (About dir) [.lookup name, .getfh, .getattr Nfs4.requested]
      (fun found => (⟨(), ()⟩, ⟨found.1.handle, ()⟩,
        ⟨(Shown.mk (some found.2) none).answer Nfs4.requested, ()⟩, ()))
      (FileSystem.seeing (fs.lookupAs dialect4 dir name)) := by
  have executes : Executes fs (About dir) (.lookup name) (fun _ => ()) ()
      (fun _ => FileHandle.handle) (FileSystem.seeing fun state => do
        dialect4.allows name
        fs.lookup state dir name) := by
    rintro seat rfl
    rfl
  have told (fh : FileHandle) := performs_getattr (@shown_requested S fs fh.1)
  have entered : fs.lookupAs dialect4 dir name = fun state => do
      let fh ← (do
        dialect4.allows name
        fs.lookup state dir name)
      let metadata ← fs.getattr state fh.1
      return (fh, metadata) := by
    funext state
    rw [FileSystem.lookupAs, FileSystem.entry, bind_assoc]
  rw [entered]
  exact Performs.found executes told

theorem performs_readlink (fh : ObjId) :
    Performs fs (About fh) [.readlink] (fun target => (⟨target, ()⟩, ()))
      (FileSystem.seeing fun state => fs.readlink state fh) := by
  have executes : Executes fs (About fh) .readlink id () (fun seat _ => seat.current)
      (FileSystem.seeing fun state => fs.readlink state fh) := by
    rintro seat rfl
    rfl
  exact Performs.single executes

/-- `ACCESS` grants what the file system grants. -/
theorem performs_access (fh : ObjId) (mask : UInt32) :
    Performs fs (About fh) [.access mask] (fun granted => (⟨(mask, granted), ()⟩, ()))
      (FileSystem.seeing fun state => fs.access state fh mask) := by
  have executes : Executes fs (About fh) (.access mask) (fun granted => (mask, granted)) ()
      (fun seat _ => seat.current) (FileSystem.seeing fun state => fs.access state fh mask) := by
    rintro seat rfl
    rfl
  exact Performs.single executes

/-- `SETATTR` sets the mode and the size. -/
theorem performs_setattr (fh : ObjId) (attr : SetAttr) :
    Performs fs (About fh)
      [.setattr Proto.Stateid4.default (Nfs4.setting { mode := attr.mode, size := attr.size })]
      (fun _ => (⟨Proto.Bitmap.empty, ()⟩, ()))
      (FileSystem.only fun state => fs.setattr state fh (dialect4.settings attr)) := by
  obtain ⟨modes, sizes⟩ := V4Backend.setting_values attr.mode attr.size
  have executes : Executes fs (About fh) (.setattr Proto.Stateid4.default
      (Nfs4.setting { mode := attr.mode, size := attr.size })) (fun _ => Proto.Bitmap.empty) ()
      (fun seat _ => seat.current)
      (FileSystem.only fun state => fs.setattr state fh (dialect4.settings attr)) := by
    rintro seat rfl
    simp only [Seat.outcome, modes, sizes]
    rfl
  exact Performs.single executes

/-- `CREATE` of a directory makes it, with a mode of the server. -/
theorem performs_mkdir (dir : ObjId) (name : String) (mode : UInt32) :
    Performs fs (About dir) [.create .dir name [], .getfh]
      (fun fh => (⟨(⟨false, 0, 0⟩, Proto.Bitmap.empty), ()⟩, ⟨fh.handle, ()⟩, ()))
      (fs.mkdirAs dialect4 dir name mode) := by
  have executes : Executes fs (About dir) (.create .dir name [])
      (fun _ => (⟨false, 0, 0⟩, Proto.Bitmap.empty)) () (fun _ => FileHandle.handle)
      (fs.mkdirAs dialect4 dir name mode) := by
    rintro seat rfl
    rfl
  exact Performs.created executes

theorem performs_symlink (dir : ObjId) (name target : String) :
    Performs fs (About dir) [.create (.link target) name [], .getfh]
      (fun fh => (⟨(⟨false, 0, 0⟩, Proto.Bitmap.empty), ()⟩, ⟨fh.handle, ()⟩, ()))
      (fs.symlinkAs dialect4 dir name target) := by
  have executes : Executes fs (About dir) (.create (.link target) name [])
      (fun _ => (⟨false, 0, 0⟩, Proto.Bitmap.empty)) () (fun _ => FileHandle.handle)
      (fs.symlinkAs dialect4 dir name target) := by
    rintro seat rfl
    rfl
  exact Performs.created executes

/-- Names of every kind are removed alike. -/
theorem performs_remove (directory : Bool) (dir : ObjId) (name : String) :
    Performs fs (About dir) [.remove name] (fun _ => (⟨⟨false, 0, 0⟩, ()⟩, ()))
      (FileSystem.only (fs.removeAs dialect4 directory dir name)) := by
  have executes : Executes fs (About dir) (.remove name) (fun _ => ⟨false, 0, 0⟩) ()
      (fun seat _ => seat.current) (FileSystem.only (fs.removeAs dialect4 directory dir name)) := by
    rintro seat rfl
    rfl
  exact Performs.single executes

theorem performs_rename (fromDir toDir : ObjId) (fromName toName : String) :
    Performs fs (Between fromDir toDir) [.rename fromName toName]
      (fun _ => (⟨(⟨false, 0, 0⟩, ⟨false, 0, 0⟩), ()⟩, ()))
      (FileSystem.only (fs.renameAs dialect4 fromDir fromName toDir toName)) := by
  have executes : Executes fs (Between fromDir toDir) (.rename fromName toName)
      (fun _ => (⟨false, 0, 0⟩, ⟨false, 0, 0⟩)) () (fun seat _ => seat.current)
      (FileSystem.only (fs.renameAs dialect4 fromDir fromName toDir toName)) := by
    rintro seat ⟨rfl, rfl⟩
    rfl
  exact Performs.single executes

theorem performs_link (fh dir : ObjId) (name : String) :
    Performs fs (Between fh dir) [.link name] (fun _ => (⟨⟨false, 0, 0⟩, ()⟩, ()))
      (FileSystem.only (fs.linkAs dialect4 fh dir name)) := by
  have executes : Executes fs (Between fh dir) (.link name) (fun _ => ⟨false, 0, 0⟩) ()
      (fun seat _ => seat.current) (FileSystem.only (fs.linkAs dialect4 fh dir name)) := by
    rintro seat ⟨rfl, rfl⟩
    rfl
  exact Performs.single executes

end Operations

namespace V4Backend

variable {S α β γ : Type} {fs : FileSystem S}

/-- The client is established, and its server has the file system in some state. -/
def Sits (backend : V4Backend (Seat S)) (state : S) : Prop :=
  backend.nfs.Established ∧ backend.nfs.rpc.files = state

/-- A method whose request performs an operation of the file system. -/
theorem simulates_request {ops : List ArgOp} {success : α → Results ops}
    {outcome : S → Except Status (α × S)} {value : Results ops → β}
    {body : Prog (Nfs4 (Seat S)) ProtoError β}
    (performs : Performs fs (fun _ => True) ops success outcome)
    (asks : ∀ nfs : Nfs4 (Seat S), nfs.Established → body.run nfs =
      (do
        let results ← Nfs4.converse fs.server ops
        return value results).run nfs) :
    Simulates Sits Eq Eq Sits (within body)
      (FileSystem.acts dialect4 (fun found => value (success found)) outcome) := by
  apply Simulates.of_run
  rintro backend _ ⟨established, rfl⟩
  have asked := asks backend.nfs established
  rcases decided : outcome backend.nfs.rpc.files with status | ⟨found, files⟩
  · have failing (seat : Seat S) (same : seat.files = backend.nfs.rpc.files) : ∃ next,
        (fs.server.perform ops).run seat = some (.error status.failure, next) ∧
          next.files = backend.nfs.rpc.files := by
      rw [← same] at decided ⊢
      exact performs.error trivial decided
    obtain ⟨nfs, conversed, kept, same⟩ :=
      Nfs4.converse_fails fs.attends failing established rfl
    exact ⟨_, _, _, _, within_error (asked.trans (Prog.bind_of_error conversed)),
      FileSystem.acts_error decided, .error rfl, kept, same⟩
  · obtain ⟨next, performed, same⟩ := performs.ok trivial decided
    have conversed :=
      Nfs4.converse_of_ok (Nfs4.answered_of_attends fs.attends established performed)
    exact ⟨_, _, _, _, within_ok (asked.trans (Prog.bind_of_ok conversed)),
      FileSystem.acts_ok decided, .ok rfl, established.sentTo next, same⟩

/-- Something is made of what a method returns. -/
theorem simulates_made {made : α → β} {final : α → γ} {outcome : S → Except Status (α × S)}
    {body : Prog (V4Backend (Seat S)) NfsError β} {after : β → γ}
    (simulates : Simulates Sits Eq Eq Sits body (FileSystem.acts dialect4 made outcome))
    (makes : ∀ found, after (made found) = final found) :
    Simulates Sits Eq Eq Sits (do
      let value ← body
      return after value) (FileSystem.acts dialect4 final outcome) := by
  rw [← funext makes, FileSystem.acts_after]
  apply simulates.bind ?_ fun _ _ between => between
  rintro value _ rfl
  exact Simulates.pure rfl fun _ _ between => between

section Calls

variable {fh dir : ObjId} {name : String}

/-- The attributes of an object over NFSv4. -/
theorem simulates_getattr (fits : fh.length ≤ 64) :
    Simulates Sits Eq Eq Sits (getattr fs.server.transport fh) ((fs.view dialect4).getattr fh) := by
  have request := simulates_request ((performs_getattr (@shown_requested _ fs fh)).on fits)
    fun _ established => Nfs4.getattrBits_eq established (short fits) (by decide)
      Proto.Compound.attributesOf_buildBitmap.1
  exact simulates_made request Metadata.fromFattr4

theorem simulates_lookup (fits : dir.length ≤ 64) (sized : SizedName name) :
    Simulates Sits Eq Eq Sits (lookup fs.server.transport dir name)
      ((fs.view dialect4).lookup dir name) := by
  have request := simulates_request ((@performs_lookup _ fs dir name).on fits)
    fun _ established => Nfs4.lookup_eq established (short fits) sized
  exact simulates_made request fun found => congrArg (found.1.1, ·) (Metadata.fromFattr4 found.2)

theorem simulates_readlink (fits : fh.length ≤ 64) :
    Simulates Sits Eq Eq Sits (readlink fs.server.transport fh)
      ((fs.view dialect4).readlink fh) :=
  simulates_request ((performs_readlink fh).on fits)
    fun _ established => Nfs4.readlink_eq established (short fits)

/-- The access to an object over NFSv4. -/
theorem simulates_access (mask : UInt32) (fits : fh.length ≤ 64) :
    Simulates Sits Eq Eq Sits (access fs.server.transport fh mask)
      ((fs.view dialect4).access fh mask) :=
  simulates_request ((performs_access fh mask).on fits)
    fun _ established => Nfs4.access_eq mask established (short fits)

/-- The sizes of a file system over NFSv4. -/
theorem simulates_statvfs (fits : fh.length ≤ 64) :
    Simulates Sits Eq Eq Sits (statvfs fs.server.transport fh)
      ((fs.view dialect4).statvfs fh) := by
  have request := simulates_request ((performs_getattr (@shown_sizes _ fs fh)).on fits)
    fun _ established => Nfs4.getattrBits_eq established (short fits) (by decide)
      Proto.Compound.attributesOf_buildBitmap.2
  exact simulates_made request Sizes.fromFattr4

theorem simulates_setattr (attr : SetAttr) (fits : fh.length ≤ 64) :
    Simulates Sits Eq Eq Sits (setattr fs.server.transport fh attr)
      ((fs.view dialect4).setattr fh attr) :=
  simulates_request ((performs_setattr fh attr).on fits)
    fun _ established => Nfs4.setattr_eq _ established (short fits)

theorem simulates_mkdir (mode : UInt32) (fits : dir.length ≤ 64) (sized : SizedName name) :
    Simulates Sits Eq Eq Sits (mkdir fs.server.transport dir name mode)
      ((fs.view dialect4).mkdir dir name mode) := by
  have request := simulates_request ((@performs_mkdir _ fs dir name mode).on fits)
    fun _ established => Nfs4.create_eq established (short fits)
      (Proto.Compound.adds_createDir sized)
  exact simulates_made request fun _ => rfl

theorem simulates_symlink {target : String} (fits : dir.length ≤ 64) (sized : SizedName name)
    (sizedTarget : SizedName target) :
    Simulates Sits Eq Eq Sits (symlink fs.server.transport dir name target)
      ((fs.view dialect4).symlink dir name target) := by
  have request := simulates_request ((@performs_symlink _ fs dir name target).on fits)
    fun _ established => Nfs4.create_eq established (short fits)
      (Proto.Compound.adds_createSymlink sized sizedTarget)
  exact simulates_made request fun _ => rfl

/-- Files and directories are removed by one operation. -/
theorem simulates_remove (directory : Bool) (fits : dir.length ≤ 64) (sized : SizedName name) :
    Simulates Sits Eq Eq Sits (remove fs.server.transport dir name)
      (FileSystem.acts dialect4 id (FileSystem.only (fs.removeAs dialect4 directory dir name))) :=
  simulates_request ((performs_remove directory dir name).on fits)
    fun _ established => Nfs4.remove_eq established (short fits) sized

theorem simulates_rename {toDir : ObjId} {toName : String} (fits : dir.length ≤ 64)
    (sized : SizedName name) (fitsTo : toDir.length ≤ 64) (sizedTo : SizedName toName) :
    Simulates Sits Eq Eq Sits (rename fs.server.transport dir name toDir toName)
      ((fs.view dialect4).rename dir name toDir toName) :=
  simulates_request ((performs_rename dir toDir name toName).across fits fitsTo)
    fun _ established => Nfs4.rename_eq established (short fits) sized (short fitsTo) sizedTo

theorem simulates_link (fitsFile : fh.length ≤ 64) (fits : dir.length ≤ 64)
    (sized : SizedName name) :
    Simulates Sits Eq Eq Sits (link fs.server.transport fh dir name)
      ((fs.view dialect4).link fh dir name) :=
  simulates_request ((performs_link fh dir name).across fitsFile fits)
    fun _ established => Nfs4.link_eq established (short fitsFile) (short fits) sized

end Calls

/-- All changes over NFSv4 are those of the file system as NFSv4 shows it. -/
theorem changesAlike :
    ChangesAlike SizedName Eq (fun _ => True) True Sits Sits (whole fs.server.transport)
      (fs.view dialect4) where
  refl _ := rfl
  lookup fits sized := (simulates_lookup fits sized).and fun _ => FileSystem.view_lookup
  readlink fits := (simulates_readlink fits).and fun _ => FileSystem.view_sized
  getattr fits := simulates_getattr fits
  statvfs fits := simulates_statvfs fits
  access mask fits := simulates_access mask fits
  kept _ _ same := same
  setattr fits _ := simulates_setattr _ fits
  mkdir fits sized := simulates_mkdir _ fits sized
  rmdir _ fits sized := simulates_remove true fits sized
  remove _ fits sized := simulates_remove false fits sized
  rename fits sized fitsTo sizedTo := simulates_rename fits sized fitsTo sizedTo
  symlink fits sized sizedTarget := simulates_symlink fits sized sizedTarget
  link fitsFile fits sized := simulates_link fitsFile fits sized

/-- Over NFSv4 every sequence of calls on names returns what it returns on the file system
itself, and leaves the file system as it leaves it there. -/
theorem names_over_v4 {root : ObjId} {calls : List NameCall} {backend : V4Backend (Seat S)}
    (established : backend.nfs.Established) (shortRoot : root.length ≤ 64)
    (sized : ∀ call ∈ calls, ∀ text ∈ call.texts, SizedName text) :
    ((NameCall.performAll (whole fs.server.transport) root calls).run backend).map
        (fun ended => (ended.1, ended.2.nfs.rpc.files)) =
      (NameCall.performAll (fs.view dialect4) root calls).run backend.nfs.rpc.files := by
  have both := (@changesAlike S fs).performAll_sized shortRoot sized backend
    backend.nfs.rpc.files ⟨established, rfl⟩
  have same := (both.weaken (fun _ _ => Kindred.eq_of_forall₂) fun _ _ sits => sits.2).map_eq
  exact same.trans Option.map_id'

/-- A client with a session, before a root without a directory. -/
def directoryClient : V4Backend (Seat Bool) :=
  .new ⟨⟨false, ⟨⟨[1]⟩, by decide⟩, ⟨⟨[1]⟩, by decide⟩⟩, 1, 1, Proto.uniqueOwner 1 1, 0, 0,
    some (Vector.replicate 16 0), 0⟩

/-- The sample client is established. -/
theorem established_directoryClient : directoryClient.nfs.Established :=
  ⟨.inr ⟨rfl, rfl⟩, 1, 1, rfl⟩

/-- A directory is made, seen and removed over NFSv4. -/
theorem names_over_v4_directory :
    ((NameCall.performAll (whole FileSystem.ofDirectory.server.transport) [1] directoryCalls).run
      directoryClient).map (fun ended => (ended.1, ended.2.nfs.rpc.files)) =
        some (.ok directoryOutcomes, false) := by
  have plain : (NameCall.performAll (FileSystem.ofDirectory.view dialect4) [1] directoryCalls).run
      false = some (.ok directoryOutcomes, false) := by decide +kernel
  exact (names_over_v4 established_directoryClient (by decide) sized_directoryCalls).trans plain

end V4Backend

end LibNfs.Client
