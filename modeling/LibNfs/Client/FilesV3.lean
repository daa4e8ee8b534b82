import LibNfs.Client.NameCalls
import LibNfs.Client.VolumeV3
import LibNfs.Proto.Remote

/-! # A file system over NFSv3

An NFSv3 service of a file system. It may leave out the attributes in a reply to `LOOKUP`
and the handle in one to `MKDIR`, and may say more after a failure; the client makes up
for it, and its calls come to what they are on the file system itself.
-/

namespace LibNfs.Client

open Proto (Fattr3 Nfs3Result NfsFh3 ProtoError Remote Sattr3 Service Transport remotes)
open Prog (Kindred Simulates)

/-- What a server may choose: whether the reply to a `LOOKUP` shows attributes, whether that to
a `MKDIR` has the handle, and what it writes after a status. -/
structure Choices where
  showsAttributes : ObjId → String → Bool
  showsHandle : ObjId → String → Bool
  trailing : Bytes

/-- The attributes of an object, as `fattr3`. -/
def Metadata.fattr3 (metadata : Metadata) : Fattr3 :=
  (metadata.ftype, metadata.mode, metadata.nlink, metadata.uid, metadata.gid, metadata.size,
    metadata.used, (metadata.rdev.1, metadata.rdev.2, ()), metadata.fsid, metadata.fileid,
    metadata.atime.val, metadata.mtime.val, metadata.ctime.val, ())

/-- The results of a type that can be sent. -/
abbrev Sendable (ty : Xdr.Ty) := { answer : ty.Val // ty.layout.valid answer }

namespace Reply3

open Proto (lengths_none)

/-- What `GETATTR` returns. -/
def getattr (metadata : Metadata) : Sendable Fattr3.ty :=
  ⟨metadata.fattr3, Fattr3.lengths _, Fattr3.lengths _⟩

/-- What `LOOKUP` returns, with or without the attributes. -/
def lookup (shows : Bool) (found : FileHandle × Option Metadata) :
    Sendable (Proto.Proc3.Ok .lookup) :=
  ⟨((⟨found.1.1⟩ : NfsFh3).val, if shows then found.2.map Metadata.fattr3 else none, none, ()),
    ⟨NfsFh3.fits found.1.2, Fattr3.lengths_option _, lengths_none, trivial⟩,
    NfsFh3.within found.1.2, Fattr3.lengths_option _, lengths_none, trivial⟩

/-- The results of `READLINK` can be written. -/
theorem valid_readlink (target : Proto.Text) :
    (Proto.Proc3.Ok .readlink).layout.valid (none, target.1, ()) :=
  ⟨⟨lengths_none, target.2, trivial⟩, lengths_none, trivial, trivial⟩

/-- What `READLINK` returns. -/
def readlink (target : Proto.Text) : Sendable (Proto.Proc3.Ok .readlink) :=
  ⟨(none, target.1, ()), valid_readlink target⟩

/-- What `ACCESS` returns. -/
def access (granted : UInt32) : Sendable Proto.AccessOk.ty :=
  ⟨(none, granted, ()), ⟨lengths_none, trivial, trivial⟩, lengths_none, trivial, trivial⟩

/-- What `FSSTAT` returns. -/
def fsstat (sizes : Sizes) : Sendable Proto.FsstatOk.ty :=
  ⟨(none, sizes.totalBytes, sizes.freeBytes, sizes.availBytes, sizes.totalFiles, sizes.freeFiles,
      sizes.availFiles, 0, ()),
    ⟨lengths_none, trivial, trivial, trivial, trivial, trivial, trivial, trivial, trivial⟩,
    lengths_none, trivial, trivial, trivial, trivial, trivial, trivial, trivial, trivial⟩

/-- What `CREATE`, `MKDIR`, `SYMLINK` and `MKNOD` return. -/
def create (shows : Bool) (fh : FileHandle) : Sendable Proto.CreateOk.ty :=
  ⟨(if shows then some (⟨fh.1⟩ : NfsFh3).val else none, none, (none, none, ()), ()), by
    constructor
    · refine ⟨fun inner given => ?_, lengths_none, ⟨lengths_none, lengths_none, trivial⟩, trivial⟩
      obtain ⟨-, same⟩ := Option.ite_none_right_eq_some.mp given
      cases same
      exact NfsFh3.fits fh.2
    · refine ⟨fun inner given => ?_, lengths_none, ⟨lengths_none, lengths_none, trivial⟩, trivial⟩
      obtain ⟨-, same⟩ := Option.ite_none_right_eq_some.mp given
      cases same
      exact NfsFh3.within fh.2⟩

/-- What is known of a directory that was changed: nothing. -/
def changed : Sendable Proto.WccData.ty :=
  ⟨(none, none, ()), ⟨lengths_none, lengths_none, trivial⟩, lengths_none, lengths_none, trivial⟩

/-- What `RENAME` returns. -/
def renamed : Sendable Proto.RenameOk.ty :=
  ⟨(changed.1, changed.1, ()), ⟨changed.2.1, changed.2.1, trivial⟩, changed.2.2, changed.2.2,
    trivial⟩

/-- What `LINK` returns. -/
def linked : Sendable Proto.LinkOk.ty :=
  ⟨(none, changed.1, ()), ⟨lengths_none, changed.2.1, trivial⟩, lengths_none, changed.2.2, trivial⟩

end Reply3

/-- Executes an operation and writes what it comes to. -/
def replying {S α γ : Type} {layout : Coding.Layout UInt8 γ} (choices : Choices)
    (success : α → { answer : γ // layout.valid answer }) (outcome : S → Except Status (α × S)) :
    Prog S Rpc.RpcError
      (Except { status : UInt32 // status ≠ Proto.nfs3Ok } { answer : γ // layout.valid answer } ×
        Bytes) :=
  ⟨fun state =>
    match outcome state with
    | .ok (value, next) => some (.ok (.ok (success value), []), next)
    | .error status => some (.ok (.error ⟨status.code, status.bad⟩, choices.trailing), state)⟩

namespace FileSystem

variable {S : Type} (fs : FileSystem S) (choices : Choices)

/-- The object with a name, and its attributes if they can be had. -/
def glimpse (dir : ObjId) (name : String) (state : S) :
    Except Status (FileHandle × Option Metadata) := do
  let fh ← fs.lookup state dir name
  return (fh, (fs.getattr state fh.1).toOption)

/-- What a `SETATTR` asks to set. -/
def settingsOf (attrs : Sattr3) : Settings :=
  ⟨attrs.mode, attrs.uid, attrs.gid, attrs.size⟩

/-- A name that is missing is not glimpsed. -/
theorem glimpse_missing {dir : ObjId} {name : String} {state : S} {status : Status}
    (missing : fs.lookup state dir name = .error status) :
    fs.glimpse dir name state = .error status := by
  rw [glimpse, missing]
  rfl

/-- A name that is found is glimpsed with its attributes. -/
theorem glimpse_found {dir : ObjId} {name : String} {state : S} {fh : FileHandle}
    (looked : fs.lookup state dir name = .ok fh) :
    fs.glimpse dir name state = .ok (fh, (fs.getattr state fh.1).toOption) := by
  rw [glimpse, looked]
  rfl

/-- The service of the file system, with the choices that a server has. -/
def service : Service remotes S where
  exec remote args :=
    match remote, args with
    | .basic3 .getattr, (fh, ()) =>
        replying choices Reply3.getattr (seeing fun state => fs.getattr state fh)
    | .basic3 .lookup, ((dir, ()), name, ()) =>
        replying choices (Reply3.lookup (choices.showsAttributes dir name))
          (seeing (fs.glimpse dir name))
    | .basic3 .readlink, (fh, ()) =>
        replying choices Reply3.readlink (seeing fun state => fs.readlink state fh)
    | .basic3 .setattr, ((fh, ()), attrs, _, ()) =>
        replying choices (fun _ => Reply3.changed)
          (only fun state => fs.setattr state fh (settingsOf (.ofVal attrs)))
    | .basic3 .mkdir, (((dir, ()), name, ()), attrs, ()) =>
        replying choices (Reply3.create (choices.showsHandle dir name))
          (fun state => fs.mkdir state dir name (Sattr3.ofVal attrs).mode)
    | .access3, ((fh, ()), mask, ()) =>
        replying choices Reply3.access (seeing fun state => fs.access state fh mask)
    | .fsstat3, (fh, ()) =>
        replying choices Reply3.fsstat (seeing fun state => fs.sizes state fh)
    | .symlink3, (((dir, ()), name, ()), (_, target, ()), ()) =>
        replying choices (Reply3.create (choices.showsHandle dir name))
          (fun state => fs.symlink state dir name target)
    | .remove3, ((dir, ()), name, ()) =>
        replying choices (fun _ => Reply3.changed) (only (fs.removeAs dialect3 false dir name))
    | .rmdir3, ((dir, ()), name, ()) =>
        replying choices (fun _ => Reply3.changed) (only (fs.removeAs dialect3 true dir name))
    | .rename3, (((fromDir, ()), fromName, ()), ((toDir, ()), toName, ()), ()) =>
        replying choices (fun _ => Reply3.renamed)
          (only fun state => fs.rename state fromDir fromName toDir toName)
    | .link3, ((fh, ()), ((dir, ()), name, ()), ()) =>
        replying choices (fun _ => Reply3.linked) (only fun state => fs.link state fh dir name)
    | _, _ => Prog.throw .procUnavail

/-- A host that has nothing but the service. -/
def host : Host S where
  nfs := (fs.service choices).transport
  protocol := .tcp
  portmapPort := 111
  connect _ := return ()
  port _ := (fs.service choices).transport

end FileSystem

namespace V3Backend

variable {S α β γ : Type} {fs : FileSystem S} {choices : Choices} {host : Host S}
  {layout : Coding.Layout UInt8 γ}

/-- A program of the backend does what one of the file system does, and leaves the rest alone. -/
def Follows (body : Prog (V3Backend S) NfsError α) (plain : Prog S NfsError α) : Prop :=
  ∀ backend : V3Backend S, body.run backend =
    (plain.run backend.world).map fun (outcome, next) => (outcome, backend.withWorld next)

section Runs

variable {body : Prog (V3Backend S) NfsError α} {plain : Prog S NfsError α} {backend : V3Backend S}
  {next : S}

/-- A method that succeeds on the file system succeeds over it. -/
theorem Follows.ok (follows : Follows body plain) {value : α}
    (ended : plain.run backend.world = some (.ok value, next)) :
    body.run backend = some (.ok value, backend.withWorld next) := by
  rw [follows, ended]
  rfl

/-- A method that fails on the file system fails over it. -/
theorem Follows.error (follows : Follows body plain) {error : NfsError}
    (ended : plain.run backend.world = some (.error error, next)) :
    body.run backend = some (.error error, backend.withWorld next) := by
  rw [follows, ended]
  rfl

end Runs

/-- A call of a procedure that the service executes. -/
theorem follows_call {success : α → { answer : γ // layout.valid answer }}
    {outcome : S → Except Status (α × S)} {called : Prog S ProtoError (Nfs3Result γ)}
    {executed : Prog S Rpc.RpcError
      (Except { status : UInt32 // status ≠ Proto.nfs3Ok } { answer : γ // layout.valid answer } ×
        Bytes)}
    (replies : executed = replying choices success outcome)
    (accepted : ∀ {state found extra next},
      executed.run state = some (.ok (.ok found, extra), next) →
      called.run state = some (.ok (.ok found.1), next))
    (declined : ∀ {state status extra next},
      executed.run state = some (.ok (.error status, extra), next) →
      called.run state = some (.ok (.fail status.1), next)) :
    Follows (within .ofProto (called >>= fun result => Prog.ofExcept result.intoResult))
      (FileSystem.acts dialect3 (fun value => (success value).1) outcome) := by
  subst replies
  intro backend
  simp only [within, Prog.within, Prog.bind_apply]
  rcases made : outcome backend.world with status | ⟨value, next⟩
  · have ran : (replying choices success outcome).run backend.world =
        some (.ok (.error ⟨status.code, status.bad⟩, choices.trailing), backend.world) := by
      simp only [replying, made]
    rw [declined ran, FileSystem.acts_error made]
    rfl
  · have ran : (replying choices success outcome).run backend.world =
        some (.ok (.ok (success value), []), next) := by
      simp only [replying, made]
    rw [accepted ran, FileSystem.acts_ok made]
    rfl

/-- Something is made of what a program returns. -/
theorem Follows.made {dialect : Dialect} {made : α → β} {outcome : S → Except Status (α × S)}
    {body : Prog (V3Backend S) NfsError β}
    (follows : Follows body (FileSystem.acts dialect made outcome)) (after : β → γ) :
    Follows (do
      let value ← body
      return after value) (FileSystem.acts dialect (fun value => after (made value)) outcome) := by
  intro backend
  rw [Prog.bind_apply, follows]
  rcases decided : outcome backend.world with status | ⟨value, next⟩
  · rw [FileSystem.acts_error decided, FileSystem.acts_error decided]
    rfl
  · rw [FileSystem.acts_ok decided, FileSystem.acts_ok decided]
    rfl

section Calls

variable {fh dir : ObjId} {name : String}

theorem follows_getattr_call (served : host.nfs = (fs.service choices).transport)
    (short : fh.length ≤ 64) :
    Follows (within .ofProto (Proto.Nfs3.getattr host.nfs ⟨fh⟩))
      (FileSystem.acts dialect3 Metadata.fattr3
        (FileSystem.seeing fun state => fs.getattr state fh)) := by
  have encodable : (Remote.basic3 .getattr).procedure.Args.Encodable (⟨fh⟩ : NfsFh3).val :=
    ⟨NfsFh3.fits short, NfsFh3.within short⟩
  have called {state reply extra next} := @Service.call_of_exec _ _ _ (fs.service choices)
    (.basic3 .getattr) _ state encodable reply extra next
  rw [served]
  exact follows_call rfl called called

/-- The attributes of an object over NFSv3. -/
theorem follows_getattr (served : host.nfs = (fs.service choices).transport)
    (short : fh.length ≤ 64) :
    Follows (getattr host fh) ((fs.view dialect3).getattr fh) :=
  (follows_getattr_call served short).made _

/-- A short handle and a name with a length prefix are sent. -/
theorem encodable_place (short : dir.length ≤ 64) (sized : SizedName name) :
    Proto.DirOpArgs3.ty.Encodable ((⟨dir⟩ : NfsFh3).val, name, ()) :=
  Proto.Proc3.encodable_lookup short sized

theorem follows_lookup_call (served : host.nfs = (fs.service choices).transport)
    (short : dir.length ≤ 64) (sized : SizedName name) :
    Follows (within .ofProto (Proto.Nfs3.lookup host.nfs ⟨dir⟩ name))
      (FileSystem.acts dialect3
        (fun found => (Reply3.lookup (choices.showsAttributes dir name) found).1)
        (FileSystem.seeing (fs.glimpse dir name))) := by
  have called {state reply extra next} := @Service.call_of_exec _ _ _ (fs.service choices)
    (.basic3 .lookup) _ state (encodable_place short sized) reply extra next
  rw [served]
  exact follows_call rfl called called

/-- Attributes that a reply leaves out are asked for. -/
theorem follows_lookup (served : host.nfs = (fs.service choices).transport)
    (short : dir.length ≤ 64) (sized : SizedName name) :
    Follows (lookup host dir name) ((fs.view dialect3).lookup dir name) := by
  intro backend
  have asked := follows_lookup_call served short sized
  change _ = Option.map _ ((FileSystem.acts dialect3 _
    (FileSystem.seeing (fs.entry dir name))).run backend.world)
  rcases looked : fs.lookup backend.world dir name with status | fh
  · have unseen := FileSystem.seeing_error (fs.glimpse_missing looked)
    have fails := FileSystem.seeing_error (FileSystem.entry_missing looked)
    rw [FileSystem.acts_error fails]
    exact Prog.bind_of_error (asked.error (FileSystem.acts_error unseen))
  · have seen := FileSystem.seeing_ok (fs.glimpse_found looked)
    have again := follows_getattr_call served fh.2
    refine (Prog.bind_of_ok (asked.ok (FileSystem.acts_ok seen))).trans ?_
    rcases known : fs.getattr backend.world fh.1 with status | metadata
    · have fails := FileSystem.seeing_error (FileSystem.entry_unknown looked known)
      have hidden : (Reply3.lookup (choices.showsAttributes dir name) (fh, none)).1.2.1 = none :=
        ite_self _
      rw [FileSystem.acts_error fails]
      simp only [Except.toOption, Proto.LookupOk.objAttributes, hidden]
      exact Prog.bind_of_error (again.error (FileSystem.acts_error (FileSystem.seeing_error known)))
    · have found := FileSystem.seeing_ok (FileSystem.entry_found looked known)
      have shown := again.ok (FileSystem.acts_ok (FileSystem.seeing_ok known))
      rw [FileSystem.acts_ok found]
      cases shows : choices.showsAttributes dir name with
      | true => rfl
      | false => exact Prog.bind_of_ok shown

theorem follows_readlink (served : host.nfs = (fs.service choices).transport)
    (short : fh.length ≤ 64) :
    Follows (readlink host fh) ((fs.view dialect3).readlink fh) := by
  have encodable : (Remote.basic3 .readlink).procedure.Args.Encodable (⟨fh⟩ : NfsFh3).val :=
    ⟨NfsFh3.fits short, NfsFh3.within short⟩
  have called {state reply extra next} := @Service.call_of_exec _ _ _ (fs.service choices)
    (.basic3 .readlink) _ state encodable reply extra next
  unfold readlink
  rw [served]
  exact (follows_call rfl called called).made _

/-- The access to an object over NFSv3. -/
theorem follows_access (served : host.nfs = (fs.service choices).transport) (mask : UInt32)
    (short : fh.length ≤ 64) :
    Follows (access host fh mask) ((fs.view dialect3).access fh mask) := by
  have encodable : Remote.access3.procedure.Args.Encodable ((⟨fh⟩ : NfsFh3).val, mask, ()) :=
    ⟨⟨NfsFh3.fits short, trivial, trivial⟩, NfsFh3.within short, trivial, trivial⟩
  have called {state reply extra next} := @Service.call_of_exec _ _ _ (fs.service choices)
    .access3 _ state encodable reply extra next
  unfold access
  rw [served]
  exact (follows_call rfl called called).made _

/-- The sizes of a file system over NFSv3. -/
theorem follows_statvfs (served : host.nfs = (fs.service choices).transport)
    (short : fh.length ≤ 64) :
    Follows (statvfs host fh) ((fs.view dialect3).statvfs fh) := by
  have encodable : Remote.fsstat3.procedure.Args.Encodable (⟨fh⟩ : NfsFh3).val :=
    ⟨NfsFh3.fits short, NfsFh3.within short⟩
  have called {state reply extra next} := @Service.call_of_exec _ _ _ (fs.service choices)
    .fsstat3 _ state encodable reply extra next
  unfold statvfs
  rw [served]
  exact (follows_call rfl called called).made _

theorem follows_setattr (served : host.nfs = (fs.service choices).transport) (attr : SetAttr)
    (short : fh.length ≤ 64) :
    Follows (setattr host fh attr) ((fs.view dialect3).setattr fh attr) := by
  have called {state reply extra next} := @Service.call_of_exec _ _ _ (fs.service choices)
    (.basic3 .setattr) _ state (Proto.Proc3.encodable_setattr attr.toSattr3 short) reply extra next
  unfold setattr
  rw [served]
  exact (follows_call rfl called called).made _

/-- A handle that a reply leaves out is looked up. -/
theorem follows_mkdir (served : host.nfs = (fs.service choices).transport) (mode : UInt32)
    (short : dir.length ≤ 64) (sized : SizedName name) :
    Follows (mkdir host dir name mode) ((fs.view dialect3).mkdir dir name mode) := by
  have place := encodable_place short sized
  have encodable : (Remote.basic3 .mkdir).procedure.Args.Encodable
      (((⟨dir⟩ : NfsFh3).val, name, ()), ({ mode := some mode } : Sattr3).val, ()) :=
    ⟨⟨place.1, Sattr3.lengths _, trivial⟩, place.2, Sattr3.lengths _, trivial⟩
  have called {state reply extra next} := @Service.call_of_exec _ _ _ (fs.service choices)
    (.basic3 .mkdir) _ state encodable reply extra next
  have made : Follows
      (within .ofProto (Proto.Nfs3.mkdir host.nfs ⟨dir⟩ name { mode := some mode }))
      (FileSystem.acts dialect3
        (fun fh => (Reply3.create (choices.showsHandle dir name) fh).1)
        (fun state => fs.mkdir state dir name (some mode))) := by
    rw [served]
    exact follows_call rfl called called
  have asked := follows_lookup_call served short sized
  intro backend
  change _ = Option.map _ ((FileSystem.acts dialect3 _
    fun state => fs.mkdir state dir name (some mode)).run backend.world)
  rcases decided : fs.mkdir backend.world dir name (some mode) with status | ⟨fh, next⟩
  · rw [FileSystem.acts_error decided]
    exact Prog.bind_of_error (made.error (FileSystem.acts_error decided))
  · rw [FileSystem.acts_ok decided]
    refine (Prog.bind_of_ok (made.ok (FileSystem.acts_ok decided))).trans ?_
    have seen := FileSystem.seeing_ok (fs.glimpse_found (fs.found decided))
    cases shows : choices.showsHandle dir name with
    | true => rfl
    | false =>
        exact Prog.bind_of_ok (@Follows.ok _ _ _ _ (backend.withWorld next) _ asked _
          (FileSystem.acts_ok seen))

theorem follows_symlink (served : host.nfs = (fs.service choices).transport) {target : String}
    (short : dir.length ≤ 64) (sized : SizedName name) (sizedTarget : SizedName target) :
    Follows (symlink host dir name target) ((fs.view dialect3).symlink dir name target) := by
  have place := encodable_place short sized
  have encodable : Remote.symlink3.procedure.Args.Encodable
      (((⟨dir⟩ : NfsFh3).val, name, ()), (({} : Sattr3).val, target, ()), ()) :=
    ⟨⟨place.1, ⟨Sattr3.lengths _, sizedTarget, trivial⟩, trivial⟩, place.2,
      ⟨Sattr3.lengths _, trivial, trivial⟩, trivial⟩
  have called {state reply extra next} := @Service.call_of_exec _ _ _ (fs.service choices)
    .symlink3 _ state encodable reply extra next
  unfold symlink
  rw [served]
  exact (follows_call rfl called called).made _

theorem follows_remove (served : host.nfs = (fs.service choices).transport)
    (short : dir.length ≤ 64) (sized : SizedName name) :
    Follows (remove host dir name) ((fs.view dialect3).remove dir name) := by
  have called {state reply extra next} := @Service.call_of_exec _ _ _ (fs.service choices)
    .remove3 _ state (encodable_place short sized) reply extra next
  unfold remove
  rw [served]
  exact (follows_call rfl called called).made _

theorem follows_rmdir (served : host.nfs = (fs.service choices).transport)
    (short : dir.length ≤ 64) (sized : SizedName name) :
    Follows (rmdir host dir name) ((fs.view dialect3).rmdir dir name) := by
  have called {state reply extra next} := @Service.call_of_exec _ _ _ (fs.service choices)
    .rmdir3 _ state (encodable_place short sized) reply extra next
  unfold rmdir
  rw [served]
  exact (follows_call rfl called called).made _

theorem follows_rename (served : host.nfs = (fs.service choices).transport) {toDir : ObjId}
    {toName : String} (short : dir.length ≤ 64) (sized : SizedName name)
    (shortTo : toDir.length ≤ 64) (sizedTo : SizedName toName) :
    Follows (rename host dir name toDir toName)
      ((fs.view dialect3).rename dir name toDir toName) := by
  have place := encodable_place short sized
  have placeTo := encodable_place shortTo sizedTo
  have encodable : Remote.rename3.procedure.Args.Encodable
      (((⟨dir⟩ : NfsFh3).val, name, ()), ((⟨toDir⟩ : NfsFh3).val, toName, ()), ()) :=
    ⟨⟨place.1, placeTo.1, trivial⟩, place.2, placeTo.2, trivial⟩
  have called {state reply extra next} := @Service.call_of_exec _ _ _ (fs.service choices)
    .rename3 _ state encodable reply extra next
  unfold rename
  rw [served]
  exact (follows_call rfl called called).made _

theorem follows_link (served : host.nfs = (fs.service choices).transport)
    (shortFile : fh.length ≤ 64) (short : dir.length ≤ 64) (sized : SizedName name) :
    Follows (link host fh dir name) ((fs.view dialect3).link fh dir name) := by
  have place := encodable_place short sized
  have encodable : Remote.link3.procedure.Args.Encodable
      ((⟨fh⟩ : NfsFh3).val, ((⟨dir⟩ : NfsFh3).val, name, ()), ()) :=
    ⟨⟨NfsFh3.fits shortFile, place.1, trivial⟩, NfsFh3.within shortFile, place.2, trivial⟩
  have called {state reply extra next} := @Service.call_of_exec _ _ _ (fs.service choices)
    .link3 _ state encodable reply extra next
  unfold link
  rw [served]
  exact (follows_call rfl called called).made _

end Calls

/-- The backend as it was at the start, before the file system in some state. -/
def Stays (start backend : V3Backend S) (state : S) : Prop :=
  backend = start.withWorld state

/-- A method that follows another simulates it. -/
theorem Follows.simulates {body : Prog (V3Backend S) NfsError α} {plain : Prog S NfsError α}
    (follows : Follows body plain) (start : V3Backend S) :
    Simulates (Stays start) Eq Eq (Stays start) body plain := by
  rintro _ state rfl
  rw [follows, show (start.withWorld state).world = state from rfl]
  rcases plain.run state with _ | ⟨outcome, next⟩
  · exact .none
  · exact .some ⟨Kindred.refl (fun _ => rfl) outcome, rfl⟩

/-- All changes over NFSv3 are those of the file system. -/
theorem changesAlike (served : host.nfs = (fs.service choices).transport) (start : V3Backend S) :
    ChangesAlike SizedName Eq (fun _ => True) True (Stays start) (Stays start) (whole host)
      (fs.view dialect3) where
  refl _ := rfl
  lookup short sized :=
    ((follows_lookup served short sized).simulates start).and fun _ => FileSystem.view_lookup
  readlink short :=
    ((follows_readlink served short).simulates start).and fun _ => FileSystem.view_sized
  getattr short := (follows_getattr served short).simulates start
  statvfs short := (follows_statvfs served short).simulates start
  access mask short := (follows_access served mask short).simulates start
  kept _ _ same := same
  setattr short _ := (follows_setattr served _ short).simulates start
  mkdir short sized := (follows_mkdir served _ short sized).simulates start
  rmdir _ short sized := (follows_rmdir served short sized).simulates start
  remove _ short sized := (follows_remove served short sized).simulates start
  rename short sized shortTo sizedTo :=
    (follows_rename served short sized shortTo sizedTo).simulates start
  symlink short sized sizedTarget :=
    (follows_symlink served short sized sizedTarget).simulates start
  link shortFile short sized := (follows_link served shortFile short sized).simulates start

/-- Over NFSv3 every sequence of calls on names returns what it returns on the file system
itself, and leaves the file system as it leaves it there. -/
theorem names_over_v3 {root : ObjId} {calls : List NameCall}
    (served : host.nfs = (fs.service choices).transport) (shortRoot : root.length ≤ 64)
    (sized : ∀ call ∈ calls, ∀ text ∈ call.texts, SizedName text) :
    Follows (NameCall.performAll (whole host) root calls)
      (NameCall.performAll (fs.view dialect3) root calls) := by
  intro backend
  have both := (changesAlike served backend).performAll_sized shortRoot sized backend
    backend.world rfl
  have same := (both.weaken (fun _ _ => Kindred.eq_of_forall₂) fun _ _ stays => stays).map_eq
  exact Option.map_id'.symm.trans same

/-- A service that leaves out attributes and handles, before a root without a directory. -/
theorem names_over_v3_directory :
    ∃ client : V3Backend Bool, client.world = false ∧
      (NameCall.performAll (whole (FileSystem.ofDirectory.host
        ⟨fun _ _ => false, fun _ _ => false, [7]⟩)) [1] directoryCalls).run client =
      some (.ok directoryOutcomes, client) := by
  have plain : (NameCall.performAll (FileSystem.ofDirectory.view dialect3) [1] directoryCalls).run
      false = some (.ok directoryOutcomes, false) := by decide +kernel
  refine ⟨⟨false, 65536, 65536, none, [], 1⟩, rfl, ?_⟩
  refine (names_over_v3 rfl (by decide) sized_directoryCalls _).trans ?_
  rw [plain]
  rfl

end V3Backend

end LibNfs.Client
