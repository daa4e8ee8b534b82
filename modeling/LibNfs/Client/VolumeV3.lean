import LibNfs.Client.CallsV3
import LibNfs.Client.Volume

/-! # NFSv3 over the files of a server

A server of NFSv3 procedures for the files of a volume, and what the operations of
the NFSv3 backend come to over it.
-/

namespace LibNfs.Client

open Proto (Proc3 Server3 Failure3 Fattr3 NfsFh3 CreateHow3 Sattr3)

/-- The failure of a procedure with this status. -/
def Status.failure3 (status : Status) : Failure3 :=
  ⟨status.code, status.bad, List.replicate 8 0⟩

/-- The attributes of an object, as `fattr3`. -/
def Node.fattr3 (node : Node) : Fattr3 :=
  (node.body.ftype, node.mode, 1, 0, 0, UInt64.ofNat node.body.size, 0, (0, 0, ()), 0, 0,
    (0, 0, ()), (0, 0, ()), (0, 0, ()), ())

/-- The client is shown the attributes of the object. -/
theorem Node.fromFattr3 (node : Node) : Attr.fromFattr3 node.fattr3 = node.attr := by
  obtain ⟨body, mode⟩ := node
  cases body <;> rfl

/-- The mode of a new file. -/
def modeOf : CreateHow3 → UInt32
  | .unchecked attrs | .guarded attrs => attrs.mode.getD 0
  | .exclusive _ => 0

/-- `CREATE`: of the names that are there only a regular file is taken, and that only when the
name is not checked. -/
def Volume.create3 (policy : Policy) (dir : ObjId) (name : String) (how : CreateHow3)
    (volume : Volume) : Except Status (FileHandle × Volume) :=
  match volume.lookup dir name with
  | .ok (fh, node) =>
      match how, node.body with
      | .unchecked _, .file _ => .ok (fh, volume)
      | _, _ => .error .exist
  | .error .noent => volume.create policy dir name (modeOf how)
  | .error status => .error status

namespace Success3

open Proto (lengths_none)

/-- `LOOKUP` returns the handle and the attributes. -/
def lookup (fh : FileHandle) (node : Node) : Proc3.lookup.Success :=
  ⟨((⟨fh.1⟩ : NfsFh3).val, some node.fattr3, none, ()),
    ⟨⟨NfsFh3.fits fh.2, Fattr3.lengths_option _, lengths_none, trivial⟩,
      NfsFh3.within fh.2, Fattr3.lengths_option _, lengths_none, trivial⟩⟩

/-- `GETATTR` returns the attributes. -/
def getattr (node : Node) : Proc3.getattr.Success :=
  ⟨node.fattr3, ⟨Fattr3.lengths _, Fattr3.lengths _⟩⟩

/-- `READLINK` returns the target. -/
def readlink (target : Proto.Text) : Proc3.readlink.Success :=
  ⟨(none, target.1, ()), ⟨⟨lengths_none, target.2, trivial⟩, lengths_none, trivial, trivial⟩⟩

/-- `READ` returns the data, its count and the end flag. -/
def read (answer : Proto.Data × Bool) : Proc3.read.Success :=
  ⟨(none, UInt32.ofNat answer.1.1.length, answer.2, answer.1.1, ()),
    ⟨⟨lengths_none, trivial, trivial, answer.1.2, trivial⟩, lengths_none, trivial, trivial, trivial,
      trivial⟩⟩

/-- All the data was written, and none of it is stable yet. -/
def write (count : UInt32) : Proc3.write.Success :=
  ⟨((none, none, ()), count, Proto.unstable, Vector.replicate 8 0, ()),
    ⟨⟨⟨lengths_none, lengths_none, trivial⟩, trivial, trivial, trivial, trivial⟩,
      ⟨lengths_none, lengths_none, trivial⟩, trivial, trivial, trivial, trivial⟩⟩

/-- `CREATE` returns the handle, unless the server leaves it out. -/
def create (handle : Option FileHandle) : Proc3.create.Success :=
  ⟨(handle.map fun fh => (⟨fh.1⟩ : NfsFh3).val, none, (none, none, ()), ()), by
    constructor
    · refine ⟨fun inner given => ?_, lengths_none, ⟨lengths_none, lengths_none, trivial⟩, trivial⟩
      obtain ⟨fh, -, rfl⟩ := Option.map_eq_some_iff.mp given
      exact NfsFh3.fits fh.2
    · refine ⟨fun inner given => ?_, lengths_none, ⟨lengths_none, lengths_none, trivial⟩, trivial⟩
      obtain ⟨fh, -, rfl⟩ := Option.map_eq_some_iff.mp given
      exact NfsFh3.within fh.2⟩

/-- Results without attributes fit. -/
theorem wcc_encodable :
    Proc3.setattr.Ok.Fits (none, none, ()) ∧ Proc3.setattr.Ok.Within (none, none, ()) :=
  ⟨⟨lengths_none, lengths_none, trivial⟩, lengths_none, lengths_none, trivial⟩

/-- `SETATTR` returns no attributes. -/
def setattr : Proc3.setattr.Success :=
  ⟨(none, none, ()), wcc_encodable⟩

/-- `COMMIT` returns no attributes. -/
def commit : Proc3.commit.Success :=
  ⟨((none, none, ()), Vector.replicate 8 0, ()),
    ⟨⟨⟨lengths_none, lengths_none, trivial⟩, trivial, trivial⟩, ⟨lengths_none, lengths_none, trivial⟩,
      trivial, trivial⟩⟩

end Success3

/-- Executes an operation on the files; one that fails changes nothing. -/
def executed3 {α : Type} {proc : Proc3} (success : α → proc.Success)
    (outcome : Volume → Except Status (α × Volume)) : Prog Volume Failure3 proc.Success :=
  ⟨fun volume => match outcome volume with
    | .ok (value, next) => some (.ok (success value), next)
    | .error status => some (.error status.failure3, volume)⟩

/-- An operation that only looks. -/
def looking {α : Type} (outcome : Volume → Except Status α) (volume : Volume) :
    Except Status (α × Volume) :=
  (outcome volume).map (·, volume)

/-- An operation that returns nothing. -/
def changing (outcome : Volume → Except Status Volume) (volume : Volume) :
    Except Status (Unit × Volume) :=
  (outcome volume).map ((), ·)

/-- The server of a volume. -/
def volumeServer (policy : Policy) : Server3 Volume where
  exec proc args :=
    match proc, args with
    | .getattr, (fh, ()) => executed3 Success3.getattr (looking (·.find fh))
    | .lookup, ((dir, ()), name, ()) =>
        executed3 (fun found => Success3.lookup found.1 found.2) (looking (·.lookup dir name))
    | .readlink, (fh, ()) => executed3 Success3.readlink (looking (·.readlink fh))
    | .read, ((fh, ()), offset, count, ()) =>
        executed3 Success3.read (looking (·.read fh offset count))
    | .write, ((fh, ()), offset, _, _, data, ()) =>
        executed3 (fun _ => Success3.write (UInt32.ofNat data.length))
          (changing (Volume.write fh offset data))
    | .create, (((dir, ()), name, ()), how, ()) =>
        executed3 (fun fh => Success3.create (if policy.omitsHandle then none else some fh))
          (Volume.create3 policy dir name (.ofVal how))
    | .setattr, ((fh, ()), attrs, _, ()) =>
        executed3 (fun _ => Success3.setattr) (changing
          (Volume.setattr policy fh (Sattr3.ofVal attrs).mode (Sattr3.ofVal attrs).size))
    | .commit, ((fh, ()), _, _, ()) =>
        executed3 (fun _ => Success3.commit) (looking (·.content fh))
    | .mkdir, _ | .fsinfo, _ => Prog.throw Proto.notSupported3

/-- What there is to say before a request is sent. -/
def sent3 : Except Xdr.XdrError Bytes → Except NfsError Unit
  | .ok _ => .ok ()
  | .error error => .error (.proto (.rpc (.xdr error)))

/-- NFSv3 as a version of the protocol. -/
def wire3 : Wire where
  sends fh := sent3 (NfsFh3.ty.encode (⟨fh⟩ : NfsFh3).val [])
  sendsName dir name := sent3 (Proto.DirOpArgs3.ty.encode ((⟨dir⟩ : NfsFh3).val, name, ()) [])
  fails status := .fromNfsstat3 status.code

section Sending

variable {fh : ObjId} {name : String}

/-- A handle is sent or it is too long. -/
theorem sends_cases (fh : ObjId) :
    (NfsFh3.Short ⟨fh⟩ ∧ wire3.sends fh = .ok ()) ∨
      ∃ error, ∀ buf, NfsFh3.ty.encode (⟨fh⟩ : NfsFh3).val buf = .error error := by
  by_cases short : NfsFh3.Short ⟨fh⟩
  · left
    refine ⟨short, ?_⟩
    have written := NfsFh3.ty.writes _ (NfsFh3.fits short) (NfsFh3.within short) []
    simp only [wire3, written]
    rfl
  · right
    have exceeds : 64 < Xdr.SizedTy.xdrLen .bytes fh := Nat.not_le.mp short
    refine ⟨.limitExceeded (Xdr.SizedTy.xdrLen .bytes fh) 64, fun buf => ?_⟩
    simp [NfsFh3.ty, NfsFh3.val, Xdr.Ty.encode, Xdr.Fields.encode, Coding.encodePair,
      Xdr.encodeLimited, exceeds, bind, Except.bind]

/-- A short handle and a name with a length prefix are sent. -/
theorem sendsName_ok {dir : ObjId} (short : NfsFh3.Short ⟨dir⟩)
    (sized : Proto.Sized (Xdr.asBytes name)) : wire3.sendsName dir name = .ok () := by
  have encodable := Proc3.encodable_lookup short sized
  have written := Proc3.lookup.Args.writes _ encodable.1 encodable.2 []
  change sent3 (Proc3.lookup.Args.encode _ []) = _
  rw [written]
  rfl

/-- A name in a directory is sent, or one of them is too long. -/
theorem sendsName_cases (dir : ObjId) (name : String) :
    (NfsFh3.Short ⟨dir⟩ ∧ Proto.Sized (Xdr.asBytes name) ∧ wire3.sendsName dir name = .ok ()) ∨
      ∃ error, ∀ buf,
        Proto.DirOpArgs3.ty.encode ((⟨dir⟩ : NfsFh3).val, name, ()) buf = .error error := by
  rcases sends_cases dir with ⟨short, -⟩ | ⟨error, refused⟩
  · by_cases sized : Proto.Sized (Xdr.asBytes name)
    · exact .inl ⟨short, sized, sendsName_ok short sized⟩
    · exact .inr (Proc3.lookup_long short sized)
  · right
    refine ⟨error, fun buf => ?_⟩
    change NfsFh3.ty.encode (⟨dir⟩ : NfsFh3).val buf >>= _ = _
    rw [refused buf]
    rfl

end Sending

namespace V3Backend

variable {policy : Policy} {host : Host Volume} {proc : Proc3} {args : proc.Args.Val}

/-- A call that is sent, and whose operation succeeds. -/
theorem call_ok (served : host.nfs = (volumeServer policy).transport) {α : Type}
    {success : α → proc.Success} {outcome : Volume → Except Status (α × Volume)}
    (executed : (volumeServer policy).exec proc args = executed3 success outcome)
    (encodable : proc.Encodable args) {backend : V3Backend Volume} {value : α} {next : Volume}
    (decided : outcome backend.world = .ok (value, next)) :
    (within .ofProto (Proto.Nfs3.call host.nfs proc args)).run backend =
      some (.ok (success value).1, backend.withWorld next) := by
  apply within_call_ok served encodable
  rw [executed, executed3]
  simp only [decided]

/-- A call that is sent, and whose operation fails. -/
theorem call_fails (served : host.nfs = (volumeServer policy).transport) {α : Type}
    {success : α → proc.Success} {outcome : Volume → Except Status (α × Volume)}
    (executed : (volumeServer policy).exec proc args = executed3 success outcome)
    (encodable : proc.Encodable args) {backend : V3Backend Volume} {status : Status}
    (decided : outcome backend.world = .error status) :
    (within .ofProto (Proto.Nfs3.call host.nfs proc args)).run backend =
      some (.error (wire3.fails status), backend) := by
  have failed : ((volumeServer policy).exec proc args).run backend.world =
      some (.error status.failure3, backend.world) := by
    rw [executed, executed3]
    simp only [decided]
  exact within_call_error served encodable failed

section Executed

variable (policy) (dir fh : ObjId) (name : String)

theorem exec_lookup : (volumeServer policy).exec .lookup ((⟨dir⟩ : NfsFh3).val, name, ()) =
    executed3 (fun found => Success3.lookup found.1 found.2) (looking (·.lookup dir name)) := rfl

/-- `READLINK` over the volume. -/
theorem exec_readlink : (volumeServer policy).exec .readlink (⟨fh⟩ : NfsFh3).val =
    executed3 Success3.readlink (looking (·.readlink fh)) := rfl

theorem exec_create (how : CreateHow3) :
    (volumeServer policy).exec .create (((⟨dir⟩ : NfsFh3).val, name, ()), how.val, ()) =
      executed3 (fun fh => Success3.create (if policy.omitsHandle then none else some fh))
        (Volume.create3 policy dir name how) := by
  change executed3 _ (Volume.create3 policy dir name (.ofVal how.val)) = _
  rw [how.ofVal_val]

theorem exec_setattr (attrs : Sattr3) :
    (volumeServer policy).exec .setattr ((⟨fh⟩ : NfsFh3).val, attrs.val, none, ()) =
      executed3 (fun _ => Success3.setattr)
        (changing (Volume.setattr policy fh attrs.mode attrs.size)) := rfl

theorem exec_getattr : (volumeServer policy).exec .getattr (⟨fh⟩ : NfsFh3).val =
    executed3 Success3.getattr (looking (·.find fh)) := rfl

theorem exec_read (offset : UInt64) (count : UInt32) :
    (volumeServer policy).exec .read ((⟨fh⟩ : NfsFh3).val, offset, count, ()) =
      executed3 Success3.read (looking (·.read fh offset count)) := rfl

theorem exec_write (offset : UInt64) (count stable : UInt32) (data : Bytes) :
    (volumeServer policy).exec .write ((⟨fh⟩ : NfsFh3).val, offset, count, stable, data, ()) =
      executed3 (fun _ => Success3.write (UInt32.ofNat data.length))
        (changing (Volume.write fh offset data)) := rfl

theorem exec_commit (offset : UInt64) (count : UInt32) :
    (volumeServer policy).exec .commit ((⟨fh⟩ : NfsFh3).val, offset, count, ()) =
      executed3 (fun _ => Success3.commit) (looking (·.content fh)) := rfl

end Executed

variable {backend : V3Backend Volume}

/-- What is only looked at and found. -/
theorem looking_ok {α : Type} {outcome : Volume → Except Status α} {volume : Volume} {value : α}
    (found : outcome volume = .ok value) : looking outcome volume = .ok (value, volume) := by
  rw [looking, found]
  rfl

/-- What is only looked at and not found. -/
theorem looking_error {α : Type} {outcome : Volume → Except Status α} {volume : Volume}
    {status : Status} (failed : outcome volume = .error status) :
    looking outcome volume = .error status := by
  rw [looking, failed]
  rfl

/-- What `LOOKUP` finds. -/
def found (dir : ObjId) (name : String) (volume : Volume) : Except NfsError (FileHandle × Node) := do
  wire3.sendsName dir name
  (volume.lookup dir name).mapError wire3.fails

/-- A call of `LOOKUP` over the volume. -/
theorem lookup_call (served : host.nfs = (volumeServer policy).transport) (dir : ObjId)
    (name : String) :
    (within .ofProto (Proto.Nfs3.lookup host.nfs ⟨dir⟩ name)).run backend =
      some ((found dir name backend.world).map fun found => (Success3.lookup found.1 found.2).1,
        backend) := by
  rcases sendsName_cases dir name with ⟨short, sized, sent⟩ | ⟨error, refused⟩
  · have encodable := Proc3.encodable_lookup short sized
    rcases present : backend.world.lookup dir name with status | ⟨fh, node⟩
    · refine (call_fails served (exec_lookup policy dir name) encodable
        (looking_error present)).trans ?_
      simp only [found, sent, present]
      rfl
    · refine (call_ok served (exec_lookup policy dir name) encodable (looking_ok present)).trans ?_
      simp only [found, sent, present]
      rfl
  · refine (@call_unsent Volume (volumeServer policy) host .lookup _ served _ (refused [])
      backend).trans ?_
    simp only [found, wire3, refused []]
    rfl

/-- What the tree says of a name. -/
theorem tree_lookup (dir : ObjId) (name : String) (volume : Volume) :
    (volume.tree wire3).lookup dir name =
      (found dir name volume).map fun found => (found.1.1, found.2.attr) := by
  unfold Volume.tree found
  dsimp only
  rcases wire3.sendsName dir name with error | ⟨⟩
  · rfl
  · rcases volume.lookup dir name with status | ⟨fh, node⟩ <;> rfl

theorem lookup_volume (served : host.nfs = (volumeServer policy).transport) (dir : ObjId)
    (name : String) :
    (lookup host dir name).run backend =
      some ((backend.world.tree wire3).lookup dir name, backend) := by
  have called := @lookup_call policy host backend served dir name
  rw [tree_lookup]
  rcases present : found dir name backend.world with error | ⟨fh, node⟩
  · rw [present] at called
    exact Prog.bind_of_error called
  · rw [present] at called
    refine (Prog.bind_of_ok called).trans ?_
    change some (Except.ok (fh.1, Attr.fromFattr3 node.fattr3), backend) = _
    rw [node.fromFattr3]
    rfl

/-- Reading a link over the volume. -/
theorem readlink_volume (served : host.nfs = (volumeServer policy).transport) (fh : ObjId) :
    (readlink host fh).run backend = some ((backend.world.tree wire3).readlink fh, backend) := by
  rcases sends_cases fh with ⟨short, sent⟩ | ⟨error, refused⟩
  · have encodable := Proc3.encodable_readlink short
    rcases found : backend.world.readlink fh with status | target
    · have called := call_fails served (exec_readlink policy fh) encodable (looking_error found)
      refine (Prog.bind_of_error called).trans ?_
      simp only [Volume.tree, sent, found]
      rfl
    · have called := call_ok served (exec_readlink policy fh) encodable (looking_ok found)
      refine (Prog.bind_of_ok called).trans ?_
      simp only [Volume.tree, sent, found]
      rfl
  · have unsent := @call_unsent Volume (volumeServer policy) host .readlink _ served _ (refused [])
      backend
    refine (Prog.bind_of_error unsent).trans ?_
    simp only [Volume.tree, wire3, refused []]
    rfl

/-- The backend shows the files as long as they stay as they are. -/
theorem shows_volume (served : host.nfs = (volumeServer policy).transport) (volume : Volume) :
    Shows (V3Backend.backend host).toBackend (volume.tree wire3)
      fun backend => backend.world = volume where
  lookup dir name backend isReady := by
    refine ⟨backend, ?_, isReady⟩
    rw [← isReady]
    exact lookup_volume served dir name
  readlink fh backend isReady := by
    refine ⟨backend, ?_, isReady⟩
    rw [← isReady]
    exact readlink_volume served fh

/-- `CREATE` without a handle in its reply. -/
def noHandle : NfsError :=
  .proto (.protocol "CREATE no devolvió file handle")

/-- What an open comes to: its outcome, and the files after it. -/
def opened (policy : Policy) (dir : ObjId) (name : String) (opts : OpenOpts) (volume : Volume) :
    Except NfsError OpenFile × Volume :=
  if opts.create then
    match wire3.sendsName dir name with
    | .error error => (.error error, volume)
    | .ok () =>
        match volume.create3 policy dir name (createHow opts) with
        | .error status => (.error (wire3.fails status), volume)
        | .ok (fh, next) =>
            (if policy.omitsHandle then .error noHandle else .ok ⟨fh.1, none, opts.write⟩, next)
  else
    (((volume.tree wire3).lookup dir name).map fun found => ⟨found.1, none, opts.write⟩, volume)

theorem open_volume (served : host.nfs = (volumeServer policy).transport) (dir : ObjId)
    (name : String) (opts : OpenOpts) :
    (V3Backend.open host dir name opts).run backend =
      some ((opened policy dir name opts backend.world).1,
        backend.withWorld (opened policy dir name opts backend.world).2) := by
  rw [V3Backend.open, opened]
  by_cases create : opts.create
  · simp only [if_pos create]
    rcases sendsName_cases dir name with ⟨short, sized, sent⟩ | ⟨error, refused⟩
    · have encodable := Proc3.encodable_create (createHow opts) short sized
      rw [sent]
      rcases made : backend.world.create3 policy dir name (createHow opts) with status | ⟨fh, next⟩
      · have called := call_fails served (exec_create policy dir name (createHow opts)) encodable made
        exact Prog.bind_of_error called
      · have called := call_ok served (exec_create policy dir name (createHow opts)) encodable made
        refine (Prog.bind_of_ok called).trans ?_
        cases policy.omitsHandle <;> rfl
    · have unencoded : Proc3.create.Args.encode
          (((⟨dir⟩ : NfsFh3).val, name, ()), (createHow opts).val, ()) [] = .error error := by
        change Proto.DirOpArgs3.ty.encode ((⟨dir⟩ : NfsFh3).val, name, ()) [] >>= _ = _
        rw [refused []]
        rfl
      have unsent := @call_unsent Volume (volumeServer policy) host .create _ served _ unencoded
        backend
      refine (Prog.bind_of_error unsent).trans ?_
      simp only [wire3, refused []]
      rfl
  · simp only [if_neg create]
    have called := @lookup_call policy host backend served dir name
    rw [tree_lookup]
    rcases present : found dir name backend.world with error | ⟨fh, node⟩
    · rw [present] at called
      exact Prog.bind_of_error called
    · rw [present] at called
      exact Prog.bind_of_ok called

/-- Setting attributes. -/
theorem setattr_volume (served : host.nfs = (volumeServer policy).transport) {fh : ObjId}
    (short : NfsFh3.Short ⟨fh⟩) (attr : SetAttr) :
    (setattr host fh attr).run backend =
      match backend.world.setattr policy fh attr.mode attr.size with
      | .ok next => some (.ok (), backend.withWorld next)
      | .error status => some (.error (wire3.fails status), backend) := by
  have encodable := Proc3.encodable_setattr attr.toSattr3 short
  have executed := exec_setattr policy fh attr.toSattr3
  rcases decided : backend.world.setattr policy fh attr.mode attr.size with status | next
  · have failed : changing (Volume.setattr policy fh attr.toSattr3.mode attr.toSattr3.size)
        backend.world = .error status := congrArg (Except.map _) decided
    exact Prog.bind_of_error (call_fails served executed encodable failed)
  · have done : changing (Volume.setattr policy fh attr.toSattr3.mode attr.toSattr3.size)
        backend.world = .ok ((), next) := congrArg (Except.map _) decided
    exact Prog.bind_of_ok (call_ok served executed encodable done)

/-- The attributes of an object that is there. -/
theorem getattr_volume (served : host.nfs = (volumeServer policy).transport) {fh : ObjId}
    (short : NfsFh3.Short ⟨fh⟩) {node : Node} (present : backend.world.find fh = .ok node) :
    (getattr host fh).run backend = some (.ok node.attr, backend) := by
  have called := call_ok served (exec_getattr policy fh) (Proc3.encodable_getattr short)
    (looking_ok present)
  refine (Prog.bind_of_ok called).trans ?_
  change some (Except.ok (Attr.fromFattr3 node.fattr3), backend) = _
  rw [node.fromFattr3]

theorem pread_volume (served : host.nfs = (volumeServer policy).transport) {file : OpenFile}
    (short : NfsFh3.Short ⟨file.fh⟩) {content : Content}
    (present : backend.world.content file.fh = .ok content) (offset : UInt64) (count : UInt32) :
    (pread host file offset count).run backend =
      some (.ok ((readAtMost count content.bytes offset count).1.1,
        (readAtMost count content.bytes offset count).2), backend) := by
  have answered : backend.world.read file.fh offset count =
      .ok (readAtMost count content.bytes offset count) := by
    rw [Volume.read, present]
    rfl
  have called := call_ok served (exec_read policy file.fh offset count)
    (Proc3.encodable_read offset count short) (looking_ok answered)
  exact Prog.bind_of_ok called

/-- A write to a regular file. -/
theorem pwrite_volume (served : host.nfs = (volumeServer policy).transport) {file : OpenFile}
    (short : NfsFh3.Short ⟨file.fh⟩) {offset : UInt64} {data : Bytes} (sized : Proto.Sized data)
    {next : Volume} (written : Volume.write file.fh offset data backend.world = .ok next) :
    (pwrite host file offset data).run backend =
      some (.ok (UInt32.ofNat data.length), backend.withWorld next) := by
  have changed : changing (Volume.write file.fh offset data) backend.world = .ok ((), next) :=
    congrArg (Except.map _) written
  have called := call_ok served
    (exec_write policy file.fh offset (UInt32.ofNat data.length) Proto.unstable data)
    (Proc3.encodable_write offset (UInt32.ofNat data.length) Proto.unstable short sized) changed
  exact Prog.bind_of_ok called

/-- A commit of a regular file. -/
theorem commit_volume (served : host.nfs = (volumeServer policy).transport) {file : OpenFile}
    (short : NfsFh3.Short ⟨file.fh⟩) {content : Content}
    (present : backend.world.content file.fh = .ok content) :
    (commit host file).run backend = some (.ok (), backend) := by
  have called := call_ok served (exec_commit policy file.fh 0 0) (Proc3.encodable_commit 0 0 short)
    (looking_ok present)
  exact Prog.bind_of_ok called

end V3Backend

end LibNfs.Client
