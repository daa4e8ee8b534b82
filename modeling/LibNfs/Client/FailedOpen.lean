import LibNfs.Client.Opening

/-! # Opens that fail

An open is several requests, and one that fails after another has had its effect undoes
nothing: a new file stays where the reply has no handle of it or it is not truncated, and
NFSv4 leaves a file open. Of the flags, `exclusive` reaches the server with NFSv3 alone.
-/

namespace LibNfs.Client

namespace Opener

variable {X : Type} {opener : Opener X} {flags : OpenFlags} {outcome : Except NfsError OpenFile × X}

/-- A file that was opened fails at its truncation only. -/
theorem ends_ok_error {file : OpenFile} {x : X} {error : NfsError}
    (failed : (opener.ends flags (.ok file, x)).1 = .error error) :
    flags.truncate ∧ flags.write ∧ opener.truncated file.fh x = .error error := by
  unfold ends at failed
  dsimp only at failed
  split at failed
  · rename_i truncates
    rcases done : opener.truncated file.fh x with cause | next
    · rw [done] at failed
      cases failed
      exact ⟨truncates.1, truncates.2, rfl⟩
    · rw [done] at failed
      cases failed
  · cases failed

variable {x : X} {root : ObjId} {path : String}

theorem opens_named {dir : ObjId} {name : String}
    (last : (splitComponents path).getLast? = some name)
    (led : (opener.tree x).parent root path = .ok dir) :
    opener.opens root path flags x = opener.ends flags (opener.opened dir name flags.opts x) := by
  simp only [opens, last, led]

end Opener

/-- A new file is made. -/
def Creates (policy : Policy) (flags : OpenFlags) (dir : ObjId) (name : String) (volume : Volume) :
    Prop :=
  flags.create ∧ policy.creating = none ∧ volume.lookup dir name = .error .noent

/-- A creation that is not declined. -/
theorem Volume.create_inv {policy : Policy} {dir : ObjId} {name : String} {mode : UInt32}
    {volume : Volume} {made : FileHandle × Volume}
    (absent : volume.lookup dir name = .error .noent)
    (created : volume.create policy dir name mode = .ok made) : policy.creating = none := by
  rcases declined : policy.creating with _ | refusal
  · rfl
  · rw [create_refused absent declined] at created
    cases created

namespace V3Backend

variable {policy : Policy} {dir : ObjId} {name : String} {flags : OpenFlags} {volume : Volume}

variable {root : ObjId} {path : String}

end V3Backend

/-- The name is that of a regular file, or a new one is made. -/
def Openable (policy : Policy) (flags : OpenFlags) (dir : ObjId) (name : String) (volume : Volume) :
    Prop :=
  (∃ fh content mode, volume.lookup dir name = .ok (fh, ⟨.file content, mode⟩)) ∨
    Creates policy flags dir name volume

namespace Volume

variable {policy : Policy} {flags : OpenFlags} {dir : ObjId} {name : String} {volume : Volume}

theorem lookup4_legal (legal : Legal name) : volume.lookup4 dir name = volume.lookup dir name :=
  if_pos legal

/-- `OPEN` opens a regular file. -/
theorem open4_ok (legal : Legal name) (openable : Openable policy flags dir name volume) :
    ∃ fh next content mode, volume.open4 policy dir name (Proto.Compound.how flags.create) =
      .ok (fh, next) ∧ next.find fh.1 = .ok ⟨.file content, mode⟩ := by
  unfold open4
  rw [lookup4_legal legal]
  rcases openable with ⟨fh, content, mode, found⟩ | ⟨create, allowed, absent⟩
  · obtain ⟨-, -, -, present⟩ := lookup_inv found
    refine ⟨fh, volume, content, mode, ?_, present⟩
    simp only [found]
    cases flags.create <;> rfl
  · obtain ⟨next, made, present, -⟩ := @create_ok volume policy dir name 0 absent allowed
    refine ⟨_, next, _, _, ?_, present⟩
    rw [absent, create]
    exact made

/-- `OPEN` opens nothing else. -/
theorem open4_inv {fh : FileHandle} {next : Volume}
    (opened : volume.open4 policy dir name (Proto.Compound.how flags.create) = .ok (fh, next)) :
    Legal name ∧ Openable policy flags dir name volume := by
  unfold open4 at opened
  by_cases legal : Legal name
  · refine ⟨legal, ?_⟩
    rw [lookup4_legal legal] at opened
    rcases looked : volume.lookup dir name with status | ⟨entry, body, mode⟩
    · simp only [looked] at opened
      cases status with
      | noent =>
          rcases create : flags.create with _ | _
          · rw [create] at opened
            cases opened
          · rw [create] at opened
            exact .inr ⟨create, create_inv looked opened, looked⟩
      | _ => cases opened
    · simp only [looked] at opened
      cases body with
      | file content => exact .inl ⟨entry, content, mode, looked⟩
      | dir names => cases create : flags.create <;> rw [create] at opened <;> cases opened
      | link target => cases create : flags.create <;> rw [create] at opened <;> cases opened
  · rw [lookup4, if_neg legal] at opened
    cases opened

end Volume

namespace Store

variable {policy : Policy} {dir : ObjId} {name : String} {access : UInt32} {how : Proto.OpenHow}
  {store : Store}

theorem open_eq {fh : FileHandle} {volume : Volume}
    (opened : store.volume.open4 policy dir name how = .ok (fh, volume)) :
    store.open policy dir name access how =
      .ok ((fh, store.enlist policy fh.1 access),
        ⟨volume, Function.update store.opens fh.1 (some (store.enlist policy fh.1 access))⟩) := by
  rw [Store.open, opened]
  rfl

theorem open_error {status : Status}
    (refused : store.volume.open4 policy dir name how = .error status) :
    store.open policy dir name access how = .error status := by
  rw [Store.open, refused]
  rfl

end Store

/-- Only `EXIST` says that a name is there. -/
theorem fromNfsstat4_ne {code : UInt32} (other : code ≠ 17) :
    NfsError.fromNfsstat4 code ≠ .alreadyExists := by
  unfold NfsError.fromNfsstat4
  rw [if_neg other]
  split_ifs <;> (intro same; cases same)

namespace V4Backend

variable {policy : Policy} {dir : ObjId} {name : String} {flags : OpenFlags} {store : Store}

/-- What follows `OPEN` fails: a delegation is granted, or the confirmation is declined. -/
def Unsettles (policy : Policy) : Prop :=
  policy.delegation.isSome ∨ ∃ refusal, policy.confirming = some (some refusal)

theorem settled_error {fh : FileHandle} {record : OpenRec} (unsettles : Unsettles policy) :
    ∃ error, settled policy fh record store = (.error error, store) ∧
      NfsError.ofProto error ≠ .alreadyExists := by
  unfold settled
  by_cases granted : policy.delegation.isSome
  · refine ⟨delegated, if_pos granted, ?_⟩
    intro same
    cases same
  · obtain ⟨refusal, declined⟩ := unsettles.resolve_left granted
    refine ⟨.nfs4 refusal.code, ?_, fromNfsstat4_ne refusal.other⟩
    rw [if_neg granted, Store.confirm]
    simp only [declined]
    rfl

/-- The record of a file that stays open. -/
structure Follows (record later : OpenRec) : Prop where
  access : later.access = record.access
  stateid : later.stateid = record.stateid ∨ later.stateid = bumped record.stateid

theorem settled_ok {fh : FileHandle} {record : OpenRec} (settles : ¬ Unsettles policy)
    (held : store.opens fh.1 = some record) :
    ∃ later, settled policy fh record store =
        (.ok later.stateid, ⟨store.volume, Function.update store.opens fh.1 (some later)⟩) ∧
      Follows record later := by
  have plain : ¬ policy.delegation.isSome := fun granted => settles (.inl granted)
  unfold settled
  rw [if_neg plain]
  rcases asks : policy.confirming with _ | _ | refusal
  · refine ⟨record, ?_, rfl, .inl rfl⟩
    rw [← held, Function.update_eq_self]
    rfl
  · refine ⟨{ record with stateid := bumped record.stateid }, ?_, rfl, .inr rfl⟩
    simp only [Store.confirm, asks, Store.record, held, Option.isSome_some, ↓reduceIte]
    rfl
  · exact absurd (.inr ⟨refusal, asks⟩) settles

/-- An open of a regular file, or of a new one. -/
theorem opened4_opens (short : dir.length ≤ 64) (sized : Proto.Sized (Xdr.asBytes name))
    (legal : Legal name) (openable : Openable policy flags dir name store.volume) :
    ∃ fh record next content mode, opened4 policy dir name flags.opts store =
        ((((settled policy fh record next).1.mapError .ofProto).map fun stateid =>
          ⟨fh.1, some stateid, flags.write⟩), (settled policy fh record next).2) ∧
      record = store.enlist policy fh.1 (share flags.opts) ∧ next.opens fh.1 = some record ∧
      next.volume.find fh.1 = .ok ⟨.file content, mode⟩ := by
  obtain ⟨fh, volume, content, mode, opened, present⟩ := Volume.open4_ok legal openable
  obtain ⟨c, sent⟩ := naming_ok (Nat.le_trans short (by decide) : Proto.NfsFh4.Short ⟨dir⟩) sized
  have granted := @Store.open_eq policy dir name (share flags.opts) _ store fh volume opened
  obtain ⟨record, enlisted⟩ : ∃ record, record = store.enlist policy fh.1 (share flags.opts) :=
    ⟨_, rfl⟩
  rw [← enlisted] at granted
  refine ⟨fh, record, ⟨volume, Function.update store.opens fh.1 (some record)⟩, content, mode, ?_,
    enlisted, Function.update_self .., present⟩
  have create : flags.opts.create = flags.create := rfl
  simp only [opened4, sent, create, granted]
  rfl

theorem truncated4_refused {fh : ObjId} {content : Content} {mode : UInt32} {refusal : Refusal}
    (present : store.volume.find fh = .ok ⟨.file content, mode⟩)
    (declined : policy.truncating = some refusal) :
    (opener4 policy).truncated fh store = .error (wire4.fails (.refused refusal)) := by
  simp only [opener4, Volume.setattr_file present, declined]
  rfl

theorem truncated4_ok {fh : ObjId} {content : Content} {mode : UInt32}
    (present : store.volume.find fh = .ok ⟨.file content, mode⟩)
    (allowed : policy.truncating = none) :
    ∃ next, (opener4 policy).truncated fh store = .ok next := by
  refine ⟨⟨store.volume.put fh ⟨.file (Volume.resize content 0), mode⟩, store.opens⟩, ?_⟩
  simp only [opener4, Volume.setattr_file present, allowed]
  rfl

variable {root : ObjId} {path : String}

theorem truncated4_fails_iff {fh : ObjId} {content : Content} {mode : UInt32}
    (present : store.volume.find fh = .ok ⟨.file content, mode⟩) :
    (∃ error, (opener4 policy).truncated fh store = .error error) ↔ policy.truncating.isSome := by
  constructor
  · rintro ⟨error, refused⟩
    by_contra allowed
    obtain ⟨next, done⟩ := truncated4_ok present (Option.not_isSome_iff_eq_none.mp allowed)
    rw [done] at refused
    cases refused
  · intro declines
    obtain ⟨refusal, declined⟩ := Option.isSome_iff_exists.mp declines
    exact ⟨_, truncated4_refused present declined⟩

end V4Backend

/-- An open that is exclusive finds the name with NFSv3. -/
theorem V3Backend.opened_exclusive {policy : Policy} {dir : ObjId} {name : String}
    {flags : OpenFlags} {volume : Volume} (short : dir.length ≤ 64)
    (sized : Proto.Sized (Xdr.asBytes name)) (create : flags.create) (exclusive : flags.exclusive)
    {found : FileHandle × Node} (there : volume.lookup dir name = .ok found) :
    opened policy dir name flags.opts volume = (.error .alreadyExists, volume) := by
  have sent : wire3.sendsName dir name = .ok () := sendsName_ok short sized
  have guarded : createHow flags.opts = .guarded { mode := some flags.opts.mode } :=
    if_pos exclusive
  have creating : flags.opts.create = true := create
  have taken : volume.create3 policy dir name (createHow flags.opts) = .error .exist := by
    rw [guarded]
    simp only [Volume.create3, there]
  simp only [opened, if_pos creating, sent, taken]
  rfl

/-- A name that cannot be sent is not found. -/
theorem V3Backend.opened_unsized {policy : Policy} {dir : ObjId} {name : String}
    {flags : OpenFlags} {volume : Volume} (long : ¬ Proto.Sized (Xdr.asBytes name))
    (create : flags.create) :
    ∃ error, opened policy dir name flags.opts volume = (.error error, volume) ∧
      error ≠ .alreadyExists := by
  rcases sendsName_cases dir name with ⟨-, sized, -⟩ | ⟨error, refused⟩
  · exact absurd sized long
  · refine ⟨.proto (.rpc (.xdr error)), ?_, ?_⟩
    · have creating : flags.opts.create = true := create
      simp only [opened, if_pos creating, wire3, refused]
      rfl
    · intro same
      cases same

namespace V4Backend

variable {policy : Policy} {dir : ObjId} {name : String} {flags : OpenFlags} {store : Store}

/-- `OPEN` of a name that is there does not fail with `EXIST`: it is not told that the open is
exclusive. -/
theorem open4_there {fh : FileHandle} {node : Node} {status : Status} (create : flags.create)
    (there : store.volume.lookup dir name = .ok (fh, node))
    (refused : store.volume.open4 policy dir name (Proto.Compound.how flags.create) =
      .error status) : status.code ≠ 17 := by
  unfold Volume.open4 at refused
  rw [create] at refused
  by_cases legal : Legal name
  · rw [Volume.lookup4_legal legal, there] at refused
    obtain ⟨body, mode⟩ := node
    cases body with
    | file content => cases refused
    | dir names =>
        cases refused
        decide
    | link target =>
        cases refused
        decide
  · rw [Volume.lookup4, if_neg legal] at refused
    cases refused
    decide

theorem ends_there {fh : FileHandle} {content : Content} {mode : UInt32}
    {stateid : Proto.Stateid4} {next : Store}
    (present : next.volume.find fh.1 = .ok ⟨.file content, mode⟩) :
    ((opener4 policy).ends flags (.ok ⟨fh.1, some stateid, flags.write⟩, next)).1 ≠
      .error .alreadyExists := by
  intro failed
  obtain ⟨-, -, refused⟩ := Opener.ends_ok_error failed
  obtain ⟨refusal, declined⟩ :=
    Option.isSome_iff_exists.mp ((truncated4_fails_iff present).mp ⟨_, refused⟩)
  rw [truncated4_refused present declined] at refused
  exact fromNfsstat4_ne refusal.other (Except.error.inj refused)

theorem opened4_there {fh : FileHandle} {node : Node} (short : dir.length ≤ 64)
    (create : flags.create) (there : store.volume.lookup dir name = .ok (fh, node)) :
    ((opener4 policy).ends flags (opened4 policy dir name flags.opts store)).1 ≠
      .error .alreadyExists := by
  by_cases opens : Proto.Sized (Xdr.asBytes name) ∧ Legal name ∧
    Openable policy flags dir name store.volume
  · obtain ⟨sized, legal, openable⟩ := opens
    obtain ⟨file, record, next, content, mode, opened, -, held, present⟩ :=
      opened4_opens short sized legal openable
    rw [opened]
    by_cases unsettles : Unsettles policy
    · obtain ⟨error, settles, other⟩ := @settled_error policy next file record unsettles
      rw [settles]
      exact fun failed => other (Except.error.inj failed)
    · obtain ⟨later, settles, -⟩ := settled_ok unsettles held
      rw [settles]
      exact ends_there present
  · unfold opened4
    rcases naming_cases dir name with ⟨-, sized, c, sent⟩ | ⟨error, unsent⟩
    · rcases decided : store.volume.open4 policy dir name (Proto.Compound.how flags.create) with
        status | ⟨file, volume⟩
      · have failed := @Store.open_error policy dir name (share flags.opts) _ store status decided
        have creating : flags.opts.create = flags.create := rfl
        simp only [sent, creating, failed]
        exact fun same => fromNfsstat4_ne (open4_there create there decided) (Except.error.inj same)
      · exact absurd ⟨sized, Volume.open4_inv decided⟩ opens
    · simp only [unsent]
      intro same
      cases same

end V4Backend

namespace NfsContext

variable {policy : Policy} {host : Host Volume}

/-- An exclusive open of a name that is there fails with `AlreadyExists`, and leaves what has the
name as it was, exactly with NFSv3 and a name that can be sent; with NFSv4 it never does. -/
theorem open_exclusive_iff (served : host.nfs = (volumeServer policy).transport)
    (root : FileHandle) {path name : String} {flags : OpenFlags} {dir dir4 : ObjId}
    {found found4 : FileHandle × Node} {client : V3Backend Volume} {store : Store}
    {client4 : V4Backend Shelf} (attached : V4Backend.Attached store client4)
    (last : (splitComponents path).getLast? = some name) (create : flags.create)
    (exclusive : flags.exclusive) (led : (client.world.tree wire3).parent root.1 path = .ok dir)
    (there : client.world.lookup dir name = .ok found)
    (led4 : (store.volume.tree wire4).parent root.1 path = .ok dir4)
    (there4 : store.volume.lookup dir4 name = .ok found4) :
    ((∃ final, (NfsContext.open (V3Backend.backend host).toBackend root.1 path flags).run client =
        some (.error .alreadyExists, final) ∧ final.world.find found.1.1 = .ok found.2) ↔
      Proto.Sized (Xdr.asBytes name)) ∧
    ¬ ∃ final, (NfsContext.open (V4Backend.backend (volumeServer4 policy).transport).toBackend
        root.1 path flags).run client4 = some (.error .alreadyExists, final) ∧
      final.nfs.rpc.store.volume.find found4.1.1 = .ok found4.2 := by
  constructor
  · have isOn : V3Backend.On client.rsize client.wsize client.world client := ⟨rfl, rfl, rfl⟩
    obtain ⟨next, ran, after⟩ := open_eq_opens (V3Backend.realizes_volume served) root.1 path flags
      isOn
    have opens : (opener3 policy).opens root.1 path flags client.world =
        (opener3 policy).ends flags (V3Backend.opened policy dir name flags.opts client.world) :=
      Opener.opens_named last led
    rw [opens] at ran after
    constructor
    · rintro ⟨final, ended, -⟩
      by_contra long
      obtain ⟨error, unsent, other⟩ := @V3Backend.opened_unsized policy dir name flags client.world
        long create
      rw [unsent] at ran
      rw [ran] at ended
      exact other (Except.error.inj (congrArg Prod.fst (Option.some.inj ended)))
    · intro sized
      have exists' := @V3Backend.opened_exclusive policy dir name flags client.world
        (Volume.parent_handle root.2 led) sized create exclusive found there
      rw [exists'] at ran after
      refine ⟨next, ran, ?_⟩
      rw [show next.world = client.world from after.world]
      obtain ⟨-, -, -, present⟩ := Volume.lookup_inv there
      exact present
  · obtain ⟨next, ran, -⟩ := open_eq_opens (@V4Backend.realizes_volume4 policy) root.1 path flags
      attached
    rintro ⟨final, ended, -⟩
    rw [ran] at ended
    have failed := congrArg Prod.fst (Option.some.inj ended)
    have opens : (opener4 policy).opens root.1 path flags store =
        (opener4 policy).ends flags (V4Backend.opened4 policy dir4 name flags.opts store) :=
      Opener.opens_named last led4
    rw [opens] at failed
    exact V4Backend.opened4_there (Volume.parent_handle root.2 led4) create there4 failed

/-- A server that declines nothing, with no file open. -/
def linkedStore : Store :=
  ⟨linkedVolume, fun _ => none⟩

def linkedRoot : FileHandle :=
  ⟨[0], by decide⟩

def linkedClient4 : V4Backend Shelf :=
  .new ⟨⟨linkedStore, ⟨⟨[0]⟩, by decide⟩⟩, 0, 1, Proto.uniqueOwner 1 1, 0, 0, none, 0⟩

theorem attached_linkedClient4 : V4Backend.Attached linkedStore linkedClient4 :=
  ⟨⟨.inl rfl, 1, 1, rfl⟩, rfl, by decide, by decide⟩

/-- A file that must not be there yet, and is emptied. -/
def exclusiveFlags : OpenFlags where
  write := true
  create := true
  exclusive := true
  truncate := true

/-- NFSv3 finds that the file is there. -/
theorem open_exclusive_iff_linked :
    ∃ final, (NfsContext.open (V3Backend.backend linkedHost).toBackend linkedRoot.1 "/f"
      exclusiveFlags).run linkedClient = some (.error .alreadyExists, final) := by
  have served : linkedHost.nfs = (volumeServer openPolicy).transport := rfl
  have comps : splitComponents "/f" = ["f"] := by decide
  have last : (splitComponents "/f").getLast? = some "f" := by rw [comps]; rfl
  have led (wire : Wire) : (linkedVolume.tree wire).parent linkedRoot.1 "/f" = .ok [0] := by
    simp only [Tree.parent, comps, List.dropLast_singleton, Tree.walk]
    rfl
  have there : linkedVolume.lookup [0] "f" =
      .ok (⟨[1], by decide⟩, ⟨.file threeBytes, 0o644⟩) := rfl
  have both := @open_exclusive_iff openPolicy linkedHost served linkedRoot "/f" "f" exclusiveFlags
    [0] [0] _ _ linkedClient linkedStore linkedClient4 attached_linkedClient4 last rfl rfl (led wire3)
    there (led wire4) there
  obtain ⟨final, ran, -⟩ := both.1.mpr (by decide)
  exact ⟨final, ran⟩

/-- NFSv4 opens the file that is there, and empties it. -/
theorem open_takes_existing :
    ∃ file final, (NfsContext.open (V4Backend.backend (volumeServer4 openPolicy).transport).toBackend
        [0] "/f" exclusiveFlags).run linkedClient4 = some (.ok file, final) ∧
      linkedStore.volume.contentOf [1] = threeBytes ∧
      (final.nfs.rpc.store.volume.contentOf [1]).bytes = [] := by
  have ended : ((NfsContext.open (V4Backend.backend (volumeServer4 openPolicy).transport).toBackend
      [0] "/f" exclusiveFlags).run linkedClient4).map (fun ended =>
        (ended.1, (ended.2.nfs.rpc.store.volume.contentOf [1]).bytes)) =
      some (.ok ⟨[1], some ⟨1, Vector.replicate 12 1⟩, true⟩, []) := by decide +kernel
  obtain ⟨⟨result, final⟩, ran, same⟩ := Option.map_eq_some_iff.mp ended
  obtain ⟨rfl, emptied⟩ := Prod.mk.inj same
  exact ⟨_, final, ran, rfl, emptied⟩

end NfsContext

end LibNfs.Client
