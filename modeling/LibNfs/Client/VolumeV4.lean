import LibNfs.Client.BackendV4
import LibNfs.Client.Volume
import LibNfs.Proto.AttrSets
import LibNfs.Proto.Conformance

/-! # NFSv4 over the files of a server

A server of NFSv4 operations for the files of a volume. It remembers the files that
its one client has open and the access that each was opened for, and grants no other.
-/

namespace LibNfs.Client

open Proto (ArgOp Attribute Success OpServer Failure Handle NfsFh4 Nfs4 OpenHow OpenRes Stateid4
  Fattr4 WriteRes)

/-- The failure that an operation ends with. -/
def Status.failure (status : Status) : Failure :=
  ⟨status.code, status.bad⟩

/-- An open file: its stateid, and the access it was opened for. -/
structure OpenRec where
  stateid : Stateid4
  access : UInt32
  deriving DecidableEq, Repr

/-- The files of a server, and those that its client has open. -/
structure Store where
  volume : Volume
  opens : ObjId → Option OpenRec

/-- The state of a server: what it stores, and the object that the operations of a request
are about. -/
structure Shelf where
  store : Store
  current : Handle

/-- The current object. -/
def Shelf.fh (shelf : Shelf) : ObjId :=
  shelf.current.fh.data

/-- The stateid after a change. -/
def bumped (stateid : Stateid4) : Stateid4 :=
  { stateid with seqid := stateid.seqid + 1 }

/-- The handle as NFSv4 sends it. -/
def FileHandle.handle (fh : FileHandle) : Handle :=
  ⟨⟨fh.1⟩, Nat.le_trans fh.2 (by decide)⟩

/-- The type, the size and the mode. -/
def Node.fattr4 (node : Node) : Fattr4 where
  ftype := some node.body.ftype
  size := some (UInt64.ofNat node.body.size)
  mode := some node.mode

/-- The client is shown the attributes of the object. -/
theorem Node.fromFattr4 (node : Node) : Attr.fromFattr4 node.fattr4 = node.attr := by
  obtain ⟨body, mode⟩ := node
  cases body <;> rfl

/-- The bits of the type, the size and the mode. -/
def shownBits : List UInt32 := [18, 2]

theorem bitSet_shownBits (bit : Nat) :
    Proto.bitSet shownBits bit = decide (bit = 1 ∨ bit = 4 ∨ bit = 33) := by
  by_cases inside : bit < 64
  · have each : ∀ bit < 64,
        Proto.bitSet shownBits bit = decide (bit = 1 ∨ bit = 4 ∨ bit = 33) := by decide
    exact each bit inside
  · have outside : ¬ bit / 32 < 2 := by omega
    have other : ¬ (bit = 1 ∨ bit = 4 ∨ bit = 33) := by omega
    simp [Proto.bitSet, shownBits, outside, other]

/-- The bits that are set are those of the attributes that are shown. -/
theorem Node.describes (node : Node) : Fattr4.Describes shownBits node.fattr4 := by
  intro bit
  rw [bitSet_shownBits]
  have word (other : UInt32) : bit.toNat = other.toNat ↔ bit = other := UInt32.toNat_inj
  have one := word Proto.fattr4Type
  have four := word Proto.fattr4Size
  have mode := word Proto.fattr4Mode
  change bit.toNat = 1 ↔ _ at one
  change bit.toNat = 4 ↔ _ at four
  change bit.toNat = 33 ↔ _ at mode
  simp only [one, four, mode]
  by_cases isType : bit = Proto.fattr4Type
  · rw [isType]
    rfl
  by_cases isSize : bit = Proto.fattr4Size
  · rw [isSize]
    rfl
  by_cases isMode : bit = Proto.fattr4Mode
  · rw [isMode]
    rfl
  simp [isType, isSize, isMode, Fattr4.value, Node.fattr4]

/-- The attributes that are shown have few bytes. -/
theorem Node.sized (node : Node) : Proto.Sized (node.fattr4.values shownBits) := by
  have bits : Proto.attributesOf shownBits = [1, 4, 33] := by decide
  rw [Fattr4.values, bits]
  exact Nat.lt_of_le_of_lt (Nat.le_refl 16) (by decide)

theorem shownBits_short : shownBits.length < 2 ^ 27 := by decide

/-- The attributes that are shown, when they are all asked for. -/
def Node.attrs (node : Node) (asked : List Nat) : Proto.Attrs asked :=
  if all : ∀ bit ∈ Proto.attributesOf shownBits, bit ∈ asked then
    ⟨shownBits, node.fattr4, all, node.describes, Fattr4.fits_of_unowned rfl rfl, shownBits_short,
      node.sized⟩
  else
    Proto.Method.noAttrs asked

/-- `NFS4ERR_BADNAME`. -/
def badName : Refusal :=
  ⟨10041, by decide, by decide⟩

/-- What may stand for an object in a directory: NFSv4 has no `.` and `..`. -/
def Legal (name : String) : Prop :=
  name ≠ "." ∧ name ≠ ".."

instance (name : String) : Decidable (Legal name) :=
  inferInstanceAs (Decidable (_ ∧ _))

/-- The mode among some attributes. -/
def modeIn (attrs : List Attribute) : Option UInt32 :=
  attrs.findSome? fun
    | .mode mode => some mode
    | _ => none

/-- The size among some attributes. -/
def sizeIn (attrs : List Attribute) : Option UInt64 :=
  attrs.findSome? fun
    | .size size => some size
    | _ => none

namespace Volume

variable (policy : Policy) (dir : ObjId) (name : String) (volume : Volume)

/-- The object of a legal name. -/
def lookup4 : Except Status (FileHandle × Node) :=
  if Legal name then volume.lookup dir name else .error (.refused badName)

/-- The file that `OPEN` finds or creates: only a regular file is opened. -/
def open4 (how : OpenHow) : Except Status (FileHandle × Volume) :=
  match volume.lookup4 dir name with
  | .ok (fh, node) =>
      match how, node.body with
      | .guarded _, _ | .exclusive _, _ => .error .exist
      | .nocreate, .file _ | .unchecked _, .file _ => .ok (fh, volume)
      | .nocreate, .dir _ | .unchecked _, .dir _ => .error .isdir
      | .nocreate, .link _ | .unchecked _, .link _ => .error .symlink
  | .error .noent =>
      match how with
      | .nocreate => .error .noent
      | .unchecked attrs | .guarded attrs => volume.create policy dir name ((modeIn attrs).getD 0)
      | .exclusive _ => volume.create policy dir name 0
  | .error status => .error status

end Volume

namespace Store

variable (policy : Policy) (fh : ObjId) (stateid : Stateid4) (store : Store)

/-- The record of a file that is opened: for an open file, the access is added to what it
has, and the stateid changes. -/
def enlist (access : UInt32) : OpenRec :=
  match store.opens fh with
  | none => ⟨policy.stateid fh, access⟩
  | some record => ⟨bumped record.stateid, record.access ||| access⟩

/-- Opens a file and puts it on record. -/
def «open» (dir : ObjId) (name : String) (access : UInt32) (how : OpenHow) :
    Except Status ((FileHandle × OpenRec) × Store) := do
  let (fh, volume) ← store.volume.open4 policy dir name how
  let record := store.enlist policy fh.1 access
  return ((fh, record), ⟨volume, Function.update store.opens fh.1 (some record)⟩)

/-- The record that a stateid stands for. -/
def record : Except Status OpenRec :=
  match store.opens fh with
  | some record => if record.stateid = stateid then .ok record else .error .badStateid
  | none => .error .badStateid

/-- Confirms an open, unless the server declines. -/
def confirm : Except Status (Stateid4 × Store) :=
  match policy.confirming with
  | some (some refusal) => .error (.refused refusal)
  | some none | none => do
      let record ← store.record fh stateid
      let record := { record with stateid := bumped stateid }
      return (record.stateid, { store with opens := Function.update store.opens fh (some record) })

/-- Takes a file off the record. -/
def close : Except Status (Stateid4 × Store) := do
  let _ ← store.record fh stateid
  return (bumped stateid, { store with opens := Function.update store.opens fh none })

/-- Whether a file may be accessed: by the stateid of an open file as it was opened, and by
the anonymous one. -/
def allows (access : UInt32) : Except Status Unit :=
  match store.record fh stateid with
  | .ok record => if record.access &&& access ≠ 0 then .ok () else .error .openmode
  | .error status => if stateid = Stateid4.default then .ok () else .error status

/-- Reads a file that was opened for reading. -/
def read (offset : UInt64) (count : UInt32) : Except Status (Proto.Data × Bool) := do
  store.allows fh stateid Proto.open4ShareAccessRead
  store.volume.read fh offset count

/-- Writes a file that was opened for writing. -/
def write (offset : UInt64) (data : Bytes) : Except Status Store := do
  store.allows fh stateid Proto.open4ShareAccessWrite
  let volume ← Volume.write fh offset data store.volume
  return { store with volume := volume }

/-- Sets the mode and the size. -/
def setattr (attrs : List Attribute) : Except Status Store := do
  let volume ← Volume.setattr policy fh (modeIn attrs) (sizeIn attrs) store.volume
  return { store with volume := volume }

end Store

/-- `OPEN4resok`. -/
def Policy.openRes (policy : Policy) (record : OpenRec) : OpenRes :=
  ⟨record.stateid, ⟨false, 0, 0⟩,
    if policy.confirming.isSome then Proto.open4ResultConfirm else 0, Proto.Bitmap.empty⟩

/-- What an operation comes to. -/
def Shelf.outcome (policy : Policy) (shelf : Shelf) :
    (op : ArgOp) → Except Failure (Success op × Shelf)
  | .putfh fh =>
      if short : fh.Short then .ok (⟨(), ()⟩, { shelf with current := ⟨fh, short⟩ })
      else .error (Status.failure .stale)
  | .getfh => .ok (⟨shelf.current, ()⟩, shelf)
  | .lookup name =>
      match shelf.store.volume.lookup4 shelf.fh name with
      | .ok (fh, _) => .ok (⟨(), ()⟩, { shelf with current := fh.handle })
      | .error status => .error status.failure
  | .getattr asked =>
      match shelf.store.volume.find shelf.fh with
      | .ok node => .ok (⟨node.attrs asked, ()⟩, shelf)
      | .error status => .error status.failure
  | .readlink =>
      match shelf.store.volume.readlink shelf.fh with
      | .ok target => .ok (⟨target, ()⟩, shelf)
      | .error status => .error status.failure
  | .open _ access _ _ _ how name =>
      match shelf.store.open policy shelf.fh name access how with
      | .ok ((fh, record), store) =>
          .ok (⟨policy.openRes record, policy.delegation⟩, ⟨store, fh.handle⟩)
      | .error status => .error status.failure
  | .openConfirm stateid _ =>
      match shelf.store.confirm policy shelf.fh stateid with
      | .ok (stateid, store) => .ok (⟨stateid, ()⟩, { shelf with store := store })
      | .error status => .error status.failure
  | .close _ stateid =>
      match shelf.store.close shelf.fh stateid with
      | .ok (stateid, store) => .ok (⟨stateid, ()⟩, { shelf with store := store })
      | .error status => .error status.failure
  | .read stateid offset count =>
      match shelf.store.read shelf.fh stateid offset count with
      | .ok (data, eof) => .ok (⟨(eof, data), ()⟩, shelf)
      | .error status => .error status.failure
  | .write stateid offset _ data =>
      match shelf.store.write shelf.fh stateid offset data with
      | .ok store => .ok (⟨(⟨UInt32.ofNat data.length, Proto.unstable4, Vector.replicate 8 0⟩ :
          WriteRes), ()⟩, { shelf with store := store })
      | .error status => .error status.failure
  | .commit _ _ =>
      match shelf.store.volume.content shelf.fh with
      | .ok _ => .ok (⟨Vector.replicate 8 0, ()⟩, shelf)
      | .error status => .error status.failure
  | .setattr _ attrs =>
      match shelf.store.setattr policy shelf.fh attrs with
      | .ok store => .ok (⟨Proto.Bitmap.empty, ()⟩, { shelf with store := store })
      | .error status => .error status.failure
  | .sequence sessionid seqid slotid highest _ =>
      .ok (⟨⟨sessionid, seqid, slotid, highest, highest, 0⟩, ()⟩, shelf)
  | .access .. | .create .. | .link .. | .lock .. | .lockt .. | .locku .. | .putrootfh | .readdir ..
  | .remove .. | .rename .. | .renew .. | .savefh => .error Proto.notSupported

/-- The server of a volume. It does not look at the seqids of open-owners. -/
def volumeServer4 (policy : Policy) : OpServer Shelf where
  receive _ shelf := shelf
  exec op := ⟨fun shelf =>
    match shelf.outcome policy op with
    | .ok (success, next) => some (.ok success, next)
    | .error failure => some (.error failure, shelf)⟩

/-- The server attends to every request, and to every `SEQUENCE`. -/
theorem attends_volume (policy : Policy) : (volumeServer4 policy).Attends where
  receive _ _ := rfl
  sequence _ _ _ _ _ _ := ⟨_, rfl⟩

section Operations

variable {policy : Policy} {op : ArgOp} {shelf next : Shelf}

theorem exec_of_ok {success : Success op} (decided : shelf.outcome policy op = .ok (success, next)) :
    ((volumeServer4 policy).exec op).run shelf = some (.ok success, next) := by
  simp only [volumeServer4, decided]

theorem exec_of_error {failure : Failure} (decided : shelf.outcome policy op = .error failure) :
    ((volumeServer4 policy).exec op).run shelf = some (.error failure, shelf) := by
  simp only [volumeServer4, decided]

theorem exec_putfh {fh : NfsFh4} (short : fh.Short) :
    ((volumeServer4 policy).exec (.putfh fh)).run shelf =
      some (.ok ⟨(), ()⟩, { shelf with current := ⟨fh, short⟩ }) := by
  apply exec_of_ok
  exact dif_pos short

/-- A request that ends with an operation. -/
theorem perform_single {success : Success op}
    (decided : shelf.outcome policy op = .ok (success, next)) :
    ((volumeServer4 policy).perform [op]).run shelf = some (.ok (success, ()), next) :=
  OpServer.perform_cons_ok _ (exec_of_ok decided) rfl

/-- A request that fails at an operation. -/
theorem perform_refused {ops : List ArgOp} {failure : Failure}
    (decided : shelf.outcome policy op = .error failure) :
    ((volumeServer4 policy).perform (op :: ops)).run shelf = some (.error failure, shelf) :=
  OpServer.perform_fails _ (exec_of_error decided)

variable {nfs : Nfs4 Shelf} {fh : NfsFh4} {ops : List ArgOp} (short : fh.Short)

/-- A request about an object that succeeds. -/
theorem request_ok (established : nfs.Established) {results : Proto.Results ops}
    (performed : ((volumeServer4 policy).perform ops).run ⟨nfs.rpc.store, ⟨fh, short⟩⟩ =
      some (.ok results, next)) :
    (Nfs4.converse (volumeServer4 policy) (.putfh fh :: ops)).run nfs =
      some (.ok (⟨(), ()⟩, results), nfs.sentTo next) :=
  Nfs4.converse_of_ok (Nfs4.answered_of_attends (attends_volume policy) established
    (OpServer.perform_cons_ok _ (exec_putfh short) performed))

/-- A request about an object that fails. -/
theorem request_fails (established : nfs.Established) {status : Status} {handle : Handle}
    (performed : ((volumeServer4 policy).perform ops).run ⟨nfs.rpc.store, ⟨fh, short⟩⟩ =
      some (.error status.failure, ⟨nfs.rpc.store, handle⟩)) :
    ∃ after, (Nfs4.converse (volumeServer4 policy) (.putfh fh :: ops)).run nfs =
        some (.error (.nfs4 status.code), after) ∧
      after.Established ∧ after.rpc.store = nfs.rpc.store := by
  have failing (state : Shelf) (same : state.store = nfs.rpc.store) : ∃ after,
      ((volumeServer4 policy).perform (.putfh fh :: ops)).run state =
        some (.error status.failure, after) ∧ after.store = nfs.rpc.store := by
    refine ⟨⟨nfs.rpc.store, handle⟩, ?_, rfl⟩
    refine OpServer.perform_cons_error _ (exec_putfh short) ?_
    rw [same]
    exact performed
  exact Nfs4.converse_fails (attends_volume policy) failing established rfl

end Operations

/-- What there is to say before a request is sent. -/
def sent4 : Except Xdr.XdrError Proto.Compound → Except NfsError Unit
  | .ok _ => .ok ()
  | .error error => .error (.proto (.xdr error))

/-- The part of a request that names an object of a directory. -/
def naming (dir : ObjId) (name : String) : Except Xdr.XdrError Proto.Compound := do
  let c ← Proto.Compound.new.putfh ⟨dir⟩
  c.lookup name

/-- NFSv4 as a version of the protocol. -/
def wire4 : Wire where
  sends fh := sent4 (Proto.Compound.new.putfh ⟨fh⟩)
  sendsName dir name := do
    sent4 (naming dir name)
    if Legal name then .ok () else .error (.fromNfsstat4 badName.code)
  fails status := .fromNfsstat4 status.code

section Sending

open Proto.Compound

/-- A handle is sent or it is too long. -/
theorem sends4_cases (fh : ObjId) :
    (NfsFh4.Short ⟨fh⟩ ∧ wire4.sends fh = .ok ()) ∨
      ∃ error, new.putfh ⟨fh⟩ = .error error := by
  by_cases short : NfsFh4.Short ⟨fh⟩
  · left
    obtain ⟨c, built, -⟩ := holds_new.step (adds_putfh short)
    refine ⟨short, ?_⟩
    simp only [wire4, built]
    rfl
  · right
    have exceeds : 128 < Xdr.SizedTy.xdrLen .bytes fh := Nat.not_le.mp short
    refine ⟨.limitExceeded (Xdr.SizedTy.xdrLen .bytes fh) 128, ?_⟩
    simp [putfh, put, Xdr.XdrEncode.encode, NfsFh4.ty, Xdr.Ty.encode, Xdr.Fields.encode,
      Coding.encodePair, Xdr.encodeLimited, exceeds, bind, Except.bind]

/-- A short handle and a name with a length prefix are sent. -/
theorem naming_ok {dir : ObjId} {name : String} (short : NfsFh4.Short ⟨dir⟩)
    (sized : Proto.Sized (Xdr.asBytes name)) : ∃ c, naming dir name = .ok c := by
  obtain ⟨c, built, -⟩ := holds_new.andThen (adds_putfh short) fun _ holds =>
    holds.step (adds_lookup sized)
  exact ⟨c, built⟩

/-- A name in a directory is sent, or one of them is too long. -/
theorem naming_cases (dir : ObjId) (name : String) :
    (NfsFh4.Short ⟨dir⟩ ∧ Proto.Sized (Xdr.asBytes name) ∧ ∃ c, naming dir name = .ok c) ∨
      ∃ error, naming dir name = .error error := by
  rcases sends4_cases dir with ⟨short, -⟩ | ⟨error, refused⟩
  · by_cases sized : Proto.Sized (Xdr.asBytes name)
    · exact .inl ⟨short, sized, naming_ok short sized⟩
    · right
      obtain ⟨error, refused⟩ := Nfs4.put_long sized
      refine ⟨error, ?_⟩
      have put := put_of_writes (NfsFh4.writes short)
      simp [naming, putfh, lookup, put, refused, bind, Except.bind]
  · right
    refine ⟨error, ?_⟩
    rw [naming, refused]
    rfl

end Sending

attribute [local simp] Shelf.outcome Shelf.fh

theorem Node.attrs_requested (node : Node) :
    (node.attrs Nfs4.requested).attrs = node.fattr4 := by
  have all : ∀ bit ∈ Proto.attributesOf shownBits, bit ∈ Nfs4.requested := by decide
  rw [Node.attrs, dif_pos all]

theorem Volume.find_of_lookup4 {volume : Volume} {dir : ObjId} {name : String} {fh : FileHandle}
    {node : Node} (found : volume.lookup4 dir name = .ok (fh, node)) :
    volume.find fh.1 = .ok node := by
  rw [Volume.lookup4] at found
  split at found
  · obtain ⟨-, -, -, present⟩ := lookup_inv found
    exact present
  · cases found

namespace V4Backend

/-- The client of a server with this store, after the handshake. -/
structure Attached (store : Store) (backend : V4Backend Shelf) : Prop where
  established : backend.nfs.Established
  stores : backend.nfs.rpc.store = store
  reads : 0 < backend.rsize
  writes : 0 < backend.wsize

variable {policy : Policy} {store : Store} {backend : V4Backend Shelf}

/-- The client after a request. -/
theorem Attached.after {nfs : Nfs4 Shelf} {next : Store} (attached : Attached store backend)
    (established : nfs.Established) (stores : nfs.rpc.store = next) :
    Attached next { backend with nfs := nfs } :=
  ⟨established, stores, attached.reads, attached.writes⟩

/-- A method whose request fails. -/
theorem request_error (attached : Attached store backend) {fh : NfsFh4} (short : fh.Short)
    {α : Type} {body : Prog (Nfs4 Shelf) Proto.ProtoError α} {ops : List ArgOp}
    {follow : Proto.Results (.putfh fh :: ops) → Prog (Nfs4 Shelf) Proto.ProtoError α}
    (same : body.run backend.nfs =
      (Nfs4.converse (volumeServer4 policy) (.putfh fh :: ops) >>= follow).run backend.nfs)
    {status : Status} {handle : Handle}
    (performed : ((volumeServer4 policy).perform ops).run ⟨store, ⟨fh, short⟩⟩ =
      some (.error status.failure, ⟨store, handle⟩)) :
    ∃ next, (within body).run backend = some (.error (wire4.fails status), next) ∧
      Attached store next := by
  have stores := attached.stores
  subst stores
  obtain ⟨nfs, conversed, established, kept⟩ := request_fails short attached.established performed
  exact ⟨_, within_error (same.trans (Prog.bind_of_error conversed)),
    attached.after established kept⟩

/-- A method whose request succeeds. -/
theorem request_value (attached : Attached store backend) {fh : NfsFh4} (short : fh.Short)
    {α : Type} {body : Prog (Nfs4 Shelf) Proto.ProtoError α} {ops : List ArgOp}
    {value : Proto.Results (.putfh fh :: ops) → α}
    (same : body.run backend.nfs =
      (do
        let results ← Nfs4.converse (volumeServer4 policy) (.putfh fh :: ops)
        return value results).run backend.nfs)
    {results : Proto.Results ops} {final : Shelf}
    (performed : ((volumeServer4 policy).perform ops).run ⟨store, ⟨fh, short⟩⟩ =
      some (.ok results, final)) :
    ∃ next, (within body).run backend = some (.ok (value (⟨(), ()⟩, results)), next) ∧
      Attached final.store next := by
  have stores := attached.stores
  subst stores
  have conversed := request_ok short attached.established performed
  exact ⟨_, within_ok (same.trans (Prog.bind_of_ok conversed)),
    attached.after (attached.established.sentTo final) rfl⟩

section Unsent

variable {τ : Type} {transport : Proto.Transport τ} {nfs : Nfs4 τ} {dir : ObjId} {name : String}
  {error : Xdr.XdrError}

/-- A name that cannot be sent is not looked up. -/
theorem lookup_unsent (refused : naming dir name = .error error) :
    (Nfs4.lookup transport ⟨dir⟩ name).run nfs = some (.error (.xdr error), nfs) := by
  apply Nfs4.unbuilt
  rw [← bind_assoc]
  change naming dir name >>= _ = _
  rw [refused]
  rfl

/-- A link whose handle cannot be sent is not read. -/
theorem readlink_unsent (refused : Proto.Compound.new.putfh ⟨dir⟩ = .error error) :
    (Nfs4.readlink transport ⟨dir⟩).run nfs = some (.error (.xdr error), nfs) := by
  apply Nfs4.unbuilt
  rw [refused]
  rfl

/-- A file whose name cannot be sent is not asked for. -/
theorem open_unsent (refused : naming dir name = .error error) (established : nfs.Established)
    (shareAccess : UInt32) (create : Bool) :
    (Nfs4.open transport ⟨dir⟩ name shareAccess create).run nfs =
      some (.error (.xdr error), nfs) := by
  rw [Nfs4.open, Prog.bind_of_ok (rfl : Prog.get.run nfs = _)]
  refine Nfs4.unbuilt ?_ _
  rcases sends4_cases dir with ⟨short, -⟩ | ⟨other, long⟩
  · by_cases sized : Proto.Sized (Xdr.asBytes name)
    · obtain ⟨c, sent⟩ := naming_ok short sized
      rw [sent] at refused
      cases refused
    · obtain ⟨cause, unput⟩ := Nfs4.put_long sized
      have put := Proto.Compound.put_of_writes (Proto.NfsFh4.writes short)
      have same : naming dir name = .error cause := by
        simp [naming, Proto.Compound.putfh, Proto.Compound.lookup, put, unput, bind, Except.bind]
      rw [refused] at same
      cases same
      cases create <;>
        simp [Proto.Compound.putfh, Proto.Compound.open, put, established.sized, unput,
          Proto.Compound.put_empty_bitmap, bind, Except.bind]
  · rw [naming, long] at refused
    cases refused
    rw [long]
    rfl

end Unsent

/-- What `LOOKUP`, `GETFH` and `GETATTR` come to. -/
theorem perform_lookup {handle : Handle} {name : String} {fh : FileHandle} {node : Node}
    (found : store.volume.lookup4 handle.fh.data name = .ok (fh, node)) :
    ((volumeServer4 policy).perform [.lookup name, .getfh, .getattr Nfs4.requested]).run
        ⟨store, handle⟩ =
      some (.ok (⟨(), ()⟩, ⟨fh.handle, ()⟩, ⟨node.attrs Nfs4.requested, ()⟩, ()),
        ⟨store, fh.handle⟩) := by
  have present : store.volume.find fh.handle.fh.data = .ok node :=
    Volume.find_of_lookup4 found
  have looked : Shelf.outcome policy ⟨store, handle⟩ (.lookup name) =
      .ok (⟨(), ()⟩, ⟨store, fh.handle⟩) := by
    simp [found]
  have shown : Shelf.outcome policy ⟨store, fh.handle⟩ (.getattr Nfs4.requested) =
      .ok (⟨node.attrs Nfs4.requested, ()⟩, ⟨store, fh.handle⟩) := by
    simp [present]
  exact OpServer.perform_cons_ok _ (exec_of_ok looked) (OpServer.perform_cons_ok _ (exec_of_ok rfl)
    (OpServer.perform_cons_ok _ (exec_of_ok shown) rfl))

/-- What the tree of NFSv4 says of a name that is sent. -/
theorem tree_lookup4 {dir : ObjId} {name : String} {c : Proto.Compound}
    (built : naming dir name = .ok c) (volume : Volume) :
    (volume.tree wire4).lookup dir name =
      ((volume.lookup4 dir name).mapError wire4.fails).map fun found =>
        (found.1.1, found.2.attr) := by
  unfold Volume.tree wire4 Volume.lookup4
  dsimp only
  rw [built]
  by_cases legal : Legal name
  · simp only [if_pos legal]
    rcases volume.lookup dir name with status | ⟨fh, node⟩ <;> rfl
  · simp only [if_neg legal]
    rfl

theorem lookup_volume4 (attached : Attached store backend) (dir : ObjId) (name : String) :
    ∃ next, (lookup (volumeServer4 policy).transport dir name).run backend =
      some ((store.volume.tree wire4).lookup dir name, next) ∧ Attached store next := by
  rcases naming_cases dir name with ⟨short, sized, c, built⟩ | ⟨error, refused⟩
  · have same := @Nfs4.lookup_eq Shelf (volumeServer4 policy) _ _ _ attached.established short sized
    rw [tree_lookup4 built]
    rcases found : store.volume.lookup4 dir name with status | ⟨fh, node⟩
    · have failed : Shelf.outcome policy ⟨store, ⟨⟨dir⟩, short⟩⟩ (.lookup name) =
          .error status.failure := by
        simp [found]
      obtain ⟨next, ran, after⟩ := request_error attached short same
        (perform_refused failed)
      exact ⟨next, Prog.bind_of_error ran, after⟩
    · obtain ⟨next, ran, after⟩ := request_value attached short same (perform_lookup found)
      refine ⟨next, (Prog.bind_of_ok ran).trans ?_, after⟩
      change some (Except.ok (fh.1, Attr.fromFattr4 (node.attrs Nfs4.requested).attrs), next) = _
      rw [node.attrs_requested, node.fromFattr4]
      rfl
  · refine ⟨_, (Prog.bind_of_error (within_error (lookup_unsent refused))).trans ?_, attached⟩
    simp only [Volume.tree, wire4, refused]
    rfl

theorem readlink_volume4 (attached : Attached store backend) (fh : ObjId) :
    ∃ next, (readlink (volumeServer4 policy).transport fh).run backend =
      some ((store.volume.tree wire4).readlink fh, next) ∧ Attached store next := by
  rcases sends4_cases fh with ⟨short, sent⟩ | ⟨error, refused⟩
  · have same := @Nfs4.readlink_eq Shelf (volumeServer4 policy) _ _ attached.established short
    rcases found : store.volume.readlink fh with status | target
    · have failed : Shelf.outcome policy ⟨store, ⟨⟨fh⟩, short⟩⟩ .readlink =
          .error status.failure := by
        simp [found]
      obtain ⟨next, ran, after⟩ := request_error attached short same
        (perform_refused failed)
      refine ⟨next, ran.trans ?_, after⟩
      simp only [Volume.tree, sent, found]
      rfl
    · have read : Shelf.outcome policy ⟨store, ⟨⟨fh⟩, short⟩⟩ .readlink =
          .ok (⟨target, ()⟩, ⟨store, ⟨⟨fh⟩, short⟩⟩) := by
        simp [found]
      obtain ⟨next, ran, after⟩ := request_value attached short same
        (perform_single read)
      refine ⟨next, ran.trans ?_, after⟩
      simp only [Volume.tree, sent, found]
      rfl
  · refine ⟨_, (within_error (readlink_unsent refused)).trans ?_, attached⟩
    simp only [Volume.tree, wire4, refused]
    rfl

/-- The backend shows the files as long as they stay as they are. -/
theorem shows_volume4 (store : Store) :
    Shows (V4Backend.backend (volumeServer4 policy).transport).toBackend (store.volume.tree wire4)
      (Attached store) where
  lookup dir name _ attached := lookup_volume4 attached dir name
  readlink fh _ attached := readlink_volume4 attached fh

/-- What is made of a delegation. -/
def delegated : Proto.ProtoError :=
  .protocol "el servidor concedió una delegación (no soportado)"

/-- What follows an `OPEN` that succeeded. -/
def settled (policy : Policy) (fh : FileHandle) (record : OpenRec) (store : Store) :
    Except Proto.ProtoError Stateid4 × Store :=
  if policy.delegation.isSome then
    (.error delegated, store)
  else if policy.confirming.isSome then
    match store.confirm policy fh.1 record.stateid with
    | .ok (stateid, next) => (.ok stateid, next)
    | .error status => (.error (.nfs4 status.code), store)
  else
    (.ok record.stateid, store)

/-- What an open comes to: its outcome, and the store after it. -/
def opened4 (policy : Policy) (dir : ObjId) (name : String) (opts : OpenOpts) (store : Store) :
    Except NfsError OpenFile × Store :=
  match naming dir name with
  | .error error => (.error (.proto (.xdr error)), store)
  | .ok _ =>
      match store.open policy dir name (share opts) (Proto.Compound.how opts.create) with
      | .error status => (.error (wire4.fails status), store)
      | .ok ((fh, record), next) =>
          ((((settled policy fh record next).1.mapError .ofProto).map fun stateid =>
            ⟨fh.1, some stateid, opts.write⟩), (settled policy fh record next).2)

theorem openRes_confirms (policy : Policy) (record : OpenRec) :
    (policy.openRes record).rflags &&& Proto.open4ResultConfirm ≠ 0 ↔ policy.confirming.isSome := by
  by_cases asked : policy.confirming.isSome
  · simp [Policy.openRes, asked, Proto.open4ResultConfirm]
  · simp [Policy.openRes, asked]

theorem afterOpen_volume {nfs : Nfs4 Shelf} (established : nfs.Established) (fh : FileHandle)
    (record : OpenRec) :
    ∃ next, (Nfs4.afterOpen (volumeServer4 policy) (policy.openRes record) policy.delegation
        fh.handle.fh).run nfs =
        some ((settled policy fh record nfs.rpc.store).1.map fun stateid => ⟨fh.handle.fh, stateid⟩,
          next) ∧
      next.Established ∧ next.rpc.store = (settled policy fh record nfs.rpc.store).2 := by
  rw [Nfs4.afterOpen, settled]
  by_cases granted : policy.delegation.isSome
  · simp only [if_pos granted]
    exact ⟨nfs, rfl, established, rfl⟩
  · simp only [if_neg granted]
    rw [Prog.bind_of_ok (Nfs4.advance_ok nfs)]
    by_cases asks : policy.confirming.isSome
    · rw [if_pos ((openRes_confirms policy record).mpr asks), if_pos asks, Nfs4.confirming,
        Prog.bind_of_ok (rfl : Prog.get.run nfs.advanced = _)]
      rcases confirmed : nfs.rpc.store.confirm policy fh.1 record.stateid with
        status | ⟨stateid, store⟩
      · have refused : Shelf.outcome policy ⟨nfs.rpc.store, fh.handle⟩
            (.openConfirm record.stateid nfs.advanced.openSeqid) = .error status.failure := by
          simp [FileHandle.handle, confirmed]
        obtain ⟨next, conversed, after, kept⟩ := request_fails fh.handle.short established.advanced
          (perform_refused refused)
        exact ⟨next, Prog.bind_of_error conversed, after, kept⟩
      · have done : Shelf.outcome policy ⟨nfs.rpc.store, fh.handle⟩
            (.openConfirm record.stateid nfs.advanced.openSeqid) =
              .ok (⟨stateid, ()⟩, ⟨store, fh.handle⟩) := by
          simp [FileHandle.handle, confirmed]
        have conversed := request_ok fh.handle.short established.advanced (perform_single done)
        exact ⟨_, Prog.bind_of_ok conversed, (established.advanced.sentTo _).advanced, rfl⟩
    · rw [if_neg (fun flagged => asks ((openRes_confirms policy record).mp flagged)), if_neg asks]
      exact ⟨nfs.advanced, rfl, established.advanced, rfl⟩

theorem open_volume4 (attached : Attached store backend) (dir : ObjId) (name : String)
    (opts : OpenOpts) :
    ∃ next, (V4Backend.open (volumeServer4 policy).transport dir name opts).run backend =
        some ((opened4 policy dir name opts store).1, next) ∧
      Attached (opened4 policy dir name opts store).2 next := by
  rcases naming_cases dir name with ⟨short, sized, c, built⟩ | ⟨error, refused⟩
  · let opening : Nfs4.Opening := ⟨⟨dir⟩, name, share opts, opts.create⟩
    have same := @Nfs4.open_eq Shelf (volumeServer4 policy) backend.nfs opening
      attached.established short sized
    rcases found : store.open policy dir name (share opts) (Proto.Compound.how opts.create) with
      status | ⟨⟨fh, record⟩, final⟩
    · have failed : Shelf.outcome policy ⟨store, ⟨⟨dir⟩, short⟩⟩ (opening.op backend.nfs) =
          .error status.failure := by
        simp [Nfs4.Opening.op, opening, found]
      obtain ⟨next, ran, after⟩ := request_error attached short same (perform_refused failed)
      simp only [opened4, built, found]
      exact ⟨next, Prog.bind_of_error ran, after⟩
    · have done : Shelf.outcome policy ⟨store, ⟨⟨dir⟩, short⟩⟩ (opening.op backend.nfs) =
          .ok (⟨policy.openRes record, policy.delegation⟩, ⟨final, fh.handle⟩) := by
        simp [Nfs4.Opening.op, opening, found]
      have stores := attached.stores
      subst stores
      have got : Shelf.outcome policy ⟨final, fh.handle⟩ .getfh =
          .ok (⟨fh.handle, ()⟩, ⟨final, fh.handle⟩) := rfl
      have conversed := request_ok short attached.established
        (OpServer.perform_cons_ok _ (exec_of_ok done) (perform_single got))
      obtain ⟨nfs, ended, established, stores⟩ := @afterOpen_volume policy
        (backend.nfs.sentTo ⟨final, fh.handle⟩) (attached.established.sentTo _) fh record
      have ran := same.trans ((Prog.bind_of_ok conversed).trans ended)
      change _ = some ((settled policy fh record final).1.map _, _) at ran
      change _ = (settled policy fh record final).2 at stores
      simp only [opened4, built, found]
      rcases settles : settled policy fh record final with ⟨error | stateid, last⟩
      · rw [settles] at ran stores
        exact ⟨_, Prog.bind_of_error (within_error ran), attached.after established stores⟩
      · rw [settles] at ran stores
        exact ⟨_, Prog.bind_of_ok (within_ok ran), attached.after established stores⟩
  · have unsent := @open_unsent _ (volumeServer4 policy).transport backend.nfs dir name error refused
      attached.established (share opts) opts.create
    simp only [opened4, refused]
    exact ⟨_, Prog.bind_of_error (within_error unsent), attached⟩

/-- The attributes that the client sets are read back. -/
theorem setting_values (mode : Option UInt32) (size : Option UInt64) :
    modeIn (Nfs4.setting { mode := mode, size := size }) = mode ∧
      sizeIn (Nfs4.setting { mode := mode, size := size }) = size := by
  cases mode <;> cases size <;> exact ⟨rfl, rfl⟩

/-- A change of attributes that the server accepts. -/
theorem setattr_ok (attached : Attached store backend) {fh : ObjId} (short : NfsFh4.Short ⟨fh⟩)
    {attr : SetAttr} {volume : Volume}
    (set : store.volume.setattr policy fh attr.mode attr.size = .ok volume) :
    ∃ next, (setattr (volumeServer4 policy).transport fh attr).run backend = some (.ok (), next) ∧
      Attached { store with volume := volume } next := by
  obtain ⟨modes, sizes⟩ := setting_values attr.mode attr.size
  have done : Shelf.outcome policy ⟨store, ⟨⟨fh⟩, short⟩⟩
      (.setattr Stateid4.default (Nfs4.setting { mode := attr.mode, size := attr.size })) =
        .ok (⟨Proto.Bitmap.empty, ()⟩, ⟨{ store with volume := volume }, ⟨⟨fh⟩, short⟩⟩) := by
    simp [Store.setattr, modes, sizes, set]
  exact request_value attached short (Nfs4.setattr_eq _ attached.established short)
    (perform_single done)

/-- A change of attributes that the server declines. -/
theorem setattr_fails (attached : Attached store backend) {fh : ObjId} (short : NfsFh4.Short ⟨fh⟩)
    {attr : SetAttr} {status : Status}
    (refused : store.volume.setattr policy fh attr.mode attr.size = .error status) :
    ∃ next, (setattr (volumeServer4 policy).transport fh attr).run backend =
        some (.error (wire4.fails status), next) ∧ Attached store next := by
  obtain ⟨modes, sizes⟩ := setting_values attr.mode attr.size
  have failed : Shelf.outcome policy ⟨store, ⟨⟨fh⟩, short⟩⟩
      (.setattr Stateid4.default (Nfs4.setting { mode := attr.mode, size := attr.size })) =
        .error status.failure := by
    simp [Store.setattr, modes, sizes, refused]
  exact request_error attached short (Nfs4.setattr_eq _ attached.established short)
    (perform_refused failed)

section Held

variable {file : OpenFile} {record : OpenRec}

/-- The server has the file open under its stateid. -/
structure Holds (store : Store) (file : OpenFile) (record : OpenRec) : Prop where
  opens : store.opens file.fh = some record
  stateid : file.stateid = some record.stateid

theorem Holds.recorded (held : Holds store file record) :
    store.record file.fh record.stateid = .ok record := by
  simp only [Store.record, held.opens, ↓reduceIte]

/-- An open file may be accessed as it was opened. -/
theorem Holds.allows (held : Holds store file record) {access : UInt32}
    (granted : record.access &&& access ≠ 0) :
    store.allows file.fh record.stateid access = .ok () := by
  simp only [Store.allows, held.recorded, if_pos granted]

theorem Holds.getD (held : Holds store file record) :
    file.stateid.getD Stateid4.default = record.stateid := by
  rw [held.stateid]
  rfl

/-- A read of a file that was opened for reading. -/
theorem pread_volume4 (attached : Attached store backend) (held : Holds store file record)
    (readable : record.access &&& Proto.open4ShareAccessRead ≠ 0) (short : NfsFh4.Short ⟨file.fh⟩)
    {content : Content} (present : store.volume.content file.fh = .ok content) (offset : UInt64)
    (count : UInt32) :
    ∃ next, (pread (volumeServer4 policy).transport file offset count).run backend =
        some (.ok ((readAtMost count content.bytes offset count).1.1,
          (readAtMost count content.bytes offset count).2), next) ∧ Attached store next := by
  have answered : store.volume.read file.fh offset count =
      .ok (readAtMost count content.bytes offset count) := by
    rw [Volume.read, present]
    rfl
  have read : Shelf.outcome policy ⟨store, ⟨⟨file.fh⟩, short⟩⟩ (.read record.stateid offset count) =
      .ok (⟨((readAtMost count content.bytes offset count).2,
        (readAtMost count content.bytes offset count).1), ()⟩, ⟨store, ⟨⟨file.fh⟩, short⟩⟩) := by
    simp [Store.read, held.allows readable, answered, bind, Except.bind]
  obtain ⟨next, ran, after⟩ := request_value attached short
    (Nfs4.read_eq record.stateid offset count attached.established short) (perform_single read)
  refine ⟨next, ?_, after⟩
  rw [pread, held.getD]
  exact Prog.bind_of_ok ran

/-- A write to a file that was opened for writing. -/
theorem pwrite_volume4 (attached : Attached store backend) (held : Holds store file record)
    (writable : record.access &&& Proto.open4ShareAccessWrite ≠ 0) (short : NfsFh4.Short ⟨file.fh⟩)
    {offset : UInt64} {data : Bytes} (sized : Proto.Sized data) {volume : Volume}
    (written : Volume.write file.fh offset data store.volume = .ok volume) :
    ∃ next, (pwrite (volumeServer4 policy).transport file offset data).run backend =
        some (.ok (UInt32.ofNat data.length), next) ∧
      Attached { store with volume := volume } next := by
  have done : Shelf.outcome policy ⟨store, ⟨⟨file.fh⟩, short⟩⟩
      (.write record.stateid offset Proto.unstable4 data) =
        .ok (⟨(⟨UInt32.ofNat data.length, Proto.unstable4, Vector.replicate 8 0⟩ : WriteRes), ()⟩,
          ⟨{ store with volume := volume }, ⟨⟨file.fh⟩, short⟩⟩) := by
    simp [Store.write, held.allows writable, written, bind, Except.bind]
    rfl
  obtain ⟨next, ran, after⟩ := request_value attached short
    (Nfs4.write_eq record.stateid offset Proto.unstable4 attached.established short sized)
    (perform_single done)
  refine ⟨next, ?_, after⟩
  rw [pwrite, held.getD]
  exact ran

theorem commit_volume4 (attached : Attached store backend) (short : NfsFh4.Short ⟨file.fh⟩)
    {content : Content} (present : store.volume.content file.fh = .ok content) :
    ∃ next, (commit (volumeServer4 policy).transport file).run backend = some (.ok (), next) ∧
      Attached store next := by
  have done : Shelf.outcome policy ⟨store, ⟨⟨file.fh⟩, short⟩⟩ (.commit 0 0) =
      .ok (⟨Vector.replicate 8 0, ()⟩, ⟨store, ⟨⟨file.fh⟩, short⟩⟩) := by
    simp [present]
  exact request_value attached short (Nfs4.commit_eq 0 0 attached.established short)
    (perform_single done)

theorem close_volume4 (attached : Attached store backend) (held : Holds store file record)
    (short : NfsFh4.Short ⟨file.fh⟩) :
    ∃ next, (close (volumeServer4 policy).transport file).run backend = some (.ok (), next) ∧
      Attached { store with opens := Function.update store.opens file.fh none } next := by
  have done : Shelf.outcome policy ⟨store, ⟨⟨file.fh⟩, short⟩⟩
      (.close backend.nfs.openSeqid record.stateid) =
        .ok (⟨bumped record.stateid, ()⟩,
          ⟨{ store with opens := Function.update store.opens file.fh none },
            ⟨⟨file.fh⟩, short⟩⟩) := by
    simp [Store.close, held.recorded, bind, Except.bind]
    rfl
  have stores := attached.stores
  subst stores
  have conversed := request_ok short attached.established (perform_single done)
  have ended := (Nfs4.close_eq record.stateid attached.established short).trans
    (Prog.bind_of_ok conversed)
  have same : (close (volumeServer4 policy).transport file).run backend =
      (within (Nfs4.close (volumeServer4 policy).transport ⟨file.fh⟩ record.stateid)).run backend := by
    simp only [close, held.stateid]
  exact ⟨_, same.trans (within_ok (ended.trans (Nfs4.advance_ok _))),
    attached.after (attached.established.sentTo _).advanced rfl⟩

end Held

end V4Backend

end LibNfs.Client
