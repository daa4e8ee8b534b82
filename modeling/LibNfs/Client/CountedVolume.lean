import LibNfs.Client.Opening
import LibNfs.Proto.OwnerSeqids

/-! # A server of files that counts seqids

The server of a volume, asked over NFSv4.0 to count the seqids of the open-owner. As long as the
client is in step with it, its backend does what it does over the server that counts nothing.
-/

namespace LibNfs.Client

open Proto (ArgOp SeqidState Failure Nfs4 NfsFh4 OpServer ProtoError Stateid4)

/-- The server of a volume, counting. After a remembered operation the request goes on from the
object that it led to. -/
def countedServer4 (policy : Policy) : OpServer (SeqidState Shelf) :=
  (volumeServer4 policy).counted fun left shelf => { shelf with current := left.current }

/-- A client of the server that counts. -/
abbrev CountedClient := V4Backend (SeqidState Shelf)

/-- A status does not make the client try again. -/
def Status.Lasts (status : Status) : Prop :=
  Proto.Lasts status.failure

/-- A server declines nothing for a time only. -/
structure Policy.Lasting (policy : Policy) : Prop where
  creating : ∀ refusal, policy.creating = some refusal → (Status.refused refusal).Lasts
  confirming : ∀ refusal, policy.confirming = some (some refusal) → (Status.refused refusal).Lasts

/-- What fails does not make the client try again. -/
def Endures {α : Type} (outcome : Except Status α) : Prop :=
  ∀ status, outcome = .error status → status.Lasts

namespace Endures

theorem ok {α : Type} (value : α) : Endures (.ok value) :=
  fun _ absurd => nomatch absurd

theorem error {α : Type} {status : Status} (lasts : status.Lasts) :
    Endures (.error status : Except Status α) := by
  rintro _ ⟨⟩
  exact lasts

/-- A sequence endures when its parts do. -/
theorem bind {α β : Type} {first : Except Status α} {next : α → Except Status β}
    (begins : Endures first) (follows : ∀ value, Endures (next value)) :
    Endures (first >>= next) := by
  cases first with
  | ok value => exact follows value
  | error status => exact error (begins status rfl)

variable {policy : Policy} {volume : Volume} {store : Store} {dir fh : ObjId} {name : String}

/-- A status of the server itself. -/
theorem status {α : Type} {status : Status} (other : status.code ≠ 10013 ∧ status.code ≠ 10008) :
    Endures (.error status : Except Status α) :=
  error fun transient => transient.elim other.1 other.2

/-- An object that is missing is so for good. -/
theorem find : Endures (volume.find fh) := by
  unfold Volume.find
  split
  · exact ok _
  · exact status (by decide)

/-- A name that is missing is so for good. -/
theorem lookup4 : Endures (volume.lookup4 dir name) := by
  unfold Volume.lookup4
  split
  · refine bind (bind find fun node => ?_) fun names => ?_
    · split
      · exact ok _
      · exact status (by decide)
      · exact status (by decide)
    · split
      · exact bind find fun node => ok _
      · exact status (by decide)
  · exact status (by decide)

/-- A file that is not made is declined for good. -/
theorem create (lasting : policy.Lasting) (mode : UInt32) :
    Endures (volume.create policy dir name mode) := by
  refine bind find fun node => ?_
  split
  · split
    · rename_i refusal declined
      exact error (lasting.creating refusal declined)
    · exact ok _
  · exact status (by decide)
  · exact status (by decide)

/-- A file that is not opened is declined for good. -/
theorem open4 (lasting : policy.Lasting) (how : Proto.OpenHow) :
    Endures (volume.open4 policy dir name how) := by
  unfold Volume.open4
  rcases looked : volume.lookup4 dir name with other | ⟨fh, ⟨body, mode⟩⟩
  · cases other with
    | noent => cases how with
      | nocreate => exact status (by decide)
      | «unchecked» attrs => exact create lasting _
      | guarded attrs => exact create lasting _
      | exclusive verf => exact create lasting _
    | _ => exact error (lookup4 _ looked)
  · cases how with
    | guarded attrs => exact status (by decide)
    | exclusive verf => exact status (by decide)
    | nocreate => cases body with
      | file content => exact ok _
      | dir names => exact status (by decide)
      | link target => exact status (by decide)
    | «unchecked» attrs => cases body with
      | file content => exact ok _
      | dir names => exact status (by decide)
      | link target => exact status (by decide)

/-- A stateid that is not on record stays bad. -/
theorem record (stateid : Stateid4) : Endures (store.record fh stateid) := by
  unfold Store.record
  split
  · split
    · exact ok _
    · exact status (by decide)
  · exact status (by decide)

/-- A confirmation that is declined is so for good. -/
theorem confirm (lasting : policy.Lasting) (stateid : Stateid4) :
    Endures (store.confirm policy fh stateid) := by
  unfold Store.confirm
  split
  · rename_i refusal declined
    exact error (lasting.confirming refusal declined)
  · exact bind (record stateid) fun _ => ok _
  · exact bind (record stateid) fun _ => ok _

end Endures

/-- What the server says to the requests that open and close a file lasts. -/
theorem lasting_volume {policy : Policy} (lasting : policy.Lasting) :
    (volumeServer4 policy).Lasting := by
  intro op opens shelf failure next failed
  have outcome : shelf.outcome policy op = .error failure := by
    simp only [volumeServer4] at failed
    split at failed
    · cases failed
    · cases failed
      assumption
  cases op with
  | sequence sessionid seqid slotid highest cache => cases outcome
  | getfh => cases outcome
  | putfh fh =>
      simp only [Shelf.outcome] at outcome
      split at outcome
      · cases outcome
      · cases outcome
        exact fun transient => by revert transient; decide
  | «open» seqid access deny clientid owner how name =>
      simp only [Shelf.outcome] at outcome
      split at outcome
      · cases outcome
      · rename_i status refused
        cases outcome
        exact (Endures.open4 lasting how).bind (fun _ => .ok _) status refused
  | openConfirm stateid seqid =>
      simp only [Shelf.outcome] at outcome
      split at outcome
      · cases outcome
      · rename_i status refused
        cases outcome
        exact Endures.confirm lasting stateid status refused
  | close seqid stateid =>
      simp only [Shelf.outcome] at outcome
      split at outcome
      · cases outcome
      · rename_i status refused
        cases outcome
        exact (Endures.record stateid).bind (fun _ => .ok _) status refused
  | _ => exact opens.elim

namespace V4Backend

section Counting

variable {S : Type}

/-- The client of the server inside. -/
def plain (backend : V4Backend (SeqidState S)) : V4Backend S :=
  ⟨backend.nfs.plain, backend.rsize, backend.wsize⟩

/-- A call does what another does on the server inside, and nothing is counted. -/
abbrev Passes {α : Type} (left : Prog (V4Backend (SeqidState S)) NfsError α)
    (right : Prog (V4Backend S) NfsError α) (backend : V4Backend (SeqidState S)) : Prop :=
  Prog.Mirrors plain (fun before after => before.nfs.Uncounted after.nfs) left right backend

/-- A call does what another does on the server inside, and when it succeeds the client is in
step. -/
def Counts {α : Type} (left : Prog (V4Backend (SeqidState S)) NfsError α)
    (right : Prog (V4Backend S) NfsError α) (backend : V4Backend (SeqidState S)) : Prop :=
  ∀ result next, right.run backend.plain = some (result, next) → ∃ after,
    left.run backend = some (result, after) ∧ after.plain = next ∧
      ∀ value, result = .ok value → after.nfs.InStep

variable {server : OpServer S} {reseat : S → S → S} {backend : V4Backend (SeqidState S)}

attribute [local simp] ArgOp.Unnumbered ArgOp.openSeqid

/-- A method of the client. -/
theorem passes_within {α : Type} {left : Prog (Nfs4 (SeqidState S)) ProtoError α}
    {right : Prog (Nfs4 S) ProtoError α} (follows : Nfs4.Follows left right backend.nfs) :
    Passes (within left) (within right) backend :=
  follows.within rfl (fun _ => rfl) fun _ kept => kept

theorem passes_lookup (established : backend.nfs.Established) (dir : ObjId) (name : String) :
    Passes (lookup (server.counted reseat).transport dir name) (lookup server.transport dir name)
      backend := by
  unfold lookup
  refine (passes_within ?_).bind Nfs4.Uncounted.trans fun found mid => .pure _ (.refl mid.nfs)
  rcases naming_cases dir name with ⟨short, sized, -⟩ | ⟨error, refused⟩
  · exact Nfs4.follows_request (Nfs4.lookup_eq established short sized)
      (Nfs4.lookup_eq established.plain short sized) (by simp)
  · exact Nfs4.follows_unsent (lookup_unsent refused) (lookup_unsent refused)

/-- Reading a link counts nothing. -/
theorem passes_readlink (established : backend.nfs.Established) (fh : ObjId) :
    Passes (readlink (server.counted reseat).transport fh) (readlink server.transport fh)
      backend := by
  apply passes_within
  rcases sends4_cases fh with ⟨short, -⟩ | ⟨error, refused⟩
  · exact Nfs4.follows_request (Nfs4.readlink_eq established short)
      (Nfs4.readlink_eq established.plain short) (by simp)
  · exact Nfs4.follows_unsent (readlink_unsent refused) (readlink_unsent refused)

section Short

variable {fh : ObjId} {file : OpenFile}

/-- Setting attributes counts nothing. -/
theorem passes_setattr (established : backend.nfs.Established) (short : NfsFh4.Short ⟨fh⟩)
    (attr : SetAttr) :
    Passes (setattr (server.counted reseat).transport fh attr) (setattr server.transport fh attr)
      backend :=
  passes_within (Nfs4.follows_request
    (Nfs4.setattr_eq _ established short)
    (Nfs4.setattr_eq _ established.plain short) (by simp))

theorem passes_pread (established : backend.nfs.Established)
    (short : NfsFh4.Short ⟨file.fh⟩) (offset : UInt64) (count : UInt32) :
    Passes (pread (server.counted reseat).transport file offset count)
      (pread server.transport file offset count) backend := by
  unfold pread
  refine (passes_within ?_).bind Nfs4.Uncounted.trans fun read mid => .pure _ (.refl mid.nfs)
  exact Nfs4.follows_request (Nfs4.read_eq _ _ _ established short)
    (Nfs4.read_eq _ _ _ established.plain short) (by simp)

theorem passes_pwrite (established : backend.nfs.Established)
    (short : NfsFh4.Short ⟨file.fh⟩) (offset : UInt64) {data : Bytes} (sized : Proto.Sized data) :
    Passes (pwrite (server.counted reseat).transport file offset data)
      (pwrite server.transport file offset data) backend :=
  passes_within (Nfs4.follows_request
    (Nfs4.write_eq _ _ _ established short sized)
    (Nfs4.write_eq _ _ _ established.plain short sized) (by simp))

theorem passes_commit (established : backend.nfs.Established)
    (short : NfsFh4.Short ⟨file.fh⟩) :
    Passes (commit (server.counted reseat).transport file) (commit server.transport file) backend :=
  passes_within (Nfs4.follows_request
    (Nfs4.commit_eq _ _ established short)
    (Nfs4.commit_eq _ _ established.plain short) (by simp))

end Short

/-- A method of the client that counts. -/
theorem counts_within {α : Type} {left : Prog (Nfs4 (SeqidState S)) ProtoError α}
    {right : Prog (Nfs4 S) ProtoError α} (counts : Nfs4.Counts left right backend.nfs) :
    Counts (within left) (within right) backend := by
  intro result next ran
  obtain ⟨⟨inner, nfs⟩, done, same⟩ := Option.map_eq_some_iff.mp ran
  cases same
  obtain ⟨after, ended, rfl, inStep⟩ := counts inner nfs done
  cases inner with
  | ok value => exact ⟨_, within_ok ended, rfl, fun _ _ => inStep value rfl⟩
  | error error => exact ⟨_, within_error ended, rfl, fun _ absurd => nomatch absurd⟩

/-- An open counts, and leaves the client in step when it succeeds. -/
theorem counts_open (lasting : server.Lasting) (inStep : backend.nfs.InStep)
    (established : backend.nfs.Established) (dir : ObjId) (name : String) (opts : OpenOpts) :
    Counts (V4Backend.open (server.counted reseat).transport dir name opts)
      (V4Backend.open server.transport dir name opts) backend := by
  have begins : Counts
      (within (Nfs4.open (server.counted reseat).transport ⟨dir⟩ name (share opts) opts.create))
      (within (Nfs4.open server.transport ⟨dir⟩ name (share opts) opts.create)) backend := by
    apply counts_within
    rcases naming_cases dir name with ⟨short, sized, -⟩ | ⟨error, refused⟩
    · exact Nfs4.open_counted lasting inStep ⟨⟨dir⟩, name, share opts, opts.create⟩
        established short sized
    · intro result next opened
      rw [open_unsent refused established.plain] at opened
      cases opened
      exact ⟨backend.nfs, open_unsent refused established _ _, rfl, fun _ absurd => nomatch absurd⟩
  intro result next ran
  rcases Prog.bind_eq_some ran with ⟨error, failed, rfl⟩ | ⟨value, mid, opened, ran⟩
  · obtain ⟨after, ended, same, -⟩ := begins _ _ failed
    exact ⟨after, Prog.bind_of_error ended, same, fun _ absurd => nomatch absurd⟩
  · obtain ⟨after, ended, rfl, inStep⟩ := begins _ _ opened
    cases ran
    exact ⟨after, Prog.bind_of_ok ended, rfl, fun _ _ => inStep value rfl⟩

/-- A close counts, and leaves the client in step when it succeeds. -/
theorem counts_close (lasting : server.Lasting) (inStep : backend.nfs.InStep)
    (established : backend.nfs.Established) {file : OpenFile} {stateid : Stateid4}
    (known : file.stateid = some stateid) (short : NfsFh4.Short ⟨file.fh⟩) :
    Counts (close (server.counted reseat).transport file) (close server.transport file)
      backend := by
  simp only [close, known]
  exact counts_within (Nfs4.close_counted lasting inStep stateid
    established short)

end Counting

/-- The client of a server with this store, nothing having been counted since `start`. -/
structure Since (start : Nfs4 (SeqidState Shelf)) (store : Store)
    (backend : CountedClient) : Prop where
  attached : Attached store backend.plain
  uncounted : start.Uncounted backend.nfs

/-- The client of a server with this store, in step with it. -/
structure InStepOn (store : Store) (backend : CountedClient) : Prop where
  attached : Attached store backend.plain
  inStep : backend.nfs.InStep

variable {policy : Policy} {start : Nfs4 (SeqidState Shelf)} {store : Store}
  {backend : CountedClient}

theorem Since.established (since : Since start store backend) : backend.nfs.Established :=
  ⟨since.attached.established.version, since.attached.established.named⟩

theorem InStepOn.established (ready : InStepOn store backend) : backend.nfs.Established :=
  ⟨ready.attached.established.version, ready.attached.established.named⟩

/-- A client that began in step still is when nothing was counted. -/
theorem Since.inStepOn (since : Since start store backend) (inStep : start.InStep) :
    InStepOn store backend :=
  ⟨since.attached, inStep.uncounted since.uncounted⟩

/-- A call that does what it does on the server inside. -/
theorem Since.follow {α : Type} {left : Prog (CountedClient) NfsError α}
    {right : Prog (V4Backend Shelf) NfsError α} {result : Except NfsError α} {after : Store}
    (since : Since start store backend) (follows : Passes left right backend)
    (done : ∃ next, right.run backend.plain = some (result, next) ∧ Attached after next) :
    ∃ next, left.run backend = some (result, next) ∧ Since start after next := by
  obtain ⟨inner, ran, attached⟩ := done
  obtain ⟨next, ended, rfl, uncounted⟩ := follows result inner ran
  exact ⟨next, ended, attached, since.uncounted.trans uncounted⟩

/-- The backend shows the files, and nothing is counted. -/
theorem shows_counted (store : Store) :
    Shows (V4Backend.backend (countedServer4 policy).transport).toBackend (store.volume.tree wire4)
      (Since start store) where
  lookup dir name _ since :=
    since.follow (passes_lookup since.established dir name)
      (lookup_volume4 since.attached dir name)
  readlink fh _ since :=
    since.follow (passes_readlink since.established fh)
      (readlink_volume4 since.attached fh)

/-- Opening a file from a state that is in step. -/
theorem open_inStep (lasting : policy.Lasting) (ready : InStepOn store backend) (dir : ObjId)
    (name : String) (opts : OpenOpts) :
    ∃ next, (V4Backend.open (countedServer4 policy).transport dir name opts).run backend =
        some ((opened4 policy dir name opts store).1, next) ∧
      Settles InStepOn (fun store backend => Attached store backend.plain)
        (opened4 policy dir name opts store) next := by
  obtain ⟨inner, ran, attached⟩ := @open_volume4 policy _ _ ready.attached dir name opts
  obtain ⟨next, ended, rfl, inStep⟩ := counts_open (lasting_volume lasting) ready.inStep
    ready.established dir name opts _ inner ran
  refine ⟨next, ended, ?_⟩
  generalize opened4 policy dir name opts store = result at attached inStep ⊢
  obtain ⟨error | file, final⟩ := result
  · exact attached
  · exact ⟨attached, inStep file rfl⟩

/-- Closing a file from a state that is in step. -/
theorem close_inStep (lasting : policy.Lasting) (ready : InStepOn store backend) {file : OpenFile}
    {record : OpenRec} (held : Holds store file record) (short : NfsFh4.Short ⟨file.fh⟩) :
    ∃ next, (close (countedServer4 policy).transport file).run backend = some (.ok (), next) ∧
      InStepOn { store with opens := Function.update store.opens file.fh none } next := by
  obtain ⟨inner, ran, attached⟩ := @close_volume4 policy _ _ _ _ ready.attached held short
  obtain ⟨next, ended, rfl, inStep⟩ := counts_close (lasting_volume lasting) ready.inStep
    ready.established held.stateid short _ inner ran
  exact ⟨next, ended, attached, inStep () rfl⟩

/-- From a state that is in step the backend opens files as over the server that counts
nothing. -/
theorem realizes_counted (lasting : policy.Lasting) (inStep : start.InStep) :
    Realizes (V4Backend.backend (countedServer4 policy).transport).toBackend (opener4 policy)
      (Since start) InStepOn (fun store backend => Attached store backend.plain) where
  shows := shows_counted
  idle since := since.attached
  opens dir name opts since := open_inStep lasting (since.inStepOn inStep) dir name opts
  truncates := by
    intro store backend fh next ready short done
    obtain ⟨inner, ran, attached⟩ := realizes_volume4.truncates ready.attached short done
    obtain ⟨after, ended, rfl, uncounted⟩ := passes_setattr ready.established
      (Nat.le_trans short (by decide)) { size := some 0 } _ inner ran
    exact ⟨after, ended, attached, ready.inStep.uncounted uncounted⟩
  declines := by
    intro store backend fh error ready short failed
    obtain ⟨inner, ran, attached⟩ := realizes_volume4.declines ready.attached short failed
    obtain ⟨after, ended, rfl, -⟩ := passes_setattr ready.established
      (Nat.le_trans short (by decide)) { size := some 0 } _ inner ran
    exact ⟨after, ended, attached⟩

end V4Backend

end LibNfs.Client
