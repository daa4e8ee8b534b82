import LibNfs.Client.Agreement
import LibNfs.Client.CountedVolume

/-! # Sequences of calls over both versions

Sequences of `open`, `pread`, `pwrite` and `close` return the same over NFSv3 and over
NFSv4, as long as no file is read that was opened for writing alone, none is opened that is
open, and over v4.0 nothing is opened or closed once an `OPEN` has failed. NFSv4 grants the
access that an open asked for and no other, has one stateid for a file, and in v4.0 counts
the seqids of the open-owner.
-/

namespace LibNfs.Client

open Proto (SeqidState)

/-- A call of the file API; a file is named by the number of the open that returned it. -/
inductive FileCall where
  | open (path : String) (flags : OpenFlags)
  | pread (file : Nat) (offset count : UInt64)
  | pwrite (file : Nat) (offset : UInt64) (data : Slice)
  | close (file : Nat)

/-- What a call returns: of an open file the handle and whether it is writable. A call on a file
that is not open, or a write to one not opened for it, is not made. -/
inductive CallResult where
  | opened (outcome : Except NfsError (ObjId × Bool))
  | read (outcome : Except NfsError Bytes)
  | written (outcome : Except NfsError UInt64)
  | closed (outcome : Except NfsError Unit)
  | idle
  deriving DecidableEq

/-- A client with the files that its opens returned, each with its flags. -/
structure Desk (σ : Type) where
  state : σ
  count : Nat
  files : Nat → Option (OpenFlags × OpenFile)

namespace Desk

variable {σ : Type} (vfs : VfsBackend σ) (root : ObjId)

/-- A client with no file open. -/
def bare (state : σ) : Desk σ :=
  ⟨state, 0, fun _ => none⟩

/-- The client after an open, with the file if there is one. -/
def place (desk : Desk σ) (state : σ) (file : Option (OpenFlags × OpenFile)) : Desk σ :=
  ⟨state, desk.count + 1, Function.update desk.files desk.count file⟩

/-- The client after a file was closed. -/
def drop (desk : Desk σ) (state : σ) (index : Nat) : Desk σ :=
  { desk with state := state, files := Function.update desk.files index none }

/-- What a call does to a client and its files. -/
def step (desk : Desk σ) : FileCall → Option (CallResult × Desk σ)
  | .open path flags =>
      ((NfsContext.open vfs.toBackend root path flags).run desk.state).map fun (outcome, next) =>
        (.opened (outcome.map fun file => (file.fh, file.writable)),
          desk.place next (outcome.toOption.map (flags, ·)))
  | .pread index offset count =>
      match desk.files index with
      | some (_, file) =>
          ((NfsContext.pread vfs file offset count).run desk.state).map fun (outcome, next) =>
            (.read outcome, { desk with state := next })
      | none => some (.idle, desk)
  | .pwrite index offset data =>
      match desk.files index with
      | some (flags, file) =>
          if flags.write then
            ((NfsContext.pwrite vfs.toBackend file offset data).run desk.state).map
              fun (outcome, next) => (.written outcome, { desk with state := next })
          else
            some (.idle, desk)
      | none => some (.idle, desk)
  | .close index =>
      match desk.files index with
      | some (_, file) =>
          ((NfsContext.close vfs.toBackend file).run desk.state).map fun (outcome, next) =>
            (.closed outcome, desk.drop next index)
      | none => some (.idle, desk)

/-- A file that an open returned has its flags. -/
theorem flags_of_open {vfs : VfsBackend σ} {root : ObjId} {desk next : Desk σ} {path : String}
    {flags : OpenFlags} {result : CallResult}
    (stepped : desk.step vfs root (.open path flags) = some (result, next))
    {opened : OpenFlags × OpenFile} (known : next.files desk.count = some opened) :
    opened.1 = flags := by
  obtain ⟨⟨outcome, state⟩, -, same⟩ := Option.map_eq_some_iff.mp stepped
  cases same
  simp only [place, Function.update_self] at known
  obtain ⟨file, -, rfl⟩ := Option.map_eq_some_iff.mp known
  rfl

/-- What a sequence of calls returns. -/
def run : List FileCall → Desk σ → Option (List CallResult × Desk σ)
  | [], desk => some ([], desk)
  | call :: calls, desk =>
      match desk.step vfs root call with
      | none => none
      | some (result, next) =>
          (run calls next).map fun (results, final) => (result :: results, final)

end Desk

/-- A file that is open over both versions, with the access that it was opened for. -/
inductive Paired (bodies : Bodies) (opens : ObjId → Option OpenRec) :
    Option (OpenFlags × OpenFile) → Option (OpenFlags × OpenFile) → Prop
  | gone : Paired bodies opens none none
  | both {fh : FileHandle} {flags : OpenFlags} {stateid : Proto.Stateid4} {content : Content}
      (held : opens fh.1 = some ⟨stateid, V4Backend.share flags.opts⟩)
      (known : bodies fh.1 = some (.file content)) :
      Paired bodies opens (some (flags, ⟨fh.1, none, flags.write⟩))
        (some (flags, ⟨fh.1, some stateid, flags.write⟩))

namespace Paired

variable {bodies next : Bodies} {opens others : ObjId → Option OpenRec}
  {left right : Option (OpenFlags × OpenFile)}

/-- A pair stays one as long as its record does. -/
theorem mono (paired : Paired bodies opens left right) (evolves : bodies.Evolves next)
    (kept : ∀ flags file, right = some (flags, file) → others file.fh = opens file.fh) :
    Paired next others left right := by
  cases paired with
  | gone => exact .gone
  | both held known =>
      obtain ⟨later, still⟩ := evolves.files _ _ known
      exact .both ((kept _ _ rfl).trans held) still

/-- An open file has a record. -/
theorem isOpen (paired : Paired bodies opens left right) {opened : OpenFlags × OpenFile}
    (there : right = some opened) : opens opened.2.fh ≠ none := by
  cases paired with
  | gone => cases there
  | both held known =>
      cases there
      rw [held]
      exact Option.some_ne_none _

end Paired

/-- Both clients have the same files open, over the same tree; no file is open twice. -/
structure Matched (rsize wsize : UInt32) (left : Desk (V3Backend Volume))
    (right : Desk (CountedClient)) (volume : Volume) (store : Store) : Prop where
  isOn : V3Backend.On rsize wsize volume left.state
  attached : V4Backend.Attached store right.state.plain
  same : store.volume.bodies = volume.bodies
  plain : volume.bodies.Plain
  count : left.count = right.count
  paired : ∀ index, Paired volume.bodies store.opens (left.files index) (right.files index)
  distinct : ∀ {i j f g}, right.files i = some f → right.files j = some g → f.2.fh = g.2.fh → i = j

namespace Matched

variable {rsize wsize : UInt32} {left : Desk (V3Backend Volume)} {right : Desk (CountedClient)}
  {volume volume' : Volume} {store store' : Store} {next : V3Backend Volume}
  {next4 : CountedClient}

/-- After a call that opens and closes nothing. -/
theorem moved (matched : Matched rsize wsize left right volume store)
    (isOn : V3Backend.On rsize wsize volume' next) (attached : V4Backend.Attached store' next4.plain)
    (same : store'.volume.bodies = volume'.bodies) (evolves : volume.bodies.Evolves volume'.bodies)
    (kept : store'.opens = store.opens) :
    Matched rsize wsize { left with state := next } { right with state := next4 } volume' store' where
  isOn := isOn
  attached := attached
  same := same
  plain := evolves.plain matched.plain
  count := matched.count
  paired index := (matched.paired index).mono evolves fun _ _ _ => by rw [kept]
  distinct := matched.distinct

/-- After an open. -/
theorem place (matched : Matched rsize wsize left right volume store)
    (isOn : V3Backend.On rsize wsize volume' next) (attached : V4Backend.Attached store' next4.plain)
    (same : store'.volume.bodies = volume'.bodies) (evolves : volume.bodies.Evolves volume'.bodies)
    {file file4 : Option (OpenFlags × OpenFile)}
    (opened : Paired volume'.bodies store'.opens file file4)
    (kept : ∀ fh, store.opens fh ≠ none → store'.opens fh = store.opens fh)
    (closed : ∀ opened, file4 = some opened → store.opens opened.2.fh = none) :
    Matched rsize wsize (left.place next file) (right.place next4 file4) volume' store' where
  isOn := isOn
  attached := attached
  same := same
  plain := evolves.plain matched.plain
  count := congrArg (· + 1) matched.count
  paired index := by
    unfold Desk.place
    dsimp only
    rw [matched.count]
    by_cases new : index = right.count
    · rw [new, Function.update_self, Function.update_self]
      exact opened
    · rw [Function.update_of_ne new, Function.update_of_ne new]
      exact (matched.paired index).mono evolves fun flags file known =>
        kept file.fh ((matched.paired index).isOpen known)
  distinct := by
    intro i j f g first second same
    unfold Desk.place at first second
    dsimp only at first second
    by_cases here : i = right.count <;> by_cases there : j = right.count
    · exact here.trans there.symm
    · rw [here, Function.update_self] at first
      rw [Function.update_of_ne there] at second
      have isOpen := (matched.paired j).isOpen second
      rw [← same, closed f first] at isOpen
      exact absurd rfl isOpen
    · rw [Function.update_of_ne here] at first
      rw [there, Function.update_self] at second
      have isOpen := (matched.paired i).isOpen first
      rw [same, closed g second] at isOpen
      exact absurd rfl isOpen
    · rw [Function.update_of_ne here] at first
      rw [Function.update_of_ne there] at second
      exact matched.distinct first second same

/-- After a file was closed. -/
theorem drop (matched : Matched rsize wsize left right volume store) {index : Nat}
    {flags : OpenFlags} {file : OpenFile} (known : right.files index = some (flags, file))
    (isOn : V3Backend.On rsize wsize volume next)
    (attached : V4Backend.Attached
      { store with opens := Function.update store.opens file.fh none } next4.plain) :
    Matched rsize wsize (left.drop next index) (right.drop next4 index) volume
      { store with opens := Function.update store.opens file.fh none } where
  isOn := isOn
  attached := attached
  same := matched.same
  plain := matched.plain
  count := matched.count
  paired other := by
    unfold Desk.drop
    dsimp only
    by_cases closed : other = index
    · rw [closed, Function.update_self, Function.update_self]
      exact .gone
    · rw [Function.update_of_ne closed, Function.update_of_ne closed]
      refine (matched.paired other).mono (.refl _) fun flags' file' there => ?_
      apply Function.update_of_ne
      intro same
      exact closed (matched.distinct there known same)
  distinct := by
    intro i j f g first second same
    unfold Desk.drop at first second
    dsimp only at first second
    by_cases here : i = index
    · rw [here, Function.update_self] at first
      cases first
    · by_cases there : j = index
      · rw [there, Function.update_self] at second
        cases second
      · rw [Function.update_of_ne here] at first
        rw [Function.update_of_ne there] at second
        exact matched.distinct first second same

end Matched

section Steps

variable {granting : Granting} {host : Host Volume} {rsize wsize : UInt32}
  {left : Desk (V3Backend Volume)} {right : Desk (CountedClient)} {volume : Volume} {store : Store}
  {root : FileHandle}

/-- Both clients make a call, with one result, and stay matched. The client of NFSv4 stays in step
unless an open fails. -/
def StepsAlike (granting : Granting) (host : Host Volume) (root : FileHandle) (rsize wsize : UInt32)
    (left : Desk (V3Backend Volume)) (right : Desk (CountedClient)) (call : FileCall) : Prop :=
  ∃ result left' right' volume' store',
    left.step (V3Backend.backend host) root.1 call = some (result, left') ∧
    right.step (V4Backend.backend (countedServer4 granting.policy).transport) root.1 call =
      some (result, right') ∧
    Matched rsize wsize left' right' volume' store' ∧
    (right.state.nfs.InStep → (∃ error, result = .opened (.error error)) ∨ right'.state.nfs.InStep)

theorem Granting.lasting (granting : Granting) : granting.policy.Lasting where
  creating refusal declined := by cases declined
  confirming refusal declined := by
    simp only [policy] at declined
    split at declined <;> cases declined

/-- Nothing has been counted since now. -/
theorem Matched.since (matched : Matched rsize wsize left right volume store) :
    V4Backend.Since right.state.nfs store right.state :=
  ⟨matched.attached, .refl _⟩

theorem step_open (served : host.nfs = (volumeServer granting.policy).transport)
    (matched : Matched rsize wsize left right volume store) (inStep : right.state.nfs.InStep)
    {path : String} {flags : OpenFlags} (meant : Meant granting root path flags store) :
    StepsAlike granting host root rsize wsize left right (.open path flags) := by
  obtain ⟨next, ran, isOn⟩ := NfsContext.open_eq_opens (V3Backend.realizes_volume served) root.1 path
    flags matched.isOn
  obtain ⟨next4, ran4, settles⟩ := NfsContext.open_settles
    (V4Backend.realizes_counted granting.lasting inStep) root.1 path flags matched.since
  rcases opens_alike matched.plain matched.same meant with
    ⟨error, one, two⟩ | ⟨fh, stateid, after, other, content, one, two, bodies, closed, evolves, known⟩
  · rw [one] at ran isOn
    rw [two] at ran4 settles
    refine ⟨.opened (.error error), left.place next none, right.place next4 none, volume, store, ?_,
      ?_, ?_, fun _ => .inl ⟨error, rfl⟩⟩
    · simp only [Desk.step, ran]
      rfl
    · simp only [Desk.step, ran4]
      rfl
    · refine matched.place isOn settles matched.same (.refl _) .gone (fun _ _ => rfl) ?_
      intro opened none
      cases none
  · rw [one] at ran isOn
    rw [two] at ran4 settles
    refine ⟨.opened (.ok (fh.1, flags.write)),
      left.place next (some (flags, ⟨fh.1, none, flags.write⟩)),
      right.place next4 (some (flags, ⟨fh.1, some stateid, flags.write⟩)), after, _, ?_, ?_,
      matched.place isOn settles.attached bodies evolves (.both (Function.update_self ..) known)
        ?_ ?_, fun _ => .inr settles.inStep⟩
    · simp only [Desk.step, ran]
      rfl
    · simp only [Desk.step, ran4]
      rfl
    · intro held isOpen
      apply Function.update_of_ne
      rintro rfl
      exact isOpen closed
    · rintro opened ⟨⟩
      exact closed

theorem content_of_bodies {fh : ObjId} {content : Content}
    (known : volume.bodies fh = some (.file content)) : volume.content fh = .ok content := by
  obtain ⟨mode, present⟩ := Volume.find_of_bodies known
  exact Volume.content_of_file present

/-- A file is opened for reading unless it is opened for writing and not created. -/
theorem readable_share {flags : OpenFlags} (readable : ¬ (flags.write ∧ flags.create = false)) :
    V4Backend.share flags.opts &&& Proto.open4ShareAccessRead ≠ 0 := by
  have cases (write create : Bool) (allowed : ¬ (write = true ∧ create = false)) :
      (if write = true ∧ create = true then Proto.open4ShareAccessBoth
        else if write = true then Proto.open4ShareAccessWrite
        else Proto.open4ShareAccessRead) &&& Proto.open4ShareAccessRead ≠ 0 := by
    revert write create
    decide
  exact cases flags.write flags.create readable

/-- A file is opened for writing when the flags say so. -/
theorem writable_share {flags : OpenFlags} (writes : flags.write) :
    V4Backend.share flags.opts &&& Proto.open4ShareAccessWrite ≠ 0 := by
  have cases (write create : Bool) (allowed : write = true) :
      (if write = true ∧ create = true then Proto.open4ShareAccessBoth
        else if write = true then Proto.open4ShareAccessWrite
        else Proto.open4ShareAccessRead) &&& Proto.open4ShareAccessWrite ≠ 0 := by
    revert write create
    decide
  exact cases flags.write flags.create writes

/-- A file is open over both versions, or over none. -/
theorem Matched.cases (matched : Matched rsize wsize left right volume store) (index : Nat) :
    left.files index = none ∧ right.files index = none ∨
      ∃ fh : FileHandle, ∃ flags stateid content,
        left.files index = some (flags, ⟨fh.1, none, flags.write⟩) ∧
        right.files index = some (flags, ⟨fh.1, some stateid, flags.write⟩) ∧
        V4Backend.Holds store ⟨fh.1, some stateid, flags.write⟩
          ⟨stateid, V4Backend.share flags.opts⟩ ∧
        volume.bodies fh.1 = some (.file content) := by
  have paired := matched.paired index
  rcases here : left.files index with _ | opened <;> rcases there : right.files index with _ | opened4
  · exact .inl ⟨rfl, rfl⟩
  · rw [here, there] at paired
    cases paired
  · rw [here, there] at paired
    cases paired
  · rw [here, there] at paired
    cases paired with
    | both held known => exact .inr ⟨_, _, _, _, rfl, rfl, ⟨held, rfl⟩, known⟩

/-- A call on a file that is open over none is not made. -/
theorem step_idle (matched : Matched rsize wsize left right volume store) {call : FileCall}
    (idle : left.step (V3Backend.backend host) root.1 call = some (.idle, left))
    (idle4 : right.step (V4Backend.backend (countedServer4 granting.policy).transport) root.1 call =
      some (.idle, right)) :
    StepsAlike granting host root rsize wsize left right call :=
  ⟨.idle, left, right, volume, store, idle, idle4, matched, fun inStep => .inr inStep⟩

theorem pread_zero {σ : Type} (vfs : VfsBackend σ) (file : OpenFile) (offset : UInt64) (state : σ) :
    (NfsContext.pread vfs file offset 0).run state = some (.ok [], state) := rfl

theorem V3Backend.On.prefRead {backend : V3Backend Volume}
    (isOn : V3Backend.On rsize wsize volume backend) (positive : 0 < rsize) :
    0 < (V3Backend.backend host).prefRead backend := by
  change 0 < backend.rsize
  rw [isOn.rsize]
  exact positive

theorem readsFrom_on (served : host.nfs = (volumeServer granting.policy).transport)
    {fh : FileHandle} {writable : Bool} {content : Content}
    (known : volume.bodies fh.1 = some (.file content)) :
    ReadsFrom (V3Backend.backend host) ⟨fh.1, none, writable⟩ content
      (V3Backend.On rsize wsize volume) := by
  intro pos want backend asked isOn
  have shown : backend.world.content fh.1 = .ok content := by
    rw [isOn.world, content_of_bodies known]
  exact ⟨_, _, backend, @V3Backend.pread_volume granting.policy host backend served
    ⟨fh.1, none, writable⟩ fh.2 content shown pos want, answers_readAtMost asked asked, isOn⟩

/-- An open file is read from its content over NFSv4, and nothing is counted. -/
theorem readsFrom_held {start : Proto.Nfs4 (SeqidState Shelf)} {fh : FileHandle}
    {stateid : Proto.Stateid4} {writable : Bool} {record : OpenRec} {content : Content}
    (held : V4Backend.Holds store ⟨fh.1, some stateid, writable⟩ record)
    (readable : record.access &&& Proto.open4ShareAccessRead ≠ 0)
    (known : store.volume.bodies fh.1 = some (.file content)) :
    ReadsFrom (V4Backend.backend (countedServer4 granting.policy).transport)
      ⟨fh.1, some stateid, writable⟩ content (V4Backend.Since start store) := by
  intro pos want backend asked since
  have short : Proto.NfsFh4.Short ⟨fh.1⟩ := Nat.le_trans fh.2 (by decide)
  have read := @V4Backend.pread_volume4 granting.policy _ _ _ _ since.attached held readable short _
    (content_of_bodies known) pos want
  obtain ⟨next, ran, after⟩ := since.follow
    (V4Backend.passes_pread since.established short pos want) read
  exact ⟨_, _, next, ran, answers_readAtMost asked asked, after⟩

/-- Reading a file over both versions. -/
theorem step_pread (served : host.nfs = (volumeServer granting.policy).transport)
    (positive : 0 < rsize) (matched : Matched rsize wsize left right volume store) {index : Nat}
    {offset count : UInt64}
    (readable : ∀ opened, right.files index = some opened →
      count = 0 ∨ ¬ (opened.1.write ∧ opened.1.create = false)) :
    StepsAlike granting host root rsize wsize left right (.pread index offset count) := by
  rcases matched.cases index with
    ⟨here, there⟩ | ⟨fh, flags, stateid, content, here, there, held, known⟩
  · apply step_idle matched
    · simp only [Desk.step, here]
    · simp only [Desk.step, there]
  · rcases readable _ there with zero | allowed
    · subst zero
      refine ⟨.read (.ok []), left, right, volume, store, ?_, ?_, matched,
        fun inStep => .inr inStep⟩
      · simp only [Desk.step, here, pread_zero]
        rfl
      · simp only [Desk.step, there, pread_zero]
        rfl
    · have present4 : store.volume.bodies fh.1 = some (.file content) := by
        rw [matched.same, known]
      have reads := @readsFrom_on granting host rsize wsize volume served fh flags.write content known
      have reads4 := @readsFrom_held granting store right.state.nfs fh stateid flags.write _ content
        held (readable_share allowed) present4
      obtain ⟨next, ran, isOn⟩ := NfsContext.pread_ready reads offset count
        (matched.isOn.prefRead positive) matched.isOn
      obtain ⟨next4, ran4, since⟩ := NfsContext.pread_ready reads4 offset count
        matched.attached.reads matched.since
      refine ⟨.read (.ok ((content.bytes.drop offset.toNat).take count.toNat)),
        { left with state := next }, { right with state := next4 }, volume, store, ?_, ?_,
        matched.moved isOn since.attached matched.same (.refl _) rfl,
        fun inStep => .inr (inStep.uncounted since.uncounted)⟩
      · simp only [Desk.step, here, ran]
        rfl
      · simp only [Desk.step, there, ran4]
        rfl

/-- What both versions do when a file is written. -/
theorem storesAll_on (served : host.nfs = (volumeServer granting.policy).transport)
    {fh : FileHandle} {writable : Bool} {mode : UInt32} :
    NfsContext.StoresAll (V3Backend.backend host).toBackend ⟨fh.1, none, writable⟩
      fun bytes backend => ∃ bounded,
        V3Backend.On rsize wsize (volume.filled fh.1 mode bytes bounded) backend := by
  rintro content piece pos backend ⟨bounded, isOn⟩ sized inside
  have written := @Volume.write_filled volume fh.1 mode content piece bounded pos inside
  rw [← isOn.world] at written
  exact ⟨_, @V3Backend.pwrite_volume granting.policy host backend served ⟨fh.1, none, writable⟩ fh.2
    pos piece sized _ written, _, isOn.withWorld⟩

/-- An open file takes what is written over NFSv4, and nothing is counted. -/
theorem storesAll_held {start : Proto.Nfs4 (SeqidState Shelf)} {fh : FileHandle}
    {stateid : Proto.Stateid4} {writable : Bool} {record : OpenRec} {mode : UInt32}
    (held : V4Backend.Holds store ⟨fh.1, some stateid, writable⟩ record)
    (writes : record.access &&& Proto.open4ShareAccessWrite ≠ 0) :
    NfsContext.StoresAll (V4Backend.backend (countedServer4 granting.policy).transport).toBackend
      ⟨fh.1, some stateid, writable⟩ fun bytes backend => ∃ bounded,
        V4Backend.Since start ⟨store.volume.filled fh.1 mode bytes bounded, store.opens⟩ backend := by
  rintro content piece pos backend ⟨bounded, since⟩ sized inside
  have short : Proto.NfsFh4.Short ⟨fh.1⟩ := Nat.le_trans fh.2 (by decide)
  have written := @Volume.write_filled store.volume fh.1 mode content piece bounded pos inside
  have still : V4Backend.Holds ⟨store.volume.filled fh.1 mode content bounded, store.opens⟩
      ⟨fh.1, some stateid, writable⟩ record := ⟨held.opens, held.stateid⟩
  have wrote := @V4Backend.pwrite_volume4 granting.policy _ _ _ _ since.attached still writes short
    pos piece sized _ written
  obtain ⟨next, ran, after⟩ := since.follow
    (V4Backend.passes_pwrite since.established short pos sized) wrote
  exact ⟨next, ran, _, after⟩

/-- A file that is filled with its own content is unchanged. -/
theorem Volume.filled_self {volume : Volume} {fh : ObjId} {content : Content}
    (known : volume.bodies fh = some (.file content)) :
    ∃ mode, volume.filled fh mode content.bytes content.bounded = volume := by
  obtain ⟨mode, present⟩ := Volume.find_of_bodies known
  exact ⟨mode, put_self present⟩

theorem step_pwrite (served : host.nfs = (volumeServer granting.policy).transport)
    (positive : 0 < wsize) (matched : Matched rsize wsize left right volume store) {index : Nat}
    {offset : UInt64} {data : Slice} (inside : offset.toNat + data.bytes.length < 2 ^ 64) :
    StepsAlike granting host root rsize wsize left right (.pwrite index offset data) := by
  rcases matched.cases index with
    ⟨here, there⟩ | ⟨fh, flags, stateid, content, here, there, held, known⟩
  · apply step_idle matched
    · simp only [Desk.step, here]
    · simp only [Desk.step, there]
  · by_cases writes : flags.write
    · have known4 : store.volume.bodies fh.1 = some (.file content) := by rw [matched.same, known]
      obtain ⟨mode, filled⟩ := Volume.filled_self known
      obtain ⟨mode4, filled4⟩ := Volume.filled_self known4
      have stores := @storesAll_on granting host rsize wsize volume served fh flags.write mode
      have stores4 := @storesAll_held granting store right.state.nfs fh stateid flags.write _ mode4
        held (writable_share writes)
      have isOn : V3Backend.On rsize wsize
          (volume.filled fh.1 mode content.bytes content.bounded) left.state := by
        rw [filled]
        exact matched.isOn
      have since : V4Backend.Since right.state.nfs
          ⟨store.volume.filled fh.1 mode4 content.bytes content.bounded, store.opens⟩
          right.state := by
        rw [filled4]
        exact matched.since
      have size : 0 < (V3Backend.backend host).prefWrite left.state := by
        change 0 < left.state.wsize
        rw [matched.isOn.wsize]
        exact positive
      obtain ⟨next, ran, bounded, after⟩ := NfsContext.pwrite_stores stores inside size ⟨_, isOn⟩
      obtain ⟨next4, ran4, bounded4, after4⟩ := NfsContext.pwrite_stores stores4 inside
        matched.attached.writes ⟨_, since⟩
      refine ⟨.written (.ok (UInt64.ofNat data.bytes.length)), { left with state := next },
        { right with state := next4 }, _, _, ?_, ?_, matched.moved after after4.attached ?_ ?_ rfl,
        fun inStep => .inr (inStep.uncounted after4.uncounted)⟩
      · simp only [Desk.step, here, if_pos writes, ran]
        rfl
      · simp only [Desk.step, there, if_pos writes, ran4]
        rfl
      · rw [Volume.filled, Volume.filled, Volume.bodies_put, Volume.bodies_put, matched.same]
      · rw [Volume.filled, Volume.bodies_put]
        exact .update_file _ _ _
    · apply step_idle matched
      · simp only [Desk.step, here, if_neg writes]
      · simp only [Desk.step, there, if_neg writes]

/-- A close over NFSv3 commits a file that was written. -/
theorem close_on (served : host.nfs = (volumeServer granting.policy).transport) {fh : FileHandle}
    {writable : Bool} {content : Content} (known : volume.bodies fh.1 = some (.file content))
    {backend : V3Backend Volume} (isOn : V3Backend.On rsize wsize volume backend) :
    (NfsContext.close (V3Backend.backend host).toBackend ⟨fh.1, none, writable⟩).run backend =
      some (.ok (), backend) := by
  have shown : backend.world.content fh.1 = .ok content := by
    rw [isOn.world, content_of_bodies known]
  have committed := @V3Backend.commit_volume granting.policy host backend served
    ⟨fh.1, none, writable⟩ fh.2 content shown
  cases writable with
  | false => rfl
  | true => exact Prog.bind_of_ok (Prog.outcome_of committed)

/-- A close over NFSv4 also gives the stateid back. -/
theorem close_held {fh : FileHandle} {stateid : Proto.Stateid4} {writable : Bool}
    {record : OpenRec} {content : Content}
    (held : V4Backend.Holds store ⟨fh.1, some stateid, writable⟩ record)
    (known : store.volume.bodies fh.1 = some (.file content))
    {backend : CountedClient} (ready : V4Backend.InStepOn store backend) :
    ∃ next, (NfsContext.close (V4Backend.backend (countedServer4 granting.policy).transport).toBackend
        ⟨fh.1, some stateid, writable⟩).run backend = some (.ok (), next) ∧
      V4Backend.InStepOn { store with opens := Function.update store.opens fh.1 none } next := by
  have short : Proto.NfsFh4.Short ⟨fh.1⟩ := Nat.le_trans fh.2 (by decide)
  cases writable with
  | false => exact V4Backend.close_inStep granting.lasting ready held short
  | true =>
      have since : V4Backend.Since backend.nfs store backend := ⟨ready.attached, .refl _⟩
      have commits := @V4Backend.commit_volume4 granting.policy _ _ ⟨fh.1, some stateid, true⟩
        since.attached short _ (content_of_bodies known)
      obtain ⟨mid, committed, after⟩ := since.follow
        (V4Backend.passes_commit since.established short) commits
      obtain ⟨next, closed, ended⟩ := V4Backend.close_inStep granting.lasting
        (after.inStepOn ready.inStep) held short
      exact ⟨next, (Prog.bind_of_ok (Prog.outcome_of committed)).trans closed, ended⟩

theorem step_close (served : host.nfs = (volumeServer granting.policy).transport)
    (matched : Matched rsize wsize left right volume store) {index : Nat}
    (inStep : ∀ opened, right.files index = some opened → right.state.nfs.InStep) :
    StepsAlike granting host root rsize wsize left right (.close index) := by
  rcases matched.cases index with
    ⟨here, there⟩ | ⟨fh, flags, stateid, content, here, there, held, known⟩
  · apply step_idle matched
    · simp only [Desk.step, here]
    · simp only [Desk.step, there]
  · have known4 : store.volume.bodies fh.1 = some (.file content) := by rw [matched.same, known]
    have ran := @close_on granting host rsize wsize volume served fh flags.write content known
      left.state matched.isOn
    obtain ⟨next4, ran4, ended⟩ := @close_held granting store fh stateid flags.write _ content
      held known4 right.state ⟨matched.attached, inStep _ there⟩
    refine ⟨.closed (.ok ()), left.drop left.state index, right.drop next4 index, volume, _, ?_, ?_,
      matched.drop there matched.isOn ended.attached, fun _ => .inr ended.inStep⟩
    · simp only [Desk.step, here, ran]
      rfl
    · simp only [Desk.step, there, ran4]
      rfl

end Steps

/-- A call that comes to the same over both versions: an open that means the same, a read of a
file that was not opened for writing alone, a write that ends before the largest offset; and a
file is opened or closed when the client is in step. -/
def Fits (granting : Granting) (root : FileHandle) (desk : Desk (CountedClient)) : FileCall → Prop
  | .open path flags => desk.state.nfs.InStep ∧
      Meant granting root path flags desk.state.nfs.rpc.inner.store
  | .pread index _ count => ∀ opened, desk.files index = some opened →
      count = 0 ∨ ¬ (opened.1.write ∧ opened.1.create = false)
  | .pwrite _ offset data => offset.toNat + data.bytes.length < 2 ^ 64
  | .close index => ∀ opened, desk.files index = some opened → desk.state.nfs.InStep

/-- Every call of a sequence does, where it is made. -/
def AllFit (granting : Granting) (root : FileHandle) : List FileCall → Desk (CountedClient) → Prop
  | [], _ => True
  | call :: calls, desk => Fits granting root desk call ∧
      ∀ result next, desk.step (V4Backend.backend (countedServer4 granting.policy).transport) root.1
        call = some (result, next) → AllFit granting root calls next

section Sequences

variable {granting : Granting} {host : Host Volume} {rsize wsize : UInt32} {root : FileHandle}
  {volume : Volume}

theorem step_alike (served : host.nfs = (volumeServer granting.policy).transport)
    (reads : 0 < rsize) (writes : 0 < wsize) {left : Desk (V3Backend Volume)}
    {right : Desk (CountedClient)} {store : Store}
    (matched : Matched rsize wsize left right volume store) {call : FileCall}
    (fits : Fits granting root right call) :
    StepsAlike granting host root rsize wsize left right call := by
  cases call with
  | «open» path flags =>
      apply step_open served matched fits.1
      rw [← matched.attached.stores]
      exact fits.2
  | pread index offset count => exact step_pread served reads matched fits
  | pwrite index offset data => exact step_pwrite served writes matched fits
  | close index => exact step_close served matched fits

/-- From matched clients a sequence of calls that fit returns the same. -/
theorem run_matched (served : host.nfs = (volumeServer granting.policy).transport)
    (reads : 0 < rsize) (writes : 0 < wsize) (calls : List FileCall)
    {left : Desk (V3Backend Volume)} {right : Desk (CountedClient)} {store : Store}
    (matched : Matched rsize wsize left right volume store)
    (fits : AllFit granting root calls right) :
    ∃ results final final4, left.run (V3Backend.backend host) root.1 calls = some (results, final) ∧
      right.run (V4Backend.backend (countedServer4 granting.policy).transport) root.1 calls =
        some (results, final4) ∧
      (right.state.nfs.InStep →
        (∃ error, .opened (.error error) ∈ results) ∨ final4.state.nfs.InStep) := by
  induction calls generalizing left right volume store with
  | nil => exact ⟨[], left, right, rfl, rfl, .inr⟩
  | cons call calls ih =>
      obtain ⟨first, rest⟩ := fits
      obtain ⟨result, left', right', volume', store', stepped, stepped4, matched', stays⟩ :=
        step_alike served reads writes matched first
      obtain ⟨results, final, final4, ran, ran4, ends⟩ := ih matched' (rest result right' stepped4)
      refine ⟨result :: results, final, final4, ?_, ?_, fun inStep => ?_⟩
      · simp only [Desk.run, stepped, ran]
        rfl
      · simp only [Desk.run, stepped4, ran4]
        rfl
      · rcases stays inStep with ⟨error, rfl⟩ | still
        · exact .inl ⟨error, List.mem_cons_self⟩
        · exact (ends still).imp_left fun ⟨error, member⟩ => ⟨error, List.mem_cons_of_mem _ member⟩

variable {client : V3Backend Volume} {client4 : CountedClient}

theorem matched_bare (plain : volume.bodies.Plain) (shown : client.world = volume)
    (attached : V4Backend.Attached ⟨volume, fun _ => none⟩ client4.plain) :
    Matched client.rsize client.wsize (.bare client) (.bare client4) volume
      ⟨volume, fun _ => none⟩ := by
  refine ⟨⟨shown, rfl, rfl⟩, attached, rfl, plain, rfl, fun _ => .gone, ?_⟩
  intro i j f g none
  cases none

/-- Two servers with one tree of directories and regular files, none of them open, return the
same to every sequence of calls that fit. -/
theorem run_alike (served : host.nfs = (volumeServer granting.policy).transport)
    (plain : volume.bodies.Plain) (shown : client.world = volume) (reads : 0 < client.rsize)
    (writes : 0 < client.wsize)
    (attached : V4Backend.Attached ⟨volume, fun _ => none⟩ client4.plain) (calls : List FileCall)
    (fits : AllFit granting root calls (.bare client4)) :
    ∃ results final final4,
      (Desk.bare client).run (V3Backend.backend host) root.1 calls = some (results, final) ∧
      (Desk.bare client4).run (V4Backend.backend (countedServer4 granting.policy).transport) root.1
        calls = some (results, final4) := by
  obtain ⟨results, final, final4, ran, ran4, -⟩ := run_matched served reads writes calls
    (matched_bare plain shown attached) fits
  exact ⟨results, final, final4, ran, ran4⟩

/-- A client that begins in step is in step until an open fails. -/
theorem run_inStep (plain : volume.bodies.Plain)
    (attached : V4Backend.Attached ⟨volume, fun _ => none⟩ client4.plain)
    (inStep : client4.nfs.InStep) {calls : List FileCall}
    (fits : AllFit granting root calls (.bare client4)) {results : List CallResult}
    {final : Desk (CountedClient)}
    (ran : (Desk.bare client4).run (V4Backend.backend (countedServer4 granting.policy).transport)
      root.1 calls = some (results, final)) :
    (∃ error, .opened (.error error) ∈ results) ∨ final.state.nfs.InStep := by
  have one : (0 : UInt32) < 1 := by decide
  have shown : (⟨volume, 1, 1, none, [], 1⟩ : V3Backend Volume).world = volume := rfl
  obtain ⟨others, -, other, -, ran4, ends⟩ := @run_matched granting
    (serverHost (volumeServer granting.policy)) _ _ root volume rfl one one calls _ _ _
    (matched_bare plain shown attached) fits
  rw [ran] at ran4
  cases ran4
  exact ends inStep

end Sequences

theorem length_plainFile : List.length ([1] : ObjId) ≤ 64 := by decide

/-- The handle of the sample file. -/
def plainFile : FileHandle :=
  ⟨[1], length_plainFile⟩

/-- A directory with one file `f`. -/
def plainVolume : Volume where
  node fh :=
    if fh = [0] then
      some ⟨.dir fun name => if name = "f" then some plainFile else none, 0o755⟩
    else if fh = [1] then some ⟨.file NfsContext.threeBytes, 0o644⟩
    else none

/-- New files get a handle next to that of their directory. -/
def plainGranting : Granting where
  pick _ dir _ := newHandle dir
  distinct _ dir _ := newHandle_ne dir
  stateid _ := ⟨1, Vector.replicate 12 1⟩
  confirms := false

/-- The sample server over NFSv3. -/
def plainHost : Host Volume :=
  serverHost (volumeServer plainGranting.policy)

/-- Its client over NFSv3. -/
def plainClient : V3Backend Volume :=
  ⟨plainVolume, 65536, 65536, none, [], 1⟩

/-- Its client over NFSv4.0. -/
def plainClient4 : CountedClient :=
  .new ⟨⟨⟨⟨plainVolume, fun _ => none⟩, NfsContext.linkedRoot.handle⟩, 0, none⟩, 0, 1,
    Proto.uniqueOwner 1 1, 0, 0, none, 0⟩

theorem plain_plainVolume : plainVolume.bodies.Plain := by
  intro fh target linked
  obtain ⟨node, known, body⟩ := Option.map_eq_some_iff.mp linked
  simp only [plainVolume] at known
  split at known
  · cases known
    cases body
  · split at known
    · cases known
      cases body
    · cases known

/-- The client is in step when the file has been opened and read. -/
theorem inStep_plain : ((Desk.bare plainClient4).run
    (V4Backend.backend (countedServer4 plainGranting.policy).transport) NfsContext.linkedRoot.1
    [.open "/f" .readOnly, .pread 0 0 3]).map (fun ended => decide ended.2.state.nfs.InStep) =
      some true := by
  decide +kernel

/-- Opening the sample file means the same over both versions. -/
theorem meant_plain :
    Meant plainGranting NfsContext.linkedRoot "/f" .readOnly ⟨plainVolume, fun _ => none⟩ := by
  have comps : splitComponents "/f" = ["f"] := by decide
  have led : (plainVolume.tree wire4).parent NfsContext.linkedRoot.1 "/f" = .ok [0] := by
    simp only [Tree.parent, comps, List.dropLast_singleton, Tree.walk]
    rfl
  refine ⟨rfl, ⟨?_, ?_, ?_⟩, fun _ _ _ => rfl, ?_⟩
  · rw [comps]
    decide
  · rw [comps]
    decide
  · rw [comps]
    decide
  · intro name dir last parent fh names looked
    rw [comps] at last
    cases last
    rw [show (plainVolume.tree wire4).parent NfsContext.linkedRoot.1 "/f" = _ from led] at parent
    cases parent
    cases looked

/-- The file is read over both. -/
theorem run_alike_plain : ∃ results final final4,
    (Desk.bare plainClient).run (V3Backend.backend plainHost) NfsContext.linkedRoot.1
      [.open "/f" .readOnly, .pread 0 0 3, .close 0] = some (results, final) ∧
    (Desk.bare plainClient4).run (V4Backend.backend (countedServer4 plainGranting.policy).transport)
      NfsContext.linkedRoot.1 [.open "/f" .readOnly, .pread 0 0 3, .close 0] =
        some (results, final4) := by
  have served : plainHost.nfs = (volumeServer plainGranting.policy).transport := rfl
  have attached : V4Backend.Attached ⟨plainVolume, fun _ => none⟩ plainClient4.plain :=
    ⟨⟨.inl rfl, 1, 1, rfl⟩, rfl, by decide, by decide⟩
  have shown : plainClient.world = plainVolume := rfl
  have sizes : 0 < plainClient.rsize ∧ 0 < plainClient.wsize := by decide
  have inStep : plainClient4.nfs.InStep := fun _ _ absurd => nomatch absurd
  refine @run_alike plainGranting plainHost NfsContext.linkedRoot plainVolume plainClient
    plainClient4 served plain_plainVolume shown sizes.1 sizes.2 attached _ ?_
  refine ⟨⟨inStep, meant_plain⟩, fun opened next isOpen => ⟨fun file known => ?_,
    fun read final isRead => ⟨fun _ _ => ?_, fun _ _ _ => trivial⟩⟩⟩
  · right
    rw [Desk.flags_of_open isOpen known]
    decide
  · have ended := inStep_plain
    simp only [Desk.run, isOpen, isRead, Option.map_some, Option.some.injEq,
      decide_eq_true_eq] at ended
    exact ended

/-- A file that was opened for writing alone is read over NFSv3, and not over NFSv4. After an open
of a file that is not there, the next open gives the file over NFSv3, and over v4.0 the reply
that the server remembers. -/
theorem run_differs :
    (∃ final final4,
      (Desk.bare plainClient).run (V3Backend.backend plainHost) [0]
        [.open "/f" .readWrite, .pread 0 0 3] =
          some ([.opened (.ok ([1], true)), .read (.ok [1, 2, 3])], final) ∧
      (Desk.bare plainClient4).run
          (V4Backend.backend (countedServer4 plainGranting.policy).transport) [0]
        [.open "/f" .readWrite, .pread 0 0 3] =
          some ([.opened (.ok ([1], true)), .read (.error (.proto (.nfs4 10038)))], final4)) ∧
    ∃ final final4,
      (Desk.bare plainClient).run (V3Backend.backend plainHost) [0]
        [.open "/g" .readOnly, .open "/f" .readOnly] =
          some ([.opened (.error .notFound), .opened (.ok ([1], false))], final) ∧
      (Desk.bare plainClient4).run
          (V4Backend.backend (countedServer4 plainGranting.policy).transport) [0]
        [.open "/g" .readOnly, .open "/f" .readOnly] =
          some ([.opened (.error .notFound), .opened (.error .notFound)], final4) := by
  have written : ((Desk.bare plainClient).run (V3Backend.backend plainHost) [0]
      [.open "/f" .readWrite, .pread 0 0 3]).map Prod.fst =
        some [.opened (.ok ([1], true)), .read (.ok [1, 2, 3])] := by decide +kernel
  have written4 : ((Desk.bare plainClient4).run
      (V4Backend.backend (countedServer4 plainGranting.policy).transport) [0]
      [.open "/f" .readWrite, .pread 0 0 3]).map Prod.fst =
        some [.opened (.ok ([1], true)), .read (.error (.proto (.nfs4 10038)))] := by
    decide +kernel
  have missed : ((Desk.bare plainClient).run (V3Backend.backend plainHost) [0]
      [.open "/g" .readOnly, .open "/f" .readOnly]).map Prod.fst =
        some [.opened (.error .notFound), .opened (.ok ([1], false))] := by decide +kernel
  have missed4 : ((Desk.bare plainClient4).run
      (V4Backend.backend (countedServer4 plainGranting.policy).transport) [0]
      [.open "/g" .readOnly, .open "/f" .readOnly]).map Prod.fst =
        some [.opened (.error .notFound), .opened (.error .notFound)] := by
    decide +kernel
  constructor
  · obtain ⟨⟨results, final⟩, ran, rfl⟩ := Option.map_eq_some_iff.mp written
    obtain ⟨⟨results4, final4⟩, ran4, rfl⟩ := Option.map_eq_some_iff.mp written4
    exact ⟨final, final4, ran, ran4⟩
  · obtain ⟨⟨results, final⟩, ran, rfl⟩ := Option.map_eq_some_iff.mp missed
    obtain ⟨⟨results4, final4⟩, ran4, rfl⟩ := Option.map_eq_some_iff.mp missed4
    exact ⟨final, final4, ran, ran4⟩

end LibNfs.Client
