import LibNfs.Client.FilesV3
import LibNfs.Client.FilesV4
import LibNfs.Client.LegalNames

/-! # Calls on names over both versions

The same calls on the same file system, by a client of either version. They come to the
same as long as no path and no link leads upward, what is removed is of the kind that the
call says, owners are left alone, and the server gives directories the mode that NFSv3
asks for.
-/

namespace LibNfs.Client

open Proto (Transport)
open Prog (Kindred Simulates Together)

/-- The same error, or what either version makes of one status. -/
def SameCause (error error' : NfsError) : Prop :=
  error = error' ∨ ∃ status : Status,
    error = .fromNfsstat3 status.code ∧ error' = .fromNfsstat4 status.code

namespace FileSystem

variable {S : Type} (fs : FileSystem S)

/-- No link leads upward. -/
def LinksStraight (state : S) : Prop :=
  ∀ fh target, fs.readlink state fh = .ok target → Straight target.1

/-- Directories are made with the mode that NFSv3 asks for. -/
def DefaultMode : Prop :=
  ∀ state dir name, fs.mkdir state dir name (some 0o755) = fs.mkdir state dir name none

/-- Asking for the kind of what is removed makes no difference: it is of the kind, or there is
nothing to remove. -/
def Removable (directory : Bool) (dir : ObjId) (name : String) (state : S) : Prop :=
  match fs.entry dir name state with
  | .ok (_, metadata) => metadata.isDirectory = directory
  | .error status => fs.erase state dir name = .error status

section Acting

variable {fs} {α β : Type} {made : α → β} {outcome outcome' : S → Except Status (α × S)} {state : S}
  {post : S → S → Prop}

theorem acts_together (same : outcome state = outcome' state)
    (done : ∀ {value next}, outcome state = .ok (value, next) → post next next)
    (failed : post state state) :
    Together Eq SameCause post ((acts dialect3 made outcome).run state)
      ((acts dialect4 made outcome').run state) := by
  rcases decided : outcome state with status | ⟨value, next⟩
  · rw [acts_error decided, acts_error (same.symm.trans decided)]
    exact .some ⟨.error (.inr ⟨status, rfl, rfl⟩), failed⟩
  · rw [acts_ok decided, acts_ok (same.symm.trans decided)]
    exact .some ⟨.ok rfl, done decided⟩

/-- The same state, in which no link leads upward. -/
def SameStraight (fs : FileSystem S) (state state' : S) : Prop :=
  state = state' ∧ fs.LinksStraight state

theorem sees_alike {known known' : S → Except Status α}
    (same : ∀ state, known state = known' state) :
    Simulates fs.SameStraight Eq SameCause fs.SameStraight (acts dialect3 made (seeing known))
      (acts dialect4 made (seeing known')) := by
  rintro state _ ⟨rfl, straight⟩
  apply acts_together
  · rw [seeing, seeing, same]
  · intro value next decided
    rw [(seeing_inv decided).2]
    exact ⟨rfl, straight⟩
  · exact ⟨rfl, straight⟩

theorem changes_alike (same : ∀ state, outcome state = outcome' state) :
    Simulates fs.SameStraight Eq SameCause Eq (acts dialect3 made outcome)
      (acts dialect4 made outcome') := by
  rintro state _ ⟨rfl, -⟩
  exact acts_together (same state) (fun _ => rfl) rfl

end Acting

section Views

variable {fs} {name : String}

theorem allows_legal (legal : Legal name) : dialect4.allows name = .ok () :=
  if_pos legal

theorem removeAs_alike {directory : Bool} {dir : ObjId} {state : S} (legal : Legal name)
    (removable : fs.Removable directory dir name state) :
    fs.removeAs dialect3 directory dir name state =
      fs.removeAs dialect4 directory dir name state := by
  rw [removeAs, removeAs, allows_legal legal]
  rw [Removable] at removable
  rcases entered : fs.entry dir name state with status | ⟨fh, metadata⟩
  · rw [entered] at removable
    exact removable.symm
  · rw [entered] at removable
    exact if_pos removable

theorem lookedUp_of_straight {path : String} (straight : Straight path) :
    LookedUp Legal (splitComponents path) :=
  fun name member named => (legal_lookedUp.mpr straight name ⟨member, named⟩).legal

theorem addressed_of_placed {path : String} (placed : Placed path) : Addressed Legal path := by
  have legal := legal_addressed.mpr placed
  exact ⟨fun name member named => (legal name (.inl ⟨member, named⟩)).legal,
    fun name last => (legal name (.inr last)).legal⟩

/-- The attributes that both versions send. -/
def Sent (attr : SetAttr) : Prop :=
  attr.uid = none ∧ attr.gid = none

/-- What both versions make of the same request is the same, but for the removal of names. -/
theorem views_alike (defaultMode : fs.DefaultMode) :
    ChangesAlike Legal SameCause Sent False fs.SameStraight Eq (fs.view dialect3)
      (fs.view dialect4) where
  refl _ := .inl rfl
  lookup _ legal := by
    refine (sees_alike fun state => ?_).and fun _ => view_lookup
    rw [lookupAs, lookupAs, allows_legal legal]
    rfl
  readlink _ := by
    refine (sees_alike fun _ => rfl).and fun same read => ?_
    obtain ⟨rfl, straight⟩ := same
    obtain ⟨found, told, rfl⟩ := view_readlink read
    exact lookedUp_of_straight (straight _ _ told)
  getattr _ := sees_alike fun _ => rfl
  statvfs _ := sees_alike fun _ => rfl
  access _ _ := sees_alike fun _ => rfl
  kept _ _ same := same.1
  setattr := by
    rintro fh ⟨mode, uid, gid, size, _, _⟩ _ ⟨rfl, rfl⟩
    exact changes_alike fun _ => rfl
  mkdir _ legal := by
    apply changes_alike
    intro state
    rw [mkdirAs, mkdirAs, allows_legal legal]
    exact defaultMode state _ _
  rmdir removes := removes.elim
  remove removes := removes.elim
  rename _ legal _ legalTo := by
    apply changes_alike
    intro state
    rw [only, only, renameAs, renameAs, allows_legal legal, allows_legal legalTo]
    rfl
  symlink _ legal _ := by
    apply changes_alike
    intro state
    rw [symlinkAs, symlinkAs, allows_legal legal]
    rfl
  link _ _ legal := by
    apply changes_alike
    intro state
    rw [only, only, linkAs, linkAs, allows_legal legal]
    rfl

end Views

/-- What a path names is of the kind that is to be removed, or there is nothing to remove. -/
def RemovesKind (root : ObjId) (directory : Bool) (path : String) (state : S) : Prop :=
  ∀ dir name next,
    (NfsContext.resolveParent (fs.view dialect3).toBackend root path).run state =
      some (.ok (dir, name), next) → fs.Removable directory dir name next

end FileSystem

namespace NameCall

variable {S : Type} (fs : FileSystem S) (root : ObjId)

/-- No path of the call goes upward, and each whose last component is sent ends in a name. -/
def Proper : NameCall → Prop
  | stat path | lstat path | access path | statvfs path | readlink path | chmod path _
  | chown path _ _ | truncate path _ => Straight path
  | mkdir path | rmdir path | unlink path | symlink _ path => Placed path
  | rename fromPath toPath => Placed fromPath ∧ Placed toPath
  | link oldpath newpath => Straight oldpath ∧ Placed newpath

/-- The call sets no owner, and what it removes is of the kind that it says. -/
def Fits (state : S) : NameCall → Prop
  | rmdir path => fs.RemovesKind root true path state
  | unlink path => fs.RemovesKind root false path state
  | chown .. => False
  | stat _ | lstat _ | access _ | statvfs _ | readlink _ | chmod .. | truncate .. | mkdir _
  | symlink .. | rename .. | link .. => True

/-- Every call is proper and fits the state that it finds, and no link leads upward there. -/
def Fitting : List NameCall → S → Prop
  | [], _ => True
  | call :: calls, state =>
      fs.LinksStraight state ∧ call.Proper ∧ call.Fits fs root state ∧
        ∀ outcome next, (call.perform (fs.view dialect3) root).run state = some (outcome, next) →
          Fitting calls next

variable {fs root} {state : S}

theorem Fitting.cons {call : NameCall} {calls : List NameCall}
    {outcome : Except NfsError NameAnswer} {next : S} (straight : fs.LinksStraight state)
    (proper : call.Proper) (fits : call.Fits fs root state)
    (ran : (call.perform (fs.view dialect3) root).run state = some (outcome, next))
    (rest : Fitting fs root calls next) : Fitting fs root (call :: calls) state := by
  refine ⟨straight, proper, fits, fun other after ended => ?_⟩
  rw [ran] at ended
  cases ended
  exact rest

theorem carried_of_proper {call : NameCall} (sized : ∀ text ∈ call.texts, SizedName text)
    (proper : call.Proper) : call.Carried Legal := by
  cases call with
  | stat | lstat | access | statvfs | readlink | chmod | chown | truncate =>
      exact FileSystem.lookedUp_of_straight proper
  | mkdir | rmdir | unlink => exact FileSystem.addressed_of_placed proper
  | symlink target linkpath =>
      exact ⟨FileSystem.addressed_of_placed proper, sized target List.mem_cons_self⟩
  | rename =>
      exact ⟨FileSystem.addressed_of_placed proper.1, FileSystem.addressed_of_placed proper.2⟩
  | link =>
      exact ⟨FileSystem.lookedUp_of_straight proper.1, FileSystem.addressed_of_placed proper.2⟩

/-- A name of the kind that is to be removed is removed alike. -/
theorem removes_alike (defaultMode : fs.DefaultMode) (shortRoot : root.length ≤ 64)
    (straight : fs.LinksStraight state) {directory : Bool} {path : String} (placed : Placed path)
    (removes : fs.RemovesKind root directory path state) :
    Together Eq SameCause Eq
      ((do
        let (dir, name) ← NfsContext.resolveParent (fs.view dialect3).toBackend root path
        FileSystem.acts dialect3 id
          (FileSystem.only (fs.removeAs dialect3 directory dir name))).run state)
      ((do
        let (dir, name) ← NfsContext.resolveParent (fs.view dialect4).toBackend root path
        FileSystem.acts dialect4 id
          (FileSystem.only (fs.removeAs dialect4 directory dir name))).run state) := by
  have led := (FileSystem.views_alike defaultMode).resolveParent shortRoot
    (FileSystem.addressed_of_placed placed) state state ⟨rfl, straight⟩
  apply led.bind ?_ fun _ _ between => between.1
  rintro ⟨dir, name⟩ _ middle _ ran ⟨rfl, -, legal⟩ ⟨rfl, -⟩
  refine FileSystem.acts_together ?_ (fun _ => rfl) rfl
  rw [FileSystem.only, FileSystem.only,
    FileSystem.removeAs_alike legal (removes dir name middle ran)]

/-- Two changes that come to the same end the same call. -/
theorem finishing_alike {body body' : Prog S NfsError Unit}
    (alike : Together Eq SameCause Eq (body.run state) (body'.run state)) :
    Together Eq SameCause Eq ((finishing body).run state) ((finishing body').run state) := by
  apply alike.bind ?_ fun _ _ same => same
  rintro _ _ middle _ - - rfl
  exact .some ⟨.ok rfl, rfl⟩

/-- A call that is proper and fits comes to the same over both versions. -/
theorem perform_alike (defaultMode : fs.DefaultMode) (shortRoot : root.length ≤ 64)
    {call : NameCall} (sized : ∀ text ∈ call.texts, SizedName text) (straight : fs.LinksStraight state)
    (proper : call.Proper) (fits : call.Fits fs root state) :
    Together Eq SameCause Eq ((call.perform (fs.view dialect3) root).run state)
      ((call.perform (fs.view dialect4) root).run state) := by
  have permitted (permitted : call.Permitted FileSystem.Sent False) :
      Together Eq SameCause Eq ((call.perform (fs.view dialect3) root).run state)
        ((call.perform (fs.view dialect4) root).run state) :=
    (FileSystem.views_alike defaultMode).perform shortRoot (carried_of_proper sized proper)
      permitted state state ⟨rfl, straight⟩
  cases call with
  | stat | lstat | access | statvfs | readlink | mkdir | symlink | rename | link =>
      exact permitted trivial
  | chmod | truncate => exact permitted ⟨rfl, rfl⟩
  | chown => exact fits.elim
  | rmdir path => exact finishing_alike (removes_alike defaultMode shortRoot straight proper fits)
  | unlink path => exact finishing_alike (removes_alike defaultMode shortRoot straight proper fits)

/-- Calls that fit the states that they find come to the same over both versions. -/
theorem performAll_alike (defaultMode : fs.DefaultMode) (shortRoot : root.length ≤ 64)
    {calls : List NameCall} (sized : ∀ call ∈ calls, ∀ text ∈ call.texts, SizedName text)
    (fitting : Fitting fs root calls state) :
    Together (List.Forall₂ (Kindred Eq SameCause)) SameCause Eq
      ((performAll (fs.view dialect3) root calls).run state)
      ((performAll (fs.view dialect4) root calls).run state) := by
  induction calls generalizing state with
  | nil => exact .some ⟨.ok .nil, rfl⟩
  | cons call calls ih =>
      obtain ⟨straight, proper, fits, rest⟩ := fitting
      have first := perform_alike defaultMode shortRoot (sized call List.mem_cons_self) straight
        proper fits
      apply first.outcome.bind ?_ fun _ _ same => same
      rintro outcome outcome' middle _ ran same rfl
      obtain ⟨_, kept, performed⟩ := Prog.outcome_eq_some ran
      cases kept
      have others := ih (fun call member => sized call (List.mem_cons_of_mem _ member))
        (rest _ middle performed)
      apply others.bind ?_ fun _ _ same => same
      rintro outcomes outcomes' last _ - alike rfl
      exact .some ⟨.ok (.cons same alike), rfl⟩

end NameCall

section Ending

variable {σ : Type} {backend : Backend σ} {root cur : ObjId} {followFinal : Bool}
  {comps : List String}

theorem ends_walk {follow : ObjId → ObjId → List String → Prog σ NfsError ObjId}
    (looks : ∀ dir name, (backend.lookup dir name).Ends)
    (follows : ∀ cur fh comps, (follow cur fh comps).Ends) :
    (NfsContext.walk backend followFinal follow cur comps).Ends := by
  induction comps generalizing cur with
  | nil => exact Prog.Ends.pure cur
  | cons name comps ih =>
      rw [NfsContext.walk]
      split
      · exact ih
      · apply (looks cur name).bind
        rintro ⟨fh, attr⟩
        dsimp only
        split
        · exact follows cur fh comps
        · exact ih

theorem ends_resolveFrom (looks : ∀ dir name, (backend.lookup dir name).Ends)
    (reads : ∀ fh, (backend.readlink fh).Ends) (links : Nat) :
    (NfsContext.resolveFrom backend root followFinal links cur comps).Ends := by
  induction links generalizing cur comps with
  | zero => exact ends_walk looks fun _ _ _ => Prog.Ends.throw _
  | succ links ih =>
      apply ends_walk looks
      intro cur fh comps
      exact (reads fh).bind fun target => ih

theorem ends_resolveParent (looks : ∀ dir name, (backend.lookup dir name).Ends)
    (reads : ∀ fh, (backend.readlink fh).Ends) (path : String) :
    (NfsContext.resolveParent backend root path).Ends := by
  rcases last : (splitComponents path).getLast? with _ | name
  · simp only [NfsContext.resolveParent, last]
    exact Prog.Ends.throw _
  · rw [NfsContext.resolveParent_eq last]
    exact (ends_resolveFrom looks reads _).bind fun dir => Prog.Ends.pure _

end Ending

namespace FileSystem

variable {S : Type} {fs : FileSystem S} {dialect : Dialect} {root : ObjId}

theorem acts_ends {α β : Type} {made : α → β} {outcome : S → Except Status (α × S)} :
    (acts dialect made outcome).Ends := by
  intro state
  rcases decided : outcome state with status | ⟨value, next⟩
  · exact ⟨_, _, acts_error decided⟩
  · exact ⟨_, _, acts_ok decided⟩

theorem perform_ends (call : NameCall) : (call.perform (fs.view dialect) root).Ends := by
  have object (path : String) (followFinal : Bool) :
      (NfsContext.resolve (fs.view dialect).toBackend root path followFinal).Ends :=
    ends_resolveFrom (fun _ _ => acts_ends) (fun _ => acts_ends) _
  have place (path : String) :
      (NfsContext.resolveParent (fs.view dialect).toBackend root path).Ends :=
    ends_resolveParent (fun _ _ => acts_ends) (fun _ => acts_ends) path
  have answers {α : Type} {answer : α → NameAnswer} {body : Prog S NfsError α} (ends : body.Ends) :
      (NameCall.answering answer body).Ends :=
    ends.bind fun value => Prog.Ends.pure _
  cases call with
  | stat path | lstat path | statvfs path | readlink path | chmod path | chown path
  | truncate path => exact answers ((object path _).bind fun _ => acts_ends)
  | access path =>
      exact answers ((object path _).bind fun _ => acts_ends.bind fun _ => Prog.Ends.pure _)
  | mkdir path =>
      exact answers ((place path).bind fun _ => acts_ends.bind fun _ => Prog.Ends.pure _)
  | rmdir path | unlink path | symlink _ path =>
      exact answers ((place path).bind fun _ => acts_ends)
  | rename fromPath toPath =>
      exact answers ((place fromPath).bind fun _ => (place toPath).bind fun _ => acts_ends)
  | link oldpath newpath =>
      exact answers ((object oldpath _).bind fun _ => (place newpath).bind fun _ => acts_ends)

theorem performAll_returns (calls : List NameCall) (state : S) :
    ∃ outcomes next, (NameCall.performAll (fs.view dialect) root calls).run state =
      some (.ok outcomes, next) := by
  induction calls generalizing state with
  | nil => exact ⟨[], state, rfl⟩
  | cons call calls ih =>
      obtain ⟨outcome, middle, ended⟩ := @perform_ends _ fs dialect root call state
      obtain ⟨outcomes, next, rest⟩ := ih middle
      exact ⟨outcome :: outcomes, next,
        (Prog.bind_of_ok (Prog.outcome_of ended)).trans (Prog.bind_of_ok rest)⟩

end FileSystem

/-- A client of NFSv3 and one of NFSv4 before the same file system return the same from calls
that fit the states that they find, each error told by its version, and leave the file
system in the same state. -/
theorem names_agree {S : Type} {fs : FileSystem S} {choices : Choices} {host : Host S}
    {root : ObjId} {calls : List NameCall} {client3 : V3Backend S} {client4 : V4Backend (Seat S)}
    (served : host.nfs = (fs.service choices).transport) (established : client4.nfs.Established)
    (sameFiles : client4.nfs.rpc.files = client3.world) (defaultMode : fs.DefaultMode)
    (shortRoot : root.length ≤ 64)
    (sized : ∀ call ∈ calls, ∀ text ∈ call.texts, SizedName text)
    (fitting : NameCall.Fitting fs root calls client3.world) :
    ∃ outcomes outcomes' next next',
      (NameCall.performAll (V3Backend.whole host) root calls).run client3 =
        some (.ok outcomes, next) ∧
      (NameCall.performAll (V4Backend.whole fs.server.transport) root calls).run client4 =
        some (.ok outcomes', next') ∧
      List.Forall₂ (Kindred Eq SameCause) outcomes outcomes' ∧
      next.world = next'.nfs.rpc.files := by
  have over3 := (V3Backend.changesAlike served client3).performAll_sized shortRoot sized client3
    client3.world rfl
  have over4 := (@V4Backend.changesAlike S fs).performAll_sized shortRoot sized client4
    client3.world ⟨established, sameFiles⟩
  have between := NameCall.performAll_alike defaultMode shortRoot sized fitting
  obtain ⟨plain, state, ended⟩ :=
    @FileSystem.performAll_returns S fs dialect3 root calls client3.world
  rw [ended] at over3 between
  obtain ⟨_, _, ended', ⟨alike⟩, rfl⟩ := between.ended
  rw [ended'] at over4
  obtain ⟨_, next, ran, ⟨same⟩, rfl⟩ := over3.begun
  obtain ⟨_, next', ran', ⟨same'⟩, -, files⟩ := over4.begun
  rw [Kindred.eq_of_forall₂ same] at ran
  rw [Kindred.eq_of_forall₂ same'] at ran'
  exact ⟨_, _, _, next', ran, ran', alike, files.symm⟩

theorem fitting_directoryCalls :
    NameCall.Fitting FileSystem.ofDirectory [1] directoryCalls false := by
  have straight (state : Bool) : FileSystem.ofDirectory.LinksStraight state := by
    intro fh target told
    cases told
  have placed : Placed "/d" := ⟨by decide +kernel, by decide +kernel⟩
  have removes : FileSystem.ofDirectory.RemovesKind [1] true "/d" true := by
    intro dir name next led
    have there : (NfsContext.resolveParent (FileSystem.ofDirectory.view dialect3).toBackend [1]
        "/d").run true = some (.ok ([1], "d"), true) := by decide +kernel
    rw [there] at led
    cases led
    rfl
  have made : ((NameCall.mkdir "/d").perform (FileSystem.ofDirectory.view dialect3) [1]).run false =
      some (.ok .done, true) := by decide +kernel
  have seen : ((NameCall.stat "/./d").perform (FileSystem.ofDirectory.view dialect3) [1]).run true =
      some (.ok (.attr directoryAttr), true) := by decide +kernel
  have removed : ((NameCall.rmdir "/d").perform (FileSystem.ofDirectory.view dialect3) [1]).run
      true = some (.ok .done, false) := by decide +kernel
  have gone : ((NameCall.access "/d").perform (FileSystem.ofDirectory.view dialect3) [1]).run
      false = some (.error .notFound, false) := by decide +kernel
  rw [directoryCalls]
  refine .cons (straight false) placed trivial made ?_
  refine .cons (straight true) (by decide +kernel : Straight "/./d") trivial seen ?_
  refine .cons (straight true) placed removes removed ?_
  exact .cons (straight false) placed.1 trivial gone trivial

/-- A directory is made and removed over both versions alike. -/
theorem names_agree_directory :
    ∃ outcomes outcomes' next next',
      (NameCall.performAll (V3Backend.whole (FileSystem.ofDirectory.host
          ⟨fun _ _ => false, fun _ _ => true, []⟩)) [1] directoryCalls).run
        ⟨false, 65536, 65536, none, [], 1⟩ = some (.ok outcomes, next) ∧
      (NameCall.performAll (V4Backend.whole FileSystem.ofDirectory.server.transport) [1]
        directoryCalls).run V4Backend.directoryClient = some (.ok outcomes', next') ∧
      List.Forall₂ (Kindred Eq SameCause) outcomes outcomes' ∧ next.world = next'.nfs.rpc.files :=
  names_agree rfl V4Backend.established_directoryClient rfl (fun _ _ _ => rfl) (by decide)
    sized_directoryCalls fitting_directoryCalls

end LibNfs.Client
