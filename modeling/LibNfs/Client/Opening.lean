import LibNfs.Client.ReadWhole
import LibNfs.Client.VolumeV4

/-! # Opening files by name

`NfsContext::open` resolves the parent, opens or creates the last component there, and
truncates the file when the flags say so. What that comes to is a function of the state
of the server, for both versions of the protocol.
-/

namespace LibNfs.Client

/-- What the requests of an open come to, by the state of the server: what lookups find,
opening a name in a directory, and truncating a file. -/
structure Opener (X : Type) where
  tree : X → Tree
  opened : ObjId → String → OpenOpts → X → Except NfsError OpenFile × X
  truncated : ObjId → X → Except NfsError X
  handled : ∀ {dir name opts x file}, (opened dir name opts x).1 = .ok file → file.fh.length ≤ 64

/-- The options that the flags become. -/
def OpenFlags.opts (flags : OpenFlags) : OpenOpts where
  write := flags.write
  create := flags.create
  exclusive := flags.exclusive
  mode := if flags.mode = 0 then 0o644 else flags.mode

namespace Opener

variable {X : Type} (opener : Opener X)

/-- A file that was opened is truncated when the flags say so. -/
def ends (flags : OpenFlags) : Except NfsError OpenFile × X → Except NfsError OpenFile × X
  | (.error error, x) => (.error error, x)
  | (.ok file, x) =>
      if flags.truncate ∧ flags.write then
        match opener.truncated file.fh x with
        | .ok next => (.ok file, next)
        | .error error => (.error error, x)
      else
        (.ok file, x)

/-- What opening a path comes to. -/
def opens (root : ObjId) (path : String) (flags : OpenFlags) (x : X) :
    Except NfsError OpenFile × X :=
  match (splitComponents path).getLast? with
  | none => (.error (.invalidPath path), x)
  | some name =>
      match (opener.tree x).parent root path with
      | .error error => (.error error, x)
      | .ok dir => opener.ends flags (opener.opened dir name flags.opts x)

end Opener

/-- What holds after an open that returns a file, and after one that fails. -/
def Settles {σ X : Type} (settled attached : X → σ → Prop) :
    Except NfsError OpenFile × X → σ → Prop
  | (.ok _, x) => settled x
  | (.error _, x) => attached x

theorem Settles.of {σ X : Type} {attached : X → σ → Prop} {ended : Except NfsError OpenFile × X}
    {state : σ} (isAttached : attached ended.2 state) : Settles attached attached ended state := by
  obtain ⟨error | file, x⟩ := ended
  · exact isAttached
  · exact isAttached

theorem Settles.same {σ X : Type} {attached : X → σ → Prop} {ended : Except NfsError OpenFile × X}
    {state : σ} (settles : Settles attached attached ended state) : attached ended.2 state := by
  obtain ⟨error | file, x⟩ := ended
  · exact settles
  · exact settles

/-- From a state that is ready the backend does what the opener says, and is settled when a file
was opened. -/
structure Realizes {σ X : Type} (backend : Backend σ) (opener : Opener X)
    (ready settled attached : X → σ → Prop) : Prop where
  shows : ∀ x, Shows backend (opener.tree x) (ready x)
  idle : ∀ {x state}, ready x state → attached x state
  opens : ∀ {x state} dir name opts, ready x state → ∃ next,
    (backend.open dir name opts).run state = some ((opener.opened dir name opts x).1, next) ∧
      Settles settled attached (opener.opened dir name opts x) next
  truncates : ∀ {x state fh next}, settled x state → fh.length ≤ 64 →
    opener.truncated fh x = .ok next → ∃ after,
      (backend.setattr fh { size := some 0 }).run state = some (.ok (), after) ∧ settled next after
  declines : ∀ {x state fh error}, settled x state → fh.length ≤ 64 →
    opener.truncated fh x = .error error → ∃ after,
      (backend.setattr fh { size := some 0 }).run state = some (.error error, after) ∧
        attached x after

namespace NfsContext

variable {σ X : Type} {backend : Backend σ} {opener : Opener X}
  {ready settled attached : X → σ → Prop} {x : X} {state : σ}

/-- The file after it was opened. -/
theorem open_ends (realizes : Realizes backend opener ready settled attached) (flags : OpenFlags)
    {file : OpenFile} (short : file.fh.length ≤ 64) (isSettled : settled x state) :
    ∃ next, (if flags.truncate ∧ flags.write then do
          backend.setattr file.fh { size := some 0 }
          return file
        else return file : Prog σ NfsError OpenFile).run state =
          some ((opener.ends flags (.ok file, x)).1, next) ∧
      Settles settled attached (opener.ends flags (.ok file, x)) next := by
  unfold Opener.ends
  by_cases truncates : flags.truncate ∧ flags.write
  · simp only [if_pos truncates]
    rcases done : opener.truncated file.fh x with error | next
    · obtain ⟨after, ran, kept⟩ := realizes.declines isSettled short done
      exact ⟨after, Prog.bind_of_error ran, kept⟩
    · obtain ⟨after, ran, kept⟩ := realizes.truncates isSettled short done
      exact ⟨after, Prog.bind_of_ok ran, kept⟩
  · simp only [if_neg truncates]
    exact ⟨state, rfl, isSettled⟩

/-- An open does what the opener says. -/
theorem open_settles (realizes : Realizes backend opener ready settled attached) (root : ObjId)
    (path : String) (flags : OpenFlags) (isReady : ready x state) :
    ∃ next, (NfsContext.open backend root path flags).run state =
        some ((opener.opens root path flags x).1, next) ∧
      Settles settled attached (opener.opens root path flags x) next := by
  unfold Opener.opens
  rcases last : (splitComponents path).getLast? with _ | name
  · refine ⟨state, ?_, realizes.idle isReady⟩
    have failed : (resolveParent backend root path).run state =
        some (.error (.invalidPath path), state) := by
      rw [resolveParent]
      simp only [last]
      rfl
    exact Prog.bind_of_error failed
  · obtain ⟨mid, midReady, parent⟩ := @resolveParent_run σ backend root (opener.tree x)
      (ready x) path name (realizes.shows x) last state isReady
    dsimp only
    rcases led : (opener.tree x).parent root path with error | dir
    · rw [led] at parent
      exact ⟨mid, Prog.bind_of_error parent, realizes.idle midReady⟩
    · rw [led] at parent
      obtain ⟨after, opened, afterSettles⟩ := realizes.opens dir name flags.opts midReady
      rw [NfsContext.open, Prog.bind_of_ok parent]
      dsimp only
      rcases outcome : opener.opened dir name flags.opts x with ⟨error | file, next⟩
      · rw [outcome] at opened afterSettles
        exact ⟨after, Prog.bind_of_error opened, afterSettles⟩
      · have short : file.fh.length ≤ 64 := opener.handled (congrArg Prod.fst outcome)
        rw [outcome] at opened afterSettles
        obtain ⟨final, ran, kept⟩ := open_ends realizes flags short afterSettles
        exact ⟨final, (Prog.bind_of_ok opened).trans ran, kept⟩

/-- An open on a backend that is always ready. -/
theorem open_eq_opens (realizes : Realizes backend opener attached attached attached) (root : ObjId)
    (path : String) (flags : OpenFlags) (isAttached : attached x state) :
    ∃ next, (NfsContext.open backend root path flags).run state =
        some ((opener.opens root path flags x).1, next) ∧
      attached (opener.opens root path flags x).2 next := by
  obtain ⟨next, ran, settles⟩ := open_settles realizes root path flags isAttached
  exact ⟨next, ran, settles.same⟩

end NfsContext

/-- A file that is opened has a handle of the server. -/
theorem V3Backend.opened_handle {policy : Policy} {dir : ObjId} {name : String} {opts : OpenOpts}
    {volume : Volume} {file : OpenFile} (isOpen : (opened policy dir name opts volume).1 = .ok file) :
    file.fh.length ≤ 64 := by
  unfold opened at isOpen
  by_cases create : opts.create
  · simp only [if_pos create] at isOpen
    rcases sent : wire3.sendsName dir name with error | ⟨⟩
    · rw [sent] at isOpen
      cases isOpen
    · rcases made : volume.create3 policy dir name (createHow opts) with status | ⟨fh, next⟩
      · simp only [sent, made] at isOpen
        cases isOpen
      · simp only [sent, made] at isOpen
        split at isOpen
        · cases isOpen
        · cases isOpen
          exact fh.2
  · simp only [if_neg create] at isOpen
    rcases looked : (volume.tree wire3).lookup dir name with error | ⟨fh, shown⟩
    · rw [looked] at isOpen
      cases isOpen
    · rw [looked] at isOpen
      cases isOpen
      obtain ⟨entry, node, -, rfl, -⟩ := Volume.tree_lookup_inv looked
      exact entry.2

theorem V4Backend.opened4_handle {policy : Policy} {dir : ObjId} {name : String} {opts : OpenOpts}
    {store : Store} {file : OpenFile} (isOpen : (opened4 policy dir name opts store).1 = .ok file) :
    file.fh.length ≤ 64 := by
  unfold opened4 at isOpen
  rcases sent : naming dir name with error | c
  · simp only [sent] at isOpen
    cases isOpen
  · rcases found : store.open policy dir name (share opts) (Proto.Compound.how opts.create) with
      status | ⟨⟨fh, record⟩, next⟩
    · simp only [sent, found] at isOpen
      cases isOpen
    · simp only [sent, found] at isOpen
      rcases settles : (settled policy fh record next).1 with error | stateid
      · rw [settles] at isOpen
        cases isOpen
      · rw [settles] at isOpen
        cases isOpen
        exact fh.2

/-- NFSv3 over the files of a server. -/
def opener3 (policy : Policy) : Opener Volume where
  tree volume := volume.tree wire3
  opened := V3Backend.opened policy
  truncated fh volume := (volume.setattr policy fh none (some 0)).mapError wire3.fails
  handled := V3Backend.opened_handle

/-- NFSv4 over the files of a server. -/
def opener4 (policy : Policy) : Opener Store where
  tree store := store.volume.tree wire4
  opened := V4Backend.opened4 policy
  truncated fh store := ((store.volume.setattr policy fh none (some 0)).map fun volume =>
    { store with volume := volume }).mapError wire4.fails
  handled := V4Backend.opened4_handle

namespace V3Backend

/-- The connection of a client of these sizes to the files of a server. -/
structure On (rsize wsize : UInt32) (volume : Volume) (backend : V3Backend Volume) : Prop where
  world : backend.world = volume
  rsize : backend.rsize = rsize
  wsize : backend.wsize = wsize

variable {policy : Policy} {host : Host Volume} {rsize wsize : UInt32}

theorem On.withWorld {volume next : Volume} {backend : V3Backend Volume}
    (isOn : On rsize wsize volume backend) : On rsize wsize next (backend.withWorld next) :=
  ⟨rfl, isOn.rsize, isOn.wsize⟩

theorem realizes_volume (served : host.nfs = (volumeServer policy).transport) :
    Realizes (V3Backend.backend host).toBackend (opener3 policy) (On rsize wsize) (On rsize wsize)
      (On rsize wsize) where
  idle isOn := isOn
  shows volume := by
    constructor
    · intro dir name backend isOn
      refine ⟨backend, ?_, isOn⟩
      rw [← isOn.world]
      exact lookup_volume served dir name
    · intro fh backend isOn
      refine ⟨backend, ?_, isOn⟩
      rw [← isOn.world]
      exact readlink_volume served fh
  opens := by
    intro volume backend dir name opts isOn
    have opened := @open_volume policy host backend served dir name opts
    rw [isOn.world] at opened
    exact ⟨_, opened, .of isOn.withWorld⟩
  truncates := by
    intro volume backend fh next isOn short done
    have ran := @setattr_volume policy host backend served fh short { size := some 0 }
    rw [isOn.world] at ran
    rcases set : volume.setattr policy fh none (some 0) with status | resized
    · simp only [opener3, set] at done
      cases done
    · simp only [opener3, set] at done
      cases done
      simp only [set] at ran
      exact ⟨_, ran, isOn.withWorld⟩
  declines := by
    intro volume backend fh error isOn short failed
    have ran := @setattr_volume policy host backend served fh short { size := some 0 }
    rw [isOn.world] at ran
    rcases set : volume.setattr policy fh none (some 0) with status | resized
    · simp only [opener3, set] at failed
      cases failed
      simp only [set] at ran
      exact ⟨_, ran, isOn⟩
    · simp only [opener3, set] at failed
      cases failed

end V3Backend

namespace V4Backend

variable {policy : Policy}

theorem realizes_volume4 :
    Realizes (V4Backend.backend (volumeServer4 policy).transport).toBackend (opener4 policy)
      Attached Attached Attached where
  idle attached := attached
  shows := shows_volume4
  opens dir name opts attached := by
    obtain ⟨next, ran, after⟩ := open_volume4 attached dir name opts
    exact ⟨next, ran, .of after⟩
  truncates := by
    intro store backend fh next attached short done
    rcases set : store.volume.setattr policy fh none (some 0) with status | resized
    · simp only [opener4, set] at done
      cases done
    · simp only [opener4, set] at done
      cases done
      exact @setattr_ok policy _ _ attached fh (Nat.le_trans short (by decide)) { size := some 0 } _
        set
  declines := by
    intro store backend fh error attached short failed
    rcases set : store.volume.setattr policy fh none (some 0) with status | resized
    · simp only [opener4, set] at failed
      cases failed
      exact @setattr_fails policy _ _ attached fh (Nat.le_trans short (by decide)) { size := some 0 } _
        set
    · simp only [opener4, set] at failed
      cases failed

end V4Backend

/-- What holds of the root and of everything that is found holds where a path leads. -/
theorem Tree.walk_holds {tree : Tree} {root : ObjId} {holds : ObjId → Prop}
    (looks : ∀ dir name fh attr, tree.lookup dir name = .ok (fh, attr) → holds fh)
    (atRoot : holds root) {followFinal : Bool} {links : Nat} {cur : ObjId} {comps : List String}
    (here : holds cur) {ended : Walked links}
    (walked : tree.walk root followFinal links cur comps = .ok ended) : holds ended.cur := by
  fun_induction Tree.walk tree root followFinal links cur comps with
  | case1 followFinal links cur =>
      cases walked
      exact here
  | case2 followFinal links cur comps ih => exact ih here walked
  | case3 followFinal links cur name comps named error missing => cases walked
  | case4 followFinal cur name comps named fh attr found link => cases walked
  | case5 followFinal cur name comps named fh attr found link links error unread => cases walked
  | case6 followFinal cur name comps named fh attr found link links target linked error failed ih =>
      cases walked
  | case7 followFinal cur name comps named fh attr found link links target linked final left fewer
      first error failed ihTarget ihRest => cases walked
  | case8 followFinal cur name comps named fh attr found link links target linked final left fewer
      first end' last least finished ihTarget ihRest =>
      cases walked
      have begins : holds (start root cur target) := by
        unfold start
        split
        · exact atRoot
        · exact here
      exact ihRest (ihTarget begins first) finished
  | case9 followFinal links cur name comps named fh attr found plain ih =>
      exact ih (looks cur name fh attr found) walked

/-- A path leads to a handle of the server. -/
theorem Volume.parent_handle {wire : Wire} {volume : Volume} {root dir : ObjId} {path : String}
    (short : root.length ≤ 64) (led : (volume.tree wire).parent root path = .ok dir) :
    dir.length ≤ 64 := by
  rcases walked : (volume.tree wire).walk root true maxSymlinkDepth root
    (splitComponents path).dropLast with error | ended
  · rw [Tree.parent, walked] at led
    cases led
  · rw [Tree.parent, walked] at led
    cases led
    have looks (dir : ObjId) (name : String) (fh : ObjId) (attr : Attr)
        (looked : (volume.tree wire).lookup dir name = .ok (fh, attr)) : fh.length ≤ 64 := by
      obtain ⟨entry, node, -, rfl, -⟩ := Volume.tree_lookup_inv looked
      exact entry.2
    exact @Tree.walk_holds _ _ (fun fh => fh.length ≤ 64) looks short _ _ _ _ short _ walked

end LibNfs.Client
