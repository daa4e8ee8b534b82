import LibNfs.Client.BackendV3
import LibNfs.Client.BackendV4
import LibNfs.Client.Resolution
import LibNfs.Proto.Recording

/-! # The attributes that are asked for

Which attributes the requests of the calls that set some ask the server for,
whatever the server answers. NFSv3 is asked for each of them, with the seconds of
a time cut to 32 bits; NFSv4 is asked for a mode and a size alone, and for nothing
when a file or a directory is made.
-/

namespace LibNfs.Client

open Proto (ProtoError Transport Recorded Proc3 Sattr3 SetTime Attribute Nfs4 Compound ArgOp)

/-- The time is set as the caller gave it. -/
def SetsTime : SetTime → Option Timestamp → Prop
  | .dontChange, none => True
  | .toClientTime sent, some time => (sent.seconds.toNat : Int) = time.secs.toInt ∧
      sent.nseconds = time.nsecs
  | .dontChange, some _ | .toClientTime _, none | .toServerTime, _ => False

/-- A `sattr3` sets the attributes that the caller gave, and no other. -/
structure Sets3 (sent : Sattr3) (asked : SetAttr) : Prop where
  mode : sent.mode = asked.mode
  uid : sent.uid = asked.uid
  gid : sent.gid = asked.gid
  size : sent.size = asked.size
  atime : SetsTime sent.atime asked.atime
  mtime : SetsTime sent.mtime asked.mtime

/-- `settime4` of a time of the client. -/
def Timestamp.toSetTime4 (time : Timestamp) : Proto.SetTime4 :=
  .client ⟨time.secs, time.nsecs⟩

/-- The attributes of an `fattr4` for those that the caller gave, by their numbers; an
owner is named by its number. -/
def SetAttr.attributes (asked : SetAttr) : List Attribute :=
  (asked.size.map Attribute.size).toList ++ (asked.mode.map Attribute.mode).toList ++
    (asked.uid.map fun uid => Attribute.owner (toString uid)).toList ++
    (asked.gid.map fun gid => Attribute.ownerGroup (toString gid)).toList ++
    (asked.atime.map fun time => Attribute.timeAccessSet time.toSetTime4).toList ++
    (asked.mtime.map fun time => Attribute.timeModifySet time.toSetTime4).toList

/-- The server was asked, and each time for exactly the attributes that the caller
gave. -/
def Exact3 {τ : Type} (world : Recorded τ) (asked : SetAttr) : Prop :=
  world.sattrs ≠ [] ∧ ∀ sent ∈ world.sattrs, Sets3 sent asked

/-- NFSv4 sent exactly the attributes that were asked for, each time. -/
def Exact4 {τ : Type} (world : Recorded τ) (asked : SetAttr) : Prop :=
  world.sets ≠ [] ∧ ∀ sent ∈ world.sets, sent = asked.attributes

/-- A call that sets attributes. -/
inductive Change where
  | setattr (fh : ObjId) (attr : SetAttr)
  | mkdir (dir : ObjId) (name : String) (mode : UInt32)
  | create (dir : ObjId) (name : String) (write exclusive : Bool) (mode : UInt32)
  | chmod (path : String) (mode : UInt32)
  | chown (path : String) (uid gid : UInt32)
  | truncate (path : String) (size : UInt64)

namespace Change

/-- The attributes that the caller gives. -/
def asked : Change → SetAttr
  | setattr _ attr => attr
  | mkdir _ _ mode | create _ _ _ _ mode | chmod _ mode => { mode := some mode }
  | chown _ uid gid => { uid := some uid, gid := some gid }
  | truncate _ size => { size := some size }

/-- The call makes a file or a directory. -/
def Makes : Change → Prop
  | mkdir .. | create .. => True
  | setattr .. | chmod .. | chown .. | truncate .. => False

theorem asked_of_makes {change : Change} (makes : change.Makes) :
    ∃ mode, change.asked = { mode := some mode } := by
  cases change with
  | mkdir dir name mode => exact ⟨mode, rfl⟩
  | create dir name write exclusive mode => exact ⟨mode, rfl⟩
  | setattr | chmod | chown | truncate => exact makes.elim

variable {σ : Type}

/-- Makes a change on the backend. -/
def perform (backend : VfsBackend σ) (root : ObjId) : Change → Prog σ NfsError Unit
  | setattr fh attr => backend.setattr fh attr
  | mkdir dir name mode => do
      let _ ← backend.mkdir dir name mode
      return ()
  | create dir name write exclusive mode => do
      let _ ← backend.open dir name ⟨write, true, exclusive, mode⟩
      return ()
  | chmod path mode => NfsContext.chmod backend.toBackend root path mode
  | chown path uid gid => NfsContext.chown backend.toBackend root path uid gid
  | truncate path size => NfsContext.truncate backend.toBackend root path size

/-- A call on a path is the resolution of it and a `setattr`. -/
theorem meets_perform {backend : VfsBackend σ} {root : ObjId} {change : Change}
    {before after : σ → Prop} {failed : NfsError → σ → Prop}
    (resolves : ∀ path, (NfsContext.resolve backend.toBackend root path true).Keeps before)
    (given : ∀ error state, before state → failed error state)
    (setattr : ∀ fh attr, attr = change.asked → ¬ change.Makes →
      (backend.setattr fh attr).Meets before (Prog.split (fun _ => after) failed))
    (mkdir : ∀ dir name mode, change.asked = { mode := some mode } → change.Makes →
      (backend.mkdir dir name mode).Meets before (Prog.split (fun _ => after) failed))
    (creates : ∀ dir name opts, opts.create = true → change.asked = { mode := some opts.mode } →
      change.Makes →
      (backend.open dir name opts).Meets before (Prog.split (fun _ => after) failed)) :
    (change.perform backend root).Meets before (Prog.split (fun _ => after) failed) := by
  have path (path : String) (attr : SetAttr) (same : attr = change.asked)
      (plain : ¬ change.Makes) :
      (do
        let fh ← NfsContext.resolve backend.toBackend root path true
        backend.setattr fh attr).Meets before (Prog.split (fun _ => after) failed) :=
    Prog.Meets.bind (fun _ => before)
      (Prog.Meets.onError (resolves path).byCases given) fun fh => setattr fh attr same plain
  cases change with
  | setattr fh attr => exact setattr fh attr rfl id
  | mkdir dir name mode =>
      exact Prog.Meets.bind (fun _ => after) (mkdir dir name mode rfl trivial)
        fun _ => Prog.Meets.pure fun _ holds => holds
  | create dir name write exclusive mode =>
      exact Prog.Meets.bind (fun _ => after)
        (creates dir name ⟨write, true, exclusive, mode⟩ rfl rfl trivial)
        fun _ => Prog.Meets.pure fun _ holds => holds
  | chmod file mode => exact path file { mode := some mode } rfl id
  | chown file uid gid => exact path file { uid := some uid, gid := some gid } rfl id
  | truncate file size => exact path file { size := some size } rfl id

end Change

/-- The seconds of a time fit into a `u32`. -/
def Timestamp.Fits3 (time : Timestamp) : Prop :=
  0 ≤ time.secs.toInt ∧ time.secs.toInt < 2 ^ 32

/-- The seconds of NFSv3 are those of the time, modulo 2^32. -/
theorem seconds_toSetTime (time : Timestamp) :
    (time.secs.toUInt64.toUInt32.toNat : Int) = time.secs.toInt % 2 ^ 32 := by
  have word : time.secs.toInt = time.secs.toBitVec.toInt := rfl
  have low : time.secs.toUInt64.toUInt32.toNat = time.secs.toBitVec.toNat % 2 ^ 32 := by
    rw [UInt64.toNat_toUInt32]
    rfl
  rw [word, low, BitVec.toInt_eq_toNat_bmod, Int.bmod]
  have bound := time.secs.toBitVec.isLt
  omega

/-- A time is set as it was given exactly when its seconds fit. -/
theorem setsTime_toSetTime (time : Option Timestamp) :
    SetsTime (Timestamp.toSetTime time) time ↔ ∀ given, time = some given → given.Fits3 := by
  cases time with
  | none =>
      refine iff_of_true trivial fun given absent => ?_
      cases absent
  | some time =>
      have cut := seconds_toSetTime time
      constructor
      · rintro ⟨same, -⟩ given present
        cases present
        rw [cut] at same
        constructor
        · omega
        · omega
      · intro fits
        obtain ⟨positive, small⟩ := fits time rfl
        refine ⟨?_, rfl⟩
        rw [cut]
        omega

theorem sets3_toSattr3 (asked : SetAttr) : Sets3 asked.toSattr3 asked ↔
    (∀ time, asked.atime = some time → time.Fits3) ∧
      ∀ time, asked.mtime = some time → time.Fits3 := by
  rw [← setsTime_toSetTime, ← setsTime_toSetTime]
  exact ⟨fun sets => ⟨sets.atime, sets.mtime⟩, fun times => ⟨rfl, rfl, rfl, rfl, times.1, times.2⟩⟩

namespace V3Backend

variable {τ : Type} {transport : Transport τ} {host : Host (Recorded τ)} {log : List Sattr3}

/-- The requests sent so far set these attributes. -/
def Sent (log : List Sattr3) (backend : V3Backend (Recorded τ)) : Prop :=
  backend.world.sattrs = log

/-- A call whose arguments are settled sends what it sets. -/
theorem meets_call {proc : Proc3} {args : proc.Args.Val} (recorded : host.nfs = transport.recorded)
    (settled : proc.Settled args) :
    (within .ofProto (Proto.Nfs3.call host.nfs proc args)).Meets (Sent log)
      (Prog.split (fun _ => Sent (log ++ (proc.sattr args).toList)) fun _ state =>
        Sent (log ++ (proc.sattr args).toList) state ∨ Sent log state) := by
  rw [recorded]
  exact Prog.Meets.focus (fun _ _ => rfl) (Proto.Nfs3.call_sets settled log)

/-- A call that sets no attributes. -/
theorem keeps_call {proc : Proc3} {args : proc.Args.Val} (recorded : host.nfs = transport.recorded)
    (settled : proc.Settled args) (silent : proc.sattr args = none) :
    (within .ofProto (Proto.Nfs3.call host.nfs proc args)).Keeps (Sent log) := by
  intro state final result before ended
  have after := meets_call recorded settled state final result before ended
  rw [silent, Option.toList_none, List.append_nil] at after
  cases result with
  | ok value => exact after
  | error error => exact after.elim id id

/-- A call that sets attributes has been sent when it returns. -/
theorem meets_asking {proc : Proc3} {args : proc.Args.Val} {attrs : Sattr3}
    (recorded : host.nfs = transport.recorded) (settled : proc.Settled args)
    (sets : proc.sattr args = some attrs) :
    (within .ofProto (Proto.Nfs3.call host.nfs proc args)).Meets (Sent [])
      (Prog.split (fun _ => Sent [attrs]) fun _ _ => True) := by
  have asked := @meets_call τ transport host [] proc args recorded settled
  rw [sets] at asked
  exact asked.onError fun _ _ _ => trivial

theorem keeps_lookup (recorded : host.nfs = transport.recorded) (dir : ObjId) (name : String) :
    (lookup host dir name).Keeps (Sent log) := by
  refine Prog.Keeps.bind (keeps_call recorded Proc3.settled_lookup rfl) fun res => ?_
  split
  · exact Prog.Keeps.pure _
  · exact Prog.Keeps.bind (keeps_call recorded Proc3.settled_fh rfl) fun _ => Prog.Keeps.pure _

theorem keeps_readlink (recorded : host.nfs = transport.recorded) (fh : ObjId) :
    (readlink host fh).Keeps (Sent log) :=
  Prog.Keeps.bind (keeps_call recorded Proc3.settled_fh rfl) fun _ => Prog.Keeps.pure _

/-- A call that returns has asked once for the attributes it was given. -/
theorem meets_change (recorded : host.nfs = transport.recorded) (root : ObjId) (change : Change) :
    (change.perform (V3Backend.backend host) root).Meets (Sent [])
      (Prog.split (fun _ => Sent [change.asked.toSattr3]) fun _ _ => True) := by
  refine Change.meets_perform
    (fun path => NfsContext.keeps_resolve (keeps_lookup recorded) (keeps_readlink recorded) path true)
    (fun _ _ _ => trivial) ?_ ?_ ?_
  · intro fh attr same _
    have asked := meets_asking recorded (@Proc3.settled_setattr ⟨fh⟩ attr.toSattr3)
      (congrArg some (Sattr3.ofVal_val _))
    rw [same] at asked
    rw [same]
    exact Prog.Meets.bind _ asked fun _ => Prog.Meets.pure fun _ holds => holds
  · intro dir name mode same _
    have asked := meets_asking recorded (@Proc3.settled_mkdir ⟨dir⟩ name { mode := some mode })
      (congrArg some (Sattr3.ofVal_val _))
    rw [same]
    refine Prog.Meets.bind _ asked fun res => ?_
    split
    · exact Prog.Meets.pure fun _ holds => holds
    · exact Prog.Meets.bind (fun _ => Sent [_])
        (Prog.Meets.onError (keeps_call recorded Proc3.settled_lookup rfl).byCases
          fun _ _ _ => trivial) fun _ => Prog.Meets.pure fun _ holds => holds
  · intro dir name opts creates same _
    have sets : Proc3.create.sattr (((⟨dir⟩ : Proto.NfsFh3).val, name, ()),
        (createHow opts).val, ()) = some { mode := some opts.mode } := by
      unfold createHow
      split
      · exact congrArg some (Sattr3.ofVal_val { mode := some opts.mode })
      · exact congrArg some (Sattr3.ofVal_val { mode := some opts.mode })
    have asked := meets_asking recorded (@Proc3.settled_create ⟨dir⟩ name (createHow opts)) sets
    change (V3Backend.open host dir name opts).Meets _ _
    rw [same, V3Backend.open, if_pos creates]
    refine Prog.Meets.bind _ asked fun res => ?_
    split
    · exact Prog.Meets.pure fun _ holds => holds
    · exact Prog.Meets.throw fun _ _ => trivial

end V3Backend

namespace V4Backend

variable {τ : Type} {transport : Transport τ} {log : List (List Attribute)} {ops : List ArgOp}

/-- The requests sent so far set these attributes. -/
def Sent (log : List (List Attribute)) (backend : V4Backend (Recorded τ)) : Prop :=
  backend.nfs.Showing log

theorem keeps_request {α : Type} {built : Except Xdr.XdrError Compound} {read : Proto.ReadM α}
    (settled : Compound.Settled built ops) (small : ops.length + 1 < 2 ^ 32)
    (silent : ops.filterMap ArgOp.sets = []) :
    (within (Nfs4.request transport.recorded built read)).Keeps (Sent log) :=
  Prog.Keeps.within (fun _ _ => rfl) (Nfs4.keeps_request settled small silent)

theorem keeps_lookup (dir : ObjId) (name : String) :
    (lookup transport.recorded dir name).Keeps (Sent log) :=
  Prog.Keeps.bind (keeps_request (Compound.settled_lookup ⟨dir⟩ name) (by simp) rfl) fun _ =>
    Prog.Keeps.pure _

theorem keeps_readlink (fh : ObjId) : (readlink transport.recorded fh).Keeps (Sent log) :=
  keeps_request (Compound.settled_readlink ⟨fh⟩) (by simp) rfl

/-- The requests sent set these attributes, each of them the same. -/
def SentOnly (attrs : List Attribute) (backend : V4Backend (Recorded τ)) : Prop :=
  ∃ more, Sent (List.replicate (more + 1) attrs) backend

theorem meets_request {α : Type} {built : Except Xdr.XdrError Compound} {read : Proto.ReadM α}
    {attrs : List Attribute} (settled : Compound.Settled built ops)
    (small : ops.length + 1 < 2 ^ 32) (sets : ops.filterMap ArgOp.sets = [attrs]) :
    (within (Nfs4.request transport.recorded built read)).Meets (Sent [])
      (Prog.split (fun _ => SentOnly attrs) fun _ _ => True) := by
  have asked := @Nfs4.request_asks τ transport ops [] α built read settled small
  have same (times : Nat) (nfs : Nfs4 (Recorded τ)) (asked : Nfs4.Asked [] ops times nfs) :
      nfs.Showing (List.replicate times attrs) := by
    rwa [Nfs4.Asked, sets, List.flatten_replicate_singleton, List.nil_append] at asked
  intro backend final result before ended
  have after := Prog.Meets.focus (fun _ _ => rfl) asked backend final result
    (Nfs4.Showing.asked before) ended
  cases result with
  | ok value =>
      obtain ⟨more, asked⟩ := after
      exact ⟨more, same _ _ asked⟩
  | error error => trivial

/-- The attributes that NFSv4 is asked for. -/
def asksFor (change : Change) : List Attribute :=
  match change with
  | .mkdir .. | .create .. => []
  | .setattr .. | .chmod .. | .chown .. | .truncate .. =>
      Nfs4.setting { mode := change.asked.mode, size := change.asked.size }

/-- What makes a file or a directory sets nothing over NFSv4. -/
theorem asksFor_of_makes {change : Change} (makes : change.Makes) : asksFor change = [] := by
  cases change <;> first | rfl | exact makes.elim

/-- Any other change sets the mode and the size over NFSv4. -/
theorem asksFor_of_not_makes {change : Change} (plain : ¬ change.Makes) :
    asksFor change = Nfs4.setting { mode := change.asked.mode, size := change.asked.size } := by
  cases change <;> first | rfl | exact (plain trivial).elim

/-- A call that returns has asked for these attributes. -/
theorem meets_change (root : ObjId) (change : Change) :
    (change.perform (V4Backend.backend transport.recorded) root).Meets (Sent [])
      (Prog.split (fun _ => SentOnly (asksFor change)) fun _ _ => True) := by
  refine Change.meets_perform
    (fun path => NfsContext.keeps_resolve keeps_lookup keeps_readlink path true)
    (fun _ _ _ => trivial) ?_ ?_ ?_
  · intro fh attr same plain
    rw [asksFor_of_not_makes plain, ← same]
    exact meets_request (Compound.settled_setattr ⟨fh⟩ _) (by simp) rfl
  · intro dir name mode _ makes
    rw [asksFor_of_makes makes]
    exact Prog.Meets.bind _ (meets_request (Compound.settled_mkdir ⟨dir⟩ name) (by simp) rfl)
      fun _ => Prog.Meets.pure fun _ holds => holds
  · intro dir name opts creates _ makes
    rw [asksFor_of_makes makes]
    change (V4Backend.open transport.recorded dir name opts).Meets _ _
    rw [V4Backend.open, creates]
    have asked := @Nfs4.open_asks τ transport [] ⟨dir⟩ name (share opts)
    exact Prog.Meets.bind _ (Prog.Meets.focus (fun _ _ => rfl) asked)
      fun _ => Prog.Meets.pure fun _ holds => holds

end V4Backend

namespace Change

/-- The seconds of the times that the call gives fit into a `u32`. -/
def Faithful3 (change : Change) : Prop :=
  (∀ time, change.asked.atime = some time → time.Fits3) ∧
    ∀ time, change.asked.mtime = some time → time.Fits3

/-- The call makes nothing, and gives a mode and a size alone. -/
def Faithful4 (change : Change) : Prop :=
  ¬ change.Makes ∧ change.asked.uid = none ∧ change.asked.gid = none ∧
    change.asked.atime = none ∧ change.asked.mtime = none

end Change

/-- When NFSv3 sent one set of attributes, it is exact or not. -/
theorem exact3_iff {τ : Type} {world : Recorded τ} {sent : Sattr3} {asked : SetAttr}
    (sattrs : world.sattrs = [sent]) : Exact3 world asked ↔ Sets3 sent asked := by
  simp [Exact3, sattrs]

/-- When NFSv4 sent one set of attributes, it is exact or not. -/
theorem exact4_iff {τ : Type} {world : Recorded τ} {attrs : List Attribute} {asked : SetAttr}
    {more : Nat} (sets : world.sets = List.replicate (more + 1) attrs) :
    Exact4 world asked ↔ attrs = asked.attributes := by
  simp [Exact4, sets]

/-- The mode and the size are all that was asked for, when nothing else was. -/
theorem setting_eq_attributes (asked : SetAttr) :
    Nfs4.setting { mode := asked.mode, size := asked.size } = asked.attributes ↔
      asked.uid = none ∧ asked.gid = none ∧ asked.atime = none ∧ asked.mtime = none := by
  have sent : Nfs4.setting { mode := asked.mode, size := asked.size } =
      (asked.size.map Attribute.size).toList ++ (asked.mode.map Attribute.mode).toList := by
    rw [Nfs4.setting, Compound.setattrValues, List.map_append, ← Option.toList_map,
      ← Option.toList_map, Option.map_map, Option.map_map]
    rfl
  rw [sent, SetAttr.attributes]
  simp

/-- NFSv4 sends all that was asked for, when the change is faithful. -/
theorem asksFor_eq_attributes (change : Change) :
    V4Backend.asksFor change = change.asked.attributes ↔ change.Faithful4 := by
  by_cases makes : change.Makes
  · rw [V4Backend.asksFor_of_makes makes]
    obtain ⟨mode, asked⟩ := Change.asked_of_makes makes
    refine iff_of_false (fun same => ?_) fun faithful => faithful.1 makes
    rw [asked] at same
    cases same
  · rw [V4Backend.asksFor_of_not_makes makes]
    exact (setting_eq_attributes change.asked).trans
      ⟨fun plain => ⟨makes, plain⟩, fun faithful => faithful.2⟩

/-- A call that returns has asked the server for exactly the attributes that the caller
gave: over NFSv3 when the times fit, over NFSv4 when a mode and a size alone are
given and nothing is made. -/
theorem asked_exactly_iff {τ : Type} (transport : Transport τ) (root : ObjId) (change : Change) :
    (∀ (host : Host (Recorded τ)) (state final : V3Backend (Recorded τ)),
      host.nfs = transport.recorded → state.world.log = [] →
      (change.perform (V3Backend.backend host) root).run state = some (.ok (), final) →
        (Exact3 final.world change.asked ↔ change.Faithful3)) ∧
    ∀ state final : V4Backend (Recorded τ), state.nfs.Established → state.nfs.rpc.log = [] →
      (change.perform (V4Backend.backend transport.recorded) root).run state =
        some (.ok (), final) →
        (Exact4 final.nfs.rpc change.asked ↔ change.Faithful4) := by
  constructor
  · intro host state final recorded empty ended
    have before : V3Backend.Sent [] state := by
      rw [V3Backend.Sent, Recorded.sattrs, empty, List.filterMap_nil]
    have after := V3Backend.meets_change recorded root change state final _ before ended
    exact (exact3_iff after).trans (sets3_toSattr3 change.asked)
  · intro state final established empty ended
    have before : V4Backend.Sent [] state := by
      refine ⟨established, ?_⟩
      rw [Recorded.sets, empty, List.flatMap_nil]
    obtain ⟨more, -, sets⟩ := V4Backend.meets_change root change state final _ before ended
    exact (exact4_iff sets).trans (asksFor_eq_attributes change)

/-- A server of NFSv3 for changes of attributes alone. -/
def settingServer3 : Proto.Server3 Unit where
  exec
    | .setattr, _ => return ⟨(none, none, ()),
        ⟨Proto.lengths_none, Proto.lengths_none, trivial⟩,
        Proto.lengths_none, Proto.lengths_none, trivial⟩
    | _, _ => Prog.throw Proto.notSupported3

/-- The sample server over NFSv3. -/
def settingHost : Host (Recorded Unit) where
  nfs := settingServer3.transport.recorded
  protocol := .tcp
  portmapPort := 111
  connect _ := return ()
  port _ := settingServer3.transport.recorded

/-- A server of NFSv4 for changes of attributes alone. -/
def settingServer4 : Proto.OpServer Unit where
  receive _ state := state
  exec
    | .putfh _ => return ⟨(), ()⟩
    | .setattr .. => return ⟨Proto.Bitmap.empty, ()⟩
    | _ => Prog.throw Proto.notSupported

/-- A backend that has just been mounted. -/
def mounted3 : V3Backend (Recorded Unit) :=
  ⟨⟨(), []⟩, 65536, 65536, none, [], 0⟩

/-- The sample client over NFSv4. -/
def mounted4 : V4Backend (Recorded Unit) :=
  .new ⟨⟨(), []⟩, 0, 1, Proto.uniqueOwner 1 1, 0, 0, none, 0⟩

/-- A mode is asked for over NFSv3. -/
theorem asked_exactly_chmod :
    ∃ final, ((Change.chmod "/" 0o600).perform (V3Backend.backend settingHost) [1]).run mounted3 =
        some (.ok (), final) ∧
      (Exact3 final.world { mode := some 0o600 } ↔ (Change.chmod "/" 0o600).Faithful3) := by
  have ended : (((Change.chmod "/" 0o600).perform (V3Backend.backend settingHost) [1]).run
      mounted3).map Prod.fst = some (.ok ()) := by
    decide +kernel
  obtain ⟨⟨result, final⟩, ran, rfl⟩ := Option.map_eq_some_iff.mp ended
  exact ⟨final, ran, (asked_exactly_iff settingServer3.transport [1] (.chmod "/" 0o600)).1 settingHost
    mounted3 final rfl rfl ran⟩

/-- An owner is not asked for over NFSv4, and the call returns. -/
theorem chown_not_asked :
    ∃ final, ((Change.chown "/" 1000 1000).perform
        (V4Backend.backend settingServer4.transport.recorded) [1]).run mounted4 =
        some (.ok (), final) ∧
      ¬ Exact4 final.nfs.rpc { uid := some 1000, gid := some 1000 } := by
  have ended : (((Change.chown "/" 1000 1000).perform
      (V4Backend.backend settingServer4.transport.recorded) [1]).run mounted4).map
        (fun ended => (ended.1, ended.2.nfs.rpc.sets)) = some (.ok (), [[]]) := by
    decide +kernel
  obtain ⟨⟨result, final⟩, ran, same⟩ := Option.map_eq_some_iff.mp ended
  obtain ⟨rfl, sets⟩ := Prod.mk.inj same
  refine ⟨final, ran, fun exact => ?_⟩
  have asked := exact.2 [] (sets ▸ List.mem_singleton_self [])
  cases asked

end LibNfs.Client
