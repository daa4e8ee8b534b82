import LibNfs.Client.FailedOpen

/-! # The same files over both versions

Two servers with the same tree of directories and regular files, one of NFSv3 and one of
NFSv4. They may give the files other modes. A path leads to the same place over both, and
an open comes to the same, as long as it names no directory.
-/

namespace LibNfs.Client

/-- The objects without their modes. -/
abbrev Bodies := ObjId → Option Body

namespace Bodies

variable (bodies : Bodies)

/-- What stands under a handle. -/
def find (fh : ObjId) : Except Status Body :=
  match bodies fh with
  | some body => .ok body
  | none => .error .stale

/-- The object of a name in a directory. -/
def lookup (dir : ObjId) (name : String) : Except Status (FileHandle × Body) := do
  match ← bodies.find dir with
  | .dir names =>
      match names name with
      | some fh => do
          let body ← bodies.find fh
          return (fh, body)
      | none => .error .noent
  | .file _ | .link _ => .error .notdir

/-- There are directories and regular files only. -/
def Plain : Prop :=
  ∀ fh target, bodies fh ≠ some (.link target)

/-- A lookup fails with a status that both versions report as the same error. -/
theorem lookup_common {dir : ObjId} {name : String} {status : Status}
    (failed : bodies.lookup dir name = .error status) :
    status = .stale ∨ status = .notdir ∨ status = .noent := by
  unfold lookup find at failed
  rcases known : bodies dir with _ | body
  · rw [known] at failed
    cases failed
    exact .inl rfl
  · rw [known] at failed
    cases body with
    | dir names =>
        simp only [bind, Except.bind] at failed
        rcases entry : names name with _ | fh
        · simp only [entry] at failed
          cases failed
          exact .inr (.inr rfl)
        · rcases child : bodies fh.1 with _ | body
          · simp only [entry, child] at failed
            cases failed
            exact .inl rfl
          · simp only [entry, child] at failed
            cases failed
    | file content =>
        cases failed
        exact .inr (.inl rfl)
    | link target =>
        cases failed
        exact .inr (.inl rfl)

/-- A name that is not there is missing from a directory. -/
theorem absent_of_noent {bodies : Bodies} {dir : ObjId} {name : String}
    (missing : bodies.lookup dir name = .error .noent) :
    ∃ names, bodies dir = some (.dir names) ∧ names name = none := by
  unfold lookup find at missing
  rcases known : bodies dir with _ | body
  · rw [known] at missing
    cases missing
  · rw [known] at missing
    cases body with
    | dir names =>
        simp only [bind, Except.bind] at missing
        rcases entry : names name with _ | fh
        · exact ⟨names, rfl, entry⟩
        · rcases child : bodies fh.1 with _ | body <;>
            · simp only [entry, child] at missing
              cases missing
    | file content => cases missing
    | link target => cases missing

/-- What is found is there. -/
theorem find_of_lookup {bodies : Bodies} {dir : ObjId} {name : String} {fh : FileHandle}
    {body : Body} (found : bodies.lookup dir name = .ok (fh, body)) : bodies fh.1 = some body := by
  obtain ⟨shown, -, rest⟩ := Volume.ok_of_bind found
  cases shown with
  | dir names =>
      rcases entry : names name with _ | child
      · simp only [entry] at rest
        cases rest
      · simp only [entry] at rest
        obtain ⟨other, present, same⟩ := Volume.ok_of_bind rest
        cases same
        rcases known : bodies fh.1 with _ | here
        · rw [find, known] at present
          cases present
        · rw [find, known] at present
          cases present
          rfl
  | file content => cases rest
  | link target => cases rest

end Bodies

namespace Volume

/-- The bodies of a volume, without the modes. -/
def bodies (volume : Volume) : Bodies :=
  fun fh => (volume.node fh).map Node.body

variable {volume : Volume}

/-- Finding an object in a volume and among its bodies. -/
theorem find_body (volume : Volume) (fh : ObjId) :
    (volume.find fh).map Node.body = volume.bodies.find fh := by
  unfold find Bodies.find bodies
  rcases volume.node fh with _ | node <;> rfl

/-- A lookup in a volume and among its bodies. -/
theorem lookup_body (volume : Volume) (dir : ObjId) (name : String) :
    (volume.lookup dir name).map (fun found => (found.1, found.2.body)) =
      volume.bodies.lookup dir name := by
  unfold lookup names Bodies.lookup
  rw [← find_body]
  rcases volume.find dir with status | ⟨body, mode⟩
  · rfl
  · cases body with
    | dir found =>
        rcases entry : found name with _ | fh
        · simp only [Except.map, bind, Except.bind, entry]
        · simp only [Except.map, bind, Except.bind, entry]
          rw [← find_body]
          rcases volume.find fh.1 with status | node <;> rfl
    | file content => rfl
    | link target => rfl

theorem bodies_put (volume : Volume) (fh : ObjId) (node : Node) :
    (volume.put fh node).bodies = Function.update volume.bodies fh (some node.body) := by
  funext other
  by_cases same : other = fh
  · subst same
    simp [bodies, put]
  · simp [bodies, put, Function.update_of_ne same]

/-- A lookup that fails among the bodies fails. -/
theorem lookup_of_error {dir : ObjId} {name : String} {status : Status}
    (failed : volume.bodies.lookup dir name = .error status) :
    volume.lookup dir name = .error status := by
  rw [← lookup_body] at failed
  rcases looked : volume.lookup dir name with cause | found
  · rw [looked] at failed
    cases failed
    rfl
  · rw [looked] at failed
    cases failed

/-- A lookup that succeeds among the bodies succeeds. -/
theorem lookup_of_ok {dir : ObjId} {name : String} {fh : FileHandle} {body : Body}
    (found : volume.bodies.lookup dir name = .ok (fh, body)) :
    ∃ mode, volume.lookup dir name = .ok (fh, ⟨body, mode⟩) := by
  rw [← lookup_body] at found
  rcases looked : volume.lookup dir name with cause | ⟨entry, shown, mode⟩
  · rw [looked] at found
    cases found
  · rw [looked] at found
    cases found
    exact ⟨mode, rfl⟩

theorem bodies_of_find {fh : ObjId} {node : Node} (present : volume.find fh = .ok node) :
    volume.bodies fh = some node.body := by
  unfold find at present
  rcases known : volume.node fh with _ | other
  · rw [known] at present
    cases present
  · rw [known] at present
    cases present
    simp [bodies, known]

end Volume

/-- Two lookups come to the same: one error, or one object that is not a link. -/
def Alike (left right : Except NfsError (ObjId × Attr)) : Prop :=
  (∃ error, left = .error error ∧ right = .error error) ∨
    ∃ fh one two, left = .ok (fh, one) ∧ right = .ok (fh, two) ∧ fh.length ≤ 64 ∧
      one.isSymlink = false ∧ two.isSymlink = false

/-- Where lookups come to the same, so do walks. -/
theorem Tree.walk_alike {left right : Tree} {root : ObjId} {comps : List String}
    (alike : ∀ dir name, dir.length ≤ 64 → name ∈ comps → name ≠ "." →
      Alike (left.lookup dir name) (right.lookup dir name)) {links : Nat} {cur : ObjId}
    (short : cur.length ≤ 64) :
    (left.walk root true links cur comps).map Walked.cur =
      (right.walk root true links cur comps).map Walked.cur := by
  induction comps generalizing cur with
  | nil =>
      rw [Tree.walk, Tree.walk]
  | cons name comps ih =>
      have rest (dir : ObjId) (other : String) (isShort : dir.length ≤ 64) (member : other ∈ comps) :=
        alike dir other isShort (List.mem_cons_of_mem name member)
      rw [Tree.walk, Tree.walk]
      by_cases dot : name = "."
      · rw [if_pos dot, if_pos dot]
        exact ih rest short
      · rw [if_neg dot, if_neg dot]
        rcases alike cur name short List.mem_cons_self dot with
          ⟨error, one, two⟩ | ⟨fh, first, second, one, two, isShort, plain, plain'⟩
        · rw [one, two]
        · rw [one, two]
          simp only [plain, plain', Bool.false_eq_true, false_and, ↓reduceIte]
          exact ih rest isShort

/-- A path whose components can be sent, without `..`, and with a name at its end. -/
structure Proper (path : String) : Prop where
  sized : ∀ name ∈ splitComponents path, Proto.Sized (Xdr.asBytes name)
  upward : ".." ∉ splitComponents path
  last : (splitComponents path).getLast? ≠ some "."

section Leading

variable {volume other : Volume} {dir : ObjId} {name : String}

theorem fails_common {status : Status} (failed : volume.bodies.lookup dir name = .error status) :
    wire3.fails status = wire4.fails status := by
  rcases volume.bodies.lookup_common failed with rfl | rfl | rfl <;> rfl

theorem isSymlink_of_plain (plain : volume.bodies.Plain) {fh : ObjId} {node : Node}
    (present : volume.find fh = .ok node) : node.attr.isSymlink = false := by
  have known := Volume.bodies_of_find present
  obtain ⟨body, mode⟩ := node
  cases body with
  | file content => rfl
  | dir names => rfl
  | link target => exact absurd known (plain fh target)

/-- Lookups of a name that both versions can ask for. -/
theorem lookup_alike (plain : volume.bodies.Plain) (same : other.bodies = volume.bodies)
    (short : dir.length ≤ 64) (sized : Proto.Sized (Xdr.asBytes name)) (legal : Legal name) :
    Alike ((volume.tree wire3).lookup dir name) ((other.tree wire4).lookup dir name) := by
  have sent := sendsName_ok short sized
  obtain ⟨c, built⟩ := naming_ok (Nat.le_trans short (by decide) : Proto.NfsFh4.Short ⟨dir⟩) sized
  rw [V3Backend.tree_lookup, V4Backend.tree_lookup4 built, Volume.lookup4_legal legal,
    V3Backend.found, sent]
  rcases looked : volume.bodies.lookup dir name with status | ⟨fh, body⟩
  · left
    have there : other.bodies.lookup dir name = .error status := by rw [same, looked]
    refine ⟨wire3.fails status, ?_, ?_⟩
    · rw [Volume.lookup_of_error looked]
      rfl
    · rw [Volume.lookup_of_error there, fails_common looked]
      rfl
  · right
    have there : other.bodies.lookup dir name = .ok (fh, body) := by rw [same, looked]
    obtain ⟨mode, one⟩ := Volume.lookup_of_ok looked
    obtain ⟨mode', two⟩ := Volume.lookup_of_ok there
    obtain ⟨-, -, -, present⟩ := Volume.lookup_inv one
    obtain ⟨-, -, -, present'⟩ := Volume.lookup_inv two
    have plain' : other.bodies.Plain := by rw [same]; exact plain
    refine ⟨fh.1, _, _, ?_, ?_, fh.2, isSymlink_of_plain plain present,
      isSymlink_of_plain plain' present'⟩
    · rw [one]
      rfl
    · rw [two]
      rfl

/-- A path leads to the same directory over both versions. -/
theorem parent_alike (plain : volume.bodies.Plain) (same : other.bodies = volume.bodies)
    {root : ObjId} (short : root.length ≤ 64) {path : String} (proper : Proper path) :
    (volume.tree wire3).parent root path = (other.tree wire4).parent root path := by
  apply Tree.walk_alike _ short
  intro dir name isShort member named
  have component := List.dropLast_subset _ member
  refine lookup_alike plain same isShort (proper.sized name component) ⟨named, ?_⟩
  rintro rfl
  exact proper.upward component

end Leading

/-- The choices of servers that decline nothing: the handles of new files by the tree and the
name alone, the stateids, and whether an open is to be confirmed. -/
structure Granting where
  pick : Bodies → ObjId → String → FileHandle
  distinct : ∀ bodies dir name, (pick bodies dir name).1 ≠ dir
  stateid : ObjId → Proto.Stateid4
  confirms : Bool

/-- The servers of a granting decline nothing. -/
def Granting.policy (granting : Granting) : Policy where
  fresh volume := granting.pick volume.bodies
  distinct volume := granting.distinct volume.bodies
  omitsHandle := false
  creating := none
  truncating := none
  stateid := granting.stateid
  confirming := if granting.confirms then some none else none
  delegation := none

/-- The servers of a granting leave every open settled. -/
theorem Granting.settles (granting : Granting) : ¬ V4Backend.Unsettles granting.policy := by
  rintro (granted | ⟨refusal, declined⟩)
  · cases granted
  · simp only [policy] at declined
    split at declined <;> cases declined

/-- The file that an open is about, and the tree once it is there. -/
inductive Bodies.Opens (bodies : Bodies) (pick : Bodies → ObjId → String → FileHandle)
    (create : Bool) (dir : ObjId) (name : String) : FileHandle → Content → Bodies → Prop
  | found {fh : FileHandle} {content : Content}
      (there : bodies.lookup dir name = .ok (fh, .file content)) :
      Opens bodies pick create dir name fh content bodies
  | made {names : String → Option FileHandle} (creates : create = true)
      (listed : bodies dir = some (.dir names)) (absent : names name = none) :
      Opens bodies pick create dir name (pick bodies dir name) .empty
        (Function.update (Function.update bodies (pick bodies dir name).1 (some (.file .empty))) dir
          (some (.dir (Function.update names name (some (pick bodies dir name))))))

namespace Bodies.Opens

variable {granting : Granting} {flags : OpenFlags} {dir : ObjId} {name : String} {fh : FileHandle}
  {content : Content} {next : Bodies} {volume : Volume}

/-- The file is there afterwards. -/
theorem file {bodies : Bodies}
    (opens : bodies.Opens granting.pick flags.create dir name fh content next) :
    next fh.1 = some (.file content) := by
  cases opens with
  | found there => exact Bodies.find_of_lookup there
  | made creates listed absent =>
      rw [Function.update_of_ne (granting.distinct bodies dir name), Function.update_self]

end Bodies.Opens

theorem Volume.find_of_bodies {volume : Volume} {fh : ObjId} {body : Body}
    (known : volume.bodies fh = some body) : ∃ mode, volume.find fh = .ok ⟨body, mode⟩ := by
  obtain ⟨⟨shown, mode⟩, present, rfl⟩ := Option.map_eq_some_iff.mp known
  refine ⟨mode, ?_⟩
  simp only [find, present]

section Opened

variable {granting : Granting} {flags : OpenFlags} {dir : ObjId} {name : String} {fh : FileHandle}
  {content : Content} {next : Bodies} {volume : Volume} {store : Store}

theorem noent_of_absent {names : String → Option FileHandle}
    (listed : volume.bodies dir = some (.dir names)) (absent : names name = none) :
    volume.bodies.lookup dir name = .error .noent := by
  simp only [Bodies.lookup, Bodies.find, listed, bind, Except.bind, absent]

/-- The new file, over either version. -/
theorem create_bodies {names : String → Option FileHandle} {mode : UInt32}
    (listed : volume.bodies dir = some (.dir names)) :
    ∃ made, volume.create granting.policy dir name mode =
        .ok (granting.pick volume.bodies dir name, made) ∧
      made.bodies = Function.update
        (Function.update volume.bodies (granting.pick volume.bodies dir name).1 (some (.file .empty)))
        dir (some (.dir (Function.update names name
          (some (granting.pick volume.bodies dir name))))) := by
  obtain ⟨dirMode, present⟩ := Volume.find_of_bodies listed
  refine ⟨_, Volume.create_eq present rfl, ?_⟩
  rw [Volume.bodies_put, Volume.bodies_put]
  rfl

/-- An open over NFSv3 finds or makes the file. -/
theorem V3Backend.opened_opens (short : dir.length ≤ 64) (sized : Proto.Sized (Xdr.asBytes name))
    (shared : flags.exclusive = false)
    (opens : volume.bodies.Opens granting.pick flags.create dir name fh content next) :
    ∃ after, opened granting.policy dir name flags.opts volume =
      (.ok ⟨fh.1, none, flags.write⟩, after) ∧ after.bodies = next := by
  have sent := sendsName_ok short sized
  have how : createHow flags.opts = .unchecked { mode := some flags.opts.mode } :=
    if_neg (by rw [show flags.opts.exclusive = false from shared]; decide)
  cases opens with
  | found there =>
      refine ⟨volume, ?_, rfl⟩
      obtain ⟨mode, looked⟩ := Volume.lookup_of_ok there
      unfold opened
      by_cases create : flags.opts.create
      · have taken : volume.create3 granting.policy dir name (createHow flags.opts) =
            .ok (fh, volume) := by
          rw [how]
          simp only [Volume.create3, looked]
        simp only [if_pos create, sent, taken]
        rfl
      · simp only [if_neg create]
        rw [tree_lookup, V3Backend.found, sent, looked]
        rfl
  | made creates listed absent =>
      obtain ⟨made, created, bodies⟩ := @create_bodies granting dir name volume _
        (modeOf (createHow flags.opts)) listed
      refine ⟨made, ?_, bodies⟩
      have missing := Volume.lookup_of_error (noent_of_absent listed absent)
      have done : volume.create3 granting.policy dir name (createHow flags.opts) =
          .ok (granting.pick volume.bodies dir name, made) := by
        simp only [Volume.create3, missing, created]
      have creating : flags.opts.create = true := creates
      simp only [opened, if_pos creating, sent, done]
      rfl

theorem open4_opens (legal : Legal name)
    (opens : volume.bodies.Opens granting.pick flags.create dir name fh content next) :
    ∃ after, volume.open4 granting.policy dir name (Proto.Compound.how flags.create) =
      .ok (fh, after) ∧ after.bodies = next := by
  cases opens with
  | found there =>
      refine ⟨volume, ?_, rfl⟩
      obtain ⟨mode, looked⟩ := Volume.lookup_of_ok there
      simp only [Volume.open4, Volume.lookup4_legal legal, looked]
      cases flags.create <;> rfl
  | made creates listed absent =>
      obtain ⟨made, created, bodies⟩ := @create_bodies granting dir name volume _ 0 listed
      refine ⟨made, ?_, bodies⟩
      have missing := Volume.lookup_of_error (noent_of_absent listed absent)
      simp only [Volume.open4, Volume.lookup4_legal legal, missing]
      rw [creates]
      exact created

/-- An open over NFSv4 finds or makes the file, and puts it on record. -/
theorem V4Backend.opened4_file (short : dir.length ≤ 64)
    (sized : Proto.Sized (Xdr.asBytes name)) (legal : Legal name)
    (opens : store.volume.bodies.Opens granting.pick flags.create dir name fh content next)
    (closed : store.opens fh.1 = none) :
    ∃ stateid after, opened4 granting.policy dir name flags.opts store =
        (.ok ⟨fh.1, some stateid, flags.write⟩,
          ⟨after, Function.update store.opens fh.1 (some ⟨stateid, share flags.opts⟩)⟩) ∧
      after.bodies = next := by
  obtain ⟨c, sent⟩ := naming_ok (Nat.le_trans short (by decide) : Proto.NfsFh4.Short ⟨dir⟩) sized
  obtain ⟨after, decided, bodies⟩ := open4_opens legal opens
  have granted := @Store.open_eq granting.policy dir name (share flags.opts) _ store fh after decided
  have enlisted : store.enlist granting.policy fh.1 (share flags.opts) =
      ⟨granting.policy.stateid fh.1, share flags.opts⟩ := by
    simp only [Store.enlist, closed]
  rw [enlisted] at granted
  obtain ⟨later, settles, follows⟩ := @settled_ok granting.policy
    ⟨after, Function.update store.opens fh.1
      (some ⟨granting.policy.stateid fh.1, share flags.opts⟩)⟩ fh _ granting.settles
    (Function.update_self ..)
  refine ⟨later.stateid, after, ?_, bodies⟩
  have create : flags.opts.create = flags.create := rfl
  have same : (⟨later.stateid, share flags.opts⟩ : OpenRec) = later := by
    rw [← show later.access = share flags.opts from follows.access]
  simp only [opened4, sent, create, granted, settles, Function.update_idem, same]
  rfl

/-- The name is not that of a directory, and no file is found or made. -/
structure Unopenable (granting : Granting) (flags : OpenFlags) (dir : ObjId) (name : String)
    (bodies : Bodies) : Prop where
  none : ∀ fh content next, ¬ bodies.Opens granting.pick flags.create dir name fh content next
  noDirectory : ∀ fh names, bodies.lookup dir name ≠ .ok (fh, .dir names)

/-- Then the lookup fails, and not because a new file could be made. -/
theorem Unopenable.fails {bodies : Bodies} (plain : bodies.Plain)
    (unopenable : Unopenable granting flags dir name bodies) :
    ∃ status, bodies.lookup dir name = .error status ∧ (flags.create = true → status ≠ .noent) := by
  rcases looked : bodies.lookup dir name with status | ⟨fh, body⟩
  · refine ⟨status, rfl, ?_⟩
    rintro creates rfl
    obtain ⟨names, listed, absent⟩ := bodies.absent_of_noent looked
    exact unopenable.none _ _ _ (.made creates listed absent)
  · cases body with
    | file content => exact absurd (.found looked) (unopenable.none fh content bodies)
    | dir names => exact absurd looked (unopenable.noDirectory fh names)
    | link target => exact absurd (Bodies.find_of_lookup looked) (plain fh.1 target)

/-- An open that fails does so with the same error over both versions. -/
theorem opened_fails (plain : volume.bodies.Plain) (same : store.volume.bodies = volume.bodies)
    (short : dir.length ≤ 64) (sized : Proto.Sized (Xdr.asBytes name)) (legal : Legal name)
    (unopenable : Unopenable granting flags dir name volume.bodies) :
    ∃ error, V3Backend.opened granting.policy dir name flags.opts volume = (.error error, volume) ∧
      V4Backend.opened4 granting.policy dir name flags.opts store = (.error error, store) := by
  obtain ⟨status, failed, lasting⟩ := unopenable.fails plain
  have sent := sendsName_ok short sized
  obtain ⟨c, built⟩ := naming_ok (Nat.le_trans short (by decide) : Proto.NfsFh4.Short ⟨dir⟩) sized
  have looked := Volume.lookup_of_error failed
  have looked4 : store.volume.lookup dir name = .error status := by
    apply Volume.lookup_of_error
    rw [same, failed]
  refine ⟨wire3.fails status, ?_, ?_⟩
  · unfold V3Backend.opened
    by_cases create : flags.opts.create
    · have refused : volume.create3 granting.policy dir name (V3Backend.createHow flags.opts) =
          .error status := by
        simp only [Volume.create3, looked]
        cases status with
        | noent => exact absurd rfl (lasting create)
        | _ => rfl
      simp only [if_pos create, sent, refused]
    · simp only [if_neg create]
      rw [V3Backend.tree_lookup, V3Backend.found, sent, looked]
      rfl
  · have refused : store.volume.open4 granting.policy dir name
        (Proto.Compound.how flags.create) = .error status := by
      simp only [Volume.open4, Volume.lookup4_legal legal, looked4]
      cases status with
      | noent =>
          have opensOnly : flags.create = false :=
            Bool.eq_false_iff.mpr fun creates => lasting creates rfl
          rw [opensOnly]
          rfl
      | _ => rfl
    have create : flags.opts.create = flags.create := rfl
    have failed4 := @Store.open_error granting.policy dir name (V4Backend.share flags.opts) _ store
      status refused
    simp only [V4Backend.opened4, built, create, failed4]
    rw [fails_common failed]

/-- Truncating a file over NFSv3 empties it. -/
theorem truncated_file (known : volume.bodies fh.1 = some (.file content)) :
    ∃ after, (opener3 granting.policy).truncated fh.1 volume = .ok after ∧
      after.bodies = Function.update volume.bodies fh.1 (some (.file (Volume.resize content 0))) := by
  obtain ⟨mode, present⟩ := Volume.find_of_bodies known
  refine ⟨volume.put fh.1 ⟨.file (Volume.resize content 0), mode⟩, ?_, Volume.bodies_put _ _ _⟩
  simp only [opener3, Volume.setattr_file present]
  rfl

/-- Truncating a file over NFSv4 empties it. -/
theorem truncated4_file (known : store.volume.bodies fh.1 = some (.file content)) :
    ∃ after, (opener4 granting.policy).truncated fh.1 store = .ok ⟨after, store.opens⟩ ∧
      after.bodies =
        Function.update store.volume.bodies fh.1 (some (.file (Volume.resize content 0))) := by
  obtain ⟨mode, present⟩ := Volume.find_of_bodies known
  refine ⟨store.volume.put fh.1 ⟨.file (Volume.resize content 0), mode⟩, ?_, Volume.bodies_put _ _ _⟩
  simp only [opener4, Volume.setattr_file present]
  rfl

end Opened

/-- What a change of the tree keeps: there are no links, and a file stays one. -/
structure Bodies.Evolves (before after : Bodies) : Prop where
  plain : before.Plain → after.Plain
  files : ∀ fh content, before fh = some (.file content) → ∃ later, after fh = some (.file later)

namespace Bodies.Evolves

variable {before mid after : Bodies}

theorem refl (bodies : Bodies) : Evolves bodies bodies :=
  ⟨id, fun _ content known => ⟨content, known⟩⟩

theorem trans (first : Evolves before mid) (second : Evolves mid after) : Evolves before after := by
  refine ⟨fun plain => second.plain (first.plain plain), fun fh content known => ?_⟩
  obtain ⟨later, here⟩ := first.files fh content known
  exact second.files fh later here

/-- A file takes the place of an object. -/
theorem update_file (bodies : Bodies) (fh : ObjId) (content : Content) :
    Evolves bodies (Function.update bodies fh (some (.file content))) := by
  constructor
  · intro plain other target
    by_cases same : other = fh
    · subst same
      rw [Function.update_self]
      intro linked
      cases linked
    · rw [Function.update_of_ne same]
      exact plain other target
  · intro other before known
    by_cases same : other = fh
    · subst same
      exact ⟨content, Function.update_self ..⟩
    · exact ⟨before, by rw [Function.update_of_ne same, known]⟩

/-- A directory gets other names. -/
theorem update_dir {bodies : Bodies} {dir : ObjId} {names : String → Option FileHandle}
    (listed : bodies dir = some (.dir names)) (others : String → Option FileHandle) :
    Evolves bodies (Function.update bodies dir (some (.dir others))) := by
  constructor
  · intro plain other target
    by_cases same : other = dir
    · subst same
      rw [Function.update_self]
      intro linked
      cases linked
    · rw [Function.update_of_ne same]
      exact plain other target
  · intro other content known
    have differ : other ≠ dir := by
      rintro rfl
      rw [listed] at known
      cases known
    exact ⟨content, by rw [Function.update_of_ne differ, known]⟩

end Bodies.Evolves

theorem Bodies.Opens.evolves {granting : Granting} {bodies next : Bodies} {create : Bool}
    {dir : ObjId} {name : String} {fh : FileHandle} {content : Content}
    (opens : bodies.Opens granting.pick create dir name fh content next) : bodies.Evolves next := by
  cases opens with
  | found there => exact .refl bodies
  | @made names creates listed absent =>
      have still : Function.update bodies (granting.pick bodies dir name).1 (some (.file .empty)) dir =
          some (.dir names) := by
        rw [Function.update_of_ne (granting.distinct bodies dir name).symm, listed]
      exact (Bodies.Evolves.update_file bodies _ _).trans (.update_dir still _)

/-- An open that means the same over both versions: it is not exclusive, the path is proper,
and at its end is neither a directory nor a file that is open. -/
structure Meant (granting : Granting) (root : FileHandle) (path : String) (flags : OpenFlags)
    (store : Store) : Prop where
  shared : flags.exclusive = false
  proper : Proper path
  closed : ∀ {name dir fh content next}, (splitComponents path).getLast? = some name →
    (store.volume.tree wire4).parent root.1 path = .ok dir →
    store.volume.bodies.Opens granting.pick flags.create dir name fh content next →
      store.opens fh.1 = none
  noDirectory : ∀ {name dir}, (splitComponents path).getLast? = some name →
    (store.volume.tree wire4).parent root.1 path = .ok dir →
      ∀ fh names, store.volume.bodies.lookup dir name ≠ .ok (fh, .dir names)

/-- What an open comes to over both versions: the same error, or the same file, of which NFSv4
knows the access. -/
def OpensAlike (flags : OpenFlags) (volume : Volume) (store : Store)
    (left : Except NfsError OpenFile × Volume) (right : Except NfsError OpenFile × Store) : Prop :=
  (∃ error, left = (.error error, volume) ∧ right = (.error error, store)) ∨
    ∃ fh : FileHandle, ∃ stateid after other content,
      left = (.ok ⟨fh.1, none, flags.write⟩, after) ∧
      right = (.ok ⟨fh.1, some stateid, flags.write⟩, ⟨other, Function.update store.opens fh.1
        (some ⟨stateid, V4Backend.share flags.opts⟩)⟩) ∧
      other.bodies = after.bodies ∧ store.opens fh.1 = none ∧
      volume.bodies.Evolves after.bodies ∧ after.bodies fh.1 = some (.file content)

section Both

variable {granting : Granting} {flags : OpenFlags} {volume : Volume} {store : Store}

/-- A file that was opened over both versions ends the same. -/
theorem ends_alike {fh : FileHandle} {content : Content} {next : Bodies} {after other : Volume}
    {stateid : Proto.Stateid4} (closed : store.opens fh.1 = none) (bodies : after.bodies = next)
    (bodies4 : other.bodies = next) (known : next fh.1 = some (.file content))
    (evolves : volume.bodies.Evolves next) :
    OpensAlike flags volume store
      ((opener3 granting.policy).ends flags (.ok ⟨fh.1, none, flags.write⟩, after))
      ((opener4 granting.policy).ends flags (.ok ⟨fh.1, some stateid, flags.write⟩,
        ⟨other, Function.update store.opens fh.1
          (some ⟨stateid, V4Backend.share flags.opts⟩)⟩)) := by
  right
  subst bodies
  by_cases truncates : flags.truncate ∧ flags.write
  · obtain ⟨resized, done, one⟩ := @truncated_file granting fh content after known
    obtain ⟨resized4, done4, two⟩ := @truncated4_file granting fh content ⟨other, Function.update
      store.opens fh.1 (some ⟨stateid, V4Backend.share flags.opts⟩)⟩ (by rw [bodies4, known])
    refine ⟨fh, stateid, resized, resized4, Volume.resize content 0, ?_, ?_, ?_, closed, ?_, ?_⟩
    · simp only [Opener.ends, if_pos truncates, done]
    · simp only [Opener.ends, if_pos truncates, done4]
    · rw [one, two, bodies4]
    · rw [one]
      exact evolves.trans (.update_file _ _ _)
    · rw [one, Function.update_self]
  · refine ⟨fh, stateid, after, other, content, ?_, ?_, bodies4, closed, evolves, known⟩
    · simp only [Opener.ends, if_neg truncates]
    · simp only [Opener.ends, if_neg truncates]

/-- An open comes to the same over both versions. -/
theorem opens_alike {root : FileHandle} {path : String} (plain : volume.bodies.Plain)
    (same : store.volume.bodies = volume.bodies) (meant : Meant granting root path flags store) :
    OpensAlike flags volume store ((opener3 granting.policy).opens root.1 path flags volume)
      ((opener4 granting.policy).opens root.1 path flags store) := by
  unfold Opener.opens
  rcases last : (splitComponents path).getLast? with _ | name
  · exact .inl ⟨_, rfl, rfl⟩
  · have agree := parent_alike plain same root.2 meant.proper
    have component : name ∈ splitComponents path := List.mem_of_getLast? last
    have sized := meant.proper.sized name component
    have legal : Legal name := by
      constructor
      · rintro rfl
        exact meant.proper.last last
      · rintro rfl
        exact meant.proper.upward component
    dsimp only
    rcases led : (store.volume.tree wire4).parent root.1 path with error | dir
    · have led3 : ((opener3 granting.policy).tree volume).parent root.1 path = .error error :=
        agree.trans led
      have led4 : ((opener4 granting.policy).tree store).parent root.1 path = .error error := led
      rw [led3, led4]
      exact .inl ⟨error, rfl, rfl⟩
    · have led3 : ((opener3 granting.policy).tree volume).parent root.1 path = .ok dir :=
        agree.trans led
      have led4 : ((opener4 granting.policy).tree store).parent root.1 path = .ok dir := led
      rw [led3, led4]
      dsimp only
      have short := Volume.parent_handle root.2 led
      by_cases openable : ∃ fh content next,
        store.volume.bodies.Opens granting.pick flags.create dir name fh content next
      · obtain ⟨fh, content, next, opens⟩ := openable
        have closed := meant.closed last led opens
        obtain ⟨stateid, other, opened4, bodies4⟩ :=
          V4Backend.opened4_file short sized legal opens closed
        have opens3 : volume.bodies.Opens granting.pick flags.create dir name fh content next := by
          rw [← same]
          exact opens
        obtain ⟨after, opened, bodies⟩ := V3Backend.opened_opens short sized meant.shared opens3
        have one : (opener3 granting.policy).opened dir name flags.opts volume = _ := opened
        have two : (opener4 granting.policy).opened dir name flags.opts store = _ := opened4
        rw [one, two]
        exact ends_alike closed bodies bodies4 opens.file opens3.evolves
      · have unopenable : Unopenable granting flags dir name volume.bodies := by
          constructor
          · intro fh content next opens
            rw [← same] at opens
            exact openable ⟨fh, content, next, opens⟩
          · rw [← same]
            exact meant.noDirectory last led
        obtain ⟨error, one, two⟩ := opened_fails plain same short sized legal unopenable
        have left : (opener3 granting.policy).opened dir name flags.opts volume = _ := one
        have right : (opener4 granting.policy).opened dir name flags.opts store = _ := two
        rw [left, right]
        exact .inl ⟨error, rfl, rfl⟩

end Both

end LibNfs.Client
