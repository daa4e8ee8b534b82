import LibNfs.Client.FailedOpen
import LibNfs.Client.Names
import LibNfs.Proto.Naming

/-! # The names that a path sends

Path resolution skips `.` alone: every other component of a path, and of the target of
each link that it follows, is looked up, and the last component of a path whose parent
is resolved is sent as it is. So the names that a call over NFSv4 sends are legal
components as long as none of them is `..` and no last component is `.`; then a path
also leads to the same place over NFSv3.
-/

namespace LibNfs.Client

open Prog (Tells Emits)

/-- What NFSv4 takes for the name of an object in a directory. -/
structure Component (name : String) : Prop where
  nonempty : name.toList ≠ []
  slashless : '/' ∉ name.toList
  legal : Legal name

/-- The components that are looked up. -/
def lookedUp (comps : List String) : Set String :=
  {name | name ∈ comps ∧ name ≠ "."}

/-- The components of the parent that are looked up, and the last one as it is. -/
def addressed (path : String) : Set String :=
  lookedUp (splitComponents path).dropLast ∪ {name | (splitComponents path).getLast? = some name}

section Components

variable {name path : String} {comps rest : List String}

/-- No component is looked up on an empty path. -/
theorem lookedUp_nil : lookedUp [] = ∅ :=
  Set.eq_empty_of_forall_notMem fun _ member => List.not_mem_nil member.1

theorem lookedUp_dot : lookedUp ("." :: comps) = lookedUp comps := by
  ext name
  simp only [lookedUp, List.mem_cons, Set.mem_ofPred_eq]
  exact ⟨fun ⟨member, named⟩ => ⟨member.resolve_left named, named⟩,
    fun ⟨member, named⟩ => ⟨.inr member, named⟩⟩

theorem lookedUp_cons (named : name ≠ ".") :
    lookedUp (name :: comps) = {name} ∪ lookedUp comps := by
  ext other
  simp only [lookedUp, List.mem_cons, Set.mem_ofPred_eq, Set.mem_union, Set.mem_singleton_iff]
  constructor
  · rintro ⟨rfl | member, proper⟩
    · exact .inl rfl
    · exact .inr ⟨member, proper⟩
  · rintro (rfl | ⟨member, proper⟩)
    · exact ⟨.inl rfl, named⟩
    · exact ⟨.inr member, proper⟩

theorem lastName (last : (splitComponents path).getLast? = some name) :
    {other | (splitComponents path).getLast? = some other} = {name} := by
  ext other
  rw [last]
  exact ⟨fun same => (Option.some.inj same).symm, fun same => congrArg some same.symm⟩

theorem lookedUp_append : lookedUp (comps ++ rest) = lookedUp comps ∪ lookedUp rest := by
  ext name
  simp only [lookedUp, List.mem_append, Set.mem_ofPred_eq, Set.mem_union, or_and_right]

end Components

/-- Each operation of the backend asks about the names that it is given, all of them once
it returns, and about no other. -/
structure Asks {σ : Type} (named : NameBackend σ) (ready : σ → Prop) (log : σ → List String) :
    Prop where
  lookup : ∀ dir name, (named.lookup dir name).Emits ready log {name} {name}
  «open» : ∀ dir name opts, (named.open dir name opts).Emits ready log {name} {name}
  mkdir : ∀ dir name mode, (named.mkdir dir name mode).Emits ready log {name} {name}
  rmdir : ∀ dir name, (named.rmdir dir name).Emits ready log {name} {name}
  remove : ∀ dir name, (named.remove dir name).Emits ready log {name} {name}
  rename : ∀ fromDir fromName toDir toName,
    (named.rename fromDir fromName toDir toName).Emits ready log {fromName, toName}
      {fromName, toName}
  symlink : ∀ dir name target, (named.symlink dir name target).Emits ready log {name} {name}
  link : ∀ fh dir name, (named.link fh dir name).Emits ready log {name} {name}
  readlink : ∀ fh, (named.readlink fh).Emits ready log ∅ ∅
  getattr : ∀ fh, (named.getattr fh).Emits ready log ∅ ∅
  setattr : ∀ fh attr, (named.setattr fh attr).Emits ready log ∅ ∅
  readdir : ∀ pages dir, (named.readdir pages dir).Emits ready log ∅ ∅

/-- What a target that is followed has looked up. -/
def entailed (target : String) : Set String :=
  lookedUp (splitComponents target)

namespace NfsContext

section Resolving

variable {σ : Type} {named : NameBackend σ} {ready : σ → Prop} {log : σ → List String}
  {root : ObjId} {followFinal : Bool}

/-- A walk asks for the components of its path, and of the links on it. -/
theorem tells_walk (asks : Asks named ready log)
    {follow : ObjId → ObjId → List String → Prog (σ × List String) NfsError ObjId}
    {plainFollow : ObjId → ObjId → List String → Prog σ NfsError ObjId}
    (follows : ∀ cur fh comps, Tells ready log entailed (lookedUp comps) (lookedUp comps)
      (follow cur fh comps) (plainFollow cur fh comps)) (cur : ObjId) (comps : List String) :
    Tells ready log entailed (lookedUp comps) (lookedUp comps)
      (walk named.noting.toBackend followFinal follow cur comps)
      (walk named.toBackend followFinal plainFollow cur comps) := by
  induction comps generalizing cur with
  | nil =>
      rw [lookedUp_nil]
      exact Tells.pure cur
  | cons name comps ih =>
      rw [walk, walk]
      by_cases dot : name = "."
      · subst dot
        simp only [↓reduceIte, lookedUp_dot]
        exact ih cur
      · rw [if_neg dot, if_neg dot, lookedUp_cons dot]
        apply (Tells.beside (asks.lookup cur name)).bind
        rintro ⟨fh, attr⟩
        dsimp only
        split
        · exact follows cur fh comps
        · exact ih fh

/-- Resolving asks for the components of the path, and of the links on it. -/
theorem tells_resolveFrom (asks : Asks named ready log) (links : Nat) (cur : ObjId)
    (comps : List String) :
    Tells ready log entailed (lookedUp comps) (lookedUp comps)
      (resolveFrom named.noting.toBackend root followFinal links cur comps)
      (resolveFrom named.toBackend root followFinal links cur comps) := by
  induction links generalizing cur comps with
  | zero => exact tells_walk asks (fun _ _ _ => Tells.throw _) cur comps
  | succ links ih =>
      apply tells_walk asks
      intro cur fh comps
      apply Tells.noting (asks.readlink fh)
      intro target
      rw [entailed, ← lookedUp_append]
      exact ih _ _

/-- Resolving a path has its components looked up. -/
theorem tells_resolve (asks : Asks named ready log) (path : String) :
    Tells ready log entailed (lookedUp (splitComponents path)) (lookedUp (splitComponents path))
      (resolve named.noting.toBackend root path followFinal)
      (resolve named.toBackend root path followFinal) :=
  tells_resolveFrom asks _ _ _

/-- Resolving the parent of a path has its components looked up; then comes what is done
with the last one. -/
theorem tells_resolveParent {α : Type} (asks : Asks named ready log) (path : String)
    {least most : Set String} {next : ObjId × String → Prog (σ × List String) NfsError α}
    {plainNext : ObjId × String → Prog σ NfsError α}
    (follows : ∀ dir name, (splitComponents path).getLast? = some name →
      Tells ready log entailed least most (next (dir, name)) (plainNext (dir, name))) :
    Tells ready log entailed (lookedUp (splitComponents path).dropLast ∪ least)
      (lookedUp (splitComponents path).dropLast ∪ most)
      (resolveParent named.noting.toBackend root path >>= next)
      (resolveParent named.toBackend root path >>= plainNext) := by
  rcases last : (splitComponents path).getLast? with _ | name
  · simp only [resolveParent, last]
    exact Tells.throw (NfsError.invalidPath path)
  · rw [resolveParent_eq last, resolveParent_eq last, Prog.bind_return_bind, Prog.bind_return_bind]
    exact (tells_resolveFrom asks _ _ _).bind fun dir => follows dir name last

end Resolving

end NfsContext

namespace PathCall

/-- The names that a call asks about, those of the links that it follows aside. -/
def names : PathCall → Set String
  | stat path | lstat path | readlink path | readdir _ path => lookedUp (splitComponents path)
  | .open path _ | mkdir path | rmdir path | unlink path | symlink _ path => addressed path
  | rename fromPath toPath => addressed fromPath ∪ addressed toPath
  | link oldpath newpath => lookedUp (splitComponents oldpath) ∪ addressed newpath

section Asking

variable {σ : Type} {named : NameBackend σ} {ready : σ → Prop} {log : σ → List String}
  {root : ObjId}

/-- A path is resolved, and what it leads to is asked about by no name. -/
theorem tells_object {α : Type} {followFinal : Bool} (asks : Asks named ready log) (path : String)
    {next : ObjId → Prog σ NfsError α} (silent : ∀ fh, (next fh).Emits ready log ∅ ∅) :
    Tells ready log entailed (lookedUp (splitComponents path)) (lookedUp (splitComponents path))
      (do
        let fh ← NfsContext.resolve named.noting.toBackend root path followFinal
        (next fh).beside)
      (do
        let fh ← NfsContext.resolve named.toBackend root path followFinal
        next fh) :=
  (NfsContext.tells_resolve asks path).andThen fun fh => Tells.beside (silent fh)

/-- The parent of a path is resolved, and the last component is asked about. -/
theorem tells_entry {α : Type} (asks : Asks named ready log) (path : String)
    {next : ObjId × String → Prog (σ × List String) NfsError α}
    {plainNext : ObjId × String → Prog σ NfsError α}
    (follows : ∀ dir name, Tells ready log entailed {name} {name} (next (dir, name))
      (plainNext (dir, name))) :
    Tells ready log entailed (addressed path) (addressed path)
      (NfsContext.resolveParent named.noting.toBackend root path >>= next)
      (NfsContext.resolveParent named.toBackend root path >>= plainNext) := by
  apply NfsContext.tells_resolveParent asks path
  intro dir name last
  rw [lastName last]
  exact follows dir name

/-- A call asks about its names, and about those that the targets it follows entail. -/
theorem tells_traced (asks : Asks named ready log) (call : PathCall) :
    Tells ready log entailed call.names call.names (call.traced named root)
      (call.perform named root) := by
  cases call with
  | stat path => exact tells_object asks path asks.getattr
  | lstat path => exact tells_object asks path asks.getattr
  | readlink path => exact tells_object asks path asks.readlink
  | readdir pages path => exact tells_object asks path (asks.readdir pages)
  | «open» path flags =>
      apply tells_entry asks path
      intro dir name
      apply (Tells.beside (asks.open dir name _)).andThen
      intro file
      split
      · exact (Tells.beside (asks.setattr file.fh _)).andThen fun _ => Tells.pure file
      · exact Tells.pure file
  | mkdir path =>
      apply tells_entry asks path
      intro dir name
      exact (Tells.beside (asks.mkdir dir name 0o755)).andThen fun _ => Tells.pure ()
  | rmdir path =>
      apply tells_entry asks path
      exact fun dir name => Tells.beside (asks.rmdir dir name)
  | unlink path =>
      apply tells_entry asks path
      exact fun dir name => Tells.beside (asks.remove dir name)
  | symlink target linkpath =>
      apply tells_entry asks linkpath
      exact fun dir name => Tells.beside (asks.symlink dir name target)
  | link oldpath newpath =>
      apply (NfsContext.tells_resolve asks oldpath).bind
      intro fh
      apply tells_entry asks newpath
      exact fun dir name => Tells.beside (asks.link fh dir name)
  | rename fromPath toPath =>
      rw [names, addressed, Set.union_assoc]
      apply NfsContext.tells_resolveParent asks fromPath
      intro fromDir fromName fromLast
      rw [lastName fromLast, addressed, Set.union_left_comm]
      apply NfsContext.tells_resolveParent asks toPath
      intro toDir toName toLast
      rw [lastName toLast, ← Set.insert_eq]
      exact Tells.beside (asks.rename fromDir fromName toDir toName)

end Asking

end PathCall

/-- A listing asks about no name if none of its pages does. -/
theorem emits_readPages {σ : Type} {ready : σ → Prop} {log : σ → List String}
    {fetch : UInt64 → Vector UInt8 8 → Prog σ NfsError DirPage}
    (silent : ∀ cookie verf, (fetch cookie verf).Emits ready log ∅ ∅) (pages : Nat)
    (cookie : UInt64) (verf : Vector UInt8 8) (out : List DirEntry) :
    (readPages fetch pages cookie verf out).Emits ready log ∅ ∅ := by
  induction pages generalizing cookie verf out with
  | zero => exact Emits.abort
  | succ pages ih =>
      apply (silent cookie verf).andThen
      intro page
      dsimp only
      split
      · exact Emits.pure _
      · exact ih _ _ _

namespace V4Backend

open Proto (Transport Nfs4 Recorded ProtoError)

variable {τ : Type}

/-- The names that the requests of a backend ask about. -/
def heard (state : V4Backend (Recorded τ)) : List String :=
  state.nfs.heard

/-- A method of the client on the backend. -/
theorem emits_within {α : Type} {names : List String} {asked : Set String}
    {body : Prog (Nfs4 (Recorded τ)) ProtoError α} (speaks : Nfs4.Speaks names body)
    (same : {name | name ∈ names} = asked) :
    (within body).Emits (fun state => state.nfs.Established) heard asked asked := by
  subst same
  exact Emits.within (fun _ _ => rfl) speaks

theorem no_names : {name : String | name ∈ []} = ∅ :=
  Set.eq_empty_of_forall_notMem fun _ member => List.not_mem_nil member

theorem one_name (only : String) : {name | name ∈ [only]} = {only} := by
  ext name
  exact List.mem_singleton

theorem two_names (left right : String) : {name | name ∈ [left, right]} = {left, right} := by
  ext name
  exact List.mem_pair

/-- Over a transport that records, the requests are about the names given. -/
theorem asksNames (transport : Transport τ) :
    Asks (named transport.recorded) (fun state => state.nfs.Established) heard where
  lookup dir name := (emits_within (Nfs4.lookup_speaks transport _ name) (one_name name)).andThen
    fun _ => Emits.pure _
  «open» dir name opts :=
    (emits_within (Nfs4.open_speaks transport _ name _ _) (one_name name)).andThen
      fun _ => Emits.pure _
  mkdir dir name mode := (emits_within (Nfs4.mkdir_speaks transport _ name) (one_name name)).andThen
    fun _ => Emits.pure _
  rmdir dir name := emits_within (Nfs4.remove_speaks transport _ name) (one_name name)
  remove dir name := emits_within (Nfs4.remove_speaks transport _ name) (one_name name)
  rename fromDir fromName toDir toName :=
    emits_within (Nfs4.rename_speaks transport _ fromName _ toName) (two_names fromName toName)
  symlink dir name target :=
    (emits_within (Nfs4.symlink_speaks transport _ name target) (one_name name)).andThen
      fun _ => Emits.pure _
  link fh dir name := emits_within (Nfs4.link_speaks transport _ _ name) (one_name name)
  readlink fh := emits_within (Nfs4.readlink_speaks transport _) no_names
  getattr fh := (emits_within (Nfs4.getattr_speaks transport _) no_names).andThen
    fun _ => Emits.pure _
  setattr fh attr := emits_within (Nfs4.setattr_speaks transport _ _) no_names
  readdir pages dir := by
    apply emits_readPages
    intro cookie verf
    exact (emits_within (Nfs4.readdir_speaks transport _ cookie verf _) no_names).andThen
      fun _ => Emits.pure _

end V4Backend

/-- The path does not go upward. -/
def Straight (path : String) : Prop :=
  ".." ∉ splitComponents path

instance (path : String) : Decidable (Straight path) :=
  inferInstanceAs (Decidable (_ ∉ _))

/-- The path does not go upward, and ends in a name. -/
def Placed (path : String) : Prop :=
  Straight path ∧ (splitComponents path).getLast? ≠ some "."

section Legality

variable {path name : String}

theorem component_of_mem (member : name ∈ splitComponents path) (legal : Legal name) :
    Component name :=
  ⟨(mem_splitComponents member).1, (mem_splitComponents member).2, legal⟩

/-- A path is straight when all that is looked up on it is legal. -/
theorem legal_lookedUp :
    (∀ name ∈ lookedUp (splitComponents path), Component name) ↔ Straight path := by
  constructor
  · intro every upward
    exact (every ".." ⟨upward, by decide⟩).legal.2 rfl
  · rintro straight name ⟨member, named⟩
    apply component_of_mem member
    refine ⟨named, ?_⟩
    rintro rfl
    exact straight member

/-- A path is placed when all that it addresses is legal. -/
theorem legal_addressed : (∀ name ∈ addressed path, Component name) ↔ Placed path := by
  constructor
  · intro every
    refine ⟨fun upward => ?_, fun dot => (every "." (.inr dot)).legal.1 rfl⟩
    have named : ".." ∈ addressed path := by
      rcases last : (splitComponents path).getLast? with _ | final
      · rw [List.getLast?_eq_none_iff.mp last] at upward
        exact (List.not_mem_nil upward).elim
      · rw [← List.dropLast_append_getLast? final last] at upward
        rcases List.mem_append.mp upward with early | late
        · exact .inl ⟨early, by decide⟩
        · exact .inr (by rw [List.mem_singleton.mp late]; exact last)
    exact (every ".." named).legal.2 rfl
  · rintro ⟨straight, ends⟩ name (⟨early, named⟩ | last)
    · exact legal_lookedUp.mpr straight name ⟨List.dropLast_subset _ early, named⟩
    · apply component_of_mem (List.mem_of_getLast? last)
      constructor
      · rintro rfl
        exact ends last
      · rintro rfl
        exact straight (List.mem_of_getLast? last)

end Legality

namespace PathCall

/-- No path of the call goes upward, and each whose last component is sent ends in a name. -/
def Proper : PathCall → Prop
  | stat path | lstat path | readlink path | readdir _ path => Straight path
  | .open path _ | mkdir path | rmdir path | unlink path | symlink _ path => Placed path
  | rename fromPath toPath => Placed fromPath ∧ Placed toPath
  | link oldpath newpath => Straight oldpath ∧ Placed newpath

/-- A call is proper when all its names are legal. -/
theorem legal_names (call : PathCall) :
    (∀ name ∈ call.names, Component name) ↔ call.Proper := by
  cases call with
  | stat | lstat | readlink | readdir => exact legal_lookedUp
  | «open» | mkdir | rmdir | unlink | symlink => exact legal_addressed
  | rename => exact forall₂_or_left.trans (and_congr legal_addressed legal_addressed)
  | link => exact forall₂_or_left.trans (and_congr legal_lookedUp legal_addressed)

end PathCall

/-- What a lookup shows of an entry: its handle, and whether it is a link. Errors are told
apart by their kind. -/
def Tree.seen {κ : Type} (tree : Tree) (kind : NfsError → κ) (dir : ObjId) (name : String) :
    Except κ (ObjId × Bool) :=
  ((tree.lookup dir name).map fun found => (found.1, found.2.isSymlink)).mapError kind

/-- Two trees with the same components, where `.` and `..` may be answered otherwise. -/
structure SameNames {κ : Type} (kind : NfsError → κ) (left right : Tree) : Prop where
  lookup : ∀ dir name, Component name → left.seen kind dir name = right.seen kind dir name
  readlink : ∀ fh, (left.readlink fh).mapError kind = (right.readlink fh).mapError kind

section Kinds

variable {κ α β : Type} {kind : NfsError → κ} {error : NfsError}

/-- What fails on one side fails on the other, with an error of the same kind. -/
theorem error_of_kind {left right : Except NfsError α} (failed : left = .error error)
    (same : left.mapError kind = right.mapError kind) :
    ∃ other, right = .error other ∧ kind other = kind error := by
  subst failed
  cases right with
  | ok value => cases same
  | error other => exact ⟨other, rfl, (Except.error.inj same).symm⟩

/-- What succeeds on one side succeeds on the other. -/
theorem ok_of_kind {left right : Except NfsError α} {value : α} (ended : left = .ok value)
    (same : left.mapError kind = right.mapError kind) : right = .ok value := by
  subst ended
  cases right with
  | ok other => exact congrArg Except.ok (Except.ok.inj same).symm
  | error other => cases same

variable {left right : Tree} {dir fh : ObjId} {name : String} {attr : Attr}

/-- A name that is missing in one tree is missing in the other. -/
theorem missing_of_seen (failed : left.lookup dir name = .error error)
    (same : left.seen kind dir name = right.seen kind dir name) :
    ∃ other, right.lookup dir name = .error other ∧ kind other = kind error := by
  rcases looked : right.lookup dir name with other | ⟨fh, attr⟩
  · simp only [Tree.seen, failed, looked] at same
    exact ⟨other, rfl, (Except.error.inj same).symm⟩
  · simp only [Tree.seen, failed, looked] at same
    cases same

/-- A name that is found in one tree is found in the other. -/
theorem found_of_seen (found : left.lookup dir name = .ok (fh, attr))
    (same : left.seen kind dir name = right.seen kind dir name) :
    ∃ attr', right.lookup dir name = .ok (fh, attr') ∧ attr'.isSymlink = attr.isSymlink := by
  rcases looked : right.lookup dir name with other | ⟨fh', attr'⟩
  · simp only [Tree.seen, found, looked] at same
    cases same
  · simp only [Tree.seen, found, looked] at same
    obtain ⟨rfl, link⟩ := Prod.mk.inj (Except.ok.inj same)
    exact ⟨attr', rfl, link.symm⟩

/-- An entry has the same handle in the other tree if the name can be asked for. -/
theorem SameNames.entry (same : SameNames kind left right)
    (found : left.lookup dir name = .ok (fh, attr)) :
    ∃ attr', attr'.isSymlink = attr.isSymlink ∧
      (Component name → right.lookup dir name = .ok (fh, attr')) := by
  by_cases component : Component name
  · obtain ⟨attr', present, link⟩ := found_of_seen found (same.lookup dir name component)
    exact ⟨attr', link, fun _ => present⟩
  · exact ⟨attr, rfl, fun legal => absurd legal component⟩

end Kinds

/-- The components can be asked for over both versions, or are skipped. -/
def Passable (comps : List String) : Prop :=
  ∀ name ∈ comps, name = "." ∨ Component name

theorem passable_of_straight {path : String} (straight : Straight path) :
    Passable (splitComponents path) := by
  intro name member
  by_cases dot : name = "."
  · exact .inl dot
  · refine .inr (component_of_mem member ⟨dot, ?_⟩)
    rintro rfl
    exact straight member

/-- The program ends, with notes or without. So does the other one, with the same handle or
with an error of the same kind, when the components can be asked for and no target that was
noted goes upward. -/
def Leads {σ ρ κ : Type} (kind : NfsError → κ) (ready : σ → Prop) (ready' : ρ → Prop)
    (comps : List String) (noted : Prog (σ × List String) NfsError ObjId)
    (plain : Prog σ NfsError ObjId) (other : Prog ρ NfsError ObjId) : Prop :=
  ∀ state notes, ready state → ∃ new result final,
    plain.run state = some (result, final) ∧
    noted.run (state, notes) = some (result, final, notes ++ new) ∧
    (Passable comps → (∀ target ∈ new, Straight target) → ∀ start, ready' start →
      ∃ result' final', other.run start = some (result', final') ∧
        result'.mapError kind = result.mapError kind)

namespace NfsContext

section Alike

variable {σ ρ κ : Type} {kind : NfsError → κ} {named : NameBackend σ} {backend : Backend ρ}
  {left right : Tree} {ready : σ → Prop} {ready' : ρ → Prop} {root : ObjId} {followFinal : Bool}

theorem leads_throw (comps : List String) (error : NfsError) :
    Leads kind ready ready' comps (Prog.throw error) (Prog.throw error) (Prog.throw error) := by
  intro state notes isReady
  refine ⟨[], .error error, state, rfl, ?_, fun _ _ start _ => ⟨.error error, start, rfl, rfl⟩⟩
  rw [List.append_nil]
  rfl

/-- A lookup, and what follows it where it finds an entry. -/
theorem leads_lookup (shows : Shows named.toBackend left ready) (shows' : Shows backend right ready')
    (same : SameNames kind left right) {name : String} (asked : name ≠ ".") {comps : List String}
    {noted' : ObjId × Attr → Prog (σ × List String) NfsError ObjId}
    {plain' : ObjId × Attr → Prog σ NfsError ObjId}
    {other' : ObjId × Attr → Prog ρ NfsError ObjId}
    (next : ∀ fh attr attr', attr'.isSymlink = attr.isSymlink → Leads kind ready ready' comps
      (noted' (fh, attr)) (plain' (fh, attr)) (other' (fh, attr'))) (cur : ObjId) :
    Leads kind ready ready' (name :: comps) (named.noting.lookup cur name >>= noted')
      (named.lookup cur name >>= plain') (backend.lookup cur name >>= other') := by
  intro state notes isReady
  obtain ⟨mid, ran, midReady⟩ := shows.lookup cur name state isReady
  have noted : (named.noting.lookup cur name).run (state, notes) =
      some (left.lookup cur name, mid, notes) := Prog.beside_of notes ran
  have component (passable : Passable (name :: comps)) : Component name :=
    (passable name List.mem_cons_self).resolve_left asked
  rcases found : left.lookup cur name with error | ⟨fh, attr⟩
  · rw [found] at ran noted
    refine ⟨[], .error error, mid, Prog.bind_of_error ran, ?_, fun passable _ start isReady' => ?_⟩
    · rw [List.append_nil]
      exact Prog.bind_of_error noted
    · obtain ⟨other, failed, alike⟩ :=
        missing_of_seen found (same.lookup cur name (component passable))
      obtain ⟨last, missing, -⟩ := shows'.lookup cur name start isReady'
      rw [failed] at missing
      exact ⟨.error other, last, Prog.bind_of_error missing, congrArg Except.error alike⟩
  · rw [found] at ran noted
    obtain ⟨attr', link, present⟩ := same.entry found
    obtain ⟨new, result, final, plain, ended, alike⟩ := next fh attr attr' link mid notes midReady
    refine ⟨new, result, final, (Prog.bind_of_ok ran).trans plain,
      (Prog.bind_of_ok noted).trans ended, fun passable straight start isReady' => ?_⟩
    obtain ⟨later, looked, laterReady⟩ := shows'.lookup cur name start isReady'
    rw [present (component passable)] at looked
    rw [Prog.bind_of_ok looked]
    exact alike (fun other member => passable other (List.mem_cons_of_mem name member)) straight
      later laterReady

/-- A link that is read, and what follows it; its target is noted. -/
theorem leads_readlink (shows : Shows named.toBackend left ready)
    (shows' : Shows backend right ready') (same : SameNames kind left right) {comps : List String}
    {noted' : String → Prog (σ × List String) NfsError ObjId}
    {plain' : String → Prog σ NfsError ObjId} {other' : String → Prog ρ NfsError ObjId}
    (next : ∀ target, Leads kind ready ready' (splitComponents target ++ comps) (noted' target)
      (plain' target) (other' target)) (fh : ObjId) :
    Leads kind ready ready' comps (named.noting.readlink fh >>= noted')
      (named.readlink fh >>= plain') (backend.readlink fh >>= other') := by
  intro state notes isReady
  obtain ⟨mid, ran, midReady⟩ := shows.readlink fh state isReady
  rcases read : left.readlink fh with error | target
  · rw [read] at ran
    refine ⟨[], .error error, mid, Prog.bind_of_error ran, ?_, fun _ _ start isReady' => ?_⟩
    · rw [List.append_nil]
      exact Prog.bind_of_error (Prog.noting_error notes ran)
    · obtain ⟨other, failed, alike⟩ := error_of_kind read (same.readlink fh)
      obtain ⟨last, unread, -⟩ := shows'.readlink fh start isReady'
      rw [failed] at unread
      exact ⟨.error other, last, Prog.bind_of_error unread, congrArg Except.error alike⟩
  · rw [read] at ran
    obtain ⟨new, result, final, plain, ended, alike⟩ :=
      next target mid (notes ++ [target]) midReady
    refine ⟨target :: new, result, final, (Prog.bind_of_ok ran).trans plain, ?_,
      fun passable straight start isReady' => ?_⟩
    · rw [List.append_cons]
      exact (Prog.bind_of_ok (Prog.noting_ok notes ran)).trans ended
    · obtain ⟨later, linked, laterReady⟩ := shows'.readlink fh start isReady'
      rw [ok_of_kind read (same.readlink fh)] at linked
      rw [Prog.bind_of_ok linked]
      refine alike ?_ (fun other member => straight other (List.mem_cons_of_mem target member)) later
        laterReady
      intro name member
      rcases List.mem_append.mp member with early | late
      · exact passable_of_straight (straight target List.mem_cons_self) name early
      · exact passable name late

theorem leads_walk (shows : Shows named.toBackend left ready) (shows' : Shows backend right ready')
    (same : SameNames kind left right)
    {follow : ObjId → ObjId → List String → Prog (σ × List String) NfsError ObjId}
    {plainFollow : ObjId → ObjId → List String → Prog σ NfsError ObjId}
    {otherFollow : ObjId → ObjId → List String → Prog ρ NfsError ObjId}
    (follows : ∀ cur fh comps, Leads kind ready ready' comps (follow cur fh comps)
      (plainFollow cur fh comps) (otherFollow cur fh comps))
    (cur : ObjId) (comps : List String) :
    Leads kind ready ready' comps (walk named.noting.toBackend followFinal follow cur comps)
      (walk named.toBackend followFinal plainFollow cur comps)
      (walk backend followFinal otherFollow cur comps) := by
  induction comps generalizing cur with
  | nil =>
      intro state notes isReady
      refine ⟨[], .ok cur, state, rfl, ?_, fun _ _ start _ => ⟨.ok cur, start, rfl, rfl⟩⟩
      rw [List.append_nil]
      rfl
  | cons name comps ih =>
      rw [walk, walk, walk]
      by_cases dot : name = "."
      · rw [if_pos dot, if_pos dot, if_pos dot]
        intro state notes isReady
        obtain ⟨new, result, final, plain, noted, alike⟩ := ih cur state notes isReady
        exact ⟨new, result, final, plain, noted, fun passable =>
          alike fun other member => passable other (List.mem_cons_of_mem name member)⟩
      · rw [if_neg dot, if_neg dot, if_neg dot]
        apply leads_lookup shows shows' same dot
        intro fh attr attr' link
        simp only [link]
        split
        · exact follows cur fh comps
        · exact ih fh

theorem leads_resolveFrom (shows : Shows named.toBackend left ready)
    (shows' : Shows backend right ready') (same : SameNames kind left right) (links : Nat)
    (cur : ObjId) (comps : List String) :
    Leads kind ready ready' comps
      (resolveFrom named.noting.toBackend root followFinal links cur comps)
      (resolveFrom named.toBackend root followFinal links cur comps)
      (resolveFrom backend root followFinal links cur comps) := by
  induction links generalizing cur comps with
  | zero => exact leads_walk shows shows' same (fun _ _ comps => leads_throw comps _) cur comps
  | succ links ih =>
      apply leads_walk shows shows' same
      intro cur fh comps
      apply leads_readlink shows shows' same
      exact fun target => ih (Tree.start root cur target) (splitComponents target ++ comps)

/-- A straight path leads to the same place over both, as long as the targets that are
followed are straight as well. -/
theorem resolve_alike (shows : Shows named.toBackend left ready)
    (shows' : Shows backend right ready') (same : SameNames kind left right) (path : String)
    {state : σ} {start : ρ} (isReady : ready state) (isReady' : ready' start) :
    ∃ targets result final,
      (resolve named.toBackend root path followFinal).run state = some (result, final) ∧
      (resolve named.noting.toBackend root path followFinal).run (state, []) =
        some (result, final, targets) ∧
      (Straight path → (∀ target ∈ targets, Straight target) → ∃ result' final',
        (resolve backend root path followFinal).run start = some (result', final') ∧
          result'.mapError kind = result.mapError kind) := by
  obtain ⟨targets, result, final, plain, noted, alike⟩ := leads_resolveFrom shows shows' same
    maxSymlinkDepth root (splitComponents path) state [] isReady
  exact ⟨targets, result, final, plain, noted, fun straight followed =>
    alike (passable_of_straight straight) followed start isReady'⟩

end Alike

end NfsContext

open Proto (Transport Nfs4 Recorded) in
/-- The names in the requests of a call over NFSv4 are legal components when no path goes
upward, nor any target that is followed, and no last component that is sent is `.`. When
the call returns they are so only then. Under that condition a path leads to the same
place over NFSv3. -/
theorem components_sent {τ ρ κ : Type} (transport : Transport τ) (host : Host ρ) (root : ObjId)
    (kind : NfsError → κ) :
    (∀ (call : PathCall) (state final : V4Backend (Recorded τ))
      (result : Except NfsError call.Answer), state.nfs.Established →
      (call.perform (V4Backend.named transport.recorded) root).run state = some (result, final) →
      final.nfs.Established ∧ ∃ asked targets,
        (call.traced (V4Backend.named transport.recorded) root).run (state, []) =
          some (result, final, targets) ∧
        final.heard = state.heard ++ asked ∧
        (call.Proper ∧ (∀ target ∈ targets, Straight target) → ∀ name ∈ asked, Component name) ∧
        ∀ value, result = .ok value → (∀ name ∈ asked, Component name) →
          call.Proper ∧ ∀ target ∈ targets, Straight target) ∧
    ∀ (tree4 tree3 : Tree) (ready4 : V4Backend τ → Prop) (ready3 : V3Backend ρ → Prop),
      Shows (V4Backend.backend transport).toBackend tree4 ready4 →
      Shows (V3Backend.backend host).toBackend tree3 ready3 → SameNames kind tree4 tree3 →
      ∀ (path : String) (followFinal : Bool) (state : V4Backend τ) (start : V3Backend ρ),
        ready4 state → ready3 start → ∃ targets result final,
          (NfsContext.resolve (V4Backend.backend transport).toBackend root path followFinal).run
            state = some (result, final) ∧
          (NfsContext.resolve (V4Backend.named transport).noting.toBackend root path
            followFinal).run (state, []) = some (result, final, targets) ∧
          (Straight path → (∀ target ∈ targets, Straight target) → ∃ result' final',
            (NfsContext.resolve (V3Backend.backend host).toBackend root path followFinal).run
              start = some (result', final') ∧ result'.mapError kind = result.mapError kind) := by
  constructor
  · intro call state final result established ended
    obtain ⟨after, asked, targets, traced, grown, within, whole⟩ :=
      call.tells_traced (V4Backend.asksNames transport) state [] final result established ended
    refine ⟨after, asked, targets, traced, grown, ?_, ?_⟩
    · rintro ⟨proper, straight⟩ name member
      rcases within name member with own | ⟨target, followed, entailed⟩
      · exact call.legal_names.mpr proper name own
      · exact legal_lookedUp.mpr (straight target followed) name entailed
    · intro value done legal
      obtain ⟨own, entailed⟩ := whole value done
      constructor
      · exact call.legal_names.mp fun name member => legal name (own name member)
      · intro target followed
        exact legal_lookedUp.mp fun name member => legal name (entailed target followed name member)
  · intro tree4 tree3 ready4 ready3 shows4 shows3 same path followFinal state start isReady4
      isReady3
    exact @NfsContext.resolve_alike _ _ _ kind (V4Backend.named transport) _ tree4 tree3 ready4
      ready3 root followFinal shows4 shows3 same path state start isReady4 isReady3

namespace Volume

open Proto (NfsFh3 NfsFh4)

variable {volume : Volume} {wire : Wire} {dir fh : ObjId} {name : String}

/-- What is seen of a name that is not found. -/
theorem seen_of_error {tree : Tree} {error : NfsError}
    (failed : tree.lookup dir name = .error error) : tree.seen (fun _ => ()) dir name = .error () := by
  rw [Tree.seen, failed]
  rfl

/-- A name that cannot be sent is not found. -/
theorem tree_lookup_unsent {error : NfsError} (unsent : wire.sendsName dir name = .error error) :
    (volume.tree wire).lookup dir name = .error error := by
  simp only [tree, unsent]
  rfl

/-- Nothing is found in a directory that is gone. -/
theorem tree_lookup_stale (gone : volume.node dir = none) :
    ∃ error, (volume.tree wire).lookup dir name = .error error := by
  rcases sent : wire.sendsName dir name with error | ⟨⟩
  · exact ⟨error, tree_lookup_unsent sent⟩
  · refine ⟨wire.fails .stale, ?_⟩
    simp only [tree, sent, lookup, names, find, gone]
    rfl

/-- Nothing is read from a link that is gone. -/
theorem tree_readlink_stale (gone : volume.node fh = none) :
    ∃ error, (volume.tree wire).readlink fh = .error error := by
  rcases sent : wire.sends fh with error | ⟨⟩
  · refine ⟨error, ?_⟩
    simp only [tree, sent]
    rfl
  · refine ⟨wire.fails .stale, ?_⟩
    simp only [tree, sent, readlink, find, gone]
    rfl

/-- A name without a length prefix cannot be sent over NFSv3. -/
theorem sendsName_long (long : ¬ Proto.Sized (Xdr.asBytes name)) :
    ∃ error, wire3.sendsName dir name = .error error := by
  rcases sendsName_cases dir name with ⟨-, fits, -⟩ | ⟨error, refused⟩
  · exact absurd fits long
  · refine ⟨.proto (.rpc (.xdr error)), ?_⟩
    simp only [wire3, refused []]
    rfl

/-- A name without a length prefix cannot be sent over NFSv4. -/
theorem sendsName4_long (long : ¬ Proto.Sized (Xdr.asBytes name)) :
    ∃ error, wire4.sendsName dir name = .error error := by
  rcases naming_cases dir name with ⟨-, fits, -⟩ | ⟨error, refused⟩
  · exact absurd fits long
  · refine ⟨.proto (.xdr error), ?_⟩
    simp only [wire4, refused]
    rfl

/-- A handle of the server can be sent over NFSv3. -/
theorem sends_short (isShort : fh.length ≤ 64) : wire3.sends fh = .ok () := by
  rcases sends_cases fh with ⟨-, sent⟩ | ⟨error, refused⟩
  · exact sent
  · have written := NfsFh3.ty.writes _ (NfsFh3.fits isShort) (NfsFh3.within isShort) []
    cases written.symm.trans (refused [])

/-- A handle of the server can be sent over NFSv4. -/
theorem sends4_short (isShort : fh.length ≤ 64) : wire4.sends fh = .ok () := by
  rcases sends4_cases fh with ⟨-, sent⟩ | ⟨error, refused⟩
  · exact sent
  · obtain ⟨c, built, -⟩ := Proto.Compound.holds_new.step
      (Proto.Compound.adds_putfh (Nat.le_trans isShort (by decide) : NfsFh4.Short ⟨fh⟩))
    cases built.symm.trans refused

/-- Servers of both versions show the same components of one volume whose handles both can
carry. -/
theorem sameNames (short : ∀ fh, volume.node fh ≠ none → fh.length ≤ 64) :
    SameNames (fun _ => ()) (volume.tree wire4) (volume.tree wire3) where
  lookup dir name component := by
    by_cases known : volume.node dir = none
    · obtain ⟨error, stale⟩ := @tree_lookup_stale volume wire4 dir name known
      obtain ⟨other, gone⟩ := @tree_lookup_stale volume wire3 dir name known
      rw [seen_of_error stale, seen_of_error gone]
    · have isShort := short dir known
      by_cases sized : Proto.Sized (Xdr.asBytes name)
      · obtain ⟨c, built⟩ := naming_ok (Nat.le_trans isShort (by decide) : NfsFh4.Short ⟨dir⟩) sized
        rw [Tree.seen, Tree.seen, V4Backend.tree_lookup4 built, V3Backend.tree_lookup,
          V3Backend.found, sendsName_ok isShort sized, lookup4_legal component.legal]
        rcases volume.lookup dir name with status | found <;> rfl
      · obtain ⟨error, unsent4⟩ := @sendsName4_long dir name sized
        obtain ⟨other, unsent3⟩ := @sendsName_long dir name sized
        rw [seen_of_error (tree_lookup_unsent unsent4), seen_of_error (tree_lookup_unsent unsent3)]
  readlink fh := by
    by_cases known : volume.node fh = none
    · obtain ⟨error, stale⟩ := @tree_readlink_stale volume wire4 fh known
      obtain ⟨other, gone⟩ := @tree_readlink_stale volume wire3 fh known
      rw [stale, gone]
      rfl
    · have isShort := short fh known
      simp only [tree, sends_short isShort, sends4_short isShort]
      rcases volume.readlink fh with status | target <;> rfl

end Volume

/-- A client of NFSv4 that has just been mounted, over a transport that records. -/
def recordingClient (volume : Volume) : V4Backend (Proto.Recorded Shelf) :=
  .new ⟨⟨⟨⟨volume, fun _ => none⟩, NfsContext.linkedClient4.nfs.rpc.current⟩, []⟩, 0, 1,
    Proto.uniqueOwner 1 1, 0, 0, none, 0⟩

theorem established_recordingClient (volume : Volume) : (recordingClient volume).nfs.Established :=
  ⟨.inl rfl, 1, 1, rfl⟩

/-- A server that declines nothing. -/
def grantingTransport : Proto.Transport Shelf :=
  (volumeServer4 openPolicy).transport

/-- The handles of the sample volume are short. -/
theorem short_linkedVolume (fh : ObjId) (known : linkedVolume.node fh ≠ none) : fh.length ≤ 64 := by
  unfold linkedVolume at known
  dsimp only at known
  split_ifs at known with root file link
  · rw [root]
    decide
  · rw [file]
    decide
  · rw [link]
    decide
  · exact absurd rfl known

/-- A link is followed over NFSv4 with legal names, and to the same file over NFSv3. -/
theorem components_sent_linked :
    ∃ attr final last,
      ((PathCall.stat "/./l").perform (V4Backend.named grantingTransport.recorded) [0]).run
        (recordingClient linkedVolume) = some (.ok attr, final) ∧
      final.heard = ["l", "f"] ∧ (∀ name ∈ final.heard, Component name) ∧
      (NfsContext.resolve (V3Backend.backend linkedHost).toBackend [0] "/./l" true).run
        linkedClient = some (.ok [1], last) := by
  have shown : (((PathCall.stat "/./l").perform (V4Backend.named grantingTransport.recorded)
      [0]).run (recordingClient linkedVolume)).map (fun ended =>
        ((show Except NfsError Attr from ended.1).isOk, ended.2.heard)) =
      some (true, ["l", "f"]) := by decide +kernel
  have followed : (((PathCall.stat "/./l").traced (V4Backend.named grantingTransport.recorded)
      [0]).run (recordingClient linkedVolume, [])).map (fun ended => ended.2.2) = some ["f"] := by
    decide +kernel
  have led : ((NfsContext.resolve (V4Backend.named grantingTransport).noting.toBackend [0] "/./l"
      true).run (NfsContext.linkedClient4, [])).map (fun ended => (ended.1, ended.2.2)) =
      some (.ok [1], ["f"]) := by decide +kernel
  have straight : ∀ target ∈ ["f"], Straight target := by
    intro target member
    rw [List.mem_singleton.mp member]
    decide
  have both := @components_sent Shelf Volume Unit grantingTransport linkedHost [0] fun _ => ()
  obtain ⟨⟨result, final⟩, ran, same⟩ := Option.map_eq_some_iff.mp shown
  obtain ⟨fine, heard⟩ := Prod.mk.inj same
  obtain ⟨-, asked, targets, traced, grown, legal, -⟩ := both.1 (.stat "/./l") _ final result
    (established_recordingClient linkedVolume) ran
  obtain ⟨targets', result', final', -, noted, alike⟩ := both.2 _ _ _ _
    (V4Backend.shows_volume4 NfsContext.linkedStore) (V3Backend.shows_volume rfl linkedVolume)
    (Volume.sameNames short_linkedVolume) "/./l" true NfsContext.linkedClient4 linkedClient
    NfsContext.attached_linkedClient4 rfl
  rw [traced] at followed
  rw [noted] at led
  cases followed
  cases led
  obtain ⟨outcome, last, resolved, kinds⟩ := alike (by decide) straight
  rw [ok_of_kind rfl kinds.symm] at resolved
  cases result with
  | error error => cases fine
  | ok attr =>
      refine ⟨attr, final, last, ran, heard, ?_, resolved⟩
      rw [grown]
      exact legal ⟨show Straight "/./l" by decide, straight⟩

/-- A directory `d` with its parent in it, and beside it a file `f`. -/
def upwardVolume : Volume where
  node fh :=
    if fh = [10] then
      some ⟨.dir fun name => if name = "d" then some ⟨[11], by decide⟩
        else if name = "f" then some ⟨[12], by decide⟩ else none, 0o755⟩
    else if fh = [11] then
      some ⟨.dir fun name => if name = ".." then some ⟨[10], by decide⟩ else none, 0o755⟩
    else if fh = [12] then some ⟨.file NfsContext.threeBytes, 0o644⟩
    else none

/-- Over NFSv4 `..` is sent, and refused; over NFSv3 the path leads to the file. -/
theorem upward_sent :
    ∃ final last,
      ((PathCall.stat "/d/../f").perform (V4Backend.named grantingTransport.recorded) [10]).run
        (recordingClient upwardVolume) = some (.error (.proto (.nfs4 10041)), final) ∧
      ".." ∈ final.heard ∧ ¬ Component ".." ∧
      (NfsContext.resolve (V3Backend.backend linkedHost).toBackend [10] "/d/../f" true).run
        ⟨upwardVolume, 65536, 65536, none, [], 1⟩ = some (.ok [12], last) := by
  have refused : (((PathCall.stat "/d/../f").perform (V4Backend.named grantingTransport.recorded)
      [10]).run (recordingClient upwardVolume)).map (fun ended =>
        ((show Except NfsError Attr from ended.1), ended.2.heard)) =
      some (.error (.proto (.nfs4 10041)), ["d", ".."]) := by decide +kernel
  have led : ((NfsContext.resolve (V3Backend.backend linkedHost).toBackend [10] "/d/../f" true).run
      ⟨upwardVolume, 65536, 65536, none, [], 1⟩).map Prod.fst = some (.ok [12]) := by decide +kernel
  obtain ⟨⟨result, final⟩, ran, same⟩ := Option.map_eq_some_iff.mp refused
  obtain ⟨⟨found, last⟩, resolved, rfl⟩ := Option.map_eq_some_iff.mp led
  obtain ⟨rfl, heard⟩ := Prod.mk.inj same
  refine ⟨final, last, ran, ?_, fun component => component.legal.2 rfl, resolved⟩
  rw [show final.heard = ["d", ".."] from heard]
  exact List.mem_cons_of_mem _ List.mem_cons_self

end LibNfs.Client
