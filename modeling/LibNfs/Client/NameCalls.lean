import LibNfs.Client.FileSystem
import LibNfs.Client.Walking

/-! # Calls on names

The calls of `NfsContext` that lead from a path to one operation of the backend. Where
two backends answer lookups alike and do that operation alike, they do the call alike.
-/

namespace LibNfs.Client

open Prog (Kindred Together Simulates)

inductive NameCall where
  | stat (path : String)
  | lstat (path : String)
  | access (path : String)
  | statvfs (path : String)
  | readlink (path : String)
  | chmod (path : String) (mode : UInt32)
  | chown (path : String) (uid gid : UInt32)
  | truncate (path : String) (size : UInt64)
  | mkdir (path : String)
  | rmdir (path : String)
  | unlink (path : String)
  | symlink (target linkpath : String)
  | rename (fromPath toPath : String)
  | link (oldpath newpath : String)

/-- What a call returns. -/
inductive NameAnswer where
  | attr (attr : Attr)
  | granted (may : Bool)
  | sizes (sizes : StatVfs)
  | target (target : String)
  | done
  deriving DecidableEq, Repr

namespace NameCall

variable {σ : Type}

/-- What a program returns, as an answer. -/
def answering {α : Type} (answer : α → NameAnswer) (body : Prog σ NfsError α) :
    Prog σ NfsError NameAnswer := do
  let value ← body
  return answer value

/-- A call that ends with a change. -/
def finishing (body : Prog σ NfsError Unit) : Prog σ NfsError NameAnswer :=
  answering (fun _ => .done) body

def perform (whole : WholeBackend σ) (root : ObjId) : NameCall → Prog σ NfsError NameAnswer
  | stat path => answering .attr (NfsContext.stat root whole.toVfsBackend path)
  | lstat path => answering .attr (NfsContext.lstat root whole.toNameBackend path)
  | access path => answering .granted (NfsContext.access root whole path)
  | statvfs path => answering .sizes (NfsContext.statvfs root whole path)
  | readlink path => answering .target (NfsContext.readlink root whole.toNameBackend path)
  | chmod path mode => finishing (NfsContext.chmod whole.toBackend root path mode)
  | chown path uid gid => finishing (NfsContext.chown whole.toBackend root path uid gid)
  | truncate path size => finishing (NfsContext.truncate whole.toBackend root path size)
  | mkdir path => finishing (NfsContext.mkdir root whole.toVfsBackend path)
  | rmdir path => finishing (NfsContext.rmdir root whole.toNameBackend path)
  | unlink path => finishing (NfsContext.unlink root whole.toNameBackend path)
  | symlink target linkpath =>
      finishing (NfsContext.symlink root whole.toNameBackend target linkpath)
  | rename fromPath toPath => finishing (NfsContext.rename root whole.toNameBackend fromPath toPath)
  | link oldpath newpath => finishing (NfsContext.link root whole.toNameBackend oldpath newpath)

/-- Makes calls one after the other, whatever they return. -/
def performAll (whole : WholeBackend σ) (root : ObjId) :
    List NameCall → Prog σ NfsError (List (Except NfsError NameAnswer))
  | [] => return []
  | call :: calls => do
      let outcome ← Prog.outcome (call.perform whole root)
      let outcomes ← performAll whole root calls
      return outcome :: outcomes

/-- The texts of a call. -/
def texts : NameCall → List String
  | stat path | lstat path | access path | statvfs path | readlink path | chmod path _
  | chown path _ _ | truncate path _ | mkdir path | rmdir path | unlink path => [path]
  | symlink first second | rename first second | link first second => [first, second]

end NameCall

/-- The name has a length prefix. -/
def SizedName (name : String) : Prop :=
  Proto.Sized (Xdr.asBytes name)

instance : DecidablePred SizedName :=
  fun name => inferInstanceAs (Decidable (Proto.Sized (Xdr.asBytes name)))

/-- The names of a path that are looked up. -/
def LookedUp (carries : String → Prop) (comps : List String) : Prop :=
  ∀ name ∈ comps, name ≠ "." → carries name

/-- The names of a path whose parent is resolved, the last one as it is. -/
def Addressed (carries : String → Prop) (path : String) : Prop :=
  LookedUp carries (splitComponents path).dropLast ∧
    ∀ name, (splitComponents path).getLast? = some name → carries name

section Sizes

theorem sublist_of_mem_splitOn {separator : Char} {text piece : List Char}
    (member : piece ∈ text.splitOn separator) : piece.Sublist text := by
  induction text generalizing piece with
  | nil =>
      rw [List.splitOn_nil, List.mem_singleton] at member
      rw [member]
  | cons char text ih =>
      rw [List.splitOn_cons_eq_if_modifyHead] at member
      split at member
      · rcases List.mem_cons.mp member with rfl | later
        · exact List.nil_sublist _
        · exact (ih later).cons char
      · obtain ⟨first, pieces, split⟩ :=
          List.exists_cons_of_ne_nil (List.splitOn_ne_nil separator text)
        rw [split] at member ih
        rcases List.mem_cons.mp member with rfl | later
        · exact (ih List.mem_cons_self).cons_cons char
        · exact (ih (List.mem_cons_of_mem _ later)).cons char

theorem length_asBytes_cons (char : Char) (text : List Char) :
    (Xdr.asBytes (String.ofList (char :: text))).length =
      char.utf8Size + (Xdr.asBytes (String.ofList text)).length := by
  change (String.ofList (char :: text)).utf8ByteSize = _ + (String.ofList text).utf8ByteSize
  rw [String.ofList_cons, String.utf8ByteSize_append, String.utf8ByteSize_singleton]

theorem length_asBytes_le {piece text : List Char} (sublist : piece.Sublist text) :
    (Xdr.asBytes (String.ofList piece)).length ≤ (Xdr.asBytes (String.ofList text)).length := by
  induction sublist with
  | slnil => exact Nat.le_refl _
  | cons char _ ih =>
      rw [length_asBytes_cons]
      exact Nat.le_trans ih (Nat.le_add_left _ _)
  | cons_cons char _ ih =>
      rw [length_asBytes_cons, length_asBytes_cons]
      exact Nat.add_le_add_left ih _

/-- A component of a path is no longer than the path. -/
theorem sizedName_of_mem {path name : String} (sized : SizedName path)
    (member : name ∈ splitComponents path) : SizedName name := by
  obtain ⟨piece, kept, rfl⟩ := List.mem_map.mp member
  have shorter := length_asBytes_le (sublist_of_mem_splitOn (List.mem_filter.mp kept).1)
  rw [String.ofList_toList] at shorter
  exact Nat.lt_of_le_of_lt shorter sized

theorem lookedUp_of_sized {path : String} (sized : SizedName path) :
    LookedUp SizedName (splitComponents path) :=
  fun _ member _ => sizedName_of_mem sized member

theorem addressed_of_sized {path : String} (sized : SizedName path) : Addressed SizedName path :=
  ⟨fun _ member _ => sizedName_of_mem sized (List.dropLast_subset _ member),
    fun _ last => sizedName_of_mem sized (List.mem_of_getLast? last)⟩

end Sizes

/-- The same handle, which both versions can carry. -/
def SameHandle (fh fh' : ObjId) : Prop :=
  fh = fh' ∧ fh.length ≤ 64

/-- The same directory and the same name, which is carried. -/
def SamePlace (carries : String → Prop) (place place' : ObjId × String) : Prop :=
  place = place' ∧ place.1.length ≤ 64 ∧ carries place.2

/-- Two backends answer alike what is asked without changing anything, on the names that are
carried. -/
structure AnswersAlike {σ τ : Type} (carries : String → Prop) (errors : NfsError → NfsError → Prop)
    (related : σ → τ → Prop) (left : WholeBackend σ) (right : WholeBackend τ) : Prop where
  refl : ∀ error, errors error error
  lookup : ∀ {dir name}, dir.length ≤ 64 → carries name →
    Simulates related (fun found found' => found = found' ∧ found.1.length ≤ 64) errors related
      (left.lookup dir name) (right.lookup dir name)
  readlink : ∀ {fh}, fh.length ≤ 64 →
    Simulates related (fun target target' => target = target' ∧
      LookedUp carries (splitComponents target)) errors related
      (left.readlink fh) (right.readlink fh)
  getattr : ∀ {fh}, fh.length ≤ 64 →
    Simulates related Eq errors related (left.getattr fh) (right.getattr fh)
  statvfs : ∀ {fh}, fh.length ≤ 64 →
    Simulates related Eq errors related (left.statvfs fh) (right.statvfs fh)
  access : ∀ {fh} mask, fh.length ≤ 64 →
    Simulates related Eq errors related (left.access fh mask) (right.access fh mask)

section Resolving

variable {σ τ : Type} {carries : String → Prop} {errors : NfsError → NfsError → Prop}
  {related settled : σ → τ → Prop} {left : WholeBackend σ} {right : WholeBackend τ}
  {root cur : ObjId} {followFinal : Bool} {comps : List String}

theorem LookedUp.tail {name : String} (carried : LookedUp carries (name :: comps)) :
    LookedUp carries comps :=
  fun other member => carried other (List.mem_cons_of_mem name member)

theorem LookedUp.append {rest : List String} (carried : LookedUp carries comps)
    (others : LookedUp carries rest) : LookedUp carries (comps ++ rest) := by
  intro name member
  rcases List.mem_append.mp member with inside | inside
  · exact carried name inside
  · exact others name inside

namespace AnswersAlike

theorem walk (alike : AnswersAlike carries errors related left right)
    {follow : ObjId → ObjId → List String → Prog σ NfsError ObjId}
    {follow' : ObjId → ObjId → List String → Prog τ NfsError ObjId}
    (follows : ∀ {cur fh comps}, cur.length ≤ 64 → fh.length ≤ 64 → LookedUp carries comps →
      Simulates related SameHandle errors related (follow cur fh comps) (follow' cur fh comps))
    (short : cur.length ≤ 64) (carried : LookedUp carries comps) :
    Simulates related SameHandle errors related
      (NfsContext.walk left.toBackend followFinal follow cur comps)
      (NfsContext.walk right.toBackend followFinal follow' cur comps) := by
  induction comps generalizing cur with
  | nil => exact Simulates.pure ⟨rfl, short⟩ fun _ _ between => between
  | cons name comps ih =>
      rw [NfsContext.walk, NfsContext.walk]
      by_cases dot : name = "."
      · rw [if_pos dot, if_pos dot]
        exact ih short carried.tail
      · rw [if_neg dot, if_neg dot]
        have looks := alike.lookup short (carried name List.mem_cons_self dot)
        apply looks.bind ?_ fun _ _ same => same
        rintro ⟨fh, attr⟩ _ ⟨rfl, shortFound⟩
        dsimp only
        split
        · exact follows short shortFound carried.tail
        · exact ih shortFound carried.tail

theorem resolveFrom (alike : AnswersAlike carries errors related left right)
    (shortRoot : root.length ≤ 64) (links : Nat) (short : cur.length ≤ 64)
    (carried : LookedUp carries comps) :
    Simulates related SameHandle errors related
      (NfsContext.resolveFrom left.toBackend root followFinal links cur comps)
      (NfsContext.resolveFrom right.toBackend root followFinal links cur comps) := by
  induction links generalizing cur comps with
  | zero =>
      apply alike.walk ?_ short carried
      intro cur fh comps _ _ _
      exact Simulates.throw (alike.refl _) fun _ _ same => same
  | succ links ih =>
      apply alike.walk ?_ short carried
      intro cur fh comps shortCur shortFh carriedComps
      apply (alike.readlink shortFh).bind ?_ fun _ _ same => same
      rintro target _ ⟨rfl, carriedTarget⟩
      apply ih ?_ (carriedTarget.append carriedComps)
      split
      · exact shortRoot
      · exact shortCur

theorem resolve (alike : AnswersAlike carries errors related left right)
    (shortRoot : root.length ≤ 64) {path : String}
    (carried : LookedUp carries (splitComponents path)) :
    Simulates related SameHandle errors related
      (NfsContext.resolve left.toBackend root path followFinal)
      (NfsContext.resolve right.toBackend root path followFinal) :=
  alike.resolveFrom shortRoot maxSymlinkDepth shortRoot carried

theorem resolveParent (alike : AnswersAlike carries errors related left right)
    (shortRoot : root.length ≤ 64) {path : String} (carried : Addressed carries path) :
    Simulates related (SamePlace carries) errors related
      (NfsContext.resolveParent left.toBackend root path)
      (NfsContext.resolveParent right.toBackend root path) := by
  rcases last : (splitComponents path).getLast? with _ | name
  · simp only [NfsContext.resolveParent, last]
    exact Simulates.throw (alike.refl _) fun _ _ same => same
  · rw [NfsContext.resolveParent_eq last, NfsContext.resolveParent_eq last]
    apply (alike.resolveFrom shortRoot maxSymlinkDepth shortRoot carried.1).bind ?_
      fun _ _ same => same
    rintro dir _ ⟨rfl, short⟩
    exact Simulates.pure ⟨rfl, short, carried.2 name last⟩ fun _ _ same => same

/-- A path is resolved, and something is done with what it leads to. -/
theorem object {α : Type} (alike : AnswersAlike carries errors related left right)
    (shortRoot : root.length ≤ 64)
    (kept : ∀ state state', related state state' → settled state state')
    {path : String} (carried : LookedUp carries (splitComponents path))
    {next : ObjId → Prog σ NfsError α} {next' : ObjId → Prog τ NfsError α}
    (does : ∀ {fh}, fh.length ≤ 64 → Simulates related Eq errors settled (next fh) (next' fh)) :
    Simulates related Eq errors settled
      (NfsContext.resolve left.toBackend root path followFinal >>= next)
      (NfsContext.resolve right.toBackend root path followFinal >>= next') := by
  apply (alike.resolve shortRoot carried).bind ?_ kept
  rintro fh _ ⟨rfl, short⟩
  exact does short

/-- The parent of a path is resolved, and something is done with the name in it. -/
theorem place {α : Type} (alike : AnswersAlike carries errors related left right)
    (shortRoot : root.length ≤ 64)
    (kept : ∀ state state', related state state' → settled state state')
    {path : String} (carried : Addressed carries path)
    {next : ObjId × String → Prog σ NfsError α} {next' : ObjId × String → Prog τ NfsError α}
    (does : ∀ {dir name}, dir.length ≤ 64 → carries name →
      Simulates related Eq errors settled (next (dir, name)) (next' (dir, name))) :
    Simulates related Eq errors settled
      (NfsContext.resolveParent left.toBackend root path >>= next)
      (NfsContext.resolveParent right.toBackend root path >>= next') := by
  apply (alike.resolveParent shortRoot carried).bind ?_ kept
  rintro ⟨dir, name⟩ _ ⟨rfl, short, known⟩
  exact does short known

end AnswersAlike

/-- Two backends answer alike, and change alike the attributes and the names that they are asked
to; `removes` says whether names are removed. -/
structure ChangesAlike (carries : String → Prop) (errors : NfsError → NfsError → Prop)
    (sets : SetAttr → Prop) (removes : Prop) (related settled : σ → τ → Prop)
    (left : WholeBackend σ) (right : WholeBackend τ) : Prop
    extends AnswersAlike carries errors related left right where
  kept : ∀ state state', related state state' → settled state state'
  setattr : ∀ {fh attr}, fh.length ≤ 64 → sets attr →
    Simulates related Eq errors settled (left.setattr fh attr) (right.setattr fh attr)
  mkdir : ∀ {dir name}, dir.length ≤ 64 → carries name →
    Simulates related Eq errors settled (left.mkdir dir name 0o755) (right.mkdir dir name 0o755)
  rmdir : ∀ {dir name}, removes → dir.length ≤ 64 → carries name →
    Simulates related Eq errors settled (left.rmdir dir name) (right.rmdir dir name)
  remove : ∀ {dir name}, removes → dir.length ≤ 64 → carries name →
    Simulates related Eq errors settled (left.remove dir name) (right.remove dir name)
  rename : ∀ {fromDir fromName toDir toName}, fromDir.length ≤ 64 → carries fromName →
    toDir.length ≤ 64 → carries toName →
    Simulates related Eq errors settled (left.rename fromDir fromName toDir toName)
      (right.rename fromDir fromName toDir toName)
  symlink : ∀ {dir name target}, dir.length ≤ 64 → carries name → SizedName target →
    Simulates related Eq errors settled (left.symlink dir name target)
      (right.symlink dir name target)
  link : ∀ {fh dir name}, fh.length ≤ 64 → dir.length ≤ 64 → carries name →
    Simulates related Eq errors settled (left.link fh dir name) (right.link fh dir name)

/-- The names that a call sends are carried. -/
def NameCall.Carried (carries : String → Prop) : NameCall → Prop
  | .stat path | .lstat path | .access path | .statvfs path | .readlink path | .chmod path _
  | .chown path _ _ | .truncate path _ => LookedUp carries (splitComponents path)
  | .mkdir path | .rmdir path | .unlink path => Addressed carries path
  | .symlink target linkpath => Addressed carries linkpath ∧ SizedName target
  | .rename fromPath toPath => Addressed carries fromPath ∧ Addressed carries toPath
  | .link oldpath newpath =>
      LookedUp carries (splitComponents oldpath) ∧ Addressed carries newpath

/-- What a call sets, and whether it removes. -/
def NameCall.Permitted (sets : SetAttr → Prop) (removes : Prop) : NameCall → Prop
  | .chmod _ mode => sets { mode := some mode }
  | .chown _ uid gid => sets { uid := some uid, gid := some gid }
  | .truncate _ size => sets { size := some size }
  | .rmdir _ | .unlink _ => removes
  | .stat _ | .lstat _ | .access _ | .statvfs _ | .readlink _ | .mkdir _ | .symlink .. | .rename ..
  | .link .. => True

theorem NameCall.carried_of_sized {call : NameCall} (sized : ∀ text ∈ call.texts, SizedName text) :
    call.Carried SizedName := by
  cases call with
  | stat path | lstat path | access path | statvfs path | readlink path | chmod path | chown path
  | truncate path => exact lookedUp_of_sized (sized path (List.mem_singleton_self path))
  | mkdir path | rmdir path | unlink path =>
      exact addressed_of_sized (sized path (List.mem_singleton_self path))
  | symlink target linkpath =>
      exact ⟨addressed_of_sized (sized linkpath (by simp [texts])), sized target (by simp [texts])⟩
  | rename fromPath toPath =>
      exact ⟨addressed_of_sized (sized fromPath (by simp [texts])),
        addressed_of_sized (sized toPath (by simp [texts]))⟩
  | link oldpath newpath =>
      exact ⟨lookedUp_of_sized (sized oldpath (by simp [texts])),
        addressed_of_sized (sized newpath (by simp [texts]))⟩

theorem NameCall.answering_alike {α : Type} (answer : α → NameAnswer)
    {body : Prog σ NfsError α} {body' : Prog τ NfsError α}
    (alike : Simulates related Eq errors settled body body') :
    Simulates related Eq errors settled (answering answer body) (answering answer body') := by
  apply alike.bind ?_ fun _ _ after => after
  rintro value _ rfl
  exact Simulates.pure rfl fun _ _ after => after

namespace ChangesAlike

variable {sets : SetAttr → Prop} {removes : Prop}

/-- Backends that answer and change alike do every call alike. -/
theorem perform (alike : ChangesAlike carries errors sets removes related settled left right)
    (shortRoot : root.length ≤ 64) {call : NameCall} (carried : call.Carried carries)
    (permitted : call.Permitted sets removes) :
    Simulates related Eq errors settled (call.perform left root) (call.perform right root) := by
  have asked {α : Type} {body : Prog σ NfsError α} {body' : Prog τ NfsError α}
      (same : Simulates related Eq errors related body body') :
      Simulates related Eq errors settled body body' :=
    same.weaken (fun _ _ before => before) (fun _ _ same => same) alike.kept
  have answers := alike.toAnswersAlike
  cases call with
  | stat path | lstat path =>
      apply NameCall.answering_alike
      exact answers.object shortRoot alike.kept carried fun short => asked (answers.getattr short)
  | access path =>
      apply NameCall.answering_alike
      refine answers.object shortRoot alike.kept carried fun short => asked ?_
      apply (answers.access access3Read short).bind ?_ fun _ _ same => same
      rintro granted _ rfl
      exact Simulates.pure rfl fun _ _ same => same
  | statvfs path =>
      apply NameCall.answering_alike
      exact answers.object shortRoot alike.kept carried fun short => asked (answers.statvfs short)
  | readlink path =>
      apply NameCall.answering_alike
      refine answers.object shortRoot alike.kept carried fun short => asked ?_
      exact (answers.readlink short).weaken (fun _ _ before => before) (fun _ _ same => same.1)
        fun _ _ same => same
  | chmod path | chown path | truncate path =>
      apply NameCall.answering_alike
      exact answers.object shortRoot alike.kept carried fun short => alike.setattr short permitted
  | mkdir path =>
      apply NameCall.answering_alike
      refine answers.place shortRoot alike.kept carried fun short known => ?_
      apply (alike.mkdir short known).bind ?_ fun _ _ after => after
      exact fun _ _ _ => Simulates.pure rfl fun _ _ after => after
  | rmdir path =>
      apply NameCall.answering_alike
      exact answers.place shortRoot alike.kept carried (alike.rmdir permitted)
  | unlink path =>
      apply NameCall.answering_alike
      exact answers.place shortRoot alike.kept carried (alike.remove permitted)
  | symlink target linkpath =>
      apply NameCall.answering_alike
      exact answers.place shortRoot alike.kept carried.1 fun short known =>
        alike.symlink short known carried.2
  | rename fromPath toPath =>
      apply NameCall.answering_alike
      apply (answers.resolveParent shortRoot carried.1).bind ?_ alike.kept
      rintro ⟨fromDir, fromName⟩ _ ⟨rfl, short, known⟩
      exact answers.place shortRoot alike.kept carried.2 (alike.rename short known)
  | link oldpath newpath =>
      apply NameCall.answering_alike
      apply (answers.resolve shortRoot carried.1).bind ?_ alike.kept
      rintro fh _ ⟨rfl, short⟩
      exact answers.place shortRoot alike.kept carried.2 (alike.link short)

/-- Backends that go on alike do any number of calls alike. -/
theorem performAll (alike : ChangesAlike carries errors sets removes related related left right)
    (shortRoot : root.length ≤ 64) {calls : List NameCall}
    (carried : ∀ call ∈ calls, NameCall.Carried carries call)
    (permitted : ∀ call ∈ calls, NameCall.Permitted sets removes call) :
    Simulates related (List.Forall₂ (Kindred Eq errors)) errors related
      (NameCall.performAll left root calls) (NameCall.performAll right root calls) := by
  induction calls with
  | nil => exact Simulates.pure .nil fun _ _ same => same
  | cons call calls ih =>
      have first := alike.perform shortRoot (carried call List.mem_cons_self)
        (permitted call List.mem_cons_self)
      apply first.outcome.bind ?_ fun _ _ same => same
      intro outcome outcome' same
      have rest := ih (fun call member => carried call (List.mem_cons_of_mem _ member))
        fun call member => permitted call (List.mem_cons_of_mem _ member)
      apply rest.bind ?_ fun _ _ same => same
      intro outcomes outcomes' others
      exact Simulates.pure (.cons same others) fun _ _ same => same

/-- Backends that do alike whatever can be sent. -/
theorem performAll_sized
    (alike : ChangesAlike SizedName errors (fun _ => True) True related related left right)
    (shortRoot : root.length ≤ 64) {calls : List NameCall}
    (sized : ∀ call ∈ calls, ∀ text ∈ call.texts, SizedName text) :
    Simulates related (List.Forall₂ (Kindred Eq errors)) errors related
      (NameCall.performAll left root calls) (NameCall.performAll right root calls) := by
  apply alike.performAll shortRoot
  · exact fun call member => NameCall.carried_of_sized (sized call member)
  · intro call _
    cases call <;> trivial

end ChangesAlike

end Resolving

namespace FileSystem

variable {S : Type} {fs : FileSystem S} {dialect : Dialect} {state next : S}

/-- Both versions can carry the handles that are found. -/
theorem view_lookup {dir : ObjId} {name : String} {found : ObjId × Attr}
    (looked : ((fs.view dialect).lookup dir name).run state = some (.ok found, next)) :
    found.1.length ≤ 64 := by
  obtain ⟨entry, -, rfl⟩ := acts_inv looked
  exact entry.1.2

theorem view_readlink {fh : ObjId} {target : String}
    (read : ((fs.view dialect).readlink fh).run state = some (.ok target, next)) :
    ∃ found : Proto.Text, fs.readlink state fh = .ok found ∧ found.1 = target := by
  obtain ⟨found, seen, same⟩ := acts_inv read
  exact ⟨found, (seeing_inv seen).1, same⟩

/-- The targets of links are short enough to be sent, and so are their components. -/
theorem view_sized {fh : ObjId} {target : String}
    (read : ((fs.view dialect).readlink fh).run state = some (.ok target, next)) :
    LookedUp SizedName (splitComponents target) := by
  obtain ⟨found, -, rfl⟩ := view_readlink read
  exact lookedUp_of_sized found.2

end FileSystem

/-- A directory is made and removed; in the end it is not there. -/
def directoryCalls : List NameCall :=
  [.mkdir "/d", .stat "/./d", .rmdir "/d", .access "/d"]

/-- What the calls return before a root in which there is no directory yet. -/
def directoryOutcomes : List (Except NfsError NameAnswer) :=
  [.ok .done, .ok (.attr directoryAttr), .ok .done, .error .notFound]

theorem sized_directoryCalls : ∀ call ∈ directoryCalls, ∀ text ∈ call.texts, SizedName text := by
  decide +kernel

end LibNfs.Client
