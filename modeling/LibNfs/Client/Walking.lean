import LibNfs.Client.Context

/-! # Walking a path

`resolve` goes through one queue of components and puts the target of a link in
front of it. Here a path is walked by recursion: the target of a link is walked on
its own, and then the rest of the path. Both give the same outcome over every
backend whose answers to lookups do not change. The name operations, which resolve
the parent and look the last component up, address the entry that `resolve` finds
when it does not follow the last link.
-/

namespace LibNfs.Client

/-- What a server answers to `LOOKUP` and `READLINK`. -/
structure Tree where
  lookup : ObjId → String → Except NfsError (ObjId × Attr)
  readlink : ObjId → Except NfsError String

/-- The backend answers from the tree as long as it is ready, and stays so. -/
structure Shows {σ : Type} (backend : Backend σ) (tree : Tree) (ready : σ → Prop) : Prop where
  lookup : ∀ dir name state, ready state → ∃ next,
    (backend.lookup dir name).run state = some (tree.lookup dir name, next) ∧ ready next
  readlink : ∀ fh state, ready state → ∃ next,
    (backend.readlink fh).run state = some (tree.readlink fh, next) ∧ ready next

/-- A backend for reading alone, over a tree that does not change. -/
def Tree.backend (tree : Tree) : Backend Unit where
  prefWrite _ := 32 * 1024
  lookup dir name := Prog.ofExcept (tree.lookup dir name)
  «open» dir name opts := do
    let (fh, _) ← Prog.ofExcept (tree.lookup dir name)
    return ⟨fh, none, opts.write⟩
  close _ := return ()
  pwrite _ _ _ := Prog.throw .readOnly
  commit _ := return ()
  readlink fh := Prog.ofExcept (tree.readlink fh)
  setattr _ _ := Prog.throw .readOnly

theorem Tree.shows (tree : Tree) : Shows tree.backend tree fun _ => True where
  lookup _ _ _ _ := ⟨(), rfl, trivial⟩
  readlink _ _ _ := ⟨(), rfl, trivial⟩

/-- A directory `d` with a file `f`, and beside it a link `l` to the file. -/
def linkedTree : Tree where
  lookup dir name :=
    if dir = [0] ∧ name = "d" then .ok ([1], .ofType .directory)
    else if dir = [0] ∧ name = "l" then .ok ([2], .ofType .symlink)
    else if dir = [1] ∧ name = "f" then .ok ([3], .ofType .regular)
    else .error .notFound
  readlink fh := if fh = [2] then .ok "d/f" else .error .invalidArgument

/-- Where a walk ended, and how many links may still be followed of those that could be. -/
structure Walked (links : Nat) where
  cur : ObjId
  left : Nat
  fewer : left ≤ links

namespace Tree

variable (tree : Tree) (root : ObjId)

/-- Where the target of a link in a directory starts. -/
def start (cur : ObjId) (target : String) : ObjId :=
  if target.toList.head? = some '/' then root else cur

/-- Walks a path from an object: `.` is skipped, and a link that is not the last
component, or is to be followed there, is walked to its end before the rest. -/
def walk (followFinal : Bool) (links : Nat) (cur : ObjId) :
    List String → Except NfsError (Walked links)
  | [] => .ok ⟨cur, links, Nat.le_refl links⟩
  | name :: comps =>
      if name = "." then
        walk followFinal links cur comps
      else
        match tree.lookup cur name with
        | .error error => .error error
        | .ok (fh, attr) =>
            if attr.isSymlink ∧ (comps ≠ [] ∨ followFinal) then
              match links with
              | 0 => .error .tooManySymlinks
              | links + 1 =>
                  match tree.readlink fh with
                  | .error error => .error error
                  | .ok target =>
                      match walk true links (start root cur target) (splitComponents target) with
                      | .error error => .error error
                      | .ok ⟨mid, left, fewer⟩ =>
                          match walk followFinal left mid comps with
                          | .error error => .error error
                          | .ok ⟨final, last, least⟩ =>
                              .ok ⟨final, last, Nat.le_succ_of_le (Nat.le_trans least fewer)⟩
            else
              walk followFinal links fh comps
termination_by comps => (links, comps.length)
decreasing_by
  · exact Prod.Lex.right _ (Nat.lt_succ_self _)
  · exact Prod.Lex.left _ _ (Nat.lt_succ_self _)
  · exact Prod.Lex.left _ _ (Nat.lt_succ_of_le fewer)
  · exact Prod.Lex.right _ (Nat.lt_succ_self _)

/-- The object that a path leads to. -/
def resolve (path : String) (followFinal : Bool) : Except NfsError ObjId :=
  (tree.walk root followFinal maxSymlinkDepth root (splitComponents path)).map Walked.cur

/-- The directory that the last component of a path is a name in. -/
def parent (path : String) : Except NfsError ObjId :=
  (tree.walk root true maxSymlinkDepth root (splitComponents path).dropLast).map Walked.cur

/-- The handle of a name in the parent of a path. -/
def entry (path name : String) : Except NfsError ObjId :=
  (tree.parent root path).bind fun dir => (tree.lookup dir name).map Prod.fst

end Tree

namespace NfsContext

section Queue

variable {σ : Type} {backend : Backend σ} {root : ObjId} {followFinal : Bool} {links : Nat}
  {cur fh : ObjId} {name : String} {comps : List String} {attr : Attr} {state next : σ}

theorem resolveFrom_nil :
    resolveFrom backend root followFinal links cur [] = pure cur := by
  cases links <;> rfl

theorem resolveFrom_dot :
    resolveFrom backend root followFinal links cur ("." :: comps) =
      resolveFrom backend root followFinal links cur comps := by
  cases links with
  | zero => simp only [resolveFrom, walk, ↓reduceIte]
  | succ links => simp only [resolveFrom, walk, ↓reduceIte]

theorem resolveFrom_waiting (named : name ≠ ".")
    (waiting : (backend.lookup cur name).run state = none) :
    (resolveFrom backend root followFinal links cur (name :: comps)).run state = none := by
  cases links with
  | zero =>
      rw [resolveFrom, walk, if_neg named]
      exact Prog.bind_of_waiting waiting
  | succ links =>
      rw [resolveFrom, walk, if_neg named]
      exact Prog.bind_of_waiting waiting

theorem resolveFrom_missing {error : NfsError} (named : name ≠ ".")
    (failed : (backend.lookup cur name).run state = some (.error error, next)) :
    (resolveFrom backend root followFinal links cur (name :: comps)).run state =
      some (.error error, next) := by
  cases links with
  | zero =>
      rw [resolveFrom, walk, if_neg named]
      exact Prog.bind_of_error failed
  | succ links =>
      rw [resolveFrom, walk, if_neg named]
      exact Prog.bind_of_error failed

theorem resolveFrom_plain (named : name ≠ ".")
    (found : (backend.lookup cur name).run state = some (.ok (fh, attr), next))
    (plain : ¬ (attr.isSymlink ∧ (comps ≠ [] ∨ followFinal))) :
    (resolveFrom backend root followFinal links cur (name :: comps)).run state =
      (resolveFrom backend root followFinal links fh comps).run next := by
  cases links with
  | zero =>
      rw [resolveFrom, walk, if_neg named, Prog.bind_of_ok found]
      simp only [if_neg plain]
  | succ links =>
      rw [resolveFrom, walk, if_neg named, Prog.bind_of_ok found]
      simp only [if_neg plain]

theorem resolveFrom_spent (named : name ≠ ".")
    (found : (backend.lookup cur name).run state = some (.ok (fh, attr), next))
    (link : attr.isSymlink ∧ (comps ≠ [] ∨ followFinal)) :
    (resolveFrom backend root followFinal 0 cur (name :: comps)).run state =
      some (.error .tooManySymlinks, next) := by
  rw [resolveFrom, walk, if_neg named, Prog.bind_of_ok found]
  simp only [if_pos link]
  rfl

theorem resolveFrom_link (named : name ≠ ".")
    (found : (backend.lookup cur name).run state = some (.ok (fh, attr), next))
    (link : attr.isSymlink ∧ (comps ≠ [] ∨ followFinal)) :
    (resolveFrom backend root followFinal (links + 1) cur (name :: comps)).run state =
      (do
        let target ← backend.readlink fh
        resolveFrom backend root followFinal links (Tree.start root cur target)
          (splitComponents target ++ comps)).run next := by
  rw [resolveFrom, walk, if_neg named, Prog.bind_of_ok found]
  simp only [if_pos link]
  rfl

end Queue

section Splicing

variable {σ : Type} {backend : Backend σ} {tree : Tree} {root : ObjId} {ready : σ → Prop}
  {followFinal : Bool} {rest : List String}

/-- The queue is at the rest of a path once the components before it have been walked, as
far as that goes. -/
def Spliced (backend : Backend σ) (root : ObjId) (ready : σ → Prop) (followFinal : Bool)
    (rest : List String) (ran : Option (Except NfsError ObjId × σ)) {links : Nat}
    (walked : Except NfsError (Walked links)) : Prop :=
  ∃ next, ready next ∧
    ran = match walked with
      | .error error => some (.error error, next)
      | .ok ended => (resolveFrom backend root followFinal ended.left ended.cur rest).run next

theorem follows (comps : List String) (more : rest ≠ [] ∨ followFinal) :
    comps ++ rest ≠ [] ∨ followFinal := by
  rcases more with nonempty | final
  · exact .inl (List.append_ne_nil_of_right_ne_nil comps nonempty)
  · exact .inr final

/-- A link that is followed is replaced by its target. -/
theorem resolveFrom_target (shows : Shows backend tree ready) {links : Nat} {cur fh : ObjId}
    {name target : String} {comps : List String} {attr : Attr} {state : σ} (named : name ≠ ".")
    (found : tree.lookup cur name = .ok (fh, attr))
    (link : attr.isSymlink ∧ (comps ≠ [] ∨ followFinal)) (linked : tree.readlink fh = .ok target)
    (isReady : ready state) :
    ∃ next, ready next ∧
      (resolveFrom backend root followFinal (links + 1) cur (name :: comps)).run state =
        (resolveFrom backend root followFinal links (Tree.start root cur target)
          (splitComponents target ++ comps)).run next := by
  obtain ⟨mid, ran, midReady⟩ := shows.lookup cur name state isReady
  obtain ⟨next, read, nextReady⟩ := shows.readlink fh mid midReady
  rw [found] at ran
  rw [linked] at read
  refine ⟨next, nextReady, ?_⟩
  rw [resolveFrom_link named ran link]
  exact Prog.bind_of_ok read

/-- Components in front of a rest, so that each link among them is followed, are walked
on their own. -/
theorem resolveFrom_append (shows : Shows backend tree ready) {followAll : Bool}
    (all : followAll = true) (more : rest ≠ [] ∨ followFinal) (links : Nat) (cur : ObjId)
    (comps : List String) (state : σ) (isReady : ready state) :
    Spliced backend root ready followFinal rest
      ((resolveFrom backend root followFinal links cur (comps ++ rest)).run state)
      (tree.walk root followAll links cur comps) := by
  fun_induction Tree.walk tree root followAll links cur comps generalizing state rest with
  | case1 followAll links cur => exact ⟨state, isReady, rfl⟩
  | case2 followAll links cur comps ih =>
      rw [List.cons_append, resolveFrom_dot]
      exact ih all more state isReady
  | case3 followAll links cur name comps named error missing =>
      obtain ⟨next, ran, nextReady⟩ := shows.lookup cur name state isReady
      rw [missing] at ran
      exact ⟨next, nextReady, resolveFrom_missing named ran⟩
  | case4 followAll cur name comps named fh attr found link =>
      obtain ⟨next, ran, nextReady⟩ := shows.lookup cur name state isReady
      rw [found] at ran
      exact ⟨next, nextReady, resolveFrom_spent named ran ⟨link.1, follows comps more⟩⟩
  | case5 followAll cur name comps named fh attr found link links error unread =>
      obtain ⟨mid, ran, midReady⟩ := shows.lookup cur name state isReady
      obtain ⟨next, read, nextReady⟩ := shows.readlink fh mid midReady
      rw [found] at ran
      rw [unread] at read
      refine ⟨next, nextReady, ?_⟩
      rw [List.cons_append, resolveFrom_link named ran ⟨link.1, follows comps more⟩]
      exact Prog.bind_of_error read
  | case6 followAll cur name comps named fh attr found link links target linked error failed ih =>
      obtain ⟨mid, midReady, ran⟩ := resolveFrom_target shows named found
        ⟨link.1, follows comps more⟩ linked isReady
      have walked := ih rfl (follows comps more) mid midReady
      rw [failed] at walked
      rw [List.cons_append, ran]
      exact walked
  | case7 followAll cur name comps named fh attr found link links target linked final left fewer
      walked error failed ihTarget ihRest =>
      obtain ⟨mid, midReady, ran⟩ := resolveFrom_target shows named found
        ⟨link.1, follows comps more⟩ linked isReady
      obtain ⟨next, nextReady, onward⟩ := ihTarget rfl (follows comps more) mid midReady
      rw [walked] at onward
      have last := ihRest all more next nextReady
      rw [failed] at last
      rw [List.cons_append, ran, onward]
      exact last
  | case8 followAll cur name comps named fh attr found link links target linked final left fewer
      walked ended last least finished ihTarget ihRest =>
      obtain ⟨mid, midReady, ran⟩ := resolveFrom_target shows named found
        ⟨link.1, follows comps more⟩ linked isReady
      obtain ⟨next, nextReady, onward⟩ := ihTarget rfl (follows comps more) mid midReady
      rw [walked] at onward
      have rest := ihRest all more next nextReady
      rw [finished] at rest
      rw [List.cons_append, ran, onward]
      exact rest
  | case9 followAll links cur name comps named fh attr found plain ih =>
      obtain ⟨next, ran, nextReady⟩ := shows.lookup cur name state isReady
      rw [found] at ran
      have file : attr.isSymlink = false := by
        by_contra link
        exact plain ⟨Bool.eq_true_of_not_eq_false link, .inr all⟩
      rw [List.cons_append, resolveFrom_plain named ran (by simp [file])]
      exact ih all more next nextReady

/-- The queue leads where the recursion does. -/
theorem resolveFrom_eq_walk (shows : Shows backend tree ready) (links : Nat) (cur : ObjId)
    (comps : List String) (state : σ) (isReady : ready state) :
    ∃ next, ready next ∧ (resolveFrom backend root followFinal links cur comps).run state =
      some ((tree.walk root followFinal links cur comps).map Walked.cur, next) := by
  fun_induction Tree.walk tree root followFinal links cur comps generalizing state with
  | case1 followFinal links cur =>
      rw [resolveFrom_nil]
      exact ⟨state, isReady, rfl⟩
  | case2 followFinal links cur comps ih =>
      rw [resolveFrom_dot]
      exact ih state isReady
  | case3 followFinal links cur name comps named error missing =>
      obtain ⟨next, ran, nextReady⟩ := shows.lookup cur name state isReady
      rw [missing] at ran
      exact ⟨next, nextReady, resolveFrom_missing named ran⟩
  | case4 followFinal cur name comps named fh attr found link =>
      obtain ⟨next, ran, nextReady⟩ := shows.lookup cur name state isReady
      rw [found] at ran
      exact ⟨next, nextReady, resolveFrom_spent named ran link⟩
  | case5 followFinal cur name comps named fh attr found link links error unread =>
      obtain ⟨mid, ran, midReady⟩ := shows.lookup cur name state isReady
      obtain ⟨next, read, nextReady⟩ := shows.readlink fh mid midReady
      rw [found] at ran
      rw [unread] at read
      refine ⟨next, nextReady, ?_⟩
      rw [resolveFrom_link named ran link]
      exact Prog.bind_of_error read
  | case6 followFinal cur name comps named fh attr found link links target linked error failed ih =>
      obtain ⟨mid, midReady, ran⟩ := resolveFrom_target shows named found link linked isReady
      obtain ⟨next, nextReady, onward⟩ :=
        resolveFrom_append shows rfl link.2 links _ _ mid midReady
      rw [failed] at onward
      exact ⟨next, nextReady, ran.trans onward⟩
  | case7 followFinal cur name comps named fh attr found link links target linked final left fewer
      walked error failed ihTarget ihRest =>
      obtain ⟨mid, midReady, ran⟩ := resolveFrom_target shows named found link linked isReady
      obtain ⟨next, nextReady, onward⟩ :=
        resolveFrom_append shows rfl link.2 links _ _ mid midReady
      rw [walked] at onward
      rw [ran, onward]
      have rest := ihRest next nextReady
      rw [failed] at rest
      exact rest
  | case8 followFinal cur name comps named fh attr found link links target linked final left fewer
      walked ended last least finished ihTarget ihRest =>
      obtain ⟨mid, midReady, ran⟩ := resolveFrom_target shows named found link linked isReady
      obtain ⟨next, nextReady, onward⟩ :=
        resolveFrom_append shows rfl link.2 links _ _ mid midReady
      rw [walked] at onward
      rw [ran, onward]
      have rest := ihRest next nextReady
      rw [finished] at rest
      exact rest
  | case9 followFinal links cur name comps named fh attr found plain ih =>
      obtain ⟨next, ran, nextReady⟩ := shows.lookup cur name state isReady
      rw [found] at ran
      rw [resolveFrom_plain named ran plain]
      exact ih next nextReady

end Splicing

variable {σ : Type} {backend : Backend σ} {tree : Tree} {root : ObjId} {ready : σ → Prop}

/-- `resolve` gives the handle, or the error, that the recursion does. -/
theorem resolve_eq_walk (shows : Shows backend tree ready) (path : String) (followFinal : Bool)
    {state : σ} (isReady : ready state) :
    ∃ next, ready next ∧
      (resolve backend root path followFinal).run state =
        some (tree.resolve root path followFinal, next) :=
  resolveFrom_eq_walk shows maxSymlinkDepth root (splitComponents path) state isReady

/-- A path that ends in a link leads to the file. -/
theorem resolve_eq_walk_link :
    ∃ next, (resolve linkedTree.backend [0] "/l" true).run () = some (.ok [3], next) := by
  obtain ⟨next, -, ran⟩ := @resolve_eq_walk Unit linkedTree.backend linkedTree [0] _
    linkedTree.shows "/l" true () trivial
  have target : splitComponents "d/f" = ["d", "f"] := by decide
  have path : splitComponents "/l" = ["l"] := by decide
  have walked : linkedTree.resolve [0] "/l" true = .ok [3] := by
    simp [Tree.resolve, path, Tree.walk, maxSymlinkDepth, linkedTree, target, Tree.start,
      Attr.isSymlink, Attr.ofType]
    rfl
  rw [walked] at ran
  exact ⟨next, ran⟩

end NfsContext

theorem not_mem_of_mem_splitOn {separator : Char} {text piece : List Char}
    (member : piece ∈ text.splitOn separator) : separator ∉ piece := by
  induction text generalizing piece with
  | nil =>
      rw [List.splitOn_nil, List.mem_singleton] at member
      rw [member]
      exact List.not_mem_nil
  | cons char text ih =>
      rw [List.splitOn_cons_eq_if_modifyHead] at member
      split at member
      · rcases List.mem_cons.mp member with rfl | later
        · exact List.not_mem_nil
        · exact ih later
      · rename_i other
        obtain ⟨first, pieces, split⟩ :=
          List.exists_cons_of_ne_nil (List.splitOn_ne_nil separator text)
        rw [split] at member ih
        rcases List.mem_cons.mp member with rfl | later
        · intro inside
          rcases List.mem_cons.mp inside with same | inside
          · exact other (beq_iff_eq.mpr same.symm)
          · exact ih List.mem_cons_self inside
        · exact ih (List.mem_cons_of_mem _ later)

/-- A component of a path is not empty and has no slash. -/
theorem mem_splitComponents {path comp : String} (member : comp ∈ splitComponents path) :
    comp.toList ≠ [] ∧ '/' ∉ comp.toList := by
  obtain ⟨piece, kept, rfl⟩ := List.mem_map.mp member
  obtain ⟨inside, nonempty⟩ := List.mem_filter.mp kept
  rw [String.toList_ofList]
  exact ⟨of_decide_eq_true nonempty, not_mem_of_mem_splitOn inside⟩

/-- Components that are joined again are split as they were. -/
theorem splitComponents_join {comps : List String}
    (each : ∀ comp ∈ comps, comp.toList ≠ [] ∧ '/' ∉ comp.toList) :
    splitComponents ("/" ++ String.intercalate "/" comps) = comps := by
  have leading (text : List Char) : ('/' :: text).splitOn '/' = [] :: text.splitOn '/' := by
    rw [List.splitOn_cons_eq_if_modifyHead, if_pos (beq_self_eq_true '/')]
  have pieces : (("/" ++ String.intercalate "/" comps).toList.splitOn '/').filter (· ≠ []) =
      comps.map String.toList := by
    rw [String.toList_append, String.toList_intercalate]
    change (('/' :: ['/'].intercalate (comps.map String.toList)).splitOn '/').filter _ = _
    rw [leading, List.filter_cons_of_neg (by simp)]
    rcases comps with _ | ⟨first, comps⟩
    · rfl
    · rw [List.splitOn_intercalate '/' ?_ (by simp)]
      · refine List.filter_eq_self.mpr fun piece member => ?_
        obtain ⟨comp, inside, rfl⟩ := List.mem_map.mp member
        exact decide_eq_true (each comp inside).1
      · intro piece member
        obtain ⟨comp, inside, rfl⟩ := List.mem_map.mp member
        exact (each comp inside).2
  rw [splitComponents, pieces, List.map_map]
  exact List.map_id'' (fun _ => String.ofList_toList) comps

namespace NfsContext

variable {σ : Type} (backend : Backend σ) (root : ObjId)

/-- The handle of the entry that the operations on names address. -/
def entry (path : String) : Prog σ NfsError ObjId := do
  let (dir, name) ← resolveParent backend root path
  let (fh, _) ← backend.lookup dir name
  return fh

variable {backend} {root} {tree : Tree} {ready : σ → Prop} {path name : String}

/-- The parent of a path is where the components before the last one lead. -/
theorem resolveParent_eq (last : (splitComponents path).getLast? = some name) :
    resolveParent backend root path = (do
      let dir ← resolveFrom backend root true maxSymlinkDepth root (splitComponents path).dropLast
      return (dir, name)) := by
  have joined : splitComponents ("/" ++ String.intercalate "/" (splitComponents path).dropLast) =
      (splitComponents path).dropLast :=
    splitComponents_join fun comp member =>
      mem_splitComponents (List.dropLast_subset _ member)
  simp only [resolveParent, last, resolve, joined]

theorem resolveParent_run (shows : Shows backend tree ready)
    (last : (splitComponents path).getLast? = some name) {state : σ} (isReady : ready state) :
    ∃ next, ready next ∧ (resolveParent backend root path).run state =
      some ((tree.parent root path).map (·, name), next) := by
  obtain ⟨next, nextReady, walked⟩ : ∃ next, ready next ∧
      (resolveFrom backend root true maxSymlinkDepth root (splitComponents path).dropLast).run state =
        some (tree.parent root path, next) :=
    resolveFrom_eq_walk shows _ _ _ state isReady
  refine ⟨next, nextReady, ?_⟩
  rw [resolveParent_eq last]
  rcases found : tree.parent root path with error | dir
  · rw [found] at walked
    exact Prog.bind_of_error walked
  · rw [found] at walked
    rw [Prog.bind_of_ok walked]
    rfl

theorem resolveFrom_last (shows : Shows backend tree ready) (named : name ≠ ".") (links : Nat)
    (cur : ObjId) {state : σ} (isReady : ready state) :
    ∃ next, ready next ∧ (resolveFrom backend root false links cur [name]).run state =
      some ((tree.lookup cur name).map Prod.fst, next) := by
  obtain ⟨next, ran, nextReady⟩ := shows.lookup cur name state isReady
  refine ⟨next, nextReady, ?_⟩
  rcases found : tree.lookup cur name with error | ⟨fh, attr⟩
  · rw [found] at ran
    exact resolveFrom_missing named ran
  · rw [found] at ran
    rw [resolveFrom_plain named ran (by simp), resolveFrom_nil]
    rfl

theorem entry_eq (shows : Shows backend tree ready)
    (last : (splitComponents path).getLast? = some name) {state : σ} (isReady : ready state) :
    ∃ next, ready next ∧
      (entry backend root path).run state = some (tree.entry root path name, next) := by
  obtain ⟨mid, midReady, parent⟩ := resolveParent_run shows last isReady
  rw [entry, Tree.entry]
  rcases found : tree.parent root path with error | dir
  · rw [found] at parent
    exact ⟨mid, midReady, Prog.bind_of_error parent⟩
  · rw [found] at parent
    obtain ⟨next, ran, nextReady⟩ := shows.lookup dir name mid midReady
    refine ⟨next, nextReady, ?_⟩
    rw [Prog.bind_of_ok parent]
    rcases present : tree.lookup dir name with error | ⟨fh, attr⟩
    · rw [present] at ran
      rw [Prog.bind_of_error ran]
      simp only [Except.bind, present, Except.map]
    · rw [present] at ran
      rw [Prog.bind_of_ok ran]
      simp only [Except.bind, present, Except.map]
      rfl

/-- A path whose last component is not `.` leads, when a last link is not followed, to
the entry that the operations on names address, and where one fails so does the other. -/
theorem resolve_eq_entry (shows : Shows backend tree ready)
    (last : (splitComponents path).getLast? = some name) (named : name ≠ ".")
    {state : σ} (isReady : ready state) :
    ∃ outcome, (∃ next, (resolve backend root path false).run state = some (outcome, next)) ∧
      ∃ next, (entry backend root path).run state = some (outcome, next) := by
  obtain ⟨final, -, addressed⟩ := entry_eq shows last isReady
  refine ⟨tree.entry root path name, ?_, final, addressed⟩
  have whole : resolve backend root path false = resolveFrom backend root false maxSymlinkDepth root
      ((splitComponents path).dropLast ++ [name]) := by
    rw [resolve, List.dropLast_append_getLast? name last]
  obtain ⟨mid, midReady, ran⟩ : Spliced backend root ready false [name]
      ((resolve backend root path false).run state)
      (tree.walk root true maxSymlinkDepth root (splitComponents path).dropLast) := by
    rw [whole]
    exact resolveFrom_append shows rfl (.inl (List.cons_ne_nil _ _)) _ _ _ state isReady
  rw [ran, Tree.entry, Tree.parent]
  rcases tree.walk root true maxSymlinkDepth root (splitComponents path).dropLast with
    error | ended
  · exact ⟨mid, rfl⟩
  · obtain ⟨next, -, looked⟩ := resolveFrom_last shows named ended.left ended.cur midReady
    exact ⟨next, looked⟩

/-- Both ways lead to the link itself. -/
theorem resolve_eq_entry_link :
    ∃ outcome, (∃ next, (resolve linkedTree.backend [0] "/l" false).run () = some (outcome, next)) ∧
      ∃ next, (entry linkedTree.backend [0] "/l").run () = some (outcome, next) :=
  @resolve_eq_entry Unit linkedTree.backend [0] linkedTree _ "/l" "l" linkedTree.shows (by decide)
    (by decide) () trivial

end NfsContext

end LibNfs.Client
