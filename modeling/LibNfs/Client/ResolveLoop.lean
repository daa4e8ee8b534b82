import LibNfs.Client.Walking
import LibNfs.Lib.Loop

/-! # The loop of path resolution ends

`resolve` as the loop that it is, turn by turn, over a backend that may answer each
lookup and each `readlink` differently. A followed link puts a target of any length in
front of the queue, but takes one from the number of links that are left; every other
turn shortens the queue. So each run of the loop ends, and gives what `resolve` gives.
-/

namespace LibNfs.Client

/-- The variables of the loop and the state of the backend; `reads` counts the calls of
`readlink`. -/
structure Resolving (σ : Type) where
  state : σ
  cur : ObjId
  comps : List String
  depth : Nat
  reads : Nat

namespace Resolving

variable {σ : Type} (backend : Backend σ) (root : ObjId) (followFinal : Bool)

def start (path : String) (state : σ) : Resolving σ :=
  ⟨state, root, splitComponents path, 0, 0⟩

/-- One turn of the loop of `resolve`. It ends without a result at a call of the backend
that does not return. -/
def turn (r : Resolving σ) : Resolving σ × Option (Option (Except NfsError ObjId)) :=
  match r.comps with
  | [] => (r, some (some (.ok r.cur)))
  | name :: comps =>
      if name = "." then
        ({ r with comps := comps }, none)
      else
        match (backend.lookup r.cur name).run r.state with
        | none => ({ r with comps := comps }, some none)
        | some (.error error, state) =>
            ({ r with state := state, comps := comps }, some (some (.error error)))
        | some (.ok (fh, attr), state) =>
            if attr.isSymlink ∧ (comps ≠ [] ∨ followFinal) then
              let deeper := { r with state := state, comps := comps, depth := r.depth + 1 }
              if deeper.depth > maxSymlinkDepth then
                (deeper, some (some (.error .tooManySymlinks)))
              else
                let asked := { deeper with reads := r.reads + 1 }
                match (backend.readlink fh).run state with
                | none => (asked, some none)
                | some (.error error, state) =>
                    ({ asked with state := state }, some (some (.error error)))
                | some (.ok target, state) =>
                    -- a relative target starts in the directory of the link
                    ({ asked with
                      state := state
                      cur := if target.toList.head? = some '/' then root else r.cur
                      comps := splitComponents target ++ comps }, none)
            else
              ({ r with state := state, cur := fh, comps := comps }, none)

/-- Each link that was followed has been read, and no more than may be. -/
def Within (r : Resolving σ) : Prop :=
  r.reads = r.depth ∧ r.depth ≤ maxSymlinkDepth

/-- The links that are left, and then the length of the queue. -/
def measure (r : Resolving σ) : Nat × Nat :=
  (maxSymlinkDepth - r.depth, r.comps.length)

/-- What `resolve` has still to do. -/
def rest (r : Resolving σ) : Option (Except NfsError ObjId × σ) :=
  (NfsContext.resolveFrom backend root followFinal (maxSymlinkDepth - r.depth) r.cur
    r.comps).run r.state

/-- Each call of the backend that the loop makes returns. -/
def Answers (backend : Backend σ) : Prop :=
  (∀ dir name, (backend.lookup dir name).Ends) ∧ ∀ fh, (backend.readlink fh).Ends

/-- What is so once the loop has ended, and was to be done before. -/
def Settles (r : Resolving σ) (out : Resolving σ × Option (Except NfsError ObjId)) : Prop :=
  out.1.reads ≤ maxSymlinkDepth ∧ (Answers backend → out.2.isSome) ∧
    r.rest backend root followFinal = out.2.map fun outcome => (outcome, out.1.state)

/-- What a turn does. -/
def Advances (r : Resolving σ) :
    Resolving σ × Option (Option (Except NfsError ObjId)) → Prop
  | (next, none) => next.Within ∧ Prod.Lex (· < ·) (· < ·) next.measure r.measure ∧
      next.rest backend root followFinal = r.rest backend root followFinal
  | (final, some result) => r.Settles backend root followFinal (final, result)

theorem turn_advances {r : Resolving σ} (within : r.Within) :
    r.Advances backend root followFinal (r.turn backend root followFinal) := by
  obtain ⟨counted, few⟩ := within
  have some' : r.reads ≤ maxSymlinkDepth := counted ▸ few
  unfold turn
  rcases queue : r.comps with _ | ⟨name, comps⟩
  · refine ⟨some', fun _ => rfl, ?_⟩
    rw [rest, queue, NfsContext.resolveFrom_nil]
    rfl
  · have shorter : Prod.Lex (· < ·) (· < ·) (maxSymlinkDepth - r.depth, comps.length) r.measure := by
      rw [measure, queue]
      exact .right _ (Nat.lt_succ_self _)
    by_cases dot : name = "."
    · simp only [if_pos dot]
      refine ⟨⟨counted, few⟩, shorter, ?_⟩
      rw [rest, rest, queue, dot, NfsContext.resolveFrom_dot]
    · simp only [if_neg dot]
      rcases looked : (backend.lookup r.cur name).run r.state with _ | ⟨error | ⟨fh, attr⟩, state⟩
      · refine ⟨some', fun answers => ?_, ?_⟩
        · obtain ⟨result, final, ended⟩ := answers.1 r.cur name r.state
          cases looked.symm.trans ended
        · rw [rest, queue, NfsContext.resolveFrom_waiting dot looked]
          rfl
      · refine ⟨some', fun _ => rfl, ?_⟩
        rw [rest, queue, NfsContext.resolveFrom_missing dot looked]
        rfl
      · by_cases link : attr.isSymlink ∧ (comps ≠ [] ∨ followFinal)
        · simp only [if_pos link]
          by_cases spent : r.depth + 1 > maxSymlinkDepth
          · simp only [if_pos spent]
            refine ⟨some', fun _ => rfl, ?_⟩
            have none' : maxSymlinkDepth - r.depth = 0 := by omega
            rw [rest, queue, none', NfsContext.resolveFrom_spent dot looked link]
            rfl
          · simp only [if_neg spent]
            have read : r.reads + 1 ≤ maxSymlinkDepth := by omega
            have left : maxSymlinkDepth - r.depth = maxSymlinkDepth - (r.depth + 1) + 1 := by omega
            have onward : r.rest backend root followFinal = (do
                let target ← backend.readlink fh
                NfsContext.resolveFrom backend root followFinal (maxSymlinkDepth - (r.depth + 1))
                  (Tree.start root r.cur target) (splitComponents target ++ comps)).run state := by
              rw [rest, queue, left, NfsContext.resolveFrom_link dot looked link]
            rcases asked : (backend.readlink fh).run state with _ | ⟨error | target, next⟩
            · refine ⟨read, fun answers => ?_, onward.trans (Prog.bind_of_waiting asked)⟩
              obtain ⟨result, final, ended⟩ := answers.2 fh state
              cases asked.symm.trans ended
            · exact ⟨read, fun _ => rfl, onward.trans (Prog.bind_of_error asked)⟩
            · have deeper : r.depth + 1 ≤ maxSymlinkDepth := Nat.not_lt.mp spent
              have fewer : maxSymlinkDepth - (r.depth + 1) < maxSymlinkDepth - r.depth := by omega
              exact ⟨⟨congrArg (· + 1) counted, deeper⟩, .left _ _ fewer,
                (onward.trans (Prog.bind_of_ok asked)).symm⟩
        · simp only [if_neg link]
          refine ⟨⟨counted, few⟩, shorter, ?_⟩
          rw [rest, rest, queue, NfsContext.resolveFrom_plain dot looked link]

end Resolving

/-- The loop of `resolve` ends over any backend, and what it gives is what `resolve` gives. By
then it has called `readlink` 40 times at most. It lacks a result only if a call of the
backend does not return. -/
theorem resolve_loop_ends {σ : Type} (backend : Backend σ) (root : ObjId) (path : String)
    (followFinal : Bool) (state : σ) :
    ∃ turns final result, Loop.Takes (Resolving.turn backend root followFinal)
        (.start root path state) turns (final, result) ∧
      final.reads ≤ 40 ∧ (Resolving.Answers backend → result.isSome) ∧
      (NfsContext.resolve backend root path followFinal).run state =
        result.map fun outcome => (outcome, final.state) := by
  have descends : WellFounded fun next r : Resolving σ =>
      Prod.Lex (· < ·) (· < ·) next.measure r.measure :=
    InvImage.wf Resolving.measure (WellFounded.prod_lex Nat.lt_wfRel.wf Nat.lt_wfRel.wf)
  have stop (r final : Resolving σ) (result : Option (Except NfsError ObjId)) (within : r.Within)
      (taken : r.turn backend root followFinal = (final, some result)) :
      r.Settles backend root followFinal (final, result) := by
    have advances := Resolving.turn_advances backend root followFinal within
    rw [taken] at advances
    exact advances
  have again (r next : Resolving σ) (within : r.Within)
      (taken : r.turn backend root followFinal = (next, none)) :
      next.Within ∧ Prod.Lex (· < ·) (· < ·) next.measure r.measure ∧
        ∀ out, next.Settles backend root followFinal out →
          r.Settles backend root followFinal out := by
    have advances := Resolving.turn_advances backend root followFinal within
    rw [taken] at advances
    obtain ⟨kept, smaller, same⟩ := advances
    exact ⟨kept, smaller, fun out settles => ⟨settles.1, settles.2.1, same.symm.trans settles.2.2⟩⟩
  obtain ⟨turns, ⟨final, result⟩, takes, few, answered, gives⟩ :=
    Loop.takes_of_wellFounded descends stop again (.start root path state) ⟨rfl, Nat.zero_le _⟩
  exact ⟨turns, final, result, takes, few, answered, gives⟩

/-- A server that finds another link at every lookup, and two more names behind it. -/
def endless : Backend Nat where
  prefWrite _ := 32 * 1024
  lookup _ _ := ⟨fun count => some (.ok ([UInt8.ofNat count], .ofType .symlink), count + 1)⟩
  «open» _ _ _ := Prog.throw .readOnly
  close _ := return ()
  pwrite _ _ _ := Prog.throw .readOnly
  commit _ := return ()
  readlink _ := ⟨fun count => some (.ok "l/l", count + 1)⟩
  setattr _ _ := Prog.throw .readOnly

/-- Such a server is given up. -/
theorem resolve_loop_ends_endless :
    ∃ turns final, Loop.Takes (Resolving.turn endless [0] true) (.start [0] "/l" 0) turns
      (final, some (.error .tooManySymlinks)) ∧ final.reads ≤ 40 := by
  have gives : (NfsContext.resolve endless [0] "/l" true).run 0 =
      some (.error .tooManySymlinks, 81) := by decide +kernel
  obtain ⟨turns, final, result, takes, few, -, same⟩ := resolve_loop_ends endless [0] "/l" true 0
  rw [gives] at same
  cases result with
  | none => cases same
  | some outcome =>
      obtain ⟨rfl, -⟩ := Prod.mk.inj (Option.some.inj same)
      exact ⟨turns, final, takes, few⟩

end LibNfs.Client
