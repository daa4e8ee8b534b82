import LibNfs.Lib.Prog
import Mathlib.Data.List.Forall2

/-! # Two programs side by side

The judgement relates two programs over states, values and errors of their own: from
related states both end or both wait, and when they end their outcomes are related and
so are the states that they leave. A rule goes with each way of putting programs
together.
-/

namespace Prog

variable {σ τ ε ε' α α' β β' : Type}

/-- Two outcomes of one kind: related values, or related errors. -/
inductive Kindred (values : α → α' → Prop) (errors : ε → ε' → Prop) :
    Except ε α → Except ε' α' → Prop
  | ok {value : α} {value' : α'} (same : values value value') :
      Kindred values errors (.ok value) (.ok value')
  | error {error : ε} {error' : ε'} (same : errors error error') :
      Kindred values errors (.error error) (.error error')

theorem Kindred.refl {errors : ε → ε → Prop} (same : ∀ error, errors error error)
    (outcome : Except ε α) : Kindred Eq errors outcome outcome := by
  cases outcome with
  | ok value => exact .ok rfl
  | error error => exact .error (same error)

theorem Kindred.eq {outcome outcome' : Except ε α} (alike : Kindred Eq Eq outcome outcome') :
    outcome = outcome' := by
  cases alike with
  | ok same => rw [same]
  | error same => rw [same]

theorem Kindred.eq_of_forall₂ {outcomes outcomes' : List (Except ε α)}
    (alike : List.Forall₂ (Kindred Eq Eq) outcomes outcomes') : outcomes = outcomes' := by
  induction alike with
  | nil => rfl
  | cons same _ ih => rw [same.eq, ih]

theorem Kindred.mono {values values' : α → α' → Prop} {errors : ε → ε' → Prop}
    {outcome : Except ε α} {outcome' : Except ε' α'}
    (alike : Kindred values errors outcome outcome')
    (weaker : ∀ value value', values value value' → values' value value') :
    Kindred values' errors outcome outcome' := by
  cases alike with
  | ok same => exact .ok (weaker _ _ same)
  | error same => exact .error same

/-- Two runs that both end, with related outcomes and states, or both wait. -/
def Together (values : α → α' → Prop) (errors : ε → ε' → Prop) (post : σ → τ → Prop) :
    Option (Except ε α × σ) → Option (Except ε' α' × τ) → Prop :=
  Option.Rel fun ended ended' => Kindred values errors ended.1 ended'.1 ∧ post ended.2 ended'.2

namespace Together

variable {mid post : σ → τ → Prop} {values : α → α' → Prop} {results : β → β' → Prop}
  {errors : ε → ε' → Prop}

/-- What the second run comes to when the first one ends. -/
theorem ended {outcome : Except ε α} {next : σ} {right : Option (Except ε' α' × τ)}
    (together : Together values errors post (some (outcome, next)) right) :
    ∃ outcome' next', right = some (outcome', next') ∧ Kindred values errors outcome outcome' ∧
      post next next' := by
  cases together with
  | @some _ ended' related => exact ⟨ended'.1, ended'.2, rfl, related⟩

/-- What the first run comes to when the second one ends. -/
theorem begun {outcome' : Except ε' α'} {next' : τ} {left : Option (Except ε α × σ)}
    (together : Together values errors post left (some (outcome', next'))) :
    ∃ outcome next, left = some (outcome, next) ∧ Kindred values errors outcome outcome' ∧
      post next next' := by
  cases together with
  | @some ended _ related => exact ⟨ended.1, ended.2, rfl, related⟩

theorem weaken {post' : σ → τ → Prop} {values' : α → α' → Prop}
    {left : Option (Except ε α × σ)} {right : Option (Except ε' α' × τ)}
    (together : Together values errors post left right)
    (weaker : ∀ value value', values value value' → values' value value')
    (after : ∀ state state', post state state' → post' state state') :
    Together values' errors post' left right := by
  cases together with
  | none => exact .none
  | some related => exact .some ⟨related.1.mono weaker, after _ _ related.2⟩

/-- Equal outcomes, and equal views of the states. -/
theorem map_eq {ρ : Type} {left : σ → ρ} {right : τ → ρ} {run : Option (Except ε α × σ)}
    {run' : Option (Except ε α × τ)}
    (together : Together Eq Eq (fun state state' => left state = right state') run run') :
    run.map (fun ended => (ended.1, left ended.2)) =
      run'.map fun ended => (ended.1, right ended.2) := by
  cases together with
  | none => rfl
  | some related => rw [Option.map_some, Option.map_some, related.1.eq, related.2]

/-- The second parts of two sequences go on from where the first parts ended, and an error of
the first parts ends both. -/
theorem bind {left : Prog σ ε α} {right : Prog τ ε' α'} {next : α → Prog σ ε β}
    {next' : α' → Prog τ ε' β'} {state : σ} {state' : τ}
    (begins : Together values errors mid (left.run state) (right.run state'))
    (follows : ∀ value value' middle middle', left.run state = some (.ok value, middle) →
      values value value' → mid middle middle' →
      Together results errors post ((next value).run middle) ((next' value').run middle'))
    (failed : ∀ middle middle', mid middle middle' → post middle middle') :
    Together results errors post ((left >>= next).run state) ((right >>= next').run state') := by
  rw [bind_apply, bind_apply]
  rcases ran : left.run state with _ | ⟨outcome, middle⟩
  · rw [ran] at begins
    generalize right.run state' = ran' at begins ⊢
    cases begins with
    | none => exact .none
  · rw [ran] at begins
    obtain ⟨outcome', middle', ran', alike, between⟩ := begins.ended
    rw [ran']
    cases alike with
    | ok same => exact follows _ _ middle middle' ran same between
    | error same => exact .some ⟨.error same, failed middle middle' between⟩

/-- The outcomes of two runs as values. -/
theorem outcome {ρ ρ' : Type} {others : ρ → ρ' → Prop} {left : Prog σ ε α} {right : Prog τ ε' α'}
    {state : σ} {state' : τ}
    (together : Together values errors post (left.run state) (right.run state')) :
    Together (Kindred values errors) others post
      ((Prog.outcome left : Prog σ ρ (Except ε α)).run state)
      ((Prog.outcome right : Prog τ ρ' (Except ε' α')).run state') := by
  rw [Prog.outcome, Prog.outcome]
  dsimp only
  generalize left.run state = ended at together ⊢
  generalize right.run state' = ended' at together ⊢
  cases together with
  | none => exact .none
  | some related => exact .some ⟨.ok related.1, related.2⟩

end Together

/-- From related states the runs of two programs go together. -/
def Simulates (pre : σ → τ → Prop) (values : α → α' → Prop) (errors : ε → ε' → Prop)
    (post : σ → τ → Prop) (left : Prog σ ε α) (right : Prog τ ε' α') : Prop :=
  ∀ state state', pre state state' → Together values errors post (left.run state) (right.run state')

namespace Simulates

variable {pre mid post : σ → τ → Prop} {values : α → α' → Prop} {results : β → β' → Prop}
  {errors : ε → ε' → Prop}

/-- Programs that end. -/
theorem of_run {left : Prog σ ε α} {right : Prog τ ε' α'}
    (ends : ∀ state state', pre state state' → ∃ outcome outcome' next next',
      left.run state = some (outcome, next) ∧ right.run state' = some (outcome', next') ∧
        Kindred values errors outcome outcome' ∧ post next next') :
    Simulates pre values errors post left right := by
  intro state state' before
  obtain ⟨outcome, outcome', next, next', ended, ended', alike, after⟩ := ends state state' before
  rw [ended, ended']
  exact .some ⟨alike, after⟩

theorem weaken {pre' post' : σ → τ → Prop} {values' : α → α' → Prop} {left : Prog σ ε α}
    {right : Prog τ ε' α'} (simulates : Simulates pre values errors post left right)
    (stronger : ∀ state state', pre' state state' → pre state state')
    (weaker : ∀ value value', values value value' → values' value value')
    (after : ∀ state state', post state state' → post' state state') :
    Simulates pre' values' errors post' left right :=
  fun state state' before =>
    (simulates state state' (stronger state state' before)).weaken weaker after

theorem pure {value : α} {value' : α'} (same : values value value')
    (after : ∀ state state', pre state state' → post state state') :
    Simulates pre values errors post (Pure.pure value) (Pure.pure value') :=
  fun state state' before => .some ⟨.ok same, after state state' before⟩

theorem throw {error : ε} {error' : ε'} (same : errors error error')
    (after : ∀ state state', pre state state' → post state state') :
    Simulates pre values errors post (Prog.throw error) (Prog.throw error') :=
  fun state state' before => .some ⟨.error same, after state state' before⟩

/-- What holds of the values that the second program returns. -/
theorem and {left : Prog σ ε α} {right : Prog τ ε' α} {holds : α → Prop}
    (simulates : Simulates pre Eq errors post left right)
    (returns : ∀ {state state' value next}, pre state state' →
      right.run state' = some (.ok value, next) → holds value) :
    Simulates pre (fun value value' => value = value' ∧ holds value) errors post left right := by
  intro state state' before
  have both := simulates state state' before
  rcases ran : left.run state with _ | ⟨outcome, next⟩
  · rw [ran] at both
    generalize right.run state' = ended at both ⊢
    cases both with
    | none => exact .none
  · rw [ran] at both
    obtain ⟨outcome', next', ended, alike, after⟩ := both.ended
    rw [ended]
    cases alike with
    | ok same =>
        cases same
        exact .some ⟨.ok ⟨rfl, returns before ended⟩, after⟩
    | error same => exact .some ⟨.error same, after⟩

/-- The sequence rule. -/
theorem bind {left : Prog σ ε α} {right : Prog τ ε' α'} {next : α → Prog σ ε β}
    {next' : α' → Prog τ ε' β'} (begins : Simulates pre values errors mid left right)
    (follows : ∀ value value', values value value' →
      Simulates mid results errors post (next value) (next' value'))
    (failed : ∀ state state', mid state state' → post state state') :
    Simulates pre results errors post (left >>= next) (right >>= next') := by
  intro state state' before
  apply (begins state state' before).bind ?_ failed
  intro value value' middle middle' _ same between
  exact follows value value' same middle middle' between

/-- The outcomes of two programs as values. -/
theorem outcome {ρ ρ' : Type} {others : ρ → ρ' → Prop} {left : Prog σ ε α} {right : Prog τ ε' α'}
    (simulates : Simulates pre values errors post left right) :
    Simulates pre (Kindred values errors) others post (Prog.outcome left : Prog σ ρ (Except ε α))
      (Prog.outcome right : Prog τ ρ' (Except ε' α')) :=
  fun state state' before => (simulates state state' before).outcome

end Simulates

section Views

/-- From a state, a program does what another does from a view of it, and the states before and
after it are related. -/
def Mirrors (view : σ → τ) (kept : σ → σ → Prop) (left : Prog σ ε α) (right : Prog τ ε α)
    (state : σ) : Prop :=
  ∀ result next, right.run (view state) = some (result, next) →
    ∃ after, left.run state = some (result, after) ∧ view after = next ∧ kept state after

namespace Mirrors

variable {view : σ → τ} {kept : σ → σ → Prop} {state : σ}

/-- Programs with the same runs from these states. -/
theorem congr {left other : Prog σ ε α} {right other' : Prog τ ε α}
    (same : left.run state = other.run state)
    (same' : right.run (view state) = other'.run (view state))
    (mirrors : Mirrors view kept other other' state) : Mirrors view kept left right state := by
  intro result next ran
  rw [same'] at ran
  obtain ⟨after, ended, viewed, keeps⟩ := mirrors result next ran
  exact ⟨after, same.trans ended, viewed, keeps⟩

theorem pure (value : α) (same : kept state state) :
    Mirrors view kept (Pure.pure value : Prog σ ε α) (Pure.pure value) state := by
  rintro result next ⟨⟩
  exact ⟨state, rfl, rfl, same⟩

theorem throw (error : ε) (same : kept state state) :
    Mirrors view kept (Prog.throw error : Prog σ ε α) (Prog.throw error) state := by
  rintro result next ⟨⟩
  exact ⟨state, rfl, rfl, same⟩

/-- The sequence rule. -/
theorem bind {left : Prog σ ε α} {right : Prog τ ε α} {next : α → Prog σ ε β}
    {next' : α → Prog τ ε β} (begins : Mirrors view kept left right state)
    (trans : ∀ {first second third : σ}, kept first second → kept second third → kept first third)
    (follows : ∀ value mid, Mirrors view kept (next value) (next' value) mid) :
    Mirrors view kept (left >>= next) (right >>= next') state := by
  intro result final ran
  rcases Prog.bind_eq_some ran with ⟨error, failed, rfl⟩ | ⟨value, mid, done, ran⟩
  · obtain ⟨after, ended, viewed, keeps⟩ := begins _ _ failed
    exact ⟨after, Prog.bind_of_error ended, viewed, keeps⟩
  · obtain ⟨mid, ended, rfl, keeps⟩ := begins _ _ done
    obtain ⟨after, finished, viewed, rest⟩ := follows value mid _ _ ran
    exact ⟨after, (Prog.bind_of_ok ended).trans finished, viewed, trans keeps rest⟩

/-- Programs on a part of the states. -/
theorem within {ρ ρ' ε' : Type} {inside : ρ → ρ'} {keeping : ρ → ρ → Prop} {part : σ → ρ}
    {part' : τ → ρ'} {put : ρ → σ → σ} {put' : ρ' → τ → τ} {wrap : ε → ε'} {left : Prog ρ ε α}
    {right : Prog ρ' ε α} (mirrors : Mirrors inside keeping left right (part state))
    (viewed : part' (view state) = inside (part state))
    (putting : ∀ next, view (put next state) = put' (inside next) (view state))
    (keeps : ∀ next, keeping (part state) next → kept state (put next state)) :
    Mirrors view kept (Prog.within part put wrap left) (Prog.within part' put' wrap right) state := by
  intro result final ran
  obtain ⟨⟨inner, next⟩, done, same⟩ := Option.map_eq_some_iff.mp ran
  cases same
  rw [viewed] at done
  obtain ⟨after, ended, rfl, kept⟩ := mirrors inner next done
  refine ⟨put after state, ?_, putting after, keeps after kept⟩
  rw [Prog.within]
  simp only [ended, Option.map_some]

end Mirrors

end Views

end Prog
