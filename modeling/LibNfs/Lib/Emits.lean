import Mathlib.Data.Set.Basic
import LibNfs.Lib.Prog

/-! # Programs that append to a log

A judgement for programs over a state with a log that only grows: which items may be
appended, and which ones have been when the program ends with a value. The rules
take the unions of both over a sequence.
-/

namespace Prog

variable {σ ε α β γ : Type}

/-- From every ready state, what is appended to the log is among `most`, and has all of
`least` once the program ends with a value. -/
def Emits (ready : σ → Prop) (log : σ → List γ) (least most : Set γ) (body : Prog σ ε α) : Prop :=
  ∀ state final result, ready state → body.run state = some (result, final) →
    ready final ∧ ∃ extra, log final = log state ++ extra ∧ (∀ item ∈ extra, item ∈ most) ∧
      ∀ value, result = .ok value → ∀ item ∈ least, item ∈ extra

namespace Emits

variable {ready : σ → Prop} {log : σ → List γ} {least most : Set γ}

theorem weaken {least' most' : Set γ} {body : Prog σ ε α} (emits : Emits ready log least most body)
    (fewer : least' ⊆ least) (more : most ⊆ most') : Emits ready log least' most' body := by
  intro state final result before ended
  obtain ⟨after, extra, grown, within, whole⟩ := emits state final result before ended
  exact ⟨after, extra, grown, fun item member => more (within item member),
    fun value done item member => whole value done item (fewer member)⟩

/-- A program that leaves the log alone. -/
theorem silent {body : Prog σ ε α}
    (keeps : ∀ state final result, ready state → body.run state = some (result, final) →
      ready final ∧ log final = log state) : Emits ready log ∅ most body := by
  intro state final result before ended
  obtain ⟨after, same⟩ := keeps state final result before ended
  refine ⟨after, [], by rw [same, List.append_nil], fun item member => ?_,
    fun value done item member => member.elim⟩
  exact (List.not_mem_nil member).elim

theorem pure (value : α) : Emits ready log ∅ most (Pure.pure value : Prog σ ε α) := by
  apply silent
  intro state final result before ended
  cases ended
  exact ⟨before, rfl⟩

theorem ofExcept (computed : Except ε α) :
    Emits ready log ∅ most (Prog.ofExcept computed : Prog σ ε α) := by
  apply silent
  intro state final result before ended
  cases ended
  exact ⟨before, rfl⟩

theorem modify {change : σ → σ} (keeps : ∀ state, ready state → ready (change state))
    (same : ∀ state, log (change state) = log state) :
    Emits ready log ∅ most (Prog.modify change : Prog σ ε Unit) := by
  apply silent
  intro state final result before ended
  cases ended
  exact ⟨keeps state before, same state⟩

/-- A program that fails has nothing to append. -/
theorem throw (error : ε) : Emits ready log least most (Prog.throw error : Prog σ ε α) := by
  intro state final result before ended
  cases ended
  refine ⟨before, [], by rw [List.append_nil], fun item member => ?_, fun value done => ?_⟩
  · exact (List.not_mem_nil member).elim
  · cases done

theorem abort : Emits ready log least most (Prog.abort : Prog σ ε α) := by
  intro state final result before ended
  cases ended

theorem bind {least' most' : Set γ} {first : Prog σ ε α} {next : α → Prog σ ε β}
    (begins : Emits ready log least most first)
    (follows : ∀ value, Emits ready log least' most' (next value)) :
    Emits ready log (least ∪ least') (most ∪ most') (first >>= next) := by
  intro state final result before ended
  rcases bind_eq_some ended with ⟨error, failed, rfl⟩ | ⟨value, mid, done, rest⟩
  · obtain ⟨after, extra, grown, within, -⟩ := begins state final _ before failed
    refine ⟨after, extra, grown, fun item member => .inl (within item member), fun value done => ?_⟩
    cases done
  · obtain ⟨ready, extra, grown, within, whole⟩ := begins state mid _ before done
    obtain ⟨after, more, grown', within', whole'⟩ := follows value mid final result ready rest
    refine ⟨after, extra ++ more, by rw [grown', grown, List.append_assoc], ?_, ?_⟩
    · intro item member
      exact (List.mem_append.mp member).imp (within item) (within' item)
    · intro found ended item member
      apply List.mem_append.mpr
      exact member.imp (whole value rfl item) (whole' found ended item)

/-- The same items before and after. -/
theorem andThen {first : Prog σ ε α} {next : α → Prog σ ε β}
    (begins : Emits ready log least most first)
    (follows : ∀ value, Emits ready log ∅ most (next value)) :
    Emits ready log least most (first >>= next) :=
  (begins.bind follows).weaken (Set.subset_union_left ..) (Set.union_subset le_rfl le_rfl)

/-- The state is read without being changed. -/
theorem get_bind {next : σ → Prog σ ε α}
    (follows : ∀ value, ready value → Emits ready log least most (next value)) :
    Emits ready log least most (Prog.get >>= next) := by
  intro state final result before ended
  exact follows state before state final result before ended

/-- A program on a part of the state that has the log. -/
theorem within {ρ ε' : Type} {part : σ → ρ} {put : ρ → σ → σ} {wrap : ε → ε'} {body : Prog ρ ε α}
    {ready : ρ → Prop} {log : ρ → List γ} (law : ∀ next state, part (put next state) = next)
    (emits : Emits ready log least most body) :
    Emits (fun state => ready (part state)) (fun state => log (part state)) least most
      (Prog.within part put wrap body) := by
  intro state final result before ended
  obtain ⟨⟨inner, next⟩, done, same⟩ := Option.map_eq_some_iff.mp ended
  cases same
  obtain ⟨after, extra, grown, within, whole⟩ := emits (part state) next inner before done
  simp only [law]
  refine ⟨after, extra, grown, within, fun value done item member => ?_⟩
  cases inner with
  | error error => cases done
  | ok found => exact whole found rfl item member

end Emits

end Prog
