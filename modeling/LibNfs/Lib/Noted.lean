import LibNfs.Lib.Emits

/-! # Programs with notes

A state with notes beside it, which a program writes and never reads. The judgement
relates a program that takes notes to the one without: they do the same, and what is
appended to a log is known from the notes, each of which entails some items of its own.
-/

namespace Prog

variable {σ ε α β γ δ : Type}

/-- Runs a program on the state beside the notes. -/
def beside (body : Prog σ ε α) : Prog (σ × List δ) ε α :=
  Prog.within Prod.fst (fun next state => (next, state.2)) id body

/-- Runs a program on the state beside the notes and notes the value. -/
def noting (body : Prog σ ε α) : Prog (σ × List α) ε α := do
  let value ← body.beside
  Prog.modify fun state => (state.1, state.2 ++ [value])
  return value

section Runs

variable {body : Prog σ ε α} {state next : σ}

theorem beside_of {result : Except ε α} (notes : List δ)
    (ended : body.run state = some (result, next)) :
    body.beside.run (state, notes) = some (result, next, notes) := by
  simp only [beside, within, ended, Option.map_some]
  cases result <;> rfl

theorem noting_ok {value : α} (notes : List α) (ended : body.run state = some (.ok value, next)) :
    body.noting.run (state, notes) = some (.ok value, next, notes ++ [value]) :=
  bind_of_ok (beside_of notes ended)

theorem noting_error {error : ε} (notes : List α)
    (failed : body.run state = some (.error error, next)) :
    body.noting.run (state, notes) = some (.error error, next, notes) :=
  bind_of_error (beside_of notes failed)

end Runs

/-- From every ready state the program with notes does what the plain one does. What is
appended to the log is among `most` or entailed by a new note; once the program ends with
a value, all of `least` and of what the new notes entail has been. -/
def Tells (ready : σ → Prop) (log : σ → List γ) (entails : δ → Set γ) (least most : Set γ)
    (noted : Prog (σ × List δ) ε α) (plain : Prog σ ε α) : Prop :=
  ∀ state notes final result, ready state → plain.run state = some (result, final) →
    ready final ∧ ∃ extra new, noted.run (state, notes) = some (result, final, notes ++ new) ∧
      log final = log state ++ extra ∧
      (∀ item ∈ extra, item ∈ most ∨ ∃ written ∈ new, item ∈ entails written) ∧
      ∀ value, result = .ok value →
        (∀ item ∈ least, item ∈ extra) ∧ ∀ written ∈ new, ∀ item ∈ entails written, item ∈ extra

namespace Tells

variable {ready : σ → Prop} {log : σ → List γ} {entails : δ → Set γ} {least most : Set γ}

theorem weaken {least' most' : Set γ} {noted : Prog (σ × List δ) ε α} {plain : Prog σ ε α}
    (tells : Tells ready log entails least most noted plain) (fewer : least' ⊆ least)
    (more : most ⊆ most') : Tells ready log entails least' most' noted plain := by
  intro state notes final result before ended
  obtain ⟨after, extra, new, ran, grown, within, whole⟩ :=
    tells state notes final result before ended
  refine ⟨after, extra, new, ran, grown, fun item member => ?_, fun value done => ?_⟩
  · exact (within item member).imp_left fun inside => more inside
  · exact ⟨fun item member => (whole value done).1 item (fewer member), (whole value done).2⟩

/-- A program that takes no notes. -/
theorem beside {body : Prog σ ε α} (emits : Emits ready log least most body) :
    Tells ready log entails least most body.beside body := by
  intro state notes final result before ended
  obtain ⟨after, extra, grown, within, whole⟩ := emits state final result before ended
  refine ⟨after, extra, [], ?_, grown, fun item member => .inl (within item member),
    fun value done => ⟨whole value done, fun written member => ?_⟩⟩
  · rw [beside_of notes ended, List.append_nil]
  · exact (List.not_mem_nil member).elim

theorem pure (value : α) : Tells ready log entails ∅ most
    (Pure.pure value : Prog (σ × List δ) ε α) (Pure.pure value) := by
  intro state notes final result before ended
  cases ended
  refine ⟨before, [], [], ?_, (List.append_nil _).symm, fun item member => ?_,
    fun _ _ => ⟨fun item member => member.elim, fun written member => ?_⟩⟩
  · rw [List.append_nil]
    rfl
  · exact (List.not_mem_nil member).elim
  · exact (List.not_mem_nil member).elim

/-- A program that fails has nothing to tell. -/
theorem throw (error : ε) : Tells ready log entails least most
    (Prog.throw error : Prog (σ × List δ) ε α) (Prog.throw error) := by
  intro state notes final result before ended
  cases ended
  refine ⟨before, [], [], ?_, (List.append_nil _).symm, fun item member => ?_,
    fun value done => ?_⟩
  · rw [List.append_nil]
    rfl
  · exact (List.not_mem_nil member).elim
  · cases done

theorem bind {least' most' : Set γ} {first : Prog (σ × List δ) ε α} {plain : Prog σ ε α}
    {next : α → Prog (σ × List δ) ε β} {plainNext : α → Prog σ ε β}
    (begins : Tells ready log entails least most first plain)
    (follows : ∀ value, Tells ready log entails least' most' (next value) (plainNext value)) :
    Tells ready log entails (least ∪ least') (most ∪ most') (first >>= next)
      (plain >>= plainNext) := by
  intro state notes final result before ended
  rcases bind_eq_some ended with ⟨error, failed, rfl⟩ | ⟨value, mid, done, rest⟩
  · obtain ⟨after, extra, new, ran, grown, within, -⟩ :=
      begins state notes final _ before failed
    refine ⟨after, extra, new, bind_of_error ran, grown, fun item member => ?_,
      fun value done => ?_⟩
    · exact (within item member).imp_left .inl
    · cases done
  · obtain ⟨ready, extra, new, ran, grown, within, whole⟩ :=
      begins state notes mid _ before done
    obtain ⟨after, extra', new', ran', grown', within', whole'⟩ :=
      follows value mid (notes ++ new) final result ready rest
    refine ⟨after, extra ++ extra', new ++ new', ?_, ?_, ?_, ?_⟩
    · rw [bind_of_ok ran, ran', List.append_assoc]
    · rw [grown', grown, List.append_assoc]
    · intro item member
      rcases List.mem_append.mp member with early | late
      · rcases within item early with inside | ⟨note, here, entailed⟩
        · exact .inl (.inl inside)
        · exact .inr ⟨note, List.mem_append_left _ here, entailed⟩
      · rcases within' item late with inside | ⟨note, here, entailed⟩
        · exact .inl (.inr inside)
        · exact .inr ⟨note, List.mem_append_right _ here, entailed⟩
    · intro found ended
      have early := whole value rfl
      have late := whole' found ended
      refine ⟨fun item member => ?_, fun note member item entailed => ?_⟩
      · exact List.mem_append.mpr (member.imp (early.1 item) (late.1 item))
      · apply List.mem_append.mpr
        rcases List.mem_append.mp member with here | here
        · exact .inl (early.2 note here item entailed)
        · exact .inr (late.2 note here item entailed)

/-- What follows has no items of its own. -/
theorem andThen {first : Prog (σ × List δ) ε α} {plain : Prog σ ε α}
    {next : α → Prog (σ × List δ) ε β} {plainNext : α → Prog σ ε β}
    (begins : Tells ready log entails least most first plain)
    (follows : ∀ value, Tells ready log entails ∅ ∅ (next value) (plainNext value)) :
    Tells ready log entails least most (first >>= next) (plain >>= plainNext) :=
  (begins.bind follows).weaken (Set.union_empty _).ge (Set.union_empty _).le

/-- A value is read and noted, and what follows says what the note entails. -/
theorem noting {entails : α → Set γ} {body : Prog σ ε α} {next : α → Prog (σ × List α) ε β}
    {plainNext : α → Prog σ ε β} (reads : Emits ready log ∅ ∅ body)
    (follows : ∀ value, Tells ready log entails (entails value ∪ least) (entails value ∪ most)
      (next value) (plainNext value)) :
    Tells ready log entails least most (body.noting >>= next) (body >>= plainNext) := by
  intro state notes final result before ended
  rcases bind_eq_some ended with ⟨error, failed, rfl⟩ | ⟨value, mid, done, rest⟩
  · obtain ⟨after, extra, grown, silent, -⟩ := reads state final _ before failed
    refine ⟨after, extra, [], ?_, grown, fun item member => (silent item member).elim,
      fun value done => ?_⟩
    · rw [bind_of_error (noting_error notes failed), List.append_nil]
    · cases done
  · obtain ⟨ready, extra, grown, silent, -⟩ := reads state mid _ before done
    obtain ⟨after, extra', new, ran, grown', within, whole⟩ :=
      follows value mid (notes ++ [value]) final result ready rest
    refine ⟨after, extra ++ extra', value :: new, ?_, ?_, ?_, ?_⟩
    · rw [bind_of_ok (noting_ok notes done), ran, List.append_assoc, List.singleton_append]
    · rw [grown', grown, List.append_assoc]
    · intro item member
      rcases List.mem_append.mp member with early | late
      · exact (silent item early).elim
      · rcases within item late with (entailed | inside) | ⟨note, here, entailed⟩
        · exact .inr ⟨value, List.mem_cons_self, entailed⟩
        · exact .inl inside
        · exact .inr ⟨note, List.mem_cons_of_mem _ here, entailed⟩
    · intro found done
      obtain ⟨every, each⟩ := whole found done
      refine ⟨fun item member => List.mem_append_right _ (every item (.inr member)), ?_⟩
      intro note here item entailed
      apply List.mem_append_right
      rcases List.mem_cons.mp here with rfl | later
      · exact every item (.inl entailed)
      · exact each note later item entailed

end Tells

end Prog
