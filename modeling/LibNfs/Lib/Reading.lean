import LibNfs.Lib.Coding

/-! # Reading a buffer in steps

A reader moves a state that holds a buffer. `Takes` says that it reads a value
off a string whatever follows it and leaves the rest; strings of readers run one
after the other concatenate.
-/

namespace Reading

open Coding

variable {σ ε β α γ : Type} {wrap : List β → σ}

/-- The reader reads `value` off `code` and stops after it. -/
def Takes (wrap : List β → σ) (read : StateT σ (Except ε) α) (value : α) (code : List β) : Prop :=
  ∀ rest, read.run (wrap (code ++ rest)) = .ok (value, wrap rest)

theorem Takes.pure (value : α) :
    Takes wrap (Pure.pure value : StateT σ (Except ε) α) value [] :=
  fun _ => rfl

/-- Readers in sequence take their strings in sequence. -/
theorem Takes.bind {first : StateT σ (Except ε) α} {next : α → StateT σ (Except ε) γ} {value : α}
    {final : γ} {left right : List β} (begins : Takes wrap first value left)
    (follows : Takes wrap (next value) final right) :
    Takes wrap (first >>= next) final (left ++ right) := by
  intro rest
  rw [StateT.run_bind, List.append_assoc, begins]
  exact follows rest

/-- The last reader of a sequence, followed by a computation. -/
theorem Takes.ret {read : StateT σ (Except ε) α} {value : α} {code : List β} (f : α → γ)
    (takes : Takes wrap read value code) :
    Takes wrap (read >>= fun value => Pure.pure (f value)) (f value) code := by
  rw [← List.append_nil code]
  exact takes.bind (.pure (f value))

/-- The value that a reader returns on a whole buffer. -/
theorem Takes.run' {read : StateT σ (Except ε) α} {value : α} {code : List β}
    (takes : Takes wrap read value code) : read.run' (wrap code) = .ok value := by
  have whole := takes []
  rw [List.append_nil] at whole
  rw [StateT.run'_eq, whole]
  rfl

/-- Reads a fixed number of values. -/
def many (read : StateT σ (Except ε) α) : Nat → StateT σ (Except ε) (List α)
  | 0 => return []
  | count + 1 => do
      let value ← read
      let rest ← many read count
      return value :: rest

/-- Values read one after the other take their strings in sequence. -/
theorem Takes.many {read : StateT σ (Except ε) α} {values : List α} {codes : List (List β)}
    (each : List.Forall₂ (Takes wrap read) values codes) :
    Takes wrap (Reading.many read values.length) values codes.flatten := by
  induction each with
  | nil => exact .pure _
  | cons head _ ih =>
      rw [List.flatten_cons, ← List.append_nil (List.flatten _)]
      exact head.bind (ih.bind (.pure _))

/-- A reader for each item, with the value it reads and the string it takes. -/
theorem Takes.mapM {ι : Type} {read : ι → StateT σ (Except ε) α} {items : List ι}
    {outcomes : List (α × List β)}
    (each : List.Forall₂ (fun item outcome => Takes wrap (read item) outcome.1 outcome.2) items
      outcomes) :
    Takes wrap (items.mapM read) (outcomes.map Prod.fst) (outcomes.map Prod.snd).flatten := by
  induction each with
  | nil => exact .pure _
  | cons head _ ih =>
      rw [List.mapM_cons, List.map_cons, List.map_cons, List.flatten_cons,
        ← List.append_nil (List.flatten _)]
      exact head.bind (ih.bind (.pure _))

end Reading
