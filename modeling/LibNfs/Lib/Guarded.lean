import LibNfs.Lib.Layout

/-! # Readers that may fault

A reader over a buffer whose primitive operations have preconditions: taking more
symbols than there are, or arithmetic out of range, is a fault, which is not an
error that the reader returns. `Follows` says that a reader never faults on buffers
up to some length, and returns there what a plain decoder returns.
-/

namespace Guarded

open Coding

variable {ε ε' β α γ : Type}

/-- A reader that returns a value, returns an error, or faults. -/
abbrev Reader (ε β α : Type) :=
  StateT (List β) (ExceptT ε Option) α

namespace Reader

/-- The outcome on a buffer; `none` is a fault. -/
def outcome (reader : Reader ε β α) (buffer : List β) : Option (Except ε (α × List β)) :=
  (reader.run buffer).run

/-- A fault: the program stops. -/
def fault : Reader ε β α :=
  fun _ => none

/-- A computation that may fault, as a reader. -/
def ofOption (value : Option α) : Reader ε β α :=
  fun buffer => value.map fun value => .ok (value, buffer)

/-- The number of symbols left. -/
def remaining : Reader ε β Nat :=
  fun buffer => some (.ok (buffer.length, buffer))

/-- Cuts off symbols, which must be there. -/
def splitTo (count : Nat) : Reader ε β (List β) :=
  fun buffer =>
    if count ≤ buffer.length then some (.ok (buffer.take count, buffer.drop count)) else none

/-- Skips symbols, which must be there. -/
def advance (count : Nat) : Reader ε β Unit :=
  fun buffer => if count ≤ buffer.length then some (.ok ((), buffer.drop count)) else none

/-- A reader whose errors are wrapped. -/
def mapError (wrap : ε → ε') (reader : Reader ε β α) : Reader ε' β α :=
  fun buffer => (reader.outcome buffer).map fun result => result.mapError wrap

/-- A reader run on a buffer of its own. -/
def on (reader : Reader ε β α) (other : List β) : Reader ε β α :=
  fun buffer => (reader.outcome other).map fun result =>
    result.map fun parsed => (parsed.1, buffer)

/-- A number of items in order. -/
def many (item : Reader ε β α) : Nat → Reader ε β (List α)
  | 0 => return []
  | count + 1 => do
      let value ← item
      let values ← many item count
      return value :: values

/-- Items while the flag before them is set; a loop that never ends runs out of fuel
and faults. -/
def loop (flag : Reader ε β Bool) (item : Reader ε β α) : Nat → Reader ε β (List α)
  | 0 => fault
  | fuel + 1 => do
      if ← flag then
        let value ← item
        let values ← loop flag item fuel
        return value :: values
      else
        return []

/-- The list of announced items at the front of a buffer. -/
def list (flag : Reader ε β Bool) (item : Reader ε β α) : Reader ε β (List α) := do
  let left ← remaining
  loop flag item (left + 1)

/-- A sequence of readers, on a buffer. -/
theorem outcome_bind (first : Reader ε β α) (next : α → Reader ε β γ) (buffer : List β) :
    (first >>= next).outcome buffer = (first.outcome buffer).bind fun result =>
      match result with
      | .ok (value, rest) => (next value).outcome rest
      | .error fault => some (.error fault) := by
  change (first.run buffer).run.bind _ = _
  congr 1
  funext result
  cases result <;> rfl

/-- The outcome of a sequence whose first part ends. -/
theorem outcome_bind_ok {first : Reader ε β α} {buffer rest : List β} {value : α}
    (runs : first.outcome buffer = some (.ok (value, rest))) (next : α → Reader ε β γ) :
    (first >>= next).outcome buffer = (next value).outcome rest := by
  rw [outcome_bind, runs]
  rfl

/-- A value is returned, and nothing is read. -/
@[simp] theorem outcome_pure (value : α) (buffer : List β) :
    (pure value : Reader ε β α).outcome buffer = some (.ok (value, buffer)) := rfl

@[simp] theorem outcome_throw (error : ε) (buffer : List β) :
    (throwThe ε error : Reader ε β α).outcome buffer = some (.error error) := rfl

@[simp] theorem outcome_ofOption_some (value : α) (buffer : List β) :
    (ofOption (some value) : Reader ε β α).outcome buffer = some (.ok (value, buffer)) := rfl

@[simp] theorem outcome_remaining (buffer : List β) :
    (remaining : Reader ε β Nat).outcome buffer = some (.ok (buffer.length, buffer)) := rfl

/-- Splitting faults when there are too few items. -/
theorem outcome_splitTo (count : Nat) (buffer : List β) :
    (splitTo count : Reader ε β (List β)).outcome buffer =
      if count ≤ buffer.length then some (.ok (buffer.take count, buffer.drop count))
      else none := rfl

/-- Advancing faults when there are too few items. -/
theorem outcome_advance (count : Nat) (buffer : List β) :
    (advance count : Reader ε β Unit).outcome buffer =
      if count ≤ buffer.length then some (.ok ((), buffer.drop count)) else none := rfl

end Reader

open Reader

/-- On buffers up to the limit the reader does not fault and returns what the decoder
returns, which leaves no more than there was. -/
def Follows (limit : Nat) (reader : Reader ε β α) (decode : Decoder ε β α) : Prop :=
  ∀ buffer, buffer.length ≤ limit → reader.outcome buffer = some (decode buffer) ∧
    ∀ value rest, decode buffer = .ok (value, rest) → rest.length ≤ buffer.length

namespace Follows

variable {limit : Nat} {reader : Reader ε β α} {decode : Decoder ε β α}

theorem pure (value : α) :
    Follows limit (Pure.pure value : Reader ε β α) fun buffer => .ok (value, buffer) := by
  intro buffer _
  refine ⟨rfl, fun result rest read => ?_⟩
  cases read
  exact Nat.le_refl _

theorem throw (error : ε) :
    Follows limit (throwThe ε error : Reader ε β α) fun _ => .error error := by
  intro buffer _
  refine ⟨rfl, fun result rest read => ?_⟩
  cases read

/-- Readers in sequence; the second one may count on what the first one reads. -/
theorem bind_of {next : α → Reader ε β γ} {decodeNext : α → Decoder ε β γ}
    (first : Follows limit reader decode)
    (second : ∀ buffer value rest, buffer.length ≤ limit → decode buffer = .ok (value, rest) →
      Follows limit (next value) (decodeNext value)) :
    Follows limit (reader >>= next) (decodeThen decode decodeNext) := by
  intro buffer bound
  obtain ⟨runs, shrinks⟩ := first buffer bound
  cases read : decode buffer with
  | error error =>
      rw [decodeThen_error read]
      rw [read] at runs
      refine ⟨?_, fun result rest absurd => ?_⟩
      · change (reader.run buffer).run.bind _ = _
        rw [show (reader.run buffer).run = _ from runs]
        rfl
      · cases absurd
  | ok parsed =>
      obtain ⟨value, middle⟩ := parsed
      have less := shrinks value middle read
      rw [decodeThen_ok read]
      rw [read] at runs
      obtain ⟨runs', shrinks'⟩ := second buffer value middle bound read middle (by omega)
      refine ⟨?_, fun result rest finish => Nat.le_trans (shrinks' result rest finish) less⟩
      rw [← runs']
      change (reader.run buffer).run.bind _ = _
      rw [show (reader.run buffer).run = _ from runs]
      rfl

/-- A sequence follows when its parts do. -/
theorem bind {next : α → Reader ε β γ} {decodeNext : α → Decoder ε β γ}
    (first : Follows limit reader decode)
    (second : ∀ value, Follows limit (next value) (decodeNext value)) :
    Follows limit (reader >>= next) (decodeThen decode decodeNext) :=
  first.bind_of fun _ value _ _ _ => second value

/-- A choice follows when both arms do. -/
theorem ite {test : Prop} [Decidable test] {other : Reader ε β α} {decode' : Decoder ε β α}
    (holds : test → Follows limit reader decode) (fails : ¬ test → Follows limit other decode') :
    Follows limit (if test then reader else other) fun buffer =>
      if test then decode buffer else decode' buffer := by
  by_cases decided : test
  · simpa only [decided, ↓reduceIte] using holds decided
  · simpa only [decided, ↓reduceIte] using fails decided

/-- The same branch of the reader and of the decoder. -/
theorem branch {test : Prop} [Decidable test] {other : Reader ε β α} {decode' : Decoder ε β α}
    (holds : test → Follows limit reader decode) (fails : ¬ test → Follows limit other decode') :
    Follows limit (if test then reader else other) (if test then decode else decode') := by
  by_cases decided : test
  · simpa only [decided, ↓reduceIte] using holds decided
  · simpa only [decided, ↓reduceIte] using fails decided

/-- What follows a decoder follows an equal one. -/
theorem congr {decode' : Decoder ε β α} (follows : Follows limit reader decode)
    (same : decode' = decode) : Follows limit reader decode' :=
  same ▸ follows

/-- A reader with its errors turned follows. -/
theorem mapError (follows : Follows limit reader decode) (wrap : ε → ε') :
    Follows limit (reader.mapError wrap) fun buffer => (decode buffer).mapError wrap := by
  intro buffer bound
  obtain ⟨runs, shrinks⟩ := follows buffer bound
  refine ⟨?_, fun value rest read => ?_⟩
  · change (reader.outcome buffer).map _ = _
    rw [runs]
    rfl
  · cases first : decode buffer with
    | error fault =>
        simp only [first, Except.mapError] at read
        cases read
    | ok parsed =>
        simp only [first, Except.mapError] at read
        cases read
        exact shrinks value rest first

/-- A reader on a buffer of its own follows. -/
theorem on (follows : Follows limit reader decode) {other : List β}
    (short : other.length ≤ limit) : Follows limit (reader.on other) fun buffer =>
      (decode other).map fun parsed => (parsed.1, buffer) := by
  intro buffer _
  refine ⟨?_, fun value rest read => ?_⟩
  · change (reader.outcome other).map _ = _
    rw [(follows other short).1]
    rfl
  · cases first : decode other with
    | error fault =>
        simp only [first, Except.map] at read
        cases read
    | ok parsed =>
        simp only [first, Except.map] at read
        cases read
        exact Nat.le_refl _

/-- A fold whose steps follow the steps of a fold. -/
theorem foldlM {step : α → γ → Reader ε β α} {decodeStep : α → γ → StateT (List β) (Except ε) α}
    (items : List γ)
    (each : ∀ item ∈ items, ∀ value, Follows limit (step value item) (decodeStep value item).run)
    (first : α) : Follows limit (items.foldlM step first) (items.foldlM decodeStep first).run := by
  induction items generalizing first with
  | nil => exact .pure first
  | cons item items ih =>
      have here := each item List.mem_cons_self first
      have later := fun value =>
        ih (fun item member => each item (List.mem_cons_of_mem _ member)) value
      rw [List.foldlM_cons, List.foldlM_cons]
      exact here.bind later

/-- A count of items follows when each does. -/
theorem many (each : Follows limit reader decode) (count : Nat) :
    Follows limit (reader.many count) (decodeMany decode count) := by
  induction count with
  | zero => exact .pure []
  | succ count ih => exact each.bind fun value => ih.bind fun values => .pure (value :: values)

/-- The loop over readers that follow decoders has the result of the loop over these;
its fuel lasts, as every flag takes some symbols. -/
theorem loop_of {flag : Reader ε β Bool} {decodeFlag : Decoder ε β Bool}
    (flags : Follows limit flag decodeFlag) (each : Follows limit reader decode)
    (consumes : ∀ {buffer rest present}, decodeFlag buffer = .ok (present, rest) →
      rest.length < buffer.length) (fuel : Nat) {buffer : List β} (bound : buffer.length ≤ limit)
    (enough : buffer.length < fuel) :
    ∃ result, Loops decodeFlag decode buffer result ∧
      (Reader.loop flag reader fuel).outcome buffer = some result := by
  induction fuel generalizing buffer with
  | zero => exact (Nat.not_lt_zero _ enough).elim
  | succ fuel ih =>
      have announced := (flags buffer bound).1
      have unrolled : (Reader.loop flag reader (fuel + 1)).outcome buffer =
          (flag >>= fun present => if present then do
            let value ← reader
            let values ← Reader.loop flag reader fuel
            return value :: values else return []).outcome buffer := rfl
      cases first : decodeFlag buffer with
      | error fault =>
          refine ⟨_, .flagFails first, ?_⟩
          rw [unrolled, outcome_bind, announced, first]
          rfl
      | ok parsed =>
          obtain ⟨present, middle⟩ := parsed
          have shorter := consumes first
          rw [unrolled, outcome_bind, announced, first]
          cases present with
          | false => exact ⟨_, .stop first, rfl⟩
          | true =>
              have found := (each middle (by omega))
              simp only [↓reduceIte, Option.bind_some]
              rw [outcome_bind, found.1]
              cases read : decode middle with
              | error fault => exact ⟨_, .itemFails first read, rfl⟩
              | ok parsed =>
                  obtain ⟨value, later⟩ := parsed
                  have less := found.2 value later read
                  have short : later.length ≤ limit := by omega
                  obtain ⟨result, loops, runs⟩ := ih short (by omega)
                  refine ⟨_, .next first read loops, ?_⟩
                  simp only [Option.bind_some]
                  rw [outcome_bind, runs]
                  cases result <;> rfl

/-- A decoder with the results of the loop is followed by the list reader. -/
theorem list_of {flag : Reader ε β Bool} {decodeFlag : Decoder ε β Bool}
    {decodeItems : Decoder ε β (List α)}
    (flags : Follows limit flag decodeFlag) (each : Follows limit reader decode)
    (consumes : ∀ {buffer rest present}, decodeFlag buffer = .ok (present, rest) →
      rest.length < buffer.length)
    (loops : ∀ buffer, Loops decodeFlag decode buffer (decodeItems buffer))
    (shrinks : ∀ {buffer rest values}, decodeItems buffer = .ok (values, rest) →
      rest.length ≤ buffer.length) :
    Follows limit (Reader.list flag reader) decodeItems := by
  intro buffer bound
  obtain ⟨result, loop, runs⟩ := flags.loop_of each consumes (buffer.length + 1) bound
    (Nat.lt_succ_self _)
  refine ⟨?_, fun values rest read => shrinks read⟩
  rw [← loop.unique (loops buffer)]
  exact runs

/-- The list reader, for a flag and items whose codes are known. -/
theorem list {flag : Reader ε β Bool} {decodeFlag : Decoder ε β Bool} {sign : Bool → List β}
    {layout : Layout β α} (flags : Follows limit flag decodeFlag)
    (each : Follows limit reader decode) (signs : Flag decodeFlag sign)
    (decodes : Decodes decode layout) :
    Follows limit (Reader.list flag reader) (decodeList decodeFlag decode) :=
  flags.list_of each signs.length_lt (decodeList_loops signs decodes)
    (decodes.list signs).length_le

end Follows

/-- On buffers up to the limit the reader does not fault and returns what the function
returns, with whatever it leaves. -/
def Yields (limit : Nat) (reader : Reader ε β α) (parse : List β → Except ε α) : Prop :=
  ∀ buffer, buffer.length ≤ limit → ∃ result, reader.outcome buffer = some result ∧
    result.map Prod.fst = parse buffer

namespace Yields

variable {limit : Nat} {reader : Reader ε β α} {decode : Decoder ε β α}
  {parse : List β → Except ε α}

theorem pure (value : α) :
    Yields limit (Pure.pure value : Reader ε β α) fun _ => .ok value :=
  fun _ _ => ⟨_, rfl, rfl⟩

theorem throw (error : ε) :
    Yields limit (throwThe ε error : Reader ε β α) fun _ => .error error :=
  fun _ _ => ⟨_, rfl, rfl⟩

theorem ite {test : Prop} [Decidable test] {other : Reader ε β α}
    {parse' : List β → Except ε α} (holds : test → Yields limit reader parse)
    (fails : ¬ test → Yields limit other parse') :
    Yields limit (if test then reader else other) fun buffer =>
      if test then parse buffer else parse' buffer := by
  by_cases decided : test
  · simpa only [decided, ↓reduceIte] using holds decided
  · simpa only [decided, ↓reduceIte] using fails decided

theorem map (yields : Yields limit reader parse) (wrap : α → γ) :
    Yields limit (do let value ← reader; return wrap value) fun buffer =>
      (parse buffer).bind fun value => .ok (wrap value) := by
  intro buffer bound
  obtain ⟨result, runs, returns⟩ := yields buffer bound
  simp only [Reader.outcome_bind, runs, ← returns]
  cases result <;> exact ⟨_, rfl, rfl⟩

end Yields

/-- What follows a decoder and then yields. -/
theorem Follows.yields {limit : Nat} {reader : Reader ε β α} {decode : Decoder ε β α}
    {next : α → Reader ε β γ} {parse : α → List β → Except ε γ}
    (first : Follows limit reader decode)
    (second : ∀ value, Yields limit (next value) (parse value)) :
    Yields limit (reader >>= next) fun buffer =>
      (decode buffer).bind fun parsed => parse parsed.1 parsed.2 := by
  intro buffer bound
  obtain ⟨runs, shrinks⟩ := first buffer bound
  simp only [Reader.outcome_bind, runs]
  cases read : decode buffer with
  | error fault => exact ⟨_, rfl, rfl⟩
  | ok parsed =>
      obtain ⟨value, rest⟩ := parsed
      simp only [Option.bind_some, Except.bind]
      exact second value rest (Nat.le_trans (shrinks value rest read) bound)

end Guarded
