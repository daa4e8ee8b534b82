import LibNfs.Lib.Coding

/-! # Layouts of encoded values

A layout relates a value to its code and to the positions of the code whose
symbols do not matter. `Decodes` says that a decoder reads exactly the codes of a
layout, up to those positions. A list of announced items is read by a loop, which
terminates because every announcement takes symbols of the buffer.
-/

namespace Coding

variable {ε β α γ : Type}

/-- The values of a type that have a code, their codes, and which symbols of a code
are padding. -/
structure Layout (β α : Type) where
  valid : α → Prop
  code : α → List β
  mask : α → List Bool

/-- The decoder reads every code of the layout whatever follows it, and accepts nothing
that is not one up to padding. -/
structure Decodes (decode : Decoder ε β α) (layout : Layout β α) : Prop where
  reads : ∀ {value}, layout.valid value → Reads decode value (layout.code value)
  accepts : ∀ {buffer rest value}, decode buffer = .ok (value, rest) →
    ∃ consumed, buffer = consumed ++ rest ∧ layout.valid value ∧
      AgreeOff (layout.mask value) consumed (layout.code value)

/-- What is left is not more than there was. -/
theorem Decodes.length_le {decode : Decoder ε β α} {layout : Layout β α}
    (decodes : Decodes decode layout) {buffer rest : List β} {value : α}
    (read : decode buffer = .ok (value, rest)) : rest.length ≤ buffer.length := by
  obtain ⟨consumed, rfl, -⟩ := decodes.accepts read
  rw [List.length_append]
  exact Nat.le_add_left _ _

namespace Layout

/-- The codes of two values, one after the other. -/
def pair (first : Layout β α) (second : Layout β γ) : Layout β (α × γ) where
  valid value := first.valid value.1 ∧ second.valid value.2
  code value := first.code value.1 ++ second.code value.2
  mask value := first.mask value.1 ++ second.mask value.2

/-- The layout of values that stand for others. -/
def view (back : γ → α) (layout : Layout β α) : Layout β γ where
  valid value := layout.valid (back value)
  code value := layout.code (back value)
  mask value := layout.mask (back value)

end Layout

theorem Decodes.pair {first : Decoder ε β α} {second : Decoder ε β γ} {left : Layout β α}
    {right : Layout β γ} (head : Decodes first left) (tail : Decodes second right) :
    Decodes (decodePair first second) (left.pair right) where
  reads valid := Reads.pair (head.reads valid.1) (tail.reads valid.2)
  accepts := by
    intro buffer rest value read
    obtain ⟨middle, here, there⟩ := decodePair_inv read
    obtain ⟨front, rfl, valid, agree⟩ := head.accepts here
    obtain ⟨back, rfl, valid', agree'⟩ := tail.accepts there
    exact ⟨front ++ back, by rw [List.append_assoc], ⟨valid, valid'⟩, agree.append agree'⟩

/-- A decoder that returns what another one read, in its own form. -/
theorem Decodes.view {decode : Decoder ε β α} {decode' : Decoder ε β γ} {layout : Layout β α}
    (decodes : Decodes decode layout) (there : α → γ) (back : γ → α)
    (left : ∀ value, back (there value) = value) (right : ∀ value, there (back value) = value)
    (returns : ∀ buffer, decode' buffer = (do
      let parsed ← decode buffer
      return (there parsed.1, parsed.2))) :
    Decodes decode' (layout.view back) where
  reads := by
    intro value valid rest
    have read : decode (layout.code (back value) ++ rest) = .ok (back value, rest) :=
      decodes.reads valid rest
    simp only [returns, Layout.view, read, bind, Except.bind, pure, Except.pure, right value]
  accepts := by
    intro buffer rest result read
    rw [returns] at read
    cases first : decode buffer with
    | error fault =>
        rw [first] at read
        cases read
    | ok parsed =>
        obtain ⟨value, middle⟩ := parsed
        rw [first] at read
        cases read
        obtain ⟨consumed, shape, valid, agree⟩ := decodes.accepts first
        simp only [Layout.view, left value]
        exact ⟨consumed, shape, valid, agree⟩

/-- A decoder whose errors are wrapped. -/
theorem Decodes.mapError {ε' : Type} {decode : Decoder ε β α} {layout : Layout β α}
    (decodes : Decodes decode layout) (wrap : ε → ε') :
    Decodes (fun buffer => (decode buffer).mapError wrap) layout where
  reads valid rest := by
    simp only [decodes.reads valid rest, Except.mapError]
  accepts := by
    intro buffer rest value read
    cases first : decode buffer with
    | error fault =>
        simp only [first, Except.mapError] at read
        cases read
    | ok parsed =>
        simp only [first, Except.mapError] at read
        cases read
        exact decodes.accepts first

/-- A flag and its two codes, neither of them empty. -/
structure Flag (flag : Decoder ε β Bool) (sign : Bool → List β) : Prop where
  reads : ∀ present, Reads flag present (sign present)
  accepts : ∀ {buffer rest present}, flag buffer = .ok (present, rest) →
    buffer = sign present ++ rest
  nonempty : ∀ present, sign present ≠ []

theorem Flag.mapError {ε' : Type} {flag : Decoder ε β Bool} {sign : Bool → List β}
    (flags : Flag flag sign) (wrap : ε → ε') :
    Flag (fun buffer => (flag buffer).mapError wrap) sign where
  reads present rest := by
    simp only [flags.reads present rest, Except.mapError]
  accepts := by
    intro buffer rest present read
    cases first : flag buffer with
    | error fault =>
        simp only [first, Except.mapError] at read
        cases read
    | ok parsed =>
        simp only [first, Except.mapError] at read
        cases read
        exact flags.accepts first
  nonempty := flags.nonempty

/-- Reading a flag takes symbols off the buffer. -/
theorem Flag.length_lt {flag : Decoder ε β Bool} {sign : Bool → List β} (flags : Flag flag sign)
    {buffer rest : List β} {present : Bool} (read : flag buffer = .ok (present, rest)) :
    rest.length < buffer.length := by
  have shape := congrArg List.length (flags.accepts read)
  have announced := List.length_pos_iff.mpr (flags.nonempty present)
  rw [List.length_append] at shape
  omega

/-- The items of a list, each after a flag that is set, and a flag that is not. -/
def Layout.list (sign : Bool → List β) (item : Layout β α) : Layout β (List α) where
  valid values := ∀ value ∈ values, item.valid value
  code values := (values.map fun value => sign true ++ item.code value).flatten ++ sign false
  mask values := (values.map fun value => List.replicate (sign true).length false ++
    item.mask value).flatten ++ List.replicate (sign false).length false

/-- The loop that reads items while the flag before them is set, and its result. -/
inductive Loops (flag : Decoder ε β Bool) (item : Decoder ε β α) :
    List β → Except ε (List α × List β) → Prop where
  | stop {buffer rest : List β} : flag buffer = .ok (false, rest) →
      Loops flag item buffer (.ok ([], rest))
  | flagFails {buffer : List β} {fault : ε} : flag buffer = .error fault →
      Loops flag item buffer (.error fault)
  | itemFails {buffer middle : List β} {fault : ε} : flag buffer = .ok (true, middle) →
      item middle = .error fault → Loops flag item buffer (.error fault)
  | next {buffer middle later : List β} {value : α} {result : Except ε (List α × List β)} :
      flag buffer = .ok (true, middle) → item middle = .ok (value, later) →
      Loops flag item later result →
      Loops flag item buffer (result.map fun found => (value :: found.1, found.2))

namespace Loops

variable {flag : Decoder ε β Bool} {item : Decoder ε β α} {sign : Bool → List β}
  {layout : Layout β α}

/-- The loop has one result. -/
theorem unique {buffer : List β} {first second : Except ε (List α × List β)}
    (left : Loops flag item buffer first) (right : Loops flag item buffer second) :
    first = second := by
  induction left generalizing second with
  | stop ended =>
      cases right with
      | stop again =>
          rw [ended] at again
          cases again
          rfl
      | flagFails again | itemFails again | next again =>
          rw [ended] at again
          cases again
  | flagFails failed =>
      cases right with
      | flagFails again =>
          rw [failed] at again
          cases again
          rfl
      | stop again | itemFails again | next again =>
          rw [failed] at again
          cases again
  | itemFails more failed =>
      cases right with
      | itemFails again other =>
          rw [more] at again
          cases again
          rw [failed] at other
          cases other
          rfl
      | next again other =>
          rw [more] at again
          cases again
          rw [failed] at other
          cases other
      | stop again | flagFails again =>
          rw [more] at again
          cases again
  | next more found _ ih =>
      cases right with
      | next again other tail =>
          rw [more] at again
          cases again
          rw [found] at other
          cases other
          rw [ih tail]
      | itemFails again other =>
          rw [more] at again
          cases again
          rw [found] at other
          cases other
      | stop again | flagFails again =>
          rw [more] at again
          cases again

/-- A loop whose flags take symbols and whose items give none back leaves no more than
there was. -/
theorem length_le
    (consumes : ∀ {buffer rest present}, flag buffer = .ok (present, rest) →
      rest.length < buffer.length)
    (shrinks : ∀ {buffer rest value}, item buffer = .ok (value, rest) →
      rest.length ≤ buffer.length) {buffer : List β} {result : Except ε (List α × List β)}
    (loops : Loops flag item buffer result) {values : List α} {rest : List β}
    (read : result = .ok (values, rest)) : rest.length ≤ buffer.length := by
  induction loops generalizing values rest with
  | stop ended =>
      cases read
      exact Nat.le_of_lt (consumes ended)
  | flagFails _ => cases read
  | itemFails _ _ => cases read
  | @next _ middle later value result more found _ ih =>
      cases result with
      | error fault => cases read
      | ok parsed =>
          cases read
          have announced := consumes more
          have taken := shrinks found
          have left := ih rfl
          omega

/-- The loop reads a list off its code and stops after it. -/
theorem of_list (flags : Flag flag sign) (decodes : Decodes item layout) (values : List α)
    (valid : ∀ value ∈ values, layout.valid value) (rest : List β) :
    Loops flag item ((layout.list sign).code values ++ rest) (.ok (values, rest)) := by
  induction values with
  | nil => exact .stop (flags.reads false rest)
  | cons value values ih =>
      have later := ih fun other member => valid other (List.mem_cons_of_mem _ member)
      have split : (layout.list sign).code (value :: values) ++ rest = sign true ++
          (layout.code value ++ ((layout.list sign).code values ++ rest)) := by
        simp only [Layout.list, List.map_cons, List.flatten_cons, List.append_assoc]
      rw [split]
      exact .next (flags.reads true _) (decodes.reads (valid value List.mem_cons_self) _) later

/-- What the loop accepts is a code of the list, up to padding. -/
theorem accepts (flags : Flag flag sign) (decodes : Decodes item layout) {buffer : List β}
    {result : Except ε (List α × List β)} (loops : Loops flag item buffer result)
    {values : List α} {rest : List β} (accepted : result = .ok (values, rest)) :
    ∃ consumed, buffer = consumed ++ rest ∧ (layout.list sign).valid values ∧
      AgreeOff ((layout.list sign).mask values) consumed ((layout.list sign).code values) := by
  induction loops generalizing values with
  | stop ended =>
      cases accepted
      refine ⟨sign false, flags.accepts ended, fun value member => ?_, .refl _⟩
      exact (List.not_mem_nil member).elim
  | flagFails _ => cases accepted
  | itemFails _ _ => cases accepted
  | @next _ _ _ value result more found _ ih =>
      cases result with
      | error fault => cases accepted
      | ok parsed =>
          cases accepted
          obtain ⟨tail, rfl, valids, agree⟩ := ih rfl
          obtain ⟨head, rfl, valid, agree'⟩ := decodes.accepts found
          refine ⟨sign true ++ (head ++ tail), ?_, List.forall_mem_cons.mpr ⟨valid, valids⟩, ?_⟩
          · rw [flags.accepts more, List.append_assoc, List.append_assoc]
          · have whole := (AgreeOff.refl (sign true)).append (agree'.append agree)
            simpa only [Layout.list, List.map_cons, List.flatten_cons, List.append_assoc] using
              whole

/-- Items interpreted as they are read: the loop over them is the loop over the items,
each of which has its interpretation. -/
theorem interpreted {interpret : α → Except ε γ} {buffer : List β}
    {result : Except ε (List γ × List β)}
    (loops : Loops flag (decodeThen item fun value buffer =>
      (interpret value).map fun found => (found, buffer)) buffer result)
    {founds : List γ} {rest : List β} (accepted : result = .ok (founds, rest)) :
    ∃ values, Loops flag item buffer (.ok (values, rest)) ∧
      List.Forall₂ (fun value found => interpret value = .ok found) values founds := by
  induction loops generalizing founds with
  | stop ended =>
      cases accepted
      exact ⟨[], .stop ended, .nil⟩
  | flagFails _ => cases accepted
  | itemFails _ _ => cases accepted
  | @next _ middle later found result more read _ ih =>
      cases result with
      | error fault => cases accepted
      | ok parsed =>
          cases accepted
          obtain ⟨values, loops, each⟩ := ih rfl
          cases first : item middle with
          | error fault =>
              rw [decodeThen_error first] at read
              cases read
          | ok parsed =>
              obtain ⟨value, left⟩ := parsed
              rw [decodeThen_ok first] at read
              cases computed : interpret value with
              | error fault =>
                  rw [computed] at read
                  cases read
              | ok outcome =>
                  rw [computed] at read
                  cases read
                  exact ⟨value :: values, .next more first loops, .cons computed each⟩

theorem interpret {interpret : α → Except ε γ} {buffer : List β}
    {result : Except ε (List α × List β)} (loops : Loops flag item buffer result)
    {values : List α} {rest : List β} (accepted : result = .ok (values, rest)) {founds : List γ}
    (each : List.Forall₂ (fun value found => interpret value = .ok found) values founds) :
    Loops flag (decodeThen item fun value buffer =>
      (interpret value).map fun found => (found, buffer)) buffer (.ok (founds, rest)) := by
  induction loops generalizing values founds with
  | stop ended =>
      cases accepted
      cases each
      exact .stop ended
  | flagFails _ => cases accepted
  | itemFails _ _ => cases accepted
  | @next _ middle later value result more read _ ih =>
      cases result with
      | error fault => cases accepted
      | ok parsed =>
          cases accepted
          cases each with
          | @cons _ found _ founds computed each =>
              have shown : decodeThen item (fun value buffer =>
                  (interpret value).map fun found => (found, buffer)) middle =
                    .ok (found, later) := by
                rw [decodeThen_ok read, computed]
                rfl
              exact .next more shown (ih rfl each)

end Loops

/-- Items while the flag before them is set. Each flag takes symbols of the buffer,
so fuel beyond their number is never used up. -/
def decodeWhile (flag : Decoder ε β Bool) (item : Decoder ε β α) : Nat → Decoder ε β (List α)
  | 0, buffer => .ok ([], buffer)
  | fuel + 1, buffer => do
      let (present, buffer) ← flag buffer
      if present then
        let (value, buffer) ← item buffer
        let (values, buffer) ← decodeWhile flag item fuel buffer
        return (value :: values, buffer)
      else
        return ([], buffer)

/-- The list of announced items at the front of a buffer. -/
def decodeList (flag : Decoder ε β Bool) (item : Decoder ε β α) : Decoder ε β (List α) :=
  fun buffer => decodeWhile flag item (buffer.length + 1) buffer

section Lists

variable {flag : Decoder ε β Bool} {item : Decoder ε β α} {sign : Bool → List β}
  {layout : Layout β α}

/-- Enough fuel runs the loop to its end. -/
theorem decodeWhile_loops (flags : Flag flag sign)
    (shrinks : ∀ {buffer rest : List β} {value : α}, item buffer = .ok (value, rest) →
      rest.length ≤ buffer.length) (fuel : Nat) {buffer : List β} (enough : buffer.length < fuel) :
    Loops flag item buffer (decodeWhile flag item fuel buffer) := by
  induction fuel generalizing buffer with
  | zero => exact (Nat.not_lt_zero _ enough).elim
  | succ fuel ih =>
      rw [decodeWhile]
      cases first : flag buffer with
      | error fault => exact .flagFails first
      | ok parsed =>
          obtain ⟨present, middle⟩ := parsed
          cases present with
          | false => exact .stop first
          | true =>
              cases found : item middle with
              | error fault =>
                  simp only [bind, Except.bind, ↓reduceIte, found]
                  exact .itemFails first found
              | ok parsed =>
                  obtain ⟨value, later⟩ := parsed
                  have shorter : later.length < fuel := by
                    have announced := flags.length_lt first
                    have left := shrinks found
                    omega
                  have rest := Loops.next first found (ih shorter)
                  simp only [bind, Except.bind, ↓reduceIte, found]
                  cases tail : decodeWhile flag item fuel later <;>
                    simpa only [tail, Except.map, pure, Except.pure] using rest

/-- The decoder of a list is the loop, on every input. -/
theorem decodeList_loops (flags : Flag flag sign) (decodes : Decodes item layout)
    (buffer : List β) : Loops flag item buffer (decodeList flag item buffer) :=
  decodeWhile_loops flags decodes.length_le _ (Nat.lt_succ_self _)

theorem Decodes.list (flags : Flag flag sign) (decodes : Decodes item layout) :
    Decodes (decodeList flag item) (layout.list sign) where
  reads valid rest :=
    (decodeList_loops flags decodes _).unique (.of_list flags decodes _ valid rest)
  accepts read := (decodeList_loops flags decodes _).accepts flags decodes read

end Lists

end Coding
