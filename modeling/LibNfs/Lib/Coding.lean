import Mathlib.Data.List.Forall2

/-! # Self-delimiting codes

An encoder appends a code to a buffer and a decoder reads a value off the front
of one. `Writes` and `Reads` say that a string is the code of a value whatever
stands before, respectively after, it, so codes of several values concatenate.
`AgreeOff` compares two strings everywhere but on masked positions.
-/

namespace Coding

universe uError uSymbol uValue

variable {ε : Type uError} {β : Type uSymbol} {α : Type uValue}

/-- An encoder extends a buffer, or fails. -/
abbrev Encoder (ε : Type uError) (β : Type uSymbol) (α : Type uValue) :=
  α → List β → Except ε (List β)

/-- A decoder splits a value off the front of a buffer, or fails. -/
abbrev Decoder (ε : Type uError) (β : Type uSymbol) (α : Type uValue) :=
  List β → Except ε (α × List β)

/-- The encoder appends exactly `code` for `value`, to any buffer. -/
def Writes (encode : Encoder ε β α) (value : α) (code : List β) : Prop :=
  ∀ buffer, encode value buffer = .ok (buffer ++ code)

/-- The decoder reads exactly `value` off `code`, whatever follows. -/
def Reads (decode : Decoder ε β α) (value : α) (code : List β) : Prop :=
  ∀ rest, decode (code ++ rest) = .ok (value, rest)

/-- A value has at most one code. -/
theorem Writes.unique {encode : Encoder ε β α} {value : α} {first second : List β}
    (left : Writes encode value first) (right : Writes encode value second) : first = second := by
  have same := (left []).symm.trans (right [])
  simpa using same

section Pairs

variable {γ : Type uValue}

/-- Encoding two values one after the other. -/
def encodePair (first : Encoder ε β α) (second : Encoder ε β γ) : Encoder ε β (α × γ) :=
  fun value buffer => do
    let buffer ← first value.1 buffer
    second value.2 buffer

/-- Decoding two values one after the other. -/
def decodePair (first : Decoder ε β α) (second : Decoder ε β γ) : Decoder ε β (α × γ) :=
  fun buffer => do
    let (left, buffer) ← first buffer
    let (right, buffer) ← second buffer
    return ((left, right), buffer)

theorem Writes.pair {first : Encoder ε β α} {second : Encoder ε β γ} {value : α × γ}
    {left right : List β} (head : Writes first value.1 left) (tail : Writes second value.2 right) :
    Writes (encodePair first second) value (left ++ right) := by
  intro buffer
  simp only [encodePair, head buffer, bind, Except.bind, tail (buffer ++ left), List.append_assoc]

theorem Reads.pair {first : Decoder ε β α} {second : Decoder ε β γ} {value : α × γ}
    {left right : List β} (head : Reads first value.1 left) (tail : Reads second value.2 right) :
    Reads (decodePair first second) value (left ++ right) := by
  intro rest
  simp only [decodePair, List.append_assoc, head (right ++ rest), bind, Except.bind, tail rest]
  rfl

/-- A pair was read one component after the other. -/
theorem decodePair_inv {first : Decoder ε β α} {second : Decoder ε β γ} {buffer rest : List β}
    {value : α × γ} (read : decodePair first second buffer = .ok (value, rest)) :
    ∃ middle, first buffer = .ok (value.1, middle) ∧ second middle = .ok (value.2, rest) := by
  unfold decodePair at read
  cases head : first buffer with
  | error fault => simp [head, bind, Except.bind] at read
  | ok parsed =>
      obtain ⟨left, middle⟩ := parsed
      cases tail : second middle with
      | error fault => simp [head, tail, bind, Except.bind] at read
      | ok parsed =>
          obtain ⟨right, final⟩ := parsed
          simp only [head, tail, bind, Except.bind, pure, Except.pure, Except.ok.injEq,
            Prod.mk.injEq] at read
          obtain ⟨rfl, rfl⟩ := read
          exact ⟨middle, rfl, tail⟩

end Pairs

/-- Encoding the items of a list in order. -/
def encodeAll (encode : Encoder ε β α) : Encoder ε β (List α) :=
  fun items buffer => items.foldlM (fun buffer item => encode item buffer) buffer

/-- Decoding a given number of items in order. -/
def decodeMany (decode : Decoder ε β α) : Nat → Decoder ε β (List α)
  | 0, buffer => .ok ([], buffer)
  | count + 1, buffer => do
      let (item, buffer) ← decode buffer
      let (items, buffer) ← decodeMany decode count buffer
      return (item :: items, buffer)

@[simp] theorem encodeAll_nil (encode : Encoder ε β α) (buffer : List β) :
    encodeAll encode [] buffer = .ok buffer := rfl

theorem encodeAll_cons (encode : Encoder ε β α) (item : α) (items : List α) (buffer : List β) :
    encodeAll encode (item :: items) buffer =
      (encode item buffer).bind (encodeAll encode items) := rfl

/-- `codes` are the codes of `items`, one for each. -/
abbrev WritesAll (encode : Encoder ε β α) (items : List α) (codes : List (List β)) : Prop :=
  List.Forall₂ (Writes encode) items codes

/-- `codes` are read as `items`, one for each. -/
abbrev ReadsAll (decode : Decoder ε β α) (items : List α) (codes : List (List β)) : Prop :=
  List.Forall₂ (Reads decode) items codes

/-- The code of a list is the concatenation of its items' codes. -/
theorem WritesAll.flatten {encode : Encoder ε β α} {items : List α} {codes : List (List β)}
    (each : WritesAll encode items codes) : Writes (encodeAll encode) items codes.flatten := by
  induction each with
  | nil =>
      intro buffer
      simp only [encodeAll_nil, List.flatten_nil, List.append_nil]
  | cons head _ ih =>
      intro buffer
      rw [encodeAll_cons, head buffer]
      simpa only [Except.bind, List.flatten_cons, List.append_assoc] using ih (buffer ++ _)

theorem ReadsAll.flatten {decode : Decoder ε β α} {items : List α} {codes : List (List β)}
    (each : ReadsAll decode items codes) :
    Reads (decodeMany decode items.length) items codes.flatten := by
  induction each with
  | nil => intro rest; rfl
  | cons head _ ih =>
      intro rest
      simp only [List.length_cons, List.flatten_cons, List.append_assoc, decodeMany]
      rw [head]
      simp only [bind, Except.bind]
      rw [ih]
      rfl

/-- The first of the items, and the others. -/
theorem decodeMany_succ_inv {decode : Decoder ε β α} {count : Nat} {buffer rest : List β}
    {items : List α} (read : decodeMany decode (count + 1) buffer = .ok (items, rest)) :
    ∃ item middle others, items = item :: others ∧ decode buffer = .ok (item, middle) ∧
      decodeMany decode count middle = .ok (others, rest) := by
  simp only [decodeMany] at read
  cases head : decode buffer with
  | error fault => simp [head, bind, Except.bind] at read
  | ok parsed =>
      obtain ⟨item, middle⟩ := parsed
      cases tail : decodeMany decode count middle with
      | error fault => simp [head, tail, bind, Except.bind] at read
      | ok parsed =>
          obtain ⟨others, final⟩ := parsed
          simp only [head, tail, bind, Except.bind, pure, Except.pure] at read
          cases read
          exact ⟨item, middle, others, rfl, rfl, tail⟩

theorem decodeMany_length {decode : Decoder ε β α} {count : Nat} {buffer rest : List β}
    {items : List α} (read : decodeMany decode count buffer = .ok (items, rest)) :
    items.length = count := by
  induction count generalizing buffer items with
  | zero =>
      cases read
      rfl
  | succ count ih =>
      obtain ⟨item, middle, others, rfl, -, tail⟩ := decodeMany_succ_inv read
      exact congrArg Nat.succ (ih tail)

/-- Items read in order were each read off their own part of the input. -/
theorem decodeMany_inv {decode : Decoder ε β α} {accepts : α → List β → Prop}
    (each : ∀ {buffer rest : List β} {item : α}, decode buffer = .ok (item, rest) →
      ∃ code, buffer = code ++ rest ∧ accepts item code)
    {count : Nat} {buffer rest : List β} {items : List α}
    (read : decodeMany decode count buffer = .ok (items, rest)) :
    items.length = count ∧
      ∃ codes, buffer = codes.flatten ++ rest ∧ List.Forall₂ accepts items codes := by
  induction count generalizing buffer items with
  | zero =>
      cases read
      exact ⟨rfl, [], rfl, .nil⟩
  | succ count ih =>
      obtain ⟨item, middle, others, rfl, head, tail⟩ := decodeMany_succ_inv read
      obtain ⟨sized, codes, rfl, accepted⟩ := ih tail
      obtain ⟨code, rfl, here⟩ := each head
      refine ⟨congrArg Nat.succ sized, code :: codes, ?_, .cons here accepted⟩
      rw [List.flatten_cons, List.append_assoc]

theorem exists_code_of_mem {accepts : α → List β → Prop} {items : List α} {codes : List (List β)}
    (each : List.Forall₂ accepts items codes) {item : α} (member : item ∈ items) :
    ∃ code, accepts item code := by
  induction each with
  | nil => exact (List.not_mem_nil member).elim
  | cons here _ ih =>
      rcases List.mem_cons.mp member with rfl | later
      · exact ⟨_, here⟩
      · exact ih later

theorem exists_item_of_mem {accepts : α → List β → Prop} {items : List α} {codes : List (List β)}
    (each : List.Forall₂ accepts items codes) {code : List β} (member : code ∈ codes) :
    ∃ item, accepts item code := by
  induction each with
  | nil => exact (List.not_mem_nil member).elim
  | cons here _ ih =>
      rcases List.mem_cons.mp member with rfl | later
      · exact ⟨_, here⟩
      · exact ih later

/-- A nonempty code for each item makes the whole at least as long as the list. -/
theorem length_le_flatten {codes : List (List β)} (nonempty : ∀ code ∈ codes, code ≠ []) :
    codes.length ≤ codes.flatten.length := by
  induction codes with
  | nil => exact Nat.le_refl 0
  | cons code rest ih =>
      have head : 0 < code.length := List.length_pos_iff.mpr (nonempty code (by simp))
      have tail := ih fun other member => nonempty other (by simp [member])
      simp only [List.length_cons, List.flatten_cons, List.length_append]
      omega

section Cuts

variable {γ : Type uValue} {short : ε → Prop}

/-- A decoder chosen by the value read before it. -/
def decodeThen (first : Decoder ε β α) (next : α → Decoder ε β γ) : Decoder ε β γ :=
  fun buffer => (first buffer).bind fun parsed => next parsed.1 parsed.2

theorem decodeThen_ok {first : Decoder ε β α} {buffer rest : List β} {value : α}
    (read : first buffer = .ok (value, rest)) (next : α → Decoder ε β γ) :
    decodeThen first next buffer = next value rest := by
  rw [decodeThen, read]
  rfl

theorem decodeThen_error {first : Decoder ε β α} {buffer : List β} {fault : ε}
    (refused : first buffer = .error fault) (next : α → Decoder ε β γ) :
    decodeThen first next buffer = .error fault := by
  rw [decodeThen, refused]
  rfl

/-- Every strict prefix of `code` is refused with an error that means it is short. -/
def Cuts (short : ε → Prop) (decode : Decoder ε β α) (code : List β) : Prop :=
  ∀ front back, code = front ++ back → back ≠ [] → ∃ fault, decode front = .error fault ∧ short fault

theorem Cuts.nil {decode : Decoder ε β α} : Cuts short decode [] := by
  intro front back joined some
  exact (some (List.append_eq_nil_iff.mp joined.symm).2).elim

/-- What a decoder does after it has read changes nothing about cuts. -/
theorem Cuts.head {first : Decoder ε β α} {code : List β} (cuts : Cuts short first code)
    (next : α → Decoder ε β γ) : Cuts short (decodeThen first next) code := by
  intro front back joined some
  obtain ⟨fault, refused, means⟩ := cuts front back joined some
  exact ⟨fault, decodeThen_error refused next, means⟩

/-- A cut of two codes is a cut of the first, or the first and a cut of the second. -/
theorem Cuts.both {first : Decoder ε β α} {next : α → Decoder ε β γ} {value : α}
    {left right : List β} (reads : Reads first value left) (head : Cuts short first left)
    (tail : Cuts short (next value) right) :
    Cuts short (decodeThen first next) (left ++ right) := by
  intro front back joined some
  rcases List.append_eq_append_iff.mp joined with ⟨middle, rfl, cut⟩ | ⟨middle, cut, rfl⟩
  · obtain ⟨fault, refused, means⟩ := tail middle back cut some
    exact ⟨fault, (decodeThen_ok (reads middle) next).trans refused, means⟩
  · by_cases none : middle = []
    · rw [none, List.append_nil] at cut
      rw [none, List.nil_append] at some
      obtain ⟨fault, refused, means⟩ := tail [] right rfl some
      have whole := reads []
      rw [List.append_nil, cut] at whole
      exact ⟨fault, (decodeThen_ok whole next).trans refused, means⟩
    · exact (head.head next) front middle cut none

theorem Cuts.pair {first : Decoder ε β α} {second : Decoder ε β γ} {value : α}
    {left right : List β} (reads : Reads first value left) (head : Cuts short first left)
    (tail : Cuts short second right) :
    Cuts short (decodePair first second) (left ++ right) := by
  have parts : decodePair first second = decodeThen first fun left =>
      decodeThen second fun right buffer => .ok ((left, right), buffer) := rfl
  rw [parts]
  exact Cuts.both reads head (tail.head _)

/-- A list of codes is cut inside one of them, after the ones before it. -/
theorem Cuts.many {decode : Decoder ε β α} {items : List α} {codes : List (List β)}
    (reads : ReadsAll decode items codes) (each : ∀ code ∈ codes, Cuts short decode code) :
    Cuts short (decodeMany decode items.length) codes.flatten := by
  induction reads with
  | nil => exact .nil
  | @cons item code items codes head _ ih =>
      have parts : decodeMany decode (items.length + 1) = decodeThen decode fun item =>
          decodeThen (decodeMany decode items.length) fun items buffer =>
            .ok (item :: items, buffer) := rfl
      have later := ih fun other member => each other (List.mem_cons_of_mem _ member)
      rw [List.length_cons, parts, List.flatten_cons]
      exact Cuts.both head (each code List.mem_cons_self) (later.head _)

end Cuts

/-- Two strings of the mask's length that agree where the mask is `false`. -/
inductive AgreeOff : List Bool → List β → List β → Prop where
  | nil : AgreeOff [] [] []
  | masked {mask : List Bool} {left right : List β} (first second : β) :
      AgreeOff mask left right → AgreeOff (true :: mask) (first :: left) (second :: right)
  | kept {mask : List Bool} {left right : List β} (symbol : β) :
      AgreeOff mask left right → AgreeOff (false :: mask) (symbol :: left) (symbol :: right)

namespace AgreeOff

variable {mask : List Bool} {left right : List β}

theorem length_eq (agree : AgreeOff mask left right) : left.length = right.length := by
  induction agree with
  | nil => rfl
  | masked _ _ _ ih | kept _ _ ih => simp only [List.length_cons, ih]

theorem append {mask' : List Bool} {left' right' : List β} (agree : AgreeOff mask left right)
    (agree' : AgreeOff mask' left' right') :
    AgreeOff (mask ++ mask') (left ++ left') (right ++ right') := by
  induction agree with
  | nil => simpa using agree'
  | masked first second _ ih => exact .masked first second ih
  | kept symbol _ ih => exact .kept symbol ih

/-- Nothing masked means equality. -/
theorem refl (string : List β) : AgreeOff (List.replicate string.length false) string string := by
  induction string with
  | nil => exact .nil
  | cons symbol rest ih => exact .kept symbol ih

/-- Everything masked leaves only the length. -/
theorem all_masked (left right : List β) (same : left.length = right.length) :
    AgreeOff (List.replicate right.length true) left right := by
  induction right generalizing left with
  | nil =>
      cases List.length_eq_zero_iff.mp same
      exact .nil
  | cons symbol rest ih =>
      obtain ⟨first, others, rfl⟩ := List.exists_cons_of_length_eq_add_one same
      exact .masked first symbol (ih others (by simpa using same))

theorem flatten {items : List α} {masks : α → List Bool} {codes : List (List β)}
    {canonical : α → List β}
    (each : List.Forall₂ (fun item code => AgreeOff (masks item) code (canonical item)) items codes) :
    AgreeOff (items.map masks).flatten codes.flatten (items.map canonical).flatten := by
  induction each with
  | nil => exact .nil
  | cons head _ ih => exact head.append ih

/-- Positionwise reading: an unmasked position carries the same symbol in both. -/
theorem getElem?_eq (agree : AgreeOff mask left right) (index : Nat)
    (unmasked : mask[index]? ≠ some true) : left[index]? = right[index]? := by
  induction agree generalizing index with
  | nil => rfl
  | masked _ _ _ ih =>
      cases index with
      | zero => simp at unmasked
      | succ index => simpa using ih index (by simpa using unmasked)
  | kept _ _ ih =>
      cases index with
      | zero => rfl
      | succ index => simpa using ih index (by simpa using unmasked)

end AgreeOff

end Coding
