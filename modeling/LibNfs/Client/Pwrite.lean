import LibNfs.Client.WriteWhole

/-! # Writing in pieces

`pwrite` over every backend that stores the start of each piece, or fails without
storing anything. Whatever it returns, the file has changed by the start of the data
at the offset and by nothing else; a count that it returns is the length of that
start.
-/

namespace LibNfs.Client

theorem length_store (content : Bytes) (pos : Nat) (data : Bytes) :
    (store content pos data).length =
      if data = [] then content.length else max content.length (pos + data.length) := by
  unfold store
  split
  · rfl
  · simp only [List.length_append, List.length_take, List.length_replicate, List.length_drop]
    omega

/-- A byte of the data, of a gap that was filled, or of the file as it was. -/
theorem getElem?_store (content : Bytes) (pos : Nat) (data : Bytes) (place : Nat) :
    (store content pos data)[place]? =
      if pos ≤ place ∧ place < pos + data.length then data[place - pos]?
      else if content.length ≤ place ∧ place < pos ∧ data ≠ [] then some 0
      else content[place]? := by
  unfold store
  split
  · rename_i empty
    subst empty
    rw [if_neg (by simp), if_neg (by simp)]
  · rename_i nonempty
    have before : (content.take pos ++ List.replicate (pos - content.length) 0).length = pos := by
      simp only [List.length_append, List.length_take, List.length_replicate]
      omega
    rcases Nat.lt_or_ge place pos with left | right
    · rw [if_neg (by omega), List.append_assoc, List.getElem?_append_left (by omega)]
      rcases Nat.lt_or_ge place content.length with inside | gap
      · rw [if_neg (by omega), List.getElem?_append_left (by simp; omega),
          List.getElem?_take_of_lt left]
      · rw [if_pos ⟨gap, left, nonempty⟩, List.getElem?_append_right (by simp; omega),
          List.getElem?_replicate, if_pos (by simp; omega)]
    · rcases Nat.lt_or_ge place (pos + data.length) with inside | after
      · rw [if_pos ⟨right, inside⟩, List.getElem?_append_left (by rw [List.length_append]; omega),
          List.getElem?_append_right (by omega), before]
      · rw [if_neg (by omega), if_neg (by omega), List.getElem?_append_right
          (by rw [List.length_append]; omega), List.length_append, before, List.getElem?_drop]
        congr 1
        omega

/-- Writing on is writing at once. -/
theorem store_append (content : Bytes) (pos : Nat) (first second : Bytes) :
    store (store content pos first) (pos + first.length) second =
      store content pos (first ++ second) := by
  rcases List.eq_nil_or_concat first with rfl | ⟨_, _, some⟩
  · rw [List.length_nil, Nat.add_zero, List.nil_append]
    rfl
  have nonempty : first ≠ [] := by rw [some]; simp
  have grown := length_store content pos first
  rw [if_neg nonempty] at grown
  apply List.ext_getElem?
  intro place
  rw [getElem?_store, getElem?_store content pos (first ++ second), List.length_append, grown]
  rcases Nat.lt_or_ge place (pos + first.length) with early | late
  · -- before the second write, what the first one made
    rw [if_neg (by omega), if_neg (by omega), getElem?_store]
    by_cases inside : pos ≤ place
    · rw [if_pos ⟨inside, early⟩, if_pos ⟨inside, by omega⟩, List.getElem?_append_left (by omega)]
    · rw [if_neg (by omega), if_neg (show ¬ (pos ≤ place ∧
        place < pos + (first.length + second.length)) by omega)]
      simp only [nonempty, List.append_eq_nil_iff, ne_eq, not_false_eq_true, and_true, false_and]
  · rw [getElem?_store, if_neg (show ¬ (pos ≤ place ∧ place < pos + first.length) by omega)]
    by_cases inside : place < pos + first.length + second.length
    · rw [if_pos ⟨late, inside⟩, if_pos ⟨by omega, by omega⟩, List.getElem?_append_right (by omega)]
      congr 1
      omega
    · rw [if_neg (by omega), if_neg (by omega), if_neg (by omega), if_neg (by omega),
        if_neg (by omega)]

/-- A write stores the start of its piece and returns how much that is, or fails and
stores nothing. -/
structure StoresStart {σ : Type} (backend : Backend σ) (file : OpenFile) (content : σ → Bytes) :
    Prop where
  ok : ∀ {pos : UInt64} {piece : Bytes} {count : UInt32} {state next : σ},
    (backend.pwrite file pos piece).run state = some (.ok count, next) →
      count.toNat ≤ piece.length ∧
        content next = store (content state) pos.toNat (piece.take count.toNat)
  failed : ∀ {pos : UInt64} {piece : Bytes} {error : NfsError} {state next : σ},
    (backend.pwrite file pos piece).run state = some (.error error, next) →
      content next = content state

/-- Some bytes stand at an offset of the file, and every other byte is as it was; one
beyond the end reads as zero. -/
structure Replaced (before after : Bytes) (offset : Nat) (part : Bytes) : Prop where
  inside : ∀ place, place < part.length → after[offset + place]? = part[place]?
  outside : ∀ pos, pos < offset ∨ offset + part.length ≤ pos →
    after.getD pos 0 = before.getD pos 0
  length : after.length = if part = [] then before.length
    else max before.length (offset + part.length)

theorem replaced_store (content : Bytes) (offset : Nat) (part : Bytes) :
    Replaced content (store content offset part) offset part where
  inside place within := by
    rw [getElem?_store, if_pos ⟨by omega, by omega⟩, Nat.add_sub_cancel_left]
  outside pos apart := by
    rw [List.getD_eq_getElem?_getD, List.getD_eq_getElem?_getD, getElem?_store, if_neg (by omega)]
    split
    · rename_i gap
      rw [List.getElem?_eq_none gap.1]
      rfl
    · rfl
  length := length_store content offset part

/-- What is known of a file after a write, given what was known before. -/
def After (property : Bytes → Prop) (offset : Nat) (part content : Bytes) : Prop :=
  ∃ before, property before ∧ content = store before offset part

/-- The state of a backend holds what is known of the file: writes that succeed store the
start of their piece, and others store nothing. -/
structure Tracks {σ : Type} (backend : Backend σ) (file : OpenFile)
    (holds : (Bytes → Prop) → σ → Prop) : Prop where
  mono : ∀ {property weaker : Bytes → Prop} {state : σ}, holds property state →
    (∀ content, property content → weaker content) → holds weaker state
  ok : ∀ {property : Bytes → Prop} {pos : UInt64} {piece : Bytes} {count : UInt32} {state next : σ},
    piece.length < 2 ^ 32 → holds property state →
      (backend.pwrite file pos piece).run state = some (.ok count, next) →
        count.toNat ≤ piece.length ∧ holds (After property pos.toNat (piece.take count.toNat)) next
  failed : ∀ {property : Bytes → Prop} {pos : UInt64} {piece : Bytes} {error : NfsError}
      {state next : σ}, piece.length < 2 ^ 32 → holds property state →
    (backend.pwrite file pos piece).run state = some (.error error, next) → holds property next

/-- No write goes beyond what an offset can say. -/
def Limited {σ : Type} (backend : Backend σ) (file : OpenFile)
    (holds : (Bytes → Prop) → σ → Prop) : Prop :=
  ∀ {property : Bytes → Prop} {pos : UInt64} {piece : Bytes} {count : UInt32} {state next : σ},
    piece.length < 2 ^ 32 → holds property state →
      (backend.pwrite file pos piece).run state = some (.ok count, next) →
        pos.toNat + count.toNat < 2 ^ 64

theorem StoresStart.tracks {σ : Type} {backend : Backend σ} {file : OpenFile} {content : σ → Bytes}
    (stores : StoresStart backend file content) :
    Tracks backend file fun property state => property (content state) where
  mono isHeld implies := implies _ isHeld
  ok _ isHeld wrote := by
    obtain ⟨le, stored⟩ := stores.ok wrote
    exact ⟨le, _, isHeld, stored⟩
  failed _ isHeld ended := by
    rw [stores.failed ended]
    exact isHeld

theorem length_of_mem_chunks {size : Nat} {data piece : Bytes} (member : piece ∈ chunks size data) :
    piece.length ≤ size := by
  fun_induction chunks size data with
  | case1 data more ih =>
      rcases List.mem_cons.mp member with rfl | later
      · exact List.length_take_le _ _
      · exact ih later
  | case2 data done => cases member

namespace NfsContext

variable {σ : Type} {backend : Backend σ} {file : OpenFile} {content : σ → Bytes}

section Tracking

variable {holds : (Bytes → Prop) → σ → Prop} {property : Bytes → Prop}

/-- The start of the data that has been written: of a length that is returned, or some
length. -/
def Progress (holds : (Bytes → Prop) → σ → Prop) (property : Bytes → Prop) (offset : UInt64)
    (data : Bytes) : Except NfsError UInt64 → σ → Prop :=
  Prog.split
    (fun written state => written.toNat ≤ data.length ∧
      holds (After property offset.toNat (data.take written.toNat)) state)
    fun _ state => ∃ length ≤ data.length,
      holds (After property offset.toNat (data.take length)) state

/-- The loop of `pwrite`, once a start of the data has been written. -/
theorem pwritePieces_progress (tracks : Tracks backend file holds) {data : Bytes} {offset : UInt64}
    (fits : offset.toNat + data.length < 2 ^ 64 ∨ Limited backend file holds)
    {pieces : List Bytes} (sized : ∀ piece ∈ pieces, piece.length < 2 ^ 32)
    {pos written : UInt64} {state final : σ} {result : Except NfsError UInt64}
    (done : written.toNat ≤ data.length) (left : pieces.flatten = data.drop written.toNat)
    (position : pos.toNat = offset.toNat + written.toNat)
    (isHeld : holds (After property offset.toNat (data.take written.toNat)) state)
    (ended : (pwritePieces backend file pieces pos written).run state = some (result, final)) :
    Progress holds property offset data result final := by
  induction pieces generalizing pos written state with
  | nil =>
      cases ended
      exact ⟨done, isHeld⟩
  | cons piece pieces ih =>
      have small := sized piece List.mem_cons_self
      rcases Prog.bind_eq_some ended with ⟨error, failed, rfl⟩ | ⟨count, mid, wrote, rest⟩
      · exact ⟨written.toNat, done, tracks.failed small isHeld failed⟩
      · obtain ⟨le, more⟩ := tracks.ok small isHeld wrote
        have lengths := congrArg List.length left
        rw [List.flatten_cons, List.length_append, List.length_drop] at lengths
        have inside : pos.toNat + count.toNat < 2 ^ 64 := by
          rcases fits with bounded | limited
          · omega
          · exact limited small isHeld wrote
        have total : (written + count.toUInt64).toNat = written.toNat + count.toNat := by
          rw [UInt64.toNat_add, UInt32.toNat_toUInt64, Nat.mod_eq_of_lt (by omega)]
        have moved : (pos + count.toUInt64).toNat =
            offset.toNat + (written + count.toUInt64).toNat := by
          rw [UInt64.toNat_add, UInt32.toNat_toUInt64, Nat.mod_eq_of_lt inside, position, total,
            Nat.add_assoc]
        -- the piece follows what has been written
        have started : piece.take count.toNat = (data.drop written.toNat).take count.toNat := by
          rw [← left, List.flatten_cons, List.take_append_of_le_length le]
        have grown : holds (After property offset.toNat
            (data.take (written + count.toUInt64).toNat)) mid := by
          apply tracks.mono more
          rintro _ ⟨_, ⟨before, known, rfl⟩, rfl⟩
          have reached : offset.toNat + written.toNat =
              offset.toNat + (data.take written.toNat).length := by
            rw [List.length_take, Nat.min_eq_left done]
          refine ⟨before, known, ?_⟩
          rw [position, reached, store_append, started, total, List.take_add]
        by_cases short : count.toNat < piece.length
        · rw [if_pos short] at rest
          cases rest
          exact ⟨by omega, grown⟩
        · rw [if_neg short] at rest
          have full : count.toNat = piece.length := by omega
          refine ih (fun other member => sized other (List.mem_cons_of_mem piece member)) (by omega)
            ?_ moved grown rest
          rw [total, ← List.drop_drop, ← left, List.flatten_cons, full, List.drop_left]

theorem pwrite_progress (tracks : Tracks backend file holds) {offset : UInt64} {data : Slice}
    (fits : offset.toNat + data.bytes.length < 2 ^ 64 ∨ Limited backend file holds)
    {state final : σ} {result : Except NfsError UInt64} (isHeld : holds property state)
    (ended : (pwrite backend file offset data).run state = some (result, final)) :
    Progress holds property offset data.bytes result final := by
  obtain ⟨positive, ended⟩ := pwrite_eq_some ended
  have sized : ∀ piece ∈ chunks (backend.prefWrite state).toNat data.bytes, piece.length < 2 ^ 32 :=
    fun piece member => Nat.lt_of_le_of_lt (length_of_mem_chunks member)
      (backend.prefWrite state).toNat_lt
  have nothing : holds (After property offset.toNat (data.bytes.take 0)) state :=
    tracks.mono isHeld fun content known => ⟨content, known, rfl⟩
  have whole : (chunks (backend.prefWrite state).toNat data.bytes).flatten =
      data.bytes.drop (0 : UInt64).toNat := flatten_chunks positive data.bytes
  exact pwritePieces_progress tracks fits sized (Nat.zero_le _) whole rfl nothing ended

end Tracking

/-- However `pwrite` ends, the file has changed by the start of the data at the offset and by
nothing else; the length that it returns is that of the start. -/
theorem pwrite_replaces (stores : StoresStart backend file content) {offset : UInt64} {data : Slice}
    (bounded : offset.toNat + data.bytes.length < 2 ^ 64) {state final : σ}
    {result : Except NfsError UInt64}
    (ended : (pwrite backend file offset data).run state = some (result, final)) :
    (∀ written, result = .ok written → written.toNat ≤ data.bytes.length ∧
        Replaced (content state) (content final) offset.toNat (data.bytes.take written.toNat)) ∧
      ∀ error, result = .error error → ∃ length ≤ data.bytes.length,
        Replaced (content state) (content final) offset.toNat (data.bytes.take length) := by
  have progress := @pwrite_progress σ backend file _ (· = content state) stores.tracks offset data
    (.inl bounded) state final result rfl ended
  constructor
  · rintro written rfl
    obtain ⟨within, before, rfl, stored⟩ := progress
    rw [stored]
    exact ⟨within, replaced_store _ _ _⟩
  · rintro error rfl
    obtain ⟨length, within, before, rfl, stored⟩ := progress
    rw [stored]
    exact ⟨length, within, replaced_store _ _ _⟩

/-- The backend stores every piece in full, as long as it holds the file with a content. -/
def StoresAll {σ : Type} (backend : Backend σ) (file : OpenFile) (holds : Bytes → σ → Prop) : Prop :=
  ∀ (content piece : Bytes) (pos : UInt64) (state : σ), holds content state →
    piece.length < 2 ^ 32 → pos.toNat + piece.length < 2 ^ 64 → ∃ next,
      (backend.pwrite file pos piece).run state = some (.ok (UInt32.ofNat piece.length), next) ∧
        holds (store content pos.toNat piece) next

variable {holds : Bytes → σ → Prop} {before : Bytes} {state : σ}

theorem pwritePieces_stores (stores : StoresAll backend file holds) {pieces : List Bytes}
    (sized : ∀ piece ∈ pieces, piece.length < 2 ^ 32) {pos written : UInt64}
    (bounded : pos.toNat + pieces.flatten.length < 2 ^ 64)
    (isHeld : holds before state) :
    ∃ next, (pwritePieces backend file pieces pos written).run state =
        some (.ok (written + UInt64.ofNat pieces.flatten.length), next) ∧
      holds (store before pos.toNat pieces.flatten) next := by
  induction pieces generalizing pos written before state with
  | nil =>
      refine ⟨state, ?_, isHeld⟩
      have zero : written + UInt64.ofNat ([] : List Bytes).flatten.length = written := by simp
      rw [zero]
      rfl
  | cons piece pieces ih =>
      rw [List.flatten_cons, List.length_append] at bounded ⊢
      have small := sized piece List.mem_cons_self
      have inside : pos.toNat + piece.length < 2 ^ 64 := by omega
      have fits : piece.length < 2 ^ 64 := by omega
      obtain ⟨mid, wrote, midHeld⟩ := stores before piece pos state isHeld small inside
      have counted : (UInt32.ofNat piece.length).toNat = piece.length :=
        UInt32.toNat_ofNat_of_lt' small
      have full : ¬ (UInt32.ofNat piece.length).toNat < piece.length := by omega
      have wide : (UInt32.ofNat piece.length).toUInt64 = UInt64.ofNat piece.length := by
        apply UInt64.toNat_inj.mp
        rw [UInt32.toNat_toUInt64, counted, UInt64.toNat_ofNat_of_lt' fits]
      have moved : (pos + UInt64.ofNat piece.length).toNat = pos.toNat + piece.length := by
        rw [UInt64.toNat_add, UInt64.toNat_ofNat_of_lt' fits, Nat.mod_eq_of_lt inside]
      have later : (pos + UInt64.ofNat piece.length).toNat + pieces.flatten.length < 2 ^ 64 := by
        rw [moved]
        omega
      obtain ⟨final, rest, finalHeld⟩ := @ih (store before pos.toNat piece) mid
        (fun other member => sized other (List.mem_cons_of_mem piece member))
        (pos + UInt64.ofNat piece.length) (written + UInt64.ofNat piece.length) later midHeld
      refine ⟨final, ?_, ?_⟩
      · rw [pwritePieces, Prog.bind_of_ok wrote, if_neg full, wide, rest, UInt64.ofNat_add,
          UInt64.add_assoc]
      · rw [moved, store_append] at finalHeld
        exact finalHeld

/-- `pwrite` stores all of the data, and returns its length. -/
theorem pwrite_stores (stores : StoresAll backend file holds) {offset : UInt64} {data : Slice}
    (bounded : offset.toNat + data.bytes.length < 2 ^ 64) (positive : 0 < backend.prefWrite state)
    (isHeld : holds before state) :
    ∃ next, (pwrite backend file offset data).run state =
        some (.ok (UInt64.ofNat data.bytes.length), next) ∧
      holds (store before offset.toNat data.bytes) next := by
  have nonzero : backend.prefWrite state ≠ 0 := (UInt32.ne_of_lt positive).symm
  have size : 0 < (backend.prefWrite state).toNat := UInt32.lt_iff_toNat_lt.mp positive
  have whole := flatten_chunks size data.bytes
  have sized : ∀ piece ∈ chunks (backend.prefWrite state).toNat data.bytes,
      piece.length < 2 ^ 32 :=
    fun piece member => Nat.lt_of_le_of_lt (length_of_mem_chunks member)
      (backend.prefWrite state).toNat_lt
  obtain ⟨next, ran, after⟩ := @pwritePieces_stores σ backend file holds before state stores _ sized
    offset 0 (by rw [whole]; exact bounded) isHeld
  rw [whole, UInt64.zero_add] at ran
  rw [whole] at after
  refine ⟨next, ?_, after⟩
  rw [pwrite, Prog.bind_of_ok (rfl : Prog.get.run state = _), if_neg nonzero]
  exact ran

theorem storesStart_memory (limit : Nat) (file : OpenFile) :
    StoresStart (memory limit) file Memory.content where
  ok ended := by
    obtain ⟨le, stored, -⟩ := (memory_contract limit).pwrite ended
    exact ⟨le, stored⟩
  failed ended := by cases ended

/-- One byte of two is stored between the others. -/
theorem pwrite_replaces_one :
    Replaced [9, 9, 9] [9, 1, 9] 1 [1] := by
  have ended : (pwrite (memory 1) ⟨[1], none, true⟩ 1 twoBytes).run ⟨[9, 9, 9], []⟩ =
      some (.ok 1, ⟨[9, 1, 9], [⟨[1, 2], 1⟩]⟩) := by decide +kernel
  exact ((pwrite_replaces (storesStart_memory 1 _) (by decide) ended).1 1 rfl).2

end NfsContext

end LibNfs.Client
