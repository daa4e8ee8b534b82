import LibNfs.Client.Context

/-! # Writing a whole file

`write_whole` over every backend that keeps the contract of `Backend::pwrite`: a
write stores some part of the piece it is given, from its start, and returns how
much. `pwrite` returns the total and `write_whole` drops it, so a write that was
cut short still ends with `Ok(())`; the file then holds a strict part of the data.
-/

namespace LibNfs.Client

/-- What a write at an offset makes of a file; a gap before it is filled with
zeros. -/
def store (content : Bytes) (pos : Nat) (data : Bytes) : Bytes :=
  if data = [] then
    content
  else
    content.take pos ++ List.replicate (pos - content.length) 0 ++ data ++
      content.drop (pos + data.length)

theorem store_at_end (content data : Bytes) :
    store content content.length data = content ++ data := by
  unfold store
  split
  · rename_i empty
    rw [empty, List.append_nil]
  · simp

/-- A write that a backend made: the piece it was given and how much of it was
stored. -/
structure Write where
  piece : Bytes
  count : UInt32
  deriving DecidableEq, Repr

/-- The whole piece was stored. -/
def Write.Full (write : Write) : Prop :=
  write.count.toNat = write.piece.length

instance : DecidablePred Write.Full :=
  fun _ => inferInstanceAs (Decidable (_ = _))

/-- What can be seen of the state of a backend: the content of each file, and the
writes made so far. -/
structure View (σ : Type) where
  content : σ → ObjId → Bytes
  writes : σ → List Write

/-- The contract of a backend that nobody else writes to. -/
structure Contract {σ : Type} (backend : Backend σ) (view : View σ) : Prop where
  pwrite : ∀ {file : OpenFile} {pos : UInt64} {piece : Bytes} {count : UInt32} {state next : σ},
    (backend.pwrite file pos piece).run state = some (.ok count, next) →
      count.toNat ≤ piece.length ∧
      view.content next file.fh =
        store (view.content state file.fh) pos.toNat (piece.take count.toNat) ∧
      view.writes next = view.writes state ++ [⟨piece, count⟩]
  truncate : ∀ {fh : ObjId} {attr : SetAttr} {state next : σ}, attr.size = some 0 →
    (backend.setattr fh attr).run state = some (.ok (), next) → view.content next fh = []
  commit : ∀ {file : OpenFile} {result : Except NfsError Unit} {state next : σ},
    (backend.commit file).run state = some (result, next) →
      view.content next = view.content state ∧ view.writes next = view.writes state
  close : ∀ {file : OpenFile} {result : Except NfsError Unit} {state next : σ},
    (backend.close file).run state = some (result, next) →
      view.content next = view.content state ∧ view.writes next = view.writes state

theorem flatten_chunks {size : Nat} (positive : 0 < size) (data : Bytes) :
    (chunks size data).flatten = data := by
  fun_induction chunks size data with
  | case1 data more ih => rw [List.flatten_cons, ih, List.take_append_drop]
  | case2 data done =>
      have empty : data = [] := by
        by_contra nonempty
        exact done ⟨positive, nonempty⟩
      rw [empty, List.flatten_nil]

namespace NfsContext

variable {σ : Type} {backend : Backend σ} {view : View σ} {root : ObjId}

/-- The writes made since a state, and what they made of a file that was to hold
`data`: it does exactly when all of them were full. -/
def Wrote (view : View σ) (before after : σ) (fh : ObjId) (data : Bytes) : Prop :=
  ∃ made, view.writes after = view.writes before ++ made ∧
    (view.content after fh = data ↔ ∀ write ∈ made, write.Full)

/-- The loop of `pwrite`, from the end of the file. -/
theorem pwritePieces_wrote (contract : Contract backend view) {file : OpenFile}
    {pieces : List Bytes} {pos written total : UInt64} {state final : σ}
    (position : pos.toNat = (view.content state file.fh).length)
    (bounded : (view.content state file.fh ++ pieces.flatten).length < 2 ^ 64)
    (ended : (pwritePieces backend file pieces pos written).run state = some (.ok total, final)) :
    Wrote view state final file.fh (view.content state file.fh ++ pieces.flatten) := by
  induction pieces generalizing pos written state with
  | nil =>
      cases ended
      exact ⟨[], by simp, by simp⟩
  | cons piece pieces ih =>
      obtain ⟨count, mid, wrote, rest⟩ := Prog.bind_eq_ok ended
      obtain ⟨le, content, writes⟩ := contract.pwrite wrote
      rw [position, store_at_end] at content
      by_cases short : count.toNat < piece.length
      · rw [if_pos short] at rest
        cases rest
        refine ⟨[⟨piece, count⟩], writes, ?_⟩
        -- less than the piece was stored, and nothing after it
        have fewer : view.content final file.fh ≠
            view.content state file.fh ++ (piece :: pieces).flatten := by
          intro same
          have lengths := congrArg List.length (content.symm.trans same)
          simp only [List.length_append, List.length_take, List.flatten_cons] at lengths
          omega
        have partly : ¬ Write.Full ⟨piece, count⟩ := Nat.ne_of_lt short
        exact iff_of_false fewer fun all => partly (all _ List.mem_cons_self)
      · rw [if_neg short] at rest
        have full : count.toNat = piece.length := Nat.le_antisymm le (Nat.not_lt.mp short)
        rw [full, List.take_length] at content
        rw [List.flatten_cons, ← List.append_assoc, ← content] at bounded ⊢
        have moved : (pos + count.toUInt64).toNat = (view.content mid file.fh).length := by
          rw [List.length_append, content, List.length_append] at bounded
          rw [content, List.length_append, UInt64.toNat_add, UInt32.toNat_toUInt64, position,
            full, Nat.mod_eq_of_lt (by omega)]
        obtain ⟨made, extended, same⟩ := ih moved bounded rest
        refine ⟨⟨piece, count⟩ :: made, by rw [extended, writes, List.append_assoc]; rfl, ?_⟩
        rw [same, List.forall_mem_cons]
        exact ⟨fun others => ⟨full, others⟩, fun all => all.2⟩

/-- A call of `pwrite` that ends is the loop over the pieces, which are not empty. -/
theorem pwrite_eq_some {file : OpenFile} {offset : UInt64} {data : Slice} {state final : σ}
    {result : Except NfsError UInt64}
    (ended : (pwrite backend file offset data).run state = some (result, final)) :
    0 < (backend.prefWrite state).toNat ∧
      (pwritePieces backend file (chunks (backend.prefWrite state).toNat data.bytes) offset 0).run
        state = some (result, final) := by
  have started : (pwrite backend file offset data).run state =
      (if backend.prefWrite state = 0 then Prog.abort else
        pwritePieces backend file (chunks (backend.prefWrite state).toNat data.bytes) offset 0).run
          state := rfl
  rw [started] at ended
  split at ended
  · cases ended
  · rename_i chunked
    refine ⟨Nat.pos_of_ne_zero fun zero => chunked ?_, ended⟩
    exact UInt32.toNat_inj.mp zero

/-- Writing a slice to an empty file. -/
theorem pwrite_wrote (contract : Contract backend view) {file : OpenFile} {data : Slice}
    {total : UInt64} {state final : σ} (empty : view.content state file.fh = [])
    (ended : (pwrite backend file 0 data).run state = some (.ok total, final)) :
    Wrote view state final file.fh data.bytes := by
  obtain ⟨positive, ended⟩ := pwrite_eq_some ended
  have whole := flatten_chunks positive data.bytes
  have bounded := data.bounded
  have wrote := pwritePieces_wrote contract (by rw [empty]; rfl)
    (by rw [empty, List.nil_append, whole]; omega) ended
  rwa [empty, List.nil_append, whole] at wrote

/-- A file just created is empty. -/
theorem create_empty (contract : Contract backend view) {path : String} {file : OpenFile}
    {state mid : σ} (created : (create backend root path).run state = some (.ok file, mid)) :
    view.content mid file.fh = [] := by
  obtain ⟨⟨dir, name⟩, _, -, created⟩ := Prog.bind_eq_ok created
  obtain ⟨_, _, -, created⟩ := Prog.bind_eq_ok created
  rw [if_pos (by decide)] at created
  obtain ⟨_, _, truncated, created⟩ := Prog.bind_eq_ok created
  cases created
  exact contract.truncate rfl truncated

/-- Closing leaves the content and the writes as they are. -/
theorem close_keeps (contract : Contract backend view) {file : OpenFile}
    {result : Except NfsError Unit} {state final : σ}
    (ended : (close backend file).run state = some (result, final)) :
    view.content final = view.content state ∧ view.writes final = view.writes state := by
  unfold close at ended
  split at ended
  · rcases Prog.bind_eq_some ended with ⟨_, failed, -⟩ | ⟨_, mid, committed, closed⟩
    · obtain ⟨_, ⟨⟩, _⟩ := Prog.outcome_eq_some failed
    · obtain ⟨_, -, committed⟩ := Prog.outcome_eq_some committed
      have first := contract.commit committed
      have second := contract.close closed
      exact ⟨second.1.trans first.1, second.2.trans first.2⟩
  · exact contract.close ended

/-- When `write_whole` returns `Ok(())`, the file holds the data exactly when no
write was cut short. -/
theorem content_iff_full (contract : Contract backend view) {path : String} {data : Slice}
    {file : OpenFile} {state mid final : σ}
    (created : (create backend root path).run state = some (.ok file, mid))
    (returned : (writeWhole backend root path data).run state = some (.ok (), final)) :
    ∃ made, view.writes final = view.writes mid ++ made ∧
      (view.content final file.fh = data.bytes ↔ ∀ write ∈ made, write.Full) := by
  rw [writeWhole, Prog.bind_of_ok created] at returned
  obtain ⟨result, last, wrote, returned⟩ := Prog.bind_eq_ok returned
  obtain ⟨_, _, closed, returned⟩ := Prog.bind_eq_ok returned
  cases returned
  obtain ⟨_, ⟨⟩, wrote⟩ := Prog.outcome_eq_some wrote
  obtain ⟨total, _, wrote, done⟩ := Prog.bind_eq_ok wrote
  cases done
  obtain ⟨content, writes⟩ := close_keeps contract closed
  obtain ⟨made, extended, same⟩ := pwrite_wrote contract (create_empty contract created) wrote
  exact ⟨made, writes.trans extended, by rw [content]; exact same⟩

end NfsContext

/-- One file, and the writes made to it. -/
structure Memory where
  content : Bytes
  writes : List Write
  deriving DecidableEq, Repr

/-- Keeps every name as the same file, and stores at most `limit` bytes at a time. -/
def memory (limit : Nat) : Backend Memory where
  prefWrite _ := 32 * 1024
  lookup _ _ := Prog.throw .notFound
  «open» _ _ opts := return ⟨[1], none, opts.write⟩
  close _ := return ()
  pwrite _ pos piece := ⟨fun memory =>
    let count := UInt32.ofNat (min limit piece.length)
    some (.ok count,
      { content := store memory.content pos.toNat (piece.take count.toNat)
        writes := memory.writes ++ [⟨piece, count⟩] })⟩
  commit _ := return ()
  readlink _ := Prog.throw .invalidArgument
  setattr _ attr := Prog.modify fun memory =>
    match attr.size with
    | none => memory
    | some size =>
        { memory with
          content := memory.content.take size.toNat ++
            List.replicate (size.toNat - memory.content.length) 0 }

def Memory.view : View Memory where
  content memory _ := memory.content
  writes := Memory.writes

theorem memory_contract (limit : Nat) : Contract (memory limit) Memory.view where
  pwrite ended := by
    cases ended
    refine ⟨?_, rfl, rfl⟩
    rw [UInt32.toNat_ofNat']
    exact Nat.le_trans (Nat.mod_le _ _) (Nat.min_le_right _ _)
  truncate zero ended := by
    cases ended
    simp [Memory.view, zero]
  commit ended := by
    cases ended
    exact ⟨rfl, rfl⟩
  close ended := by
    cases ended
    exact ⟨rfl, rfl⟩

namespace NfsContext

def twoBytes : Slice where
  bytes := [1, 2]
  bounded := by decide

theorem content_iff_full_memory :
    ∃ made : List Write, made = [⟨[1, 2], 2⟩] ∧
      (Memory.view.content ⟨[1, 2], [⟨[1, 2], 2⟩]⟩ [1] = twoBytes.bytes ↔
        ∀ write ∈ made, write.Full) := by
  have created : (create (memory 5) [0] "/f").run ⟨[], []⟩ =
      some (.ok ⟨[1], none, true⟩, ⟨[], []⟩) := by decide +kernel
  have returned : (writeWhole (memory 5) [0] "/f" twoBytes).run ⟨[], []⟩ =
      some (.ok (), ⟨[1, 2], [⟨[1, 2], 2⟩]⟩) := by decide +kernel
  obtain ⟨made, writes, same⟩ := content_iff_full (memory_contract 5) created returned
  exact ⟨made, writes.symm, same⟩

/-- A backend that stores one byte of the two it is given: `write_whole` returns
`Ok(())`, and the file holds only that byte. -/
theorem short_write_reported_ok :
    ¬ ∀ (σ : Type) (backend : Backend σ) (view : View σ) (root : ObjId) (path : String)
      (data : Slice) (file : OpenFile) (state mid final : σ), Contract backend view →
        (create backend root path).run state = some (.ok file, mid) →
          (writeWhole backend root path data).run state = some (.ok (), final) →
            view.content final file.fh = data.bytes := by
  intro all
  have created : (create (memory 1) [0] "/f").run ⟨[], []⟩ =
      some (.ok ⟨[1], none, true⟩, ⟨[], []⟩) := by decide +kernel
  have returned : (writeWhole (memory 1) [0] "/f" twoBytes).run ⟨[], []⟩ =
      some (.ok (), ⟨[1], [⟨[1, 2], 1⟩]⟩) := by decide +kernel
  have content := all Memory (memory 1) Memory.view [0] "/f" twoBytes _ _ _ _ (memory_contract 1)
    created returned
  cases content

end NfsContext

end LibNfs.Client
