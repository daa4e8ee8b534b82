import LibNfs.Client.BackendV4
import LibNfs.Client.CallsV3

/-! # Reading in pieces

`pread` over every backend: what it returns when the server answers each read with
some of the bytes that are there, and what an answer that is longer than the rest of
the read does to it. The loop counts such an answer as the rest, and still hands on
all of it.
-/

namespace LibNfs.Client

/-- The content of a file, whose size is a `u64`. -/
structure Content where
  bytes : Bytes
  bounded : bytes.length < 2 ^ 64

/-- An answer to a read of `want` bytes at a position: some of the bytes from there on, at
least one if there are any; the end is only announced where it is reached. -/
structure Answers (content : Content) (pos : UInt64) (want : UInt32) (data : Bytes) (eof : Bool) :
    Prop where
  there : data <+: content.bytes.drop pos.toNat
  asked : data.length ≤ want.toNat
  some : pos.toNat < content.bytes.length → 0 < data.length
  reached : eof → content.bytes.length ≤ pos.toNat + data.length

/-- As long as it is ready, the backend answers every read of a file from its content. -/
def ReadsFrom {σ : Type} (vfs : VfsBackend σ) (file : OpenFile) (content : Content)
    (ready : σ → Prop) : Prop :=
  ∀ pos want state, 0 < want → ready state → ∃ data eof next,
    (vfs.pread file pos want).run state = some (.ok (data, eof), next) ∧
      Answers content pos want data eof ∧ ready next

/-- An NFSv3 server of one file that answers a read as `answer` says. -/
def readServer (answer : Bytes → UInt64 → UInt32 → Proto.Data × Bool) : Proto.Server3 Bytes where
  exec proc args :=
    match proc, args with
    | .read, (_, offset, count, ()) => ⟨fun content =>
        let (data, eof) := answer content offset count
        some (.ok ⟨(none, UInt32.ofNat data.1.length, eof, data.1, ()),
          ⟨⟨Proto.lengths_none, trivial, trivial, data.2, trivial⟩,
            Proto.lengths_none, trivial, trivial, trivial, trivial⟩⟩, content)⟩
    | _, _ => Prog.throw Proto.notSupported3

theorem pread_readServer {answer : Bytes → UInt64 → UInt32 → Proto.Data × Bool} {file : OpenFile}
    (short : Proto.NfsFh3.Short ⟨file.fh⟩) (pos : UInt64) (want : UInt32)
    (backend : V3Backend Bytes) :
    (V3Backend.pread (serverHost (readServer answer)) file pos want).run backend =
      some (.ok ((answer backend.world pos want).1.1, (answer backend.world pos want).2),
        backend) := by
  have called := @V3Backend.within_call_ok Bytes (readServer answer)
    (serverHost (readServer answer)) .read _ rfl (Proto.Proc3.encodable_read pos want short) backend
    _ _ rfl
  exact Prog.bind_of_ok called

/-- The bytes of a content from a position on, a number of them at a time at most. -/
def readAtMost (limit : UInt32) (content : Bytes) (pos : UInt64) (want : UInt32) :
    Proto.Data × Bool :=
  let data := (content.drop pos.toNat).take (min limit.toNat want.toNat)
  (⟨data, Nat.lt_of_le_of_lt (List.length_take_le _ _)
    (Nat.lt_of_le_of_lt (Nat.min_le_left _ _) limit.toNat_lt)⟩,
    content.length ≤ pos.toNat + data.length)

/-- Such an answer comes from the content. -/
theorem answers_readAtMost {limit want : UInt32} (positive : 0 < limit) (asked : 0 < want)
    {content : Content} {pos : UInt64} :
    Answers content pos want (readAtMost limit content.bytes pos want).1.1
      (readAtMost limit content.bytes pos want).2 := by
  rw [UInt32.lt_iff_toNat_lt] at positive asked
  refine ⟨List.take_prefix _ _, ?_, fun more => ?_, of_decide_eq_true⟩
  · exact Nat.le_trans (List.length_take_le _ _) (Nat.min_le_right _ _)
  · change 0 < limit.toNat at positive
    change 0 < want.toNat at asked
    simp only [readAtMost, List.length_take, List.length_drop]
    omega

/-- Such a server answers from the content. -/
theorem readsFrom_readAtMost {limit : UInt32} (positive : 0 < limit) {file : OpenFile}
    (short : Proto.NfsFh3.Short ⟨file.fh⟩) (content : Content) :
    ReadsFrom (V3Backend.backend (serverHost (readServer (readAtMost limit)))) file content
      fun backend => backend.world = content.bytes := by
  intro pos want backend asked isReady
  refine ⟨_, _, backend, pread_readServer short pos want backend, ?_, isReady⟩
  rw [isReady]
  exact answers_readAtMost positive asked

namespace NfsContext

section Bounds

variable {left : UInt64} {size : UInt32}

theorem toNat_min (first second : UInt64) :
    (min first second).toNat = min first.toNat second.toNat := by
  change (if first ≤ second then first else second).toNat = _
  split
  · rename_i le
    exact (Nat.min_eq_left (UInt64.le_iff_toNat_le.mp le)).symm
  · rename_i gt
    have less : ¬ first.toNat ≤ second.toNat := fun le => gt (UInt64.le_iff_toNat_le.mpr le)
    exact (Nat.min_eq_right (Nat.le_of_not_le less)).symm

/-- How much a turn asks for. -/
theorem toNat_want : (min left size.toUInt64).toUInt32.toNat = min left.toNat size.toNat := by
  have small := size.toNat_lt
  rw [UInt64.toNat_toUInt32, toNat_min, UInt32.toNat_toUInt64]
  omega

/-- What is left after an answer. -/
theorem toNat_left (got : UInt64) :
    (left - min got left).toNat = left.toNat - got.toNat := by
  have within : min got left ≤ left := by
    rw [UInt64.le_iff_toNat_le, toNat_min]
    exact Nat.min_le_right _ _
  rw [UInt64.toNat_sub_of_le _ _ within, toNat_min]
  omega

theorem toNat_got {data : Bytes} (small : data.length < 2 ^ 64) :
    (UInt64.ofNat data.length).toNat = data.length :=
  UInt64.toNat_ofNat_of_lt' small

end Bounds

theorem take_of_prefix {data whole : Bytes} {count : Nat} (there : data <+: whole)
    (short : data.length ≤ count) :
    whole.take count = data ++ (whole.drop data.length).take (count - data.length) := by
  obtain ⟨rest, rfl⟩ := there
  rw [List.take_append, List.take_of_length_le short, List.drop_left]

section Content

variable {σ : Type} {vfs : VfsBackend σ} {file : OpenFile} {content : Content} {ready : σ → Prop}

/-- A turn of the loop, once it is known what is read. -/
theorem preadTurns_succ {chunk pos left : UInt64} {turns : Nat} {out data : Bytes} {eof : Bool}
    {state next : σ} (more : left ≠ 0)
    (read : (vfs.pread file pos (min left chunk).toUInt32).run state = some (.ok (data, eof), next)) :
    (preadTurns vfs file chunk (turns + 1) pos left out).run state =
      (if eof ∨ UInt64.ofNat data.length = 0 then return out ++ data
        else preadTurns vfs file chunk turns (pos + UInt64.ofNat data.length)
          (left - min (UInt64.ofNat data.length) left) (out ++ data) :
        Prog σ NfsError Bytes).run next := by
  rw [preadTurns, if_neg more]
  exact Prog.bind_of_ok read

/-- The loop returns what it has and the rest of what it was asked for. -/
theorem preadTurns_eq (reads : ReadsFrom vfs file content ready) {size : UInt32} (chunked : 0 < size)
    {turns : Nat} {pos left : UInt64} (enough : left.toNat ≤ turns) (out : Bytes) {state : σ}
    (isReady : ready state) :
    ∃ next, ready next ∧ (preadTurns vfs file size.toUInt64 turns pos left out).run state =
      some (.ok (out ++ (content.bytes.drop pos.toNat).take left.toNat), next) := by
  induction turns generalizing pos left out state with
  | zero =>
      rw [Nat.le_zero.mp enough, List.take_zero, List.append_nil]
      exact ⟨state, isReady, rfl⟩
  | succ turns ih =>
      by_cases done : left = 0
      · rw [preadTurns, if_pos done, done]
        rw [show (0 : UInt64).toNat = 0 from rfl, List.take_zero, List.append_nil]
        exact ⟨state, isReady, rfl⟩
      · have nonzero : 0 < left.toNat := Nat.pos_of_ne_zero fun zero => done (UInt64.toNat_inj.mp zero)
        have asks := @toNat_want left size
        have positive : 0 < (min left size.toUInt64).toUInt32 := by
          rw [UInt32.lt_iff_toNat_lt] at chunked ⊢
          change 0 < size.toNat at chunked
          change 0 < _
          omega
        obtain ⟨data, eof, next, read, answers, nextReady⟩ := reads pos _ state positive isReady
        have short : data.length ≤ left.toNat := by
          have asked := answers.asked
          omega
        have small : data.length < 2 ^ 64 := Nat.lt_of_le_of_lt short left.toNat_lt
        have whole := take_of_prefix answers.there short
        rw [preadTurns_succ done read]
        by_cases stops : eof ∨ UInt64.ofNat data.length = 0
        · -- nothing follows what was read
          have ended : content.bytes.length ≤ pos.toNat + data.length := by
            rcases stops with atEnd | nothing
            · exact answers.reached atEnd
            · have empty : data.length = 0 := by
                rw [← toNat_got small, nothing]
                rfl
              by_contra before
              have read := answers.some (by omega)
              omega
          rw [if_pos stops, whole, List.drop_drop, List.drop_eq_nil_of_le ended, List.take_nil,
            List.append_nil]
          exact ⟨next, nextReady, rfl⟩
        · rw [if_neg stops]
          have length := answers.there.length_le
          rw [List.length_drop] at length
          have got : 0 < data.length := by
            refine Nat.pos_of_ne_zero fun zero => stops (.inr ?_)
            rw [zero]
            rfl
          have moved : (pos + UInt64.ofNat data.length).toNat = pos.toNat + data.length := by
            have bounded := content.bounded
            rw [UInt64.toNat_add, toNat_got small, Nat.mod_eq_of_lt (by omega)]
          have remains : (left - min (UInt64.ofNat data.length) left).toNat =
              left.toNat - data.length := by
            rw [toNat_left, toNat_got small]
          obtain ⟨final, finalReady, rest⟩ := @ih (pos + UInt64.ofNat data.length)
            (left - min (UInt64.ofNat data.length) left) (by omega) (out ++ data) next nextReady
          refine ⟨final, finalReady, ?_⟩
          rw [rest, moved, remains, whole, List.drop_drop, List.append_assoc]

/-- Reading a file leaves the backend ready. -/
theorem pread_ready (reads : ReadsFrom vfs file content ready) (offset count : UInt64) {state : σ}
    (chunked : 0 < vfs.prefRead state) (isReady : ready state) :
    ∃ next, (pread vfs file offset count).run state =
      some (.ok ((content.bytes.drop offset.toNat).take count.toNat), next) ∧ ready next := by
  obtain ⟨next, nextReady, read⟩ := @preadTurns_eq σ vfs file content ready reads
    (vfs.prefRead state) chunked count.toNat offset count (Nat.le_refl _) [] state isReady
  exact ⟨next, read, nextReady⟩

/-- Over a backend that answers from the content of a file, `pread` returns the bytes from
the offset on, as many as were asked for or as there are. -/
theorem pread_eq_content (reads : ReadsFrom vfs file content ready) (offset count : UInt64)
    {state : σ} (chunked : 0 < vfs.prefRead state) (isReady : ready state) :
    ∃ next, (pread vfs file offset count).run state =
      some (.ok ((content.bytes.drop offset.toNat).take count.toNat), next) := by
  obtain ⟨next, read, -⟩ := pread_ready reads offset count chunked isReady
  exact ⟨next, read⟩

end Content

def threeBytes : Content where
  bytes := [1, 2, 3]
  bounded := by decide

def readClient : V3Backend Bytes :=
  ⟨[1, 2, 3], 65536, 65536, none, [], 1⟩

def readFile : OpenFile :=
  ⟨[1], none, false⟩

/-- Two of three bytes, read one at a time. -/
theorem pread_eq_content_two :
    ∃ next, (pread (V3Backend.backend (serverHost (readServer (readAtMost 1)))) readFile 1 5).run
      readClient = some (.ok [2, 3], next) :=
  pread_eq_content (readsFrom_readAtMost (by decide) (by decide) threeBytes) 1 5 (by decide) rfl

/-- A turn of the loop that was answered: where it read, and what it got. -/
structure ReadTurn where
  pos : UInt64
  data : Bytes

/-- The end of what was read is a position. -/
def ReadTurn.InRange (turn : ReadTurn) : Prop :=
  turn.pos.toNat + turn.data.length < 2 ^ 64

section Trace

variable {σ : Type} (vfs : VfsBackend σ) (file : OpenFile) (chunk : UInt64)

/-- The turns of the loop of `pread` that are answered, from a state on. Each of them adds
what it got to its position. -/
def answered : Nat → UInt64 → UInt64 → σ → List ReadTurn
  | 0, _, _, _ => []
  | turns + 1, pos, left, state =>
      if left = 0 then
        []
      else
        match (vfs.pread file pos (min left chunk).toUInt32).run state with
        | some (.ok (data, eof), next) =>
            ⟨pos, data⟩ ::
              if eof ∨ UInt64.ofNat data.length = 0 then []
              else answered turns (pos + UInt64.ofNat data.length)
                (left - min (UInt64.ofNat data.length) left) next
        | some (.error _, _) | none => []

/-- The turns of a call of `pread` that are answered. -/
def turnsOf (offset count : UInt64) (state : σ) : List ReadTurn :=
  answered vfs file (vfs.prefRead state).toUInt64 count.toNat offset count state

/-- `pread` returns at most what it was asked for, and none of its positions overflows. -/
def Bounded (offset count : UInt64) (state : σ) : Prop :=
  (∀ data final, (pread vfs file offset count).run state = some (.ok data, final) →
      data.length ≤ count.toNat) ∧
    ∀ turn ∈ turnsOf vfs file offset count state, turn.InRange

/-- The backend takes its reads in pieces of a fixed size, as long as it is ready. -/
structure Steady (ready : σ → Prop) : Prop where
  positive : ∀ {state}, ready state → 0 < vfs.prefRead state
  kept : ∀ {pos want state result next}, ready state →
    (vfs.pread file pos want).run state = some (result, next) →
      ready next ∧ vfs.prefRead next = vfs.prefRead state

/-- The answers to the reads of a backend that is ready have at most as many bytes as were asked
for. -/
def Modest (ready : σ → Prop) : Prop :=
  ∀ pos want state data eof next, ready state → 0 < want → want ≤ vfs.prefRead state →
    pos.toNat + want.toNat < 2 ^ 64 →
      (vfs.pread file pos want).run state = some (.ok (data, eof), next) → data.length ≤ want.toNat

variable {vfs file chunk}

theorem preadTurns_none_left (turns : Nat) (pos : UInt64) (out : Bytes) :
    preadTurns vfs file chunk turns pos 0 out = pure out := by
  cases turns <;> rfl

/-- An answer is followed by the turns after it. -/
theorem answered_succ {turns : Nat} {pos left : UInt64} {data : Bytes} {eof : Bool}
    {state next : σ} (more : left ≠ 0)
    (read : (vfs.pread file pos (min left chunk).toUInt32).run state = some (.ok (data, eof), next)) :
    answered vfs file chunk (turns + 1) pos left state = ⟨pos, data⟩ ::
      if eof ∨ UInt64.ofNat data.length = 0 then []
      else answered vfs file chunk turns (pos + UInt64.ofNat data.length)
        (left - min (UInt64.ofNat data.length) left) next := by
  rw [answered, if_neg more]
  simp only [read]

/-- A loop that ends well has read all that it has to read or was answered. -/
theorem preadTurns_ok {turns : Nat} {pos left : UInt64} {out result : Bytes} {state final : σ}
    (ended : (preadTurns vfs file chunk (turns + 1) pos left out).run state =
      some (.ok result, final)) :
    left = 0 ∧ result = out ∨
      left ≠ 0 ∧ ∃ data eof next,
        (vfs.pread file pos (min left chunk).toUInt32).run state = some (.ok (data, eof), next) := by
  by_cases done : left = 0
  · rw [preadTurns, if_pos done] at ended
    cases ended
    exact .inl ⟨done, rfl⟩
  · rw [preadTurns, if_neg done] at ended
    obtain ⟨⟨data, eof⟩, next, read, -⟩ := Prog.bind_eq_ok ended
    exact .inr ⟨done, data, eof, next, read⟩

/-- The loop returns what its turns got. -/
theorem preadTurns_flatMap {turns : Nat} {pos left : UInt64} {out result : Bytes} {state final : σ}
    (ended : (preadTurns vfs file chunk turns pos left out).run state = some (.ok result, final)) :
    result = out ++ (answered vfs file chunk turns pos left state).flatMap ReadTurn.data := by
  induction turns generalizing pos left out state with
  | zero =>
      cases ended
      exact (List.append_nil _).symm
  | succ turns ih =>
      rcases preadTurns_ok ended with ⟨done, rfl⟩ | ⟨more, data, eof, next, read⟩
      · rw [answered, if_pos done]
        exact (List.append_nil _).symm
      · rw [preadTurns_succ more read] at ended
        rw [answered_succ more read, List.flatMap_cons]
        by_cases stops : eof ∨ UInt64.ofNat data.length = 0
        · rw [if_pos stops] at ended ⊢
          cases ended
          exact congrArg (out ++ ·) (List.append_nil data).symm
        · rw [if_neg stops] at ended ⊢
          rw [ih ended, List.append_assoc]

/-- `pread` returns what its turns got. -/
theorem pread_flatMap {offset count : UInt64} {data : Bytes} {state final : σ}
    (ended : (pread vfs file offset count).run state = some (.ok data, final)) :
    data = (turnsOf vfs file offset count state).flatMap ReadTurn.data :=
  preadTurns_flatMap ended

/-- What a turn in range leaves. -/
theorem toNat_turn {pos left : UInt64} {data : Bytes} (inside : pos.toNat + data.length < 2 ^ 64) :
    (pos + UInt64.ofNat data.length).toNat = pos.toNat + data.length ∧
      (left - min (UInt64.ofNat data.length) left).toNat = left.toNat - data.length := by
  have got := toNat_got (show data.length < 2 ^ 64 by omega)
  refine ⟨?_, ?_⟩
  · rw [UInt64.toNat_add, got, Nat.mod_eq_of_lt inside]
  · rw [toNat_left, got]

/-- The turns of a loop whose answers are modest are in range, and get no more than what is
left to be read. -/
theorem answered_modest {size : UInt32} {ready : σ → Prop}
    (modest : ∀ {pos want state data eof next}, ready state → (0 < size → 0 < want) → want ≤ size →
      pos.toNat + want.toNat < 2 ^ 64 →
        (vfs.pread file pos want).run state = some (.ok (data, eof), next) →
          data.length ≤ want.toNat ∧ ready next)
    {turns : Nat} {pos left : UInt64} {state : σ} (inside : pos.toNat + left.toNat < 2 ^ 64)
    (isReady : ready state) :
    ((answered vfs file size.toUInt64 turns pos left state).flatMap ReadTurn.data).length ≤
        left.toNat ∧
      ∀ turn ∈ answered vfs file size.toUInt64 turns pos left state, turn.InRange := by
  induction turns generalizing pos left state with
  | zero => exact ⟨Nat.zero_le _, fun _ member => (List.not_mem_nil member).elim⟩
  | succ turns ih =>
      by_cases done : left = 0
      · rw [answered, if_pos done]
        exact ⟨Nat.zero_le _, fun _ member => (List.not_mem_nil member).elim⟩
      rcases read : (vfs.pread file pos (min left size.toUInt64).toUInt32).run state with
        _ | ⟨error | ⟨data, eof⟩, next⟩
      · simp only [answered, if_neg done, read]
        exact ⟨Nat.zero_le _, fun _ member => (List.not_mem_nil member).elim⟩
      · simp only [answered, if_neg done, read]
        exact ⟨Nat.zero_le _, fun _ member => (List.not_mem_nil member).elim⟩
      have nonzero : 0 < left.toNat := Nat.pos_of_ne_zero fun zero => done (UInt64.toNat_inj.mp zero)
      have asks := @toNat_want left size
      obtain ⟨asked, nextReady⟩ := modest isReady
        (fun chunked => UInt32.lt_iff_toNat_lt.mpr (by
          rw [UInt32.lt_iff_toNat_lt] at chunked
          change 0 < size.toNat at chunked
          change 0 < _
          omega))
        (UInt32.le_iff_toNat_le.mpr (by omega)) (by omega) read
      have within : data.length ≤ left.toNat := by omega
      have first : ReadTurn.InRange ⟨pos, data⟩ := by
        change pos.toNat + data.length < 2 ^ 64
        omega
      obtain ⟨moved, remains⟩ := @toNat_turn pos left data first
      rw [answered_succ done read, List.flatMap_cons, List.length_append, List.forall_mem_cons]
      by_cases stops : eof ∨ UInt64.ofNat data.length = 0
      · rw [if_pos stops]
        exact ⟨within, first, fun _ member => (List.not_mem_nil member).elim⟩
      · rw [if_neg stops]
        obtain ⟨short, others⟩ := @ih (pos + UInt64.ofNat data.length)
          (left - min (UInt64.ofNat data.length) left) next (by omega) nextReady
        exact ⟨by dsimp only; omega, first, others⟩

/-- A call whose answers are modest. -/
theorem bounded_of_answers {offset count : UInt64} {state : σ} {ready : σ → Prop}
    (modest : ∀ {pos want state' data eof next}, ready state' →
      (0 < vfs.prefRead state → 0 < want) → want ≤ vfs.prefRead state →
        pos.toNat + want.toNat < 2 ^ 64 →
          (vfs.pread file pos want).run state' = some (.ok (data, eof), next) →
            data.length ≤ want.toNat ∧ ready next)
    (inside : offset.toNat + count.toNat < 2 ^ 64) (isReady : ready state) :
    Bounded vfs file offset count state := by
  obtain ⟨short, inRange⟩ :=
    @answered_modest σ vfs file (vfs.prefRead state) ready modest count.toNat offset count state
      inside isReady
  refine ⟨fun data final ended => ?_, inRange⟩
  rw [pread_flatMap ended]
  exact short

/-- A call on a steady backend whose answers are modest. -/
theorem bounded_of_modest {ready : σ → Prop} (steady : Steady vfs file ready)
    (modest : Modest vfs file ready) {offset count : UInt64} {state : σ}
    (inside : offset.toNat + count.toNat < 2 ^ 64) (isReady : ready state) :
    Bounded vfs file offset count state := by
  refine @bounded_of_answers σ vfs file offset count state
    (fun state' => ready state' ∧ vfs.prefRead state' = vfs.prefRead state) ?_ inside ⟨isReady, rfl⟩
  rintro pos want state' data eof next ⟨isReady', same⟩ positive le range read
  obtain ⟨nextReady, kept⟩ := steady.kept isReady' read
  refine ⟨?_, nextReady, kept.trans same⟩
  exact modest pos want state' data eof next isReady' (positive (steady.positive isReady))
    (same ▸ le) range read

/-- An answer that is too long is returned as it is by the call that asks for it at once. -/
theorem modest_of_bounded {ready : σ → Prop}
    (bounded : ∀ offset count state, ready state → offset.toNat + count.toNat < 2 ^ 64 →
      Bounded vfs file offset count state) : Modest vfs file ready := by
  intro pos want state data eof next isReady positive le range read
  have counted : want.toUInt64.toNat = want.toNat := UInt32.toNat_toUInt64 want
  have asked : (min want.toUInt64 (vfs.prefRead state).toUInt64).toUInt32 = want := by
    apply UInt32.toNat_inj.mp
    rw [toNat_want, counted]
    exact Nat.min_eq_left (UInt32.le_iff_toNat_le.mp le)
  have nonzero : 0 < want.toNat := UInt32.lt_iff_toNat_lt.mp positive
  have more : want.toUInt64 ≠ 0 := by
    intro zero
    rw [zero] at counted
    change 0 = _ at counted
    omega
  rw [← asked] at read
  obtain ⟨turns, counts⟩ := Nat.exists_eq_succ_of_ne_zero (Nat.ne_of_gt (counted ▸ nonzero))
  obtain ⟨short, inRange⟩ := bounded pos want.toUInt64 state isReady (by omega)
  have first : ReadTurn.InRange ⟨pos, data⟩ := by
    refine inRange _ ?_
    rw [turnsOf, counts, answered_succ more read]
    exact List.mem_cons_self
  change pos.toNat + data.length < 2 ^ 64 at first
  by_contra longer
  have none : want.toUInt64 - min (UInt64.ofNat data.length) want.toUInt64 = 0 := by
    apply UInt64.toNat_inj.mp
    rw [(toNat_turn first).2, counted]
    exact Nat.sub_eq_zero_of_le (by omega)
  have ended : (pread vfs file pos want.toUInt64).run state = some (.ok data, next) := by
    change (preadTurns vfs file _ want.toUInt64.toNat pos want.toUInt64 []).run state = _
    rw [counts, preadTurns_succ more read, none, preadTurns_none_left, ite_self]
    rfl
  have length := short _ _ ended
  omega

end Trace

/-- A server that answers a read with all the bytes that are asked for, and never with the end. -/
def readFull (_ : Bytes) (_ : UInt64) (want : UInt32) : Proto.Data × Bool :=
  (⟨List.replicate want.toNat 0, List.length_replicate.trans_lt want.toNat_lt⟩,
    false)

/-- The backend over such a server. -/
def fullBackend : VfsBackend (V3Backend Bytes) :=
  V3Backend.backend (serverHost (readServer readFull))

theorem pread_full {file : OpenFile} (short : Proto.NfsFh3.Short ⟨file.fh⟩) (pos : UInt64)
    (want : UInt32) (backend : V3Backend Bytes) :
    (fullBackend.pread file pos want).run backend =
      some (.ok (List.replicate want.toNat 0, false), backend) :=
  pread_readServer short pos want backend

theorem modest_full {file : OpenFile} (short : Proto.NfsFh3.Short ⟨file.fh⟩)
    (ready : V3Backend Bytes → Prop) : Modest fullBackend file ready := by
  intro pos want backend data eof next _ _ _ _ read
  rw [pread_full short] at read
  cases read
  exact Nat.le_of_eq List.length_replicate

/-- A read from such a server that would end past the last position comes to a turn that does. -/
theorem exists_overrun {file : OpenFile} (short : Proto.NfsFh3.Short ⟨file.fh⟩) {size : UInt32}
    (chunked : 0 < size) {turns : Nat} {pos left : UInt64} (enough : left.toNat ≤ turns)
    (past : 2 ^ 64 ≤ pos.toNat + left.toNat) (backend : V3Backend Bytes) :
    ∃ turn ∈ answered fullBackend file size.toUInt64 turns pos left backend, ¬ turn.InRange := by
  induction turns generalizing pos left with
  | zero =>
      have inside : pos.toNat < 2 ^ 64 := pos.toNat_lt
      omega
  | succ turns ih =>
      have inside : pos.toNat < 2 ^ 64 := pos.toNat_lt
      have more : left ≠ 0 := by
        rintro rfl
        change 2 ^ 64 ≤ pos.toNat + 0 at past
        omega
      have asks := @toNat_want left size
      rw [answered_succ more (pread_full short _ _ backend), asks]
      by_cases range : ReadTurn.InRange ⟨pos, List.replicate (min left.toNat size.toNat) 0⟩
      case neg => exact ⟨_, List.mem_cons_self, range⟩
      have positive : 0 < size.toNat := UInt32.lt_iff_toNat_lt.mp chunked
      obtain ⟨moved, remains⟩ := @toNat_turn pos left _ range
      have bound := range
      unfold ReadTurn.InRange at bound
      dsimp only at bound
      rw [List.length_replicate] at bound moved remains
      have goes : ¬ (false = true ∨
          UInt64.ofNat (List.replicate (min left.toNat size.toNat) (0 : UInt8)).length = 0) := by
        rintro (atEnd | nothing)
        · cases atEnd
        · have small : (List.replicate (min left.toNat size.toNat) (0 : UInt8)).length < 2 ^ 64 := by
            rw [List.length_replicate]
            omega
          have none := congrArg UInt64.toNat nothing
          rw [toNat_got small, List.length_replicate] at none
          change _ = 0 at none
          omega
      rw [if_neg goes, List.length_replicate]
      obtain ⟨turn, member, exceeds⟩ := @ih (pos + UInt64.ofNat (min left.toNat size.toNat))
        (left - min (UInt64.ofNat (min left.toNat size.toNat)) left) (by omega) (by omega)
      exact ⟨turn, List.mem_cons_of_mem _ member, exceeds⟩

end NfsContext

/-- A read leaves the preferred sizes as they are. -/
theorem V3Backend.steady {τ : Type} (host : Host τ) (file : OpenFile) :
    NfsContext.Steady (V3Backend.backend host) file fun backend => 0 < backend.rsize where
  positive isReady := isReady
  kept {pos want state result next} isReady read := by
    have keeps : (V3Backend.pread host file pos want).Keeps fun backend =>
        backend.rsize = state.rsize :=
      Prog.Keeps.bind (Prog.Meets.within fun _ _ _ same _ => same) fun _ => Prog.Keeps.pure _
    have same := keeps state next result rfl read
    exact ⟨same ▸ isReady, same⟩

/-- A read leaves the preferred sizes as they are. -/
theorem V4Backend.steady {τ : Type} (transport : Proto.Transport τ) (file : OpenFile) :
    NfsContext.Steady (V4Backend.backend transport) file fun backend => 0 < backend.rsize where
  positive isReady := isReady
  kept {pos want state result next} isReady read := by
    have keeps : (V4Backend.pread transport file pos want).Keeps fun backend =>
        backend.rsize = state.rsize :=
      Prog.Keeps.bind (Prog.Meets.within fun _ _ _ same _ => same) fun _ => Prog.Keeps.pure _
    have same := keeps state next result rfl read
    exact ⟨same ▸ isReady, same⟩

namespace NfsContext

/-- `pread` returns at most what it was asked for and none of its positions overflows, on every
backend whose answers never have more bytes than were asked for, when the read ends at a position.
Both are needed: a backend on which all such reads are so has no longer answers, and there is a
backend without longer answers on which a read that ends past the last position is not so. -/
theorem pread_bounded_iff {σ : Type} (vfs : VfsBackend σ) (file : OpenFile)
    (offset count : UInt64) :
    ((∀ pos want state data eof next,
        (vfs.pread file pos want).run state = some (.ok (data, eof), next) →
          data.length ≤ want.toNat) →
      offset.toNat + count.toNat < 2 ^ 64 → ∀ state, Bounded vfs file offset count state) ∧
    (∀ ready : σ → Prop, Steady vfs file ready →
      ((∀ start wanted state, ready state → start.toNat + wanted.toNat < 2 ^ 64 →
          Bounded vfs file start wanted state) ↔ Modest vfs file ready)) ∧
    ((∀ (τ : Type) (other : VfsBackend τ) (opened : OpenFile) (ready : τ → Prop),
        Steady other opened ready → Modest other opened ready →
          ∀ state, ready state → Bounded other opened offset count state) ↔
      offset.toNat + count.toNat < 2 ^ 64) := by
  refine ⟨?_, ?_, ?_⟩
  · intro modest inside state
    refine @bounded_of_answers σ vfs file offset count state (fun _ => True) ?_ inside trivial
    intro pos want state' data eof next _ _ _ _ read
    exact ⟨modest pos want state' data eof next read, trivial⟩
  · intro ready steady
    refine ⟨modest_of_bounded, ?_⟩
    intro modest start wanted state isReady inside
    exact bounded_of_modest steady modest inside isReady
  · constructor
    · intro bounded
      by_contra past
      have chunked : (0 : UInt32) < readClient.rsize := by decide
      obtain ⟨-, inRange⟩ := bounded _ fullBackend readFile _ (V3Backend.steady _ readFile)
        (modest_full (by decide) _) readClient chunked
      obtain ⟨turn, member, exceeds⟩ := @exists_overrun readFile (by decide) readClient.rsize chunked
        count.toNat offset count (Nat.le_refl _) (by omega) readClient
      exact exceeds (inRange turn member)
    · intro inside τ other opened ready steady modest state isReady
      exact bounded_of_modest steady modest inside isReady

/-- Three bytes, read one at a time from a file of three. -/
theorem pread_bounded_iff_three :
    Bounded (V3Backend.backend (serverHost (readServer (readAtMost 1)))) readFile 0 5 readClient := by
  have modest (pos : UInt64) (want : UInt32) (backend : V3Backend Bytes) (data : Bytes) (eof : Bool)
      (next : V3Backend Bytes)
      (read : ((V3Backend.backend (serverHost (readServer (readAtMost 1)))).pread readFile pos
        want).run backend = some (.ok (data, eof), next)) : data.length ≤ want.toNat := by
    change (V3Backend.pread _ readFile pos want).run backend = _ at read
    rw [pread_readServer (by decide)] at read
    cases read
    exact Nat.le_trans (List.length_take_le _ _) (Nat.min_le_right _ _)
  exact (pread_bounded_iff _ readFile 0 5).1 modest (by decide) readClient

/-- Two bytes, whatever is asked for. -/
def readTwo (_ : Bytes) (_ : UInt64) (_ : UInt32) : Proto.Data × Bool :=
  (⟨[7, 7], by decide⟩, true)

/-- A server that answers a read of one byte with two: `pread` returns both. -/
theorem pread_exceeds :
    ¬ ∀ (σ : Type) (vfs : VfsBackend σ) (file : OpenFile) (offset count : UInt64) (state : σ),
      Bounded vfs file offset count state := by
  intro all
  have read : ((pread (V3Backend.backend (serverHost (readServer readTwo))) readFile 0 1).run
      readClient).map Prod.fst = some (.ok [7, 7]) := by decide +kernel
  obtain ⟨⟨result, final⟩, ran, rfl⟩ := Option.map_eq_some_iff.mp read
  exact absurd ((all _ _ _ _ _ _).1 _ _ ran) (by decide)

end NfsContext

end LibNfs.Client
