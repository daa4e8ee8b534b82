import Mathlib.Data.Nat.Bitwise
import LibNfs.Rpc.RecordMarking

/-! # The reassembler reads the marked stream

Runs of `push` and `next_record` calls on a `RecordReassembler`, against the
one-pass reading of the stream they push. `resume` is what the bytes held by a
reassembler still have to give; every call keeps it, whatever is pushed later
(`nextRecord_answers`), so a run gives back the reading of the whole stream
(`run_refines`). After an oversized header the correspondence is lost: the calls
that follow read the payload of that record as fragment headers.
-/

namespace LibNfs.Rpc

open RecordMarking

theorem toNat_and_lengthMask (word : UInt32) :
    (word &&& lengthMask).toNat = word.toNat % 2 ^ 31 := by
  rw [UInt32.toNat_and]
  exact Nat.and_two_pow_sub_one_eq_mod word.toNat 31

theorem and_lastFragmentBit (word : UInt32) :
    (word &&& lastFragmentBit != 0) = decide (2 ^ 31 ≤ word.toNat) := by
  have bound : word.toNat < 2 ^ 32 := word.toNat_lt
  have bit : (word &&& lastFragmentBit).toNat = (word.toNat.testBit 31).toNat * 2 ^ 31 := by
    rw [UInt32.toNat_and]
    exact Nat.and_two_pow word.toNat 31
  have zero : word &&& lastFragmentBit = 0 ↔ (word &&& lastFragmentBit).toNat = 0 :=
    UInt32.toNat_inj.symm
  by_cases high : 2 ^ 31 ≤ word.toNat
  · have set : word.toNat.testBit 31 = true :=
      Nat.testBit_of_two_pow_le_and_two_pow_add_one_gt high bound
    rw [decide_eq_true high, bne_iff_ne, ne_eq, zero, bit, set]
    decide
  · have clear : word.toNat.testBit 31 = false := Nat.testBit_lt_two_pow (by omega)
    rw [decide_eq_false high, bne_eq_false_iff_eq, zero, bit, clear]
    rfl

/-- `frame` writes a record as its one last fragment. -/
theorem frame_eq {record : Bytes} (short : record.length < 2 ^ 31) :
    frame record = .ok (encodeRecord ⟨[], record⟩) := by
  have within : ¬ record.length > lengthMask.toNat := by
    have mask : lengthMask.toNat = 2 ^ 31 - 1 := rfl
    omega
  have word : lastFragmentBit ||| UInt32.ofNat record.length =
      UInt32.ofNat (2 ^ 31 + record.length) := by
    apply UInt32.toNat_inj.mp
    rw [UInt32.toNat_or, UInt32.toNat_ofNat_of_lt' (show record.length < _ by
      simp only [UInt32.size]; omega), UInt32.toNat_ofNat_of_lt' (show _ < _ by
      simp only [UInt32.size]; omega)]
    exact (Nat.two_pow_add_eq_or_of_lt short 1).symm
  rw [frame, if_neg within, word]
  rfl

theorem frame_inv {record framed : Bytes} (done : frame record = .ok framed) :
    record.length < 2 ^ 31 ∧ framed = encodeRecord ⟨[], record⟩ := by
  have mask : lengthMask.toNat = 2 ^ 31 - 1 := rfl
  by_cases short : record.length < 2 ^ 31
  · rw [frame_eq short] at done
    cases done
    exact ⟨short, rfl⟩
  · rw [frame, if_pos (by omega)] at done
    cases done

namespace RecordReassembler

/-- The reading of the bytes a reassembler holds, from where it stands. -/
def resume (r : RecordReassembler) : Parse :=
  match r.fragRemaining with
  | none => parse (some r.maxRecord) r.record r.stream
  | some len => payload (some r.maxRecord) r.lastFragment len r.record r.stream

theorem exceeds_some {bound total : Nat} : exceeds (some bound) total ↔ bound < total :=
  ⟨fun ⟨_, same, above⟩ => Option.some.inj same ▸ above, fun above => ⟨bound, rfl, above⟩⟩

/-- What a call of `next_record` says of the bytes left to read, whatever is
pushed afterwards. -/
def Answers (r : RecordReassembler) : RecordReassembler × Except RpcError (Option Bytes) → Prop
  | (next, .ok (some record)) =>
      ∀ rest, (r.push rest).resume = (next.push rest).resume.cons record
  | (next, .ok none) =>
      (∀ rest, (r.push rest).resume = (next.push rest).resume) ∧ r.resume = ⟨[], false⟩
  | (_, .error error) =>
      error = .recordTooLarge ∧ ∀ rest, (r.push rest).resume = ⟨[], true⟩

theorem push_nil (r : RecordReassembler) : r.push [] = r := by
  rw [push, List.append_nil]

theorem push_push (r : RecordReassembler) (first second : Bytes) :
    (r.push first).push second = r.push (first ++ second) := by
  simp only [push, List.append_assoc]

/-- The header word at the front of a stream. -/
theorem toNat_header (stream : Bytes) :
    (UInt32.ofNat (BigEndian.decode (stream.take 4))).toNat = headerOf stream := by
  refine UInt32.toNat_ofNat_of_lt' ?_
  calc BigEndian.decode (stream.take 4) < 256 ^ (stream.take 4).length := BigEndian.decode_lt _
    _ ≤ 256 ^ 4 := Nat.pow_le_pow_right (by decide) (List.length_take_le _ _)

/-- A silent turn leaves the reading as it is. -/
theorem resume_of_silent {r next : RecordReassembler} (silent : r.turn = (next, none))
    (rest : Bytes) : (r.push rest).resume = (next.push rest).resume := by
  unfold turn at silent
  split at silent
  · rename_i idle
    split at silent
    · cases silent
    · rename_i long
      have enough : 4 ≤ r.stream.length := by omega
      simp only [toNat_and_lengthMask, and_lastFragmentBit, toNat_header] at silent
      split at silent
      · cases silent
      · rename_i within
        cases silent
        simp only [resume, push, idle]
        rw [parse_header (by rw [List.length_append]; omega), headerOf_append enough,
          if_neg (fun above => within (exceeds_some.mp above)),
          List.drop_append_of_le_length enough]
  · rename_i empty
    split at silent
    · cases silent
    · rename_i more
      cases silent
      simp only [resume, push, empty, payload, Nat.not_lt_zero, ↓reduceIte, more,
        Bool.false_eq_true, List.take_zero, List.append_nil, List.drop_zero]
  · rename_i remaining part
    split at silent
    · cases silent
    · cases silent
      simp only [resume, push, part]
      have split : r.stream = r.stream.take (min (remaining + 1) r.stream.length) ++
          r.stream.drop (min (remaining + 1) r.stream.length) :=
        (List.take_append_drop _ _).symm
      conv_lhs => rw [split, List.append_assoc]
      rw [payload_append (by rw [List.length_take]; omega), List.length_take,
        Nat.min_eq_left (Nat.min_le_right _ _)]

/-- The turn that ends the loop answers for the bytes left. -/
theorem answers_of_stop {r next : RecordReassembler} {result : Except RpcError (Option Bytes)}
    (stopped : r.turn = (next, some result)) : r.Answers (next, result) := by
  unfold turn at stopped
  split at stopped
  · rename_i idle
    split at stopped
    · rename_i short
      cases stopped
      refine ⟨fun _ => rfl, ?_⟩
      simp only [resume, idle]
      exact parse_short short
    · rename_i long
      have enough : 4 ≤ r.stream.length := by omega
      simp only [toNat_and_lengthMask, and_lastFragmentBit, toNat_header] at stopped
      split at stopped
      · rename_i above
        cases stopped
        refine ⟨rfl, fun rest => ?_⟩
        simp only [resume, push, idle]
        rw [parse_header (by rw [List.length_append]; omega), headerOf_append enough,
          if_pos (exceeds_some.mpr above)]
      · cases stopped
  · rename_i empty
    split at stopped
    · rename_i last
      cases stopped
      intro rest
      simp only [resume, push, empty, payload, Nat.not_lt_zero, ↓reduceIte, last,
        List.take_zero, List.append_nil, List.drop_zero]
    · cases stopped
  · rename_i remaining part
    split at stopped
    · rename_i drained
      cases stopped
      refine ⟨fun _ => rfl, ?_⟩
      simp only [resume, part, drained, payload, List.length_nil, Nat.succ_pos, ↓reduceIte]
    · cases stopped

/-- The reading from a state is the reading from any state with the same bytes
left, so an answer moves back over a silent turn. -/
theorem Answers.of_silent {r next : RecordReassembler}
    {out : RecordReassembler × Except RpcError (Option Bytes)} (silent : r.turn = (next, none))
    (answers : next.Answers out) : r.Answers out := by
  have same := resume_of_silent silent
  have now : r.resume = next.resume := by simpa only [push_nil] using same []
  obtain ⟨final, error | record | record⟩ := out
  · exact ⟨answers.1, fun rest => (same rest).trans (answers.2 rest)⟩
  · exact ⟨fun rest => (same rest).trans (answers.1 rest), now.trans answers.2⟩
  · exact fun rest => (same rest).trans (answers rest)

/-- `next_record` answers for the bytes left to read. -/
theorem nextRecord_answers (r : RecordReassembler) : r.Answers r.nextRecord :=
  Loop.run_induct (fun _ _ => turn_decreases) _ (fun _ _ _ => answers_of_stop)
    (fun _ _ _ => Answers.of_silent) r

/-- A call on the reassembler of a connection. -/
inductive Call where
  | push (data : Bytes)
  | nextRecord
  deriving DecidableEq, Repr

/-- Makes the calls in order; the results are those of the `next_record` calls. -/
def run (r : RecordReassembler) :
    List Call → RecordReassembler × List (Except RpcError (Option Bytes))
  | [] => (r, [])
  | .push data :: calls => (r.push data).run calls
  | .nextRecord :: calls =>
      let answer := r.nextRecord
      let after := answer.1.run calls
      (after.1, answer.2 :: after.2)

/-- The bytes pushed by a list of calls. -/
def pushed (calls : List Call) : Bytes :=
  calls.flatMap fun call =>
    match call with
    | .push data => data
    | .nextRecord => []

/-- The records among the results. -/
def records (results : List (Except RpcError (Option Bytes))) : List Bytes :=
  results.filterMap fun result =>
    match result with
    | .ok record => record
    | .error _ => none

/-- The results up to and including the first error. -/
def upToErr : List (Except RpcError (Option Bytes)) → List (Except RpcError (Option Bytes))
  | [] => []
  | .ok record :: results => .ok record :: upToErr results
  | .error error :: _ => [.error error]

/-- `next_record` has been called until it gave `none` or an error. -/
def Drained (calls : List Call) (results : List (Except RpcError (Option Bytes))) : Prop :=
  (∃ error, .error error ∈ results) ∨
    calls.getLast? = some .nextRecord ∧ results.getLast? = some (.ok none)

@[simp] theorem pushed_push (data : Bytes) (calls : List Call) :
    pushed (.push data :: calls) = data ++ pushed calls := rfl

@[simp] theorem pushed_nextRecord (calls : List Call) :
    pushed (.nextRecord :: calls) = pushed calls := rfl

theorem pushed_append (first second : List Call) :
    pushed (first ++ second) = pushed first ++ pushed second :=
  List.flatMap_append

theorem pushed_replicate (count : Nat) : pushed (List.replicate count .nextRecord) = [] := by
  induction count with
  | zero => rfl
  | succ count ih => rw [List.replicate_succ, pushed_nextRecord, ih]

theorem run_append (r : RecordReassembler) (first second : List Call) :
    r.run (first ++ second) =
      (((r.run first).1.run second).1, (r.run first).2 ++ ((r.run first).1.run second).2) := by
  induction first generalizing r with
  | nil => rfl
  | cons call first ih =>
      cases call with
      | push data => exact ih _
      | nextRecord => simp only [List.cons_append, run, ih]

theorem upToErr_of_ok {results : List (Except RpcError (Option Bytes))}
    (clean : ∀ error, .error error ∉ results) : upToErr results = results := by
  induction results with
  | nil => rfl
  | cons result results ih =>
      cases result with
      | error error => exact absurd List.mem_cons_self (clean error)
      | ok record =>
          rw [upToErr, ih fun error member => clean error (List.mem_cons_of_mem _ member)]

theorem upToErr_append {first : List (Except RpcError (Option Bytes))}
    (clean : ∀ error, .error error ∉ first) (second : List (Except RpcError (Option Bytes))) :
    upToErr (first ++ second) = first ++ upToErr second := by
  induction first with
  | nil => rfl
  | cons result first ih =>
      cases result with
      | error error => exact absurd List.mem_cons_self (clean error)
      | ok record =>
          rw [List.cons_append, upToErr,
            ih fun error member => clean error (List.mem_cons_of_mem _ member), List.cons_append]

theorem upToErr_subset_append (first second : List (Except RpcError (Option Bytes))) :
    upToErr first ⊆ upToErr (first ++ second) := by
  induction first with
  | nil => exact List.nil_subset _
  | cons result first ih =>
      cases result with
      | error error => exact List.Subset.refl _
      | ok record => exact List.cons_subset_cons _ ih

/-- A run without errors hands out the front of the reading and keeps the rest;
a run with one hands out all of it. -/
theorem run_refines (r : RecordReassembler) (calls : List Call) :
    (∀ error, .error error ∉ (r.run calls).2) ∧
        (∀ rest, (r.push (pushed calls ++ rest)).resume =
          ((r.run calls).1.push rest).resume.after (records (r.run calls).2)) ∨
      (∃ error, .error error ∈ upToErr (r.run calls).2) ∧
        (∀ error, .error error ∈ upToErr (r.run calls).2 → error = .recordTooLarge) ∧
        ∀ rest, (r.push (pushed calls ++ rest)).resume =
          ⟨records (upToErr (r.run calls).2), true⟩ := by
  induction calls generalizing r with
  | nil => exact .inl ⟨fun _ => List.not_mem_nil, fun _ => rfl⟩
  | cons call calls ih =>
      cases call with
      | push data =>
          simpa only [run, pushed_push, push_push, List.append_assoc] using ih (r.push data)
      | nextRecord =>
          have answers := r.nextRecord_answers
          rcases answer : r.nextRecord with ⟨next, error | record⟩
          · rw [answer] at answers
            obtain ⟨rfl, large⟩ := answers
            refine .inr ⟨⟨.recordTooLarge, ?_⟩, ?_, fun rest => ?_⟩
            · simp only [run, answer, upToErr, List.mem_singleton]
            · intro error member
              simpa only [run, answer, upToErr, List.mem_singleton, Except.error.injEq]
                using member
            · simp only [run, answer, upToErr, pushed_nextRecord]
              exact large _
          · have given : ∀ rest, (r.push rest).resume =
                (next.push rest).resume.after record.toList := by
              intro rest
              rw [answer] at answers
              cases record with
              | none => exact answers.1 rest
              | some record => exact answers rest
            have front : ∀ results : List (Except RpcError (Option Bytes)),
                records (.ok record :: results) = record.toList ++ records results := by
              intro results
              cases record <;> rfl
            rcases ih next with ⟨clean, kept⟩ | ⟨failed, large, all⟩
            · refine .inl ⟨?_, fun rest => ?_⟩
              · simpa only [run, answer, List.mem_cons, reduceCtorEq, false_or] using clean
              · rw [pushed_nextRecord, given, kept]
                simp only [run, answer, front, Parse.after, List.append_assoc]
            · refine .inr ⟨?_, ?_, fun rest => ?_⟩
              · simpa only [run, answer, upToErr, List.mem_cons, reduceCtorEq, false_or]
                  using failed
              · simpa only [run, answer, upToErr, List.mem_cons, reduceCtorEq, false_or]
                  using large
              · rw [pushed_nextRecord, given, all]
                simp only [run, answer, upToErr, front, Parse.after]

/-- A fresh reassembler has the whole stream to read. -/
theorem resume_withMax (maxRecord : Nat) (stream : Bytes) :
    ((withMax maxRecord).push stream).resume = parse (some maxRecord) [] stream := rfl

/-- A final `none` says that the bytes held have nothing more to give. -/
theorem resume_of_final_none {r : RecordReassembler} {calls : List Call}
    (asked : calls.getLast? = some .nextRecord)
    (empty : (r.run calls).2.getLast? = some (.ok none)) :
    (r.run calls).1.resume = ⟨[], false⟩ := by
  obtain ⟨front, rfl⟩ := List.getLast?_eq_some_iff.mp asked
  have answers := (r.run front).1.nextRecord_answers
  rw [run_append] at empty ⊢
  simp only [run, List.getLast?_append, List.getLast?_singleton, Option.some_or,
    Option.some.injEq] at empty ⊢
  rcases answer : (r.run front).1.nextRecord with ⟨next, result⟩
  rw [answer] at empty answers
  obtain rfl : result = .ok none := empty
  have same := answers.1 []
  rw [push_nil, push_nil] at same
  rw [← same]
  exact answers.2

/-- As many calls of `next_record` as there are records left, and one more, empty
the reassembler. -/
theorem drained_replicate (r : RecordReassembler) {count : Nat}
    (enough : r.resume.records.length < count) :
    (∃ error, .error error ∈ upToErr (r.run (List.replicate count .nextRecord)).2) ∨
      (upToErr (r.run (List.replicate count .nextRecord)).2).getLast? = some (.ok none) := by
  induction count generalizing r with
  | zero => exact absurd enough (Nat.not_lt_zero _)
  | succ count ih =>
      have answers := r.nextRecord_answers
      rw [List.replicate_succ]
      rcases answer : r.nextRecord with ⟨next, error | record⟩
      · refine .inl ⟨error, ?_⟩
        simp only [run, answer, upToErr, List.mem_singleton]
      · simp only [run, answer, upToErr, List.mem_cons, reduceCtorEq, false_or,
          List.getLast?_cons]
        rw [answer] at answers
        cases record with
        | none =>
            cases count with
            | zero => exact .inr rfl
            | succ count =>
                have same := answers.1 []
                rw [push_nil, push_nil, answers.2] at same
                rcases ih next (by rw [← same]; exact Nat.succ_pos _) with failed | last
                · exact .inl failed
                · exact .inr (by rw [last]; rfl)
        | some record =>
            have fewer := answers []
            rw [push_nil, push_nil] at fewer
            rw [fewer] at enough
            rcases ih next (Nat.lt_of_succ_lt_succ enough) with failed | last
            · exact .inl failed
            · exact .inr (by rw [last]; rfl)

/-- From a fresh reassembler: the records handed out, and what is left of the
reading of the stream after them. -/
theorem reading_split (maxRecord : Nat) (calls : List Call) :
    (∀ error, .error error ∉ ((withMax maxRecord).run calls).2) ∧
        parse (some maxRecord) [] (pushed calls) =
          ((withMax maxRecord).run calls).1.resume.after
            (records ((withMax maxRecord).run calls).2) ∨
      .error .recordTooLarge ∈ upToErr ((withMax maxRecord).run calls).2 ∧
        (∀ error, .error error ∈ upToErr ((withMax maxRecord).run calls).2 →
          error = .recordTooLarge) ∧
        parse (some maxRecord) [] (pushed calls) =
          ⟨records (upToErr ((withMax maxRecord).run calls).2), true⟩ := by
  rcases (withMax maxRecord).run_refines calls with ⟨clean, kept⟩ | ⟨⟨error, member⟩, large, all⟩
  · have now := kept []
    rw [List.append_nil, resume_withMax, push_nil] at now
    exact .inl ⟨clean, now⟩
  · have now := all []
    rw [List.append_nil, resume_withMax] at now
    exact .inr ⟨large error member ▸ member, large, now⟩

theorem records_prefix_parse (maxRecord : Nat) (calls : List Call) :
    records (upToErr ((withMax maxRecord).run calls).2) <+:
      (parse (some maxRecord) [] (pushed calls)).records := by
  rcases reading_split maxRecord calls with ⟨clean, split⟩ | ⟨-, -, whole⟩
  · rw [split, upToErr_of_ok clean]
    exact List.prefix_append _ _
  · exact ⟨[], by rw [whole, List.append_nil]⟩

/-- A drained reassembler has handed out the whole reading. -/
theorem parse_of_drained {maxRecord : Nat} {calls : List Call}
    (drained : Drained calls (upToErr ((withMax maxRecord).run calls).2)) :
    records (upToErr ((withMax maxRecord).run calls).2) =
        (parse (some maxRecord) [] (pushed calls)).records ∧
      (.error .recordTooLarge ∈ upToErr ((withMax maxRecord).run calls).2 ↔
        (parse (some maxRecord) [] (pushed calls)).tooLarge = true) := by
  rcases reading_split maxRecord calls with ⟨clean, split⟩ | ⟨member, -, whole⟩
  · rw [upToErr_of_ok clean] at drained ⊢
    rcases drained with ⟨error, member⟩ | ⟨asked, empty⟩
    · exact absurd member (clean error)
    · rw [split, resume_of_final_none asked empty]
      exact ⟨(List.append_nil _).symm, fun member => absurd member (clean _),
        fun impossible => nomatch impossible⟩
  · rw [whole]
    exact ⟨rfl, fun _ => rfl, fun _ => member⟩

/-- One call more than there are records in the reading drains the reassembler. -/
theorem drained_of_enough {maxRecord : Nat} {calls : List Call} {count : Nat}
    (enough : (parse (some maxRecord) [] (pushed calls)).records.length < count) :
    Drained (calls ++ List.replicate count .nextRecord)
      (upToErr ((withMax maxRecord).run (calls ++ List.replicate count .nextRecord)).2) := by
  rw [run_append]
  rcases reading_split maxRecord calls with ⟨clean, split⟩ | ⟨member, -, -⟩
  · have fewer : ((withMax maxRecord).run calls).1.resume.records.length < count := by
      rw [split] at enough
      simp only [Parse.after, List.length_append] at enough
      omega
    have positive : count ≠ 0 := by omega
    rw [upToErr_append clean]
    rcases drained_replicate _ fewer with ⟨error, member⟩ | last
    · exact .inl ⟨error, List.mem_append_right _ member⟩
    · refine .inr ⟨?_, ?_⟩
      · rw [List.getLast?_append, List.getLast?_replicate, if_neg positive]
        rfl
      · rw [List.getLast?_append, last]
        rfl
  · exact .inl ⟨.recordTooLarge, upToErr_subset_append _ _ member⟩

/-- Up to its first error, a reassembler returns the records of the one-pass
reading of what was pushed, all of them once it is drained, and reports an
oversized record exactly when that reading does. -/
theorem run_refines_parse (maxRecord : Nat) (calls : List Call) :
    let results := upToErr ((withMax maxRecord).run calls).2
    let reading := parse (some maxRecord) [] (pushed calls)
    records results <+: reading.records ∧
      (Drained calls results →
        records results = reading.records ∧
          (.error .recordTooLarge ∈ results ↔ reading.tooLarge = true)) ∧
      (∀ error, .error error ∈ results → error = .recordTooLarge) ∧
      ∀ count, reading.records.length < count →
        Drained (calls ++ List.replicate count .nextRecord)
          (upToErr ((withMax maxRecord).run (calls ++ List.replicate count .nextRecord)).2) := by
  refine ⟨records_prefix_parse maxRecord calls, parse_of_drained, ?_,
    fun _ => drained_of_enough⟩
  rcases reading_split maxRecord calls with ⟨clean, -⟩ | ⟨-, large, -⟩
  · rw [upToErr_of_ok clean]
    exact fun error member => absurd member (clean error)
  · exact large

/-- However the records are cut into fragments, the wire bytes into pushes, and
whenever `next_record` is called, the records come out in order, then `none`. -/
theorem run_encodeRecords (maxRecord : Nat) (cuts : List Cut) (calls : List Call)
    (short : ∀ cut ∈ cuts, cut.Short) (within : ∀ cut ∈ cuts, cut.record.length ≤ maxRecord)
    (sent : pushed calls = encodeRecords cuts) :
    let results := ((withMax maxRecord).run
      (calls ++ List.replicate (cuts.length + 1) .nextRecord)).2
    (∀ error, .error error ∉ results) ∧
      records results = cuts.map Cut.record ∧
      results.getLast? = some (.ok none) ∧
      ∀ record : Bytes, record.length < 2 ^ 31 →
        frame record = .ok (encodeRecord ⟨[], record⟩) := by
  intro results
  have reading : parse (some maxRecord) [] (encodeRecords cuts) = ⟨cuts.map Cut.record, false⟩ :=
    parse_encodeRecords cuts short fun cut member above =>
      Nat.not_lt.mpr (within cut member) (exceeds_some.mp above)
  have drained := @drained_of_enough maxRecord calls (cuts.length + 1)
    (by rw [sent, reading, List.length_map]; exact Nat.lt_succ_self _)
  have all := parse_of_drained drained
  rw [pushed_append, pushed_replicate, List.append_nil, sent, reading] at all
  have clean : ∀ error, .error error ∉ results := by
    rcases reading_split maxRecord (calls ++ List.replicate (cuts.length + 1) .nextRecord)
      with ⟨clean, -⟩ | ⟨failed, -, -⟩
    · exact clean
    · exact nomatch all.2.mp failed
  rw [upToErr_of_ok clean] at all drained
  refine ⟨clean, all.1, ?_, fun _ => frame_eq⟩
  rcases drained with ⟨error, member⟩ | ⟨-, last⟩
  · exact absurd member (clean error)
  · exact last

/-- Two records, the first in three fragments, received in three pieces. -/
theorem run_encodeRecords_three_fragments :
    records ((withMax 4).run ([.push [0, 0, 0, 1, 7, 0, 0], .nextRecord, .push [0, 0, 128],
      .push [0, 0, 2, 8, 9, 128, 0, 0, 0]] ++ List.replicate 3 .nextRecord)).2 =
        [[7, 8, 9], []] :=
  (run_encodeRecords 4 [⟨[[7], []], [8, 9]⟩, ⟨[], []⟩] _ (by simp [Cut.Short])
    (by decide) (by decide)).2.1

/-- The next record announced by the bytes left to read is over the limit. -/
def Oversized (r : RecordReassembler) : Prop :=
  r.resume = ⟨[], true⟩

/-- Pushes alone return nothing. -/
theorem run_of_no_nextRecord (r : RecordReassembler) {calls : List Call}
    (silent : .nextRecord ∉ calls) : (r.run calls).2 = [] := by
  induction calls generalizing r with
  | nil => rfl
  | cons call calls ih =>
      cases call with
      | push data => exact ih _ fun member => silent (List.mem_cons_of_mem _ member)
      | nextRecord => exact absurd List.mem_cons_self silent

/-- No oversized header comes before a record that is returned. -/
theorem not_oversized_of_record {r next : RecordReassembler} {record : Bytes}
    (answer : r.nextRecord = (next, .ok (some record))) : ¬ r.Oversized := by
  intro oversized
  have answers := r.nextRecord_answers
  rw [answer] at answers
  have now := answers []
  rw [push_nil, oversized] at now
  cases congrArg Parse.records now

/-- When nothing is asked of a reassembler after it has met an oversized header,
its records are those returned before the first error. -/
theorem records_upToErr {r : RecordReassembler} {calls : List Call}
    (stops : ∀ before after, calls = before ++ .nextRecord :: after →
      (r.run before).1.Oversized → .nextRecord ∉ after) :
    records (r.run calls).2 = records (upToErr (r.run calls).2) := by
  induction calls generalizing r with
  | nil => rfl
  | cons call calls ih =>
      cases call with
      | push data =>
          exact ih fun before after same => stops (.push data :: before) after (same ▸ rfl)
      | nextRecord =>
          have tail := @ih r.nextRecord.1 fun before after same =>
            stops (.nextRecord :: before) after (same ▸ rfl)
          rcases answer : r.nextRecord with ⟨next, error | record⟩
          · have answers := r.nextRecord_answers
            rw [answer] at answers
            have oversized : r.Oversized := by
              have now := answers.2 []
              rwa [push_nil] at now
            have silent := run_of_no_nextRecord next (stops [] calls rfl oversized)
            simp only [run, answer, silent, upToErr]
          · rw [answer] at tail
            cases record <;> simpa [run, answer, upToErr, records] using tail

/-- Every record returned is one that record marking assigns to the stream, as
long as the reassembler is not asked again after meeting an oversized header. -/
theorem records_mem_of_stops (maxRecord : Nat) (calls : List Call)
    (stops : ∀ before after, calls = before ++ .nextRecord :: after →
      ((withMax maxRecord).run before).1.Oversized → .nextRecord ∉ after) :
    ∀ record ∈ records ((withMax maxRecord).run calls).2,
      record ∈ (parse none [] (pushed calls)).records := by
  intro record member
  rw [records_upToErr stops] at member
  have limited := (records_prefix_parse maxRecord calls).subset member
  exact (records_prefix_unlimited _ _ _).subset limited

/-- A record, and then the header of one over the limit. -/
def oversizedCalls : List Call :=
  [.push [128, 0, 0, 1, 5, 129, 0, 0, 1], .nextRecord, .nextRecord, .push [7]]

/-- The one record before an oversized header, which the second call meets. -/
theorem records_mem_before_oversized :
    ((withMax 16).run oversizedCalls).2 = [.ok (some [5]), .error .recordTooLarge] ∧
      [5] ∈ (parse none [] (pushed oversizedCalls)).records := by
  refine ⟨by decide, records_mem_of_stops 16 oversizedCalls ?_ [5] (by decide)⟩
  rintro (_ | ⟨_, _ | ⟨_, _ | ⟨_, _ | ⟨_, before⟩⟩⟩⟩) after same oversized
  · cases same
  · cases same
    have record : ((withMax 16).push [128, 0, 0, 1, 5, 129, 0, 0, 1]).nextRecord.2 =
        .ok (some [5]) := by decide
    exact absurd oversized (not_oversized_of_record (Prod.ext rfl record))
  · cases same
    decide
  · cases same
  · exact absurd (congrArg List.length same) (by simp [oversizedCalls])

/-- After a header that announces a record one byte over the limit, the next call
takes the first bytes of its payload for a header and returns bytes of the
payload as a record. -/
theorem oversized_payload_read_as_record :
    ¬ ∀ calls, ∀ record ∈ records (new.run calls).2,
      record ∈ (parse none [] (pushed calls)).records := by
  intro all
  have member := all [.push [129, 0, 0, 1, 128, 0, 0, 2, 9, 9], .nextRecord, .nextRecord] [9, 9]
    (by decide)
  rw [parse] at member
  exact absurd member (by decide)

end RecordReassembler

end LibNfs.Rpc
