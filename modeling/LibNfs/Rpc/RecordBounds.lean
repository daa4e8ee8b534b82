import LibNfs.Rpc.Reassembly

/-! # What the reassembler holds is bounded

The limit on a record is checked at the header of each fragment, against what the
fragments before it have filled. What has been received of a record and what its present
fragment still lacks stay within the limit through partial reads, empty fragments,
complete records and errors, for any bytes and any order of the calls.
-/

namespace LibNfs.Rpc.RecordReassembler

/-- The bytes received of the record under way and those that its fragment still lacks. -/
def committed (r : RecordReassembler) : Nat :=
  r.record.length + r.fragRemaining.getD 0

/-- The limit is the one given, and what is held stays within it. -/
structure Bounded (maxRecord : Nat) (r : RecordReassembler) : Prop where
  limit : r.maxRecord = maxRecord
  within : r.committed ≤ maxRecord

/-- The limit is kept, by the record that is handed out as well. -/
def Contained (maxRecord : Nat)
    (out : RecordReassembler × Except RpcError (Option Bytes)) : Prop :=
  out.1.Bounded maxRecord ∧ ∀ record, out.2 = .ok (some record) → record.length ≤ maxRecord

section Turns

variable {maxRecord : Nat} {r next : RecordReassembler}

theorem bounded_withMax (maxRecord : Nat) : (withMax maxRecord).Bounded maxRecord :=
  ⟨rfl, Nat.zero_le _⟩

theorem Bounded.push (bounded : r.Bounded maxRecord) (data : Bytes) :
    (r.push data).Bounded maxRecord :=
  ⟨bounded.limit, bounded.within⟩

/-- A silent turn keeps the limit: a header is checked against it, and a read moves bytes
from what is lacking to what is held. -/
theorem Bounded.of_silent (bounded : r.Bounded maxRecord) (silent : r.turn = (next, none)) :
    next.Bounded maxRecord := by
  obtain ⟨limit, within⟩ := bounded
  unfold committed at within
  unfold turn at silent
  split at silent
  · split at silent
    · cases silent
    · simp only at silent
      split at silent
      · cases silent
      · rename_i fits
        cases silent
        refine ⟨limit, ?_⟩
        simp only [committed, Option.getD_some]
        omega
  · rename_i empty
    split at silent
    · cases silent
    · cases silent
      refine ⟨limit, ?_⟩
      simp only [committed, Option.getD_none]
      omega
  · rename_i remaining part
    split at silent
    · cases silent
    · cases silent
      refine ⟨limit, ?_⟩
      rw [part] at within
      simp only [Option.getD_some] at within
      simp only [committed, List.length_append, List.length_take, Option.getD_some]
      omega

/-- So does the turn that ends the loop; after an oversized header nothing is lacking, and
the record under way stays as it is. -/
theorem Bounded.of_stop {result : Except RpcError (Option Bytes)}
    (bounded : r.Bounded maxRecord) (stopped : r.turn = (next, some result)) :
    Contained maxRecord (next, result) := by
  obtain ⟨limit, within⟩ := bounded
  have held : r.record.length ≤ maxRecord := Nat.le_trans (Nat.le_add_right _ _) within
  unfold turn at stopped
  split at stopped
  · rename_i idle
    split at stopped
    · cases stopped
      exact ⟨⟨limit, within⟩, fun record same => by cases same⟩
    · simp only at stopped
      split at stopped
      · cases stopped
        exact ⟨⟨limit, within⟩, fun record same => by cases same⟩
      · cases stopped
  · split at stopped
    · cases stopped
      refine ⟨⟨limit, Nat.zero_le _⟩, fun record same => ?_⟩
      cases same
      exact held
    · cases stopped
  · split at stopped
    · cases stopped
      exact ⟨⟨limit, within⟩, fun record same => by cases same⟩
    · cases stopped

end Turns

/-- From a state within the limit, `next_record` keeps it. -/
def Retains (maxRecord : Nat) (r : RecordReassembler)
    (out : RecordReassembler × Except RpcError (Option Bytes)) : Prop :=
  r.Bounded maxRecord → Contained maxRecord out

theorem nextRecord_retains (maxRecord : Nat) (r : RecordReassembler) :
    Retains maxRecord r r.nextRecord :=
  Loop.run_induct (fun _ _ => turn_decreases) _
    (fun _ _ _ stopped bounded => bounded.of_stop stopped)
    (fun _ _ _ silent retains bounded => retains (bounded.of_silent silent)) r

theorem Bounded.run {maxRecord : Nat} {r : RecordReassembler} (bounded : r.Bounded maxRecord)
    (calls : List Call) :
    (r.run calls).1.Bounded maxRecord ∧
      ∀ record, .ok (some record) ∈ (r.run calls).2 → record.length ≤ maxRecord := by
  induction calls generalizing r with
  | nil => exact ⟨bounded, fun record member => (List.not_mem_nil member).elim⟩
  | cons call calls ih =>
      cases call with
      | push data => exact ih (bounded.push data)
      | nextRecord =>
          obtain ⟨kept, short⟩ := nextRecord_retains maxRecord r bounded
          obtain ⟨final, rest⟩ := ih kept
          refine ⟨final, fun record member => ?_⟩
          rcases List.mem_cons.mp member with same | later
          · exact short record same.symm
          · exact rest record later

/-- Whatever is pushed and however often `next_record` is called, errors included: the bytes
held of a record and those that its fragment lacks are within the limit, and so is each
record that was returned. Every further call of `next_record` ends, with two turns at most
for each byte of the stream and two more, so empty fragments cannot keep it going. -/
theorem run_bounded (maxRecord : Nat) (calls : List Call) :
    let after := (withMax maxRecord).run calls
    after.1.record.length + after.1.fragRemaining.getD 0 ≤ maxRecord ∧
      (∀ record, .ok (some record) ∈ after.2 → record.length ≤ maxRecord) ∧
      ∃ turns ≤ 2 * after.1.stream.length + 2, Loop.Takes turn after.1 turns after.1.nextRecord := by
  intro after
  obtain ⟨bounded, short⟩ := (bounded_withMax maxRecord).run calls
  refine ⟨bounded.within, short, ?_⟩
  obtain ⟨turns, few, takes⟩ :=
    Loop.takes_run (fun _ _ => turn_decreases) (.ok none) after.1
  refine ⟨turns, Nat.le_trans few ?_, takes⟩
  unfold measure
  split
  · exact Nat.le_refl _
  · exact Nat.le_succ _

end LibNfs.Rpc.RecordReassembler
