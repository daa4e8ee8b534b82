import LibNfs.Lib.Loop
import LibNfs.Xdr.Codec

/-! # Record marking

The error type of the RPC crate, `frame` and the `RecordReassembler` of the
stream transports. The loop of `next_record` is `RecordReassembler.turn`
iterated; `nextRecord_eq` is the loop's own unfolding, so the bound on the
number of turns that makes it a total function is never reached.
-/

namespace LibNfs.Rpc

open Xdr (XdrError beU32)

/-- The kinds of `std::io::Error` the client tells apart. -/
inductive IoErrorKind where
  | wouldBlock
  | timedOut
  | interrupted
  | other (code : Nat)
  deriving DecidableEq, Repr

/-- Errors of an RPC operation. -/
inductive RpcError where
  | io (kind : IoErrorKind)
  | xdr (error : XdrError)
  | timeout
  | connectionClosed
  | recordTooLarge
  | malformedReply
  | rpcMismatch (low high : UInt32)
  | authError (stat : UInt32)
  | progUnavail
  | progMismatch (low high : UInt32)
  | procUnavail
  | garbageArgs
  | systemErr
  | unknownAcceptStat (stat : UInt32)
  deriving DecidableEq, Repr

def lastFragmentBit : UInt32 := 0x80000000

def lengthMask : UInt32 := 0x7FFFFFFF

/-- Default limit on a reassembled record, 16 MiB. -/
def defaultMaxRecord : Nat := 16 * 1024 * 1024

/-- Wraps a record in a single fragment marked as the last one. -/
def frame (record : Bytes) : Except RpcError Bytes :=
  if record.length > lengthMask.toNat then
    .error .recordTooLarge
  else
    .ok (beU32 (lastFragmentBit ||| UInt32.ofNat record.length) ++ record)

/-- The state of the reassembly of records from a byte stream. -/
structure RecordReassembler where
  stream : Bytes
  record : Bytes
  fragRemaining : Option Nat
  lastFragment : Bool
  maxRecord : Nat
  deriving DecidableEq, Repr

namespace RecordReassembler

def withMax (maxRecord : Nat) : RecordReassembler where
  stream := []
  record := []
  fragRemaining := none
  lastFragment := false
  maxRecord := maxRecord

def new : RecordReassembler :=
  withMax defaultMaxRecord

/-- Appends bytes just read from the socket. -/
def push (r : RecordReassembler) (data : Bytes) : RecordReassembler :=
  { r with stream := r.stream ++ data }

/-- One turn of the loop of `next_record`. -/
def turn (r : RecordReassembler) :
    RecordReassembler × Option (Except RpcError (Option Bytes)) :=
  match r.fragRemaining with
  | none =>
      if r.stream.length < 4 then
        (r, some (.ok none))
      else
        let header := UInt32.ofNat (BigEndian.decode (r.stream.take 4))
        let len := (header &&& lengthMask).toNat
        let read := { r with
          stream := r.stream.drop 4
          lastFragment := header &&& lastFragmentBit != 0 }
        if r.record.length + len > r.maxRecord then
          (read, some (.error .recordTooLarge))
        else
          ({ read with fragRemaining := some len }, none)
  | some 0 =>
      if r.lastFragment then
        ({ r with record := [], fragRemaining := none, lastFragment := false },
          some (.ok (some r.record)))
      else
        -- an intermediate fragment has been consumed: read the next header
        ({ r with fragRemaining := none }, none)
  | some (remaining + 1) =>
      if r.stream = [] then
        (r, some (.ok none))
      else
        let take := min (remaining + 1) r.stream.length
        ({ r with
          stream := r.stream.drop take
          record := r.record ++ r.stream.take take
          fragRemaining := some (remaining + 1 - take) }, none)

/-- Each turn that does not end the loop shrinks the stream, or leaves a
consumed fragment behind. -/
def measure (r : RecordReassembler) : Nat :=
  2 * r.stream.length + if r.fragRemaining.isSome then 1 else 0

theorem measure_push (r : RecordReassembler) (data : Bytes) :
    (r.push data).measure = r.measure + 2 * data.length := by
  have stream : (r.push data).stream.length = r.stream.length + data.length :=
    List.length_append
  have rest : (r.push data).fragRemaining = r.fragRemaining := rfl
  rw [measure, measure, stream, rest]
  omega

/-- The next complete record, or `none` when there are not enough bytes yet. -/
def nextRecord (r : RecordReassembler) : RecordReassembler × Except RpcError (Option Bytes) :=
  Loop.run turn measure (.ok none) r

theorem turn_decreases {r next : RecordReassembler} (silent : r.turn = (next, none)) :
    next.measure < r.measure := by
  unfold turn at silent
  split at silent
  · rename_i idle
    split at silent
    · cases silent
    · simp only at silent
      split at silent
      · cases silent
      · cases silent
        simp only [measure, List.length_drop, Option.isSome_some, ↓reduceIte, idle,
          Option.isSome_none, Bool.false_eq_true]
        omega
  · rename_i empty
    split at silent
    · cases silent
    · cases silent
      simp [measure, empty]
  · rename_i remaining some
    split at silent
    · cases silent
    · rename_i nonempty
      cases silent
      have positive : 0 < r.stream.length := List.length_pos_iff.mpr nonempty
      simp only [measure, List.length_drop, Option.isSome_some, ↓reduceIte, some]
      omega

/-- Nothing is added to the bytes held, and some are taken when there is a record. -/
def Sheds (r : RecordReassembler) (out : RecordReassembler × Except RpcError (Option Bytes)) :
    Prop :=
  out.1.measure ≤ r.measure ∧ ∀ record, out.2 = .ok (some record) → out.1.measure < r.measure

theorem sheds_of_stop {r next : RecordReassembler} {result : Except RpcError (Option Bytes)}
    (stopped : r.turn = (next, some result)) : r.Sheds (next, result) := by
  unfold Sheds
  unfold turn at stopped
  split at stopped
  · rename_i idle
    split at stopped
    · cases stopped
      exact ⟨Nat.le_refl _, fun _ same => nomatch same⟩
    · simp only at stopped
      split at stopped
      · cases stopped
        refine ⟨?_, fun _ same => nomatch same⟩
        simp only [measure, List.length_drop, idle]
        omega
      · cases stopped
  · rename_i empty
    split at stopped
    · cases stopped
      simp [measure, empty]
    · cases stopped
  · split at stopped
    · cases stopped
      exact ⟨Nat.le_refl _, fun _ same => nomatch same⟩
    · cases stopped

theorem Sheds.of_silent {r next : RecordReassembler}
    {out : RecordReassembler × Except RpcError (Option Bytes)} (silent : r.turn = (next, none))
    (sheds : next.Sheds out) : r.Sheds out := by
  have less := turn_decreases silent
  exact ⟨Nat.le_of_lt (Nat.lt_of_le_of_lt sheds.1 less),
    fun record same => Nat.lt_trans (sheds.2 record same) less⟩

theorem nextRecord_sheds (r : RecordReassembler) : r.Sheds r.nextRecord :=
  Loop.run_induct (fun _ _ => turn_decreases) _ (fun _ _ _ => sheds_of_stop)
    (fun _ _ _ => Sheds.of_silent) r

/-- The loop of `next_record`: its first turn, and the rest of it. -/
theorem nextRecord_eq (r : RecordReassembler) :
    r.nextRecord =
      match r.turn with
      | (next, some result) => (next, result)
      | (next, none) => next.nextRecord := by
  rw [nextRecord, Loop.run_eq (fun _ _ => turn_decreases)]
  rcases r.turn with ⟨next, _ | result⟩ <;> rfl

end RecordReassembler

end LibNfs.Rpc
