import LibNfs.Proto.Methods

/-! # What a client is known by

The requests of an NFSv4 client leave its identity alone: its client id, its owner and
its session. A lock, granted or not, and a test of a lock use up one name for a
lock-owner. Two names are different as long as the counter has not come round.
-/

namespace LibNfs.Proto

open Xdr (XdrError)

namespace Nfs4

variable {τ : Type} {start nfs : Nfs4 τ} {count : Nat}

/-- The client is the one it was at the start, and has since named this many owners. -/
structure Continues (start : Nfs4 τ) (count : Nat) (nfs : Nfs4 τ) : Prop where
  minor : nfs.minor = start.minor
  clientid : nfs.clientid = start.clientid
  owner : nfs.owner = start.owner
  sessionid : nfs.sessionid = start.sessionid
  counter : nfs.lockCounter = start.lockCounter + UInt32.ofNat count

theorem Continues.refl (nfs : Nfs4 τ) : Continues nfs 0 nfs :=
  ⟨rfl, rfl, rfl, rfl, (UInt32.add_zero _).symm⟩

/-- A client that has named one more lock-owner. -/
theorem Continues.lockNamed (continues : Continues start count nfs) :
    Continues start (count + 1) nfs.lockNamed where
  minor := continues.minor
  clientid := continues.clientid
  owner := continues.owner
  sessionid := continues.sessionid
  counter := by
    rw [UInt32.ofNat_add, ← UInt32.add_assoc, ← continues.counter]
    rfl

/-- A client that has counted an open-owner seqid. -/
theorem Continues.advanced (continues : Continues start count nfs) :
    Continues start count nfs.advanced :=
  ⟨continues.minor, continues.clientid, continues.owner, continues.sessionid, continues.counter⟩

/-- Where the client is connected to does not matter. -/
theorem Continues.over (continues : Continues start count nfs) (rpc : τ) :
    Continues start count { nfs with rpc } :=
  ⟨continues.minor, continues.clientid, continues.owner, continues.sessionid, continues.counter⟩

/-- What continues an established client is established. -/
theorem Continues.established (continues : Continues start count nfs)
    (established : start.Established) : nfs.Established := by
  refine ⟨?_, ?_⟩
  · rw [continues.minor, continues.sessionid]
    exact established.version
  · rw [continues.owner]
    exact established.named

/-- The name that the client uses after this many. -/
def lockName (start : Nfs4 τ) (count : Nat) : Bytes :=
  start.owner ++ Xdr.asBytes (":lock:" ++ toString (start.lockCounter + UInt32.ofNat count + 1))

/-- The next lock-owner after some were named. -/
theorem Continues.nextLockOwner (continues : Continues start count nfs) :
    nfs.nextLockOwner = start.lockName count := by
  rw [Nfs4.nextLockOwner, continues.owner, continues.counter, lockName]

/-- Numbers with one numeral are equal. -/
theorem repr_inj {first second : Nat} (same : Nat.repr first = Nat.repr second) :
    first = second := by
  have digits := congrArg String.toList same
  rw [Nat.toList_repr, Nat.toList_repr] at digits
  have values := congrArg (fun digits => Nat.ofDigitChars 10 digits 0) digits
  simpa only [Nat.ofDigitChars_ten_toDigits] using values

/-- Names are different until the counter comes round. -/
theorem lockName_inj {first second : Nat} (less : first < 2 ^ 32) (less' : second < 2 ^ 32)
    (same : start.lockName first = start.lockName second) : first = second := by
  have texts := congrArg Xdr.fromUtf8 (List.append_cancel_left same)
  rw [Xdr.fromUtf8_asBytes, Xdr.fromUtf8_asBytes, Option.some.injEq] at texts
  have numbers := UInt32.toNat_inj.mp (repr_inj (String.append_right_inj ":lock:" |>.mp texts))
  have counts := UInt32.add_right_inj _ |>.mp (UInt32.add_left_inj _ |>.mp numbers)
  have values := congrArg UInt32.toNat counts
  rwa [UInt32.toNat_ofNat_of_lt' less, UInt32.toNat_ofNat_of_lt' less'] at values

section Requests

variable {transport : Transport τ}

theorem call_continues (args : Bytes) :
    (call transport args).Keeps (Continues start count) :=
  Prog.Meets.within fun _ _ _ continues _ => continues.over _

/-- Building a request names no lock-owner. -/
theorem assemble_continues (c : Compound) :
    (assemble c : Prog (Nfs4 τ) ProtoError Bytes).Keeps (Continues start count) := by
  refine Prog.Keeps.bind Prog.Keeps.get fun nfs => ?_
  split
  · exact Prog.Keeps.ofExcept _
  · split
    · exact Prog.Keeps.throw _
    · refine Prog.Keeps.bind (Prog.Keeps.modify fun _ continues => ?_) fun _ =>
        Prog.Keeps.ofExcept _
      exact ⟨continues.minor, continues.clientid, continues.owner, continues.sessionid,
        continues.counter⟩

/-- The attempts of a request name no lock-owner. -/
theorem attempts_continues (c : Compound) (resends : Nat) :
    (attempts transport c resends).Keeps (Continues start count) := by
  have attempted : (attempt transport c).Keeps (Continues start count) :=
    Prog.Keeps.bind (Prog.Keeps.bind (assemble_continues c) call_continues) fun _ =>
      Prog.Keeps.pure _
  have turn (again : UInt32 → Prog (Nfs4 τ) ProtoError CompoundReader)
      (follows : ∀ code, (again code).Keeps (Continues start count)) :
      (runTurn transport c again).Keeps (Continues start count) := by
    refine Prog.Keeps.bind attempted fun outcome => ?_
    split
    · refine Prog.Keeps.bind Prog.Keeps.get fun nfs => ?_
      split
      · exact Prog.Keeps.bind (Prog.Keeps.ofExcept _) fun _ => Prog.Keeps.pure _
      · exact Prog.Keeps.pure _
    · split
      · exact follows _
      · exact Prog.Keeps.throw _
    · exact Prog.Keeps.throw _
  induction resends with
  | zero => exact turn _ fun _ => Prog.Keeps.throw _
  | succ resends ih => exact turn _ fun _ => ih

/-- A request without seqids names no lock-owner. -/
theorem request_continues {α : Type} (built : Except XdrError Compound) (read : ReadM α) :
    (request transport built read).Keeps (Continues start count) :=
  Prog.Keeps.bind (Prog.Keeps.ofExcept _) fun c =>
    Prog.Keeps.bind (attempts_continues c maxResends) fun _ => Prog.Keeps.ofExcept _

/-- `unlock` names no lock-owner. -/
theorem unlock_continues (fh : NfsFh4) (grant : LockGrant) (offset length : UInt64) :
    (unlock transport fh grant offset length).Keeps (Continues start count) :=
  request_continues _ _

/-- What comes after a name has been used up. -/
theorem freshLockOwner_bind {α : Type} {next : Bytes → Prog (Nfs4 τ) ProtoError α}
    (follows : ∀ name, (next name).Keeps (Continues start (count + 1))) :
    (freshLockOwner >>= next).Meets (Continues start count)
      fun _ => Continues start (count + 1) := by
  intro nfs final result continues ended
  rw [Prog.bind_of_ok (freshLockOwner_ok nfs)] at ended
  exact follows _ nfs.lockNamed final result continues.lockNamed ended

theorem lock_continues (fh : NfsFh4) (openStateid : Stateid4) (offset length : UInt64)
    (exclusive : Bool) :
    (lock transport fh openStateid offset length exclusive).Meets (Continues start count)
      fun _ => Continues start (count + 1) := by
  refine freshLockOwner_bind fun name => Prog.Keeps.bind Prog.Keeps.get fun nfs =>
    Prog.Keeps.bind (Prog.Keeps.ofExcept _) fun c => ?_
  refine Prog.Keeps.bind ?_ fun _ => Prog.Keeps.pure _
  exact Prog.Keeps.bind (attempts_continues c maxResends) fun reader =>
    Prog.Keeps.bind (Prog.Keeps.ofExcept _) fun _ =>
      Prog.Keeps.bind (Prog.Keeps.modify fun _ continues => continues.advanced) fun _ =>
        Prog.Keeps.pure _

/-- `test_lock` names one lock-owner. -/
theorem testLock_continues (fh : NfsFh4) (offset length : UInt64) (exclusive : Bool) :
    (testLock transport fh offset length exclusive).Meets (Continues start count)
      fun _ => Continues start (count + 1) := by
  refine freshLockOwner_bind fun name => Prog.Keeps.bind Prog.Keeps.get fun nfs =>
    Prog.Keeps.bind (Prog.Keeps.ofExcept _) fun c => ?_
  refine Prog.Keeps.bind (Prog.Keeps.outcome (attempts_continues c maxResends)) fun outcome => ?_
  split
  · exact Prog.Keeps.ofExcept _
  · split
    · exact Prog.Keeps.pure _
    · exact Prog.Keeps.throw _

end Requests

end Nfs4

end LibNfs.Proto
