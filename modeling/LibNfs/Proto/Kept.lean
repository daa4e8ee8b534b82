import LibNfs.Proto.Session

/-! # Invariants of the connection

What every call of the transport keeps is kept by the requests of the client, by the
handshake and by the operations made of them.
-/

namespace LibNfs.Proto

open Xdr (XdrError)

variable {τ : Type} {transport : Transport τ} {invariant : τ → Prop}

/-- Every call keeps the invariant. -/
def Transport.Keeps (transport : Transport τ) (invariant : τ → Prop) : Prop :=
  ∀ prog vers proc args, (transport.call prog vers proc args).Keeps invariant

namespace Nfs4

/-- The invariant holds of the connection of the client. -/
def Upon (invariant : τ → Prop) (nfs : Nfs4 τ) : Prop :=
  invariant nfs.rpc

variable (calls : transport.Keeps invariant)

include calls

/-- A call keeps what the transport keeps. -/
theorem call_keeps (args : Bytes) : (call transport args).Keeps (Upon invariant) :=
  Prog.Keeps.within (fun _ _ => rfl) (calls program version4 compoundProc (.ok args))

omit calls in
/-- Building a request keeps it. -/
theorem assemble_keeps (c : Compound) :
    (assemble c : Prog (Nfs4 τ) ProtoError Bytes).Keeps (Upon invariant) := by
  refine Prog.Keeps.bind Prog.Keeps.get fun nfs => ?_
  split
  · exact Prog.Keeps.ofExcept _
  · split
    · exact Prog.Keeps.throw _
    · exact Prog.Keeps.bind (Prog.Keeps.modify fun _ holds => holds) fun _ =>
        Prog.Keeps.ofExcept _

/-- An attempt keeps it. -/
theorem attempt_keeps (c : Compound) : (attempt transport c).Keeps (Upon invariant) :=
  Prog.Keeps.bind (Prog.Keeps.bind (assemble_keeps c) fun args => call_keeps calls args)
    fun _ => Prog.Keeps.pure _

/-- The attempts of a request keep it. -/
theorem attempts_keeps (c : Compound) (resends : Nat) :
    (attempts transport c resends).Keeps (Upon invariant) := by
  have turn (again : UInt32 → Prog (Nfs4 τ) ProtoError CompoundReader)
      (follows : ∀ code, (again code).Keeps (Upon invariant)) :
      (runTurn transport c again).Keeps (Upon invariant) := by
    refine Prog.Keeps.bind (attempt_keeps calls c) fun outcome => ?_
    split
    · refine Prog.Keeps.bind Prog.Keeps.get fun nfs => ?_
      split
      · exact Prog.Keeps.bind (Prog.Keeps.ofExcept _) fun _ => Prog.Keeps.pure _
      · exact Prog.Keeps.pure _
    · split
      · exact follows _
      · exact Prog.Keeps.throw _
    · exact Prog.Keeps.throw _
  induction resends with
  | zero => exact turn _ fun _ => Prog.Keeps.throw _
  | succ resends ih => exact turn _ fun _ => ih

/-- A request keeps it, whatever its results. -/
theorem run_keeps (c : Compound) : (run transport c).Keeps (Upon invariant) :=
  attempts_keeps calls c maxResends

/-- A request whose results are read keeps it. -/
theorem request_keeps {α : Type} (built : Except XdrError Compound) (read : ReadM α) :
    (request transport built read).Keeps (Upon invariant) :=
  Prog.Keeps.bind (Prog.Keeps.ofExcept _) fun c => Prog.Keeps.bind (run_keeps calls c) fun _ =>
    Prog.Keeps.ofExcept _

/-- A request without `SEQUENCE` keeps it. -/
theorem requestRaw_keeps {α : Type} (built : Except XdrError Compound) (read : ReadM α) :
    (requestRaw transport built read).Keeps (Upon invariant) := by
  refine Prog.Keeps.bind (Prog.Keeps.ofExcept _) fun c => Prog.Keeps.bind ?_ fun _ =>
    Prog.Keeps.ofExcept _
  refine Prog.Keeps.bind (Prog.Keeps.bind Prog.Keeps.get fun nfs =>
    Prog.Keeps.bind (Prog.Keeps.ofExcept _) fun args => call_keeps calls args) fun _ =>
      Prog.Keeps.ofExcept _

/-- The handshake of either version. -/
theorem handshake_keeps (nanos : UInt64) (id : Bytes) :
    (handshake transport nanos id).Keeps (Upon invariant) := by
  refine Prog.Keeps.bind Prog.Keeps.get fun nfs => ?_
  split
  · refine Prog.Keeps.bind Prog.Keeps.get fun nfs =>
      Prog.Keeps.bind (requestRaw_keeps calls _ _) fun _ =>
        Prog.Keeps.bind (Prog.Keeps.modify fun _ holds => holds) fun _ =>
          Prog.Keeps.bind (requestRaw_keeps calls _ _) fun _ =>
            Prog.Keeps.bind (Prog.Keeps.modify fun _ holds => holds) fun _ =>
              request_keeps calls _ _
  · exact Prog.Keeps.bind (request_keeps calls _ _) fun _ =>
      Prog.Keeps.bind (request_keeps calls _ _) fun _ =>
        Prog.Keeps.modify fun _ holds => holds

theorem rootFh_keeps : (rootFh transport).Keeps (Upon invariant) :=
  request_keeps calls _ _

theorem lookup_keeps (dir : NfsFh4) (name : String) :
    (lookup transport dir name).Keeps (Upon invariant) :=
  request_keeps calls _ _

end Nfs4

end LibNfs.Proto
