import LibNfs.Client.VolumeV3
import LibNfs.Client.VolumeV4
import LibNfs.Lib.Volatile

/-! # A server that may restart

The server of some files, for both versions of the protocol. Each file is written and
committed under its own handle. What is written `UNSTABLE` is kept in memory until a
`COMMIT` of that file, and the server may restart before any request: what was not
committed is then lost, of every file, and the write verifier changes. A schedule says
what happens at each request, whatever it is.
-/

namespace LibNfs.Client

open Proto (ArgOp Success OpServer Failure Failure3 NfsFh3 NfsFh4 Nfs4 Proc3 Server3 WriteRes)
open Volatile (Calm Uncommitted)

/-- What happens at a request: whether the server restarts before it, whether it is declined,
and how much of its data a write stores at most. -/
structure Fate where
  restart : Bool
  refusal : Option Status
  limit : Nat

/-- Nothing happens. -/
def Fate.quiet : Fate :=
  ⟨false, none, 2 ^ 32⟩

/-- The files by their handles, the file that the operations of a request are about, how often
the server has started, and what is to happen at the next requests. -/
structure Disk where
  files : Bytes → Volatile.Store Bytes
  current : Bytes
  boot : UInt64
  fates : List Fate

/-- `FBIG`. -/
def tooBig : Refusal :=
  ⟨27, by decide, by decide⟩

namespace Disk

theorem size_boot (boot : UInt64) : (Xdr.beU64 boot).toArray.size = 8 := by
  rw [List.size_toArray, Xdr.length_beU64]

/-- The write verifier. -/
def verf (disk : Disk) : Vector UInt8 8 :=
  ⟨(Xdr.beU64 disk.boot).toArray, size_boot disk.boot⟩

/-- A restart reaches every file. -/
def restart (disk : Disk) : Disk :=
  { disk with files := fun fh => (disk.files fh).restart, boot := disk.boot + 1 }

/-- Takes what is to happen at a request from the schedule; after its end nothing happens. -/
def arrive : Prog Disk Status Fate := do
  let disk ← Prog.get
  let fate := disk.fates.headD .quiet
  Prog.modify fun disk =>
    let next := { disk with fates := disk.fates.tail }
    if fate.restart then next.restart else next
  return fate

/-- A request is served unless it is declined. -/
def request {α : Type} (action : Fate → Prog Disk Status α) : Prog Disk Status α := do
  let fate ← arrive
  match fate.refusal with
  | some status => Prog.throw status
  | none => action fate

/-- What is written to a file, in memory or for good. -/
def written (fh : Bytes) (offset : UInt64) (stable : Bool) (part : Bytes) (disk : Disk) : Disk :=
  let store := (disk.files fh).write fun content => Client.store content offset.toNat part
  { disk with files := Function.update disk.files fh (if stable then store.commit else store) }

/-- What was written to a file is made durable, and nothing else. -/
def committed (fh : Bytes) (disk : Disk) : Disk :=
  { disk with files := Function.update disk.files fh (disk.files fh).commit }

/-- `WRITE`: the count and the verifier. A file ends where an offset can say. -/
def write (fh : Bytes) (offset : UInt64) (stable : Bool) (data : Bytes) :
    Prog Disk Status (UInt32 × Vector UInt8 8) :=
  request fun fate => do
    let part := data.take fate.limit
    if offset.toNat + part.length < 2 ^ 64 then
      Prog.modify (written fh offset stable part)
      let disk ← Prog.get
      return (UInt32.ofNat part.length, disk.verf)
    else
      Prog.throw (.refused tooBig)

/-- `COMMIT`: the verifier. -/
def commit (fh : Bytes) : Prog Disk Status (Vector UInt8 8) :=
  request fun _ => do
    Prog.modify (committed fh)
    let disk ← Prog.get
    return disk.verf

/-- `CLOSE`. -/
def close : Prog Disk Status Unit :=
  request fun _ => return ()

/-- What is known of a file, unless a restart lost something. -/
def Safe (fh : Bytes) (property : Bytes → Prop) (disk : Disk) : Prop :=
  (disk.files fh).Safe property

variable {fh : Bytes} {property : Bytes → Prop}

theorem keeps_arrive : arrive.Keeps (Safe fh property) := by
  refine Prog.Keeps.bind Prog.Keeps.get fun disk => ?_
  refine Prog.Keeps.bind (Prog.Keeps.modify fun state safe => ?_) fun _ => Prog.Keeps.pure _
  dsimp only
  split
  · exact Volatile.Store.Safe.restart safe
  · exact safe

/-- A request that fails changes nothing but for a restart. -/
theorem meets_request {α : Type} {action : Fate → Prog Disk Status α} {ok : α → Disk → Prop}
    (acts : ∀ fate, (action fate).Meets (Safe fh property)
      (Prog.split ok fun _ => Safe fh property)) :
    (request action).Meets (Safe fh property) (Prog.split ok fun _ => Safe fh property) := by
  refine Prog.Meets.bind (fun _ => Safe fh property) keeps_arrive.byCases fun fate => ?_
  split
  · exact Prog.Meets.throw fun _ safe => safe
  · exact acts fate

theorem Safe.written {disk : Disk} (safe : disk.Safe fh property) (offset : UInt64) (stable : Bool)
    (part : Bytes) :
    (disk.written fh offset stable part).Safe fh (After property offset.toNat part) := by
  have wrote : ((disk.files fh).write fun content => Client.store content offset.toNat part).Safe
      (After property offset.toNat part) :=
    Volatile.Store.Safe.write safe fun content known => ⟨content, known, rfl⟩
  unfold Safe Disk.written
  dsimp only
  rw [Function.update_self]
  cases stable with
  | false => exact wrote
  | true => exact wrote.commit

/-- A start of the data has been written. -/
structure Wrote (fh : Bytes) (property : Bytes → Prop) (offset : UInt64) (data : Bytes)
    (count : UInt32) (disk : Disk) : Prop where
  le : count.toNat ≤ data.length
  inside : offset.toNat + count.toNat < 2 ^ 64
  safe : disk.Safe fh (After property offset.toNat (data.take count.toNat))

/-- Nothing is left to commit of a file. -/
structure Committed (fh : Bytes) (property : Bytes → Prop) (disk : Disk) : Prop where
  safe : disk.Safe fh property
  settled : ¬ Uncommitted (disk.files fh).history

theorem Safe.committed {disk : Disk} (safe : disk.Safe fh property) :
    Committed fh property (disk.committed fh) := by
  have same : (disk.committed fh).files fh = (disk.files fh).commit := Function.update_self ..
  refine ⟨?_, ?_⟩
  · rw [Safe, same]
    exact Volatile.Store.Safe.commit safe
  · rw [same]
    exact Volatile.Store.settled_commit _

end Disk

namespace Success3

open Proto (lengths_none)

/-- The count, how stable it is, and the verifier. -/
def wrote (count committed : UInt32) (verf : Vector UInt8 8) : Proc3.write.Success :=
  ⟨((none, none, ()), count, committed, verf, ()),
    ⟨⟨⟨lengths_none, lengths_none, trivial⟩, trivial, trivial, trivial, trivial⟩,
      ⟨lengths_none, lengths_none, trivial⟩, trivial, trivial, trivial, trivial⟩⟩

def committed (verf : Vector UInt8 8) : Proc3.commit.Success :=
  ⟨((none, none, ()), verf, ()),
    ⟨⟨⟨lengths_none, lengths_none, trivial⟩, trivial, trivial⟩, ⟨lengths_none, lengths_none, trivial⟩,
      trivial, trivial⟩⟩

end Success3

namespace Disk

/-- The answer of a server to a request. -/
def answered {α β ε : Type} (success : α → β) (failure : Status → ε) (body : Prog Disk Status α) :
    Prog Disk ε β :=
  Prog.within id (fun next _ => next) failure (do
    let value ← body
    return success value)

variable {property : Bytes → Prop}

variable {fh : Bytes}

/-- What is known of the file that the operations of a request are about. -/
def Opened (fh : Bytes) (property : Bytes → Prop) (disk : Disk) : Prop :=
  disk.current = fh ∧ disk.Safe fh property

end Disk

end LibNfs.Client
