import LibNfs.Rpc.Message
import LibNfs.Xdr.RoundTrip

/-! # COMPOUND requests and replies

The NFSv4 `COMPOUND` builder and the reader of its results, with the operations
that carry the seqid of an open-owner. `CompoundRes` is the `COMPOUND4res` of
RFC 7530 as a server writes it.
-/

namespace LibNfs.Proto

open Coding
open Xdr (XdrError XdrEncode XdrDecode beU32 decodeU32)

/-- Errors of a protocol operation. -/
inductive ProtoError where
  | rpc (error : Rpc.RpcError)
  | xdr (error : XdrError)
  | io (kind : Rpc.IoErrorKind)
  | portNotRegistered (prog vers : UInt32)
  | nfs3 (status : UInt32)
  | nfs4 (status : UInt32)
  | nlm (status : UInt32)
  | protocol (text : String)
  deriving DecidableEq, Repr

/-- `From<XdrError> for ProtoError`, as the `?` operator applies it. -/
def liftXdr {α : Type} (result : Except XdrError α) : Except ProtoError α :=
  result.mapError .xdr

@[simp] theorem liftXdr_ok {α : Type} (value : α) : liftXdr (.ok value) = .ok value := rfl

@[simp] theorem liftXdr_error {α : Type} (error : XdrError) :
    liftXdr (.error error : Except XdrError α) = .error (.xdr error) := rfl

/-- The number of the NFS program. -/
def program : UInt32 := 100003

/-- The version of the NFS program. -/
def version4 : UInt32 := 4

/-- The procedure `COMPOUND`. -/
def compoundProc : UInt32 := 1

/-- The opcode of `CLOSE`. -/
def opClose : UInt32 := 4

/-- The opcode of `GETFH`. -/
def opGetfh : UInt32 := 10

/-- The opcode of `LOCK`. -/
def opLock : UInt32 := 12

/-- The opcode of `OPEN`. -/
def opOpen : UInt32 := 18

/-- The opcode of `OPEN_CONFIRM`. -/
def opOpenConfirm : UInt32 := 20

/-- The opcode of `PUTFH`. -/
def opPutfh : UInt32 := 22

/-- The opcode of `SEQUENCE`. -/
def opSequence : UInt32 := 53

/-- `NFS4_OK`. -/
def nfs4Ok : UInt32 := 0

/-- The status of a server that is to be asked again later. -/
def nfs4errDelay : UInt32 := 10008

/-- The status of a server in its grace period. -/
def nfs4errGrace : UInt32 := 10013

/-- A lock for reading. -/
def readLt : UInt32 := 1

/-- A lock for writing. -/
def writeLt : UInt32 := 2

/-- An open denies nothing to others. -/
def open4ShareDenyNone : UInt32 := 0

/-- An open that creates no file. -/
def open4Nocreate : UInt32 := 0

/-- An open that may create the file. -/
def open4Create : UInt32 := 1

/-- A file that is there is opened as it is. -/
def unchecked4 : UInt32 := 0

/-- A file is opened by its name. -/
def claimNull : UInt32 := 0

/-- The flag of an open that is to be confirmed. -/
def open4ResultConfirm : UInt32 := 2

/-- `stateid4`. -/
structure Stateid4 where
  seqid : UInt32
  other : Vector UInt8 12
  deriving DecidableEq, Repr

/-- A word and twelve bytes. -/
def Stateid4.ty : Xdr.Ty :=
  .struct (.plain .u32 (.plain (.fixed 12) .nil))

instance : XdrEncode Stateid4 where
  encode stateid := Stateid4.ty.encode (stateid.seqid, stateid.other, ())

instance : XdrDecode Stateid4 where
  decode buf := do
    let (value, buf) ← Stateid4.ty.decode buf
    return (⟨value.1, value.2.1⟩, buf)

/-- `nfs_fh4`. -/
structure NfsFh4 where
  data : Bytes
  deriving DecidableEq, Repr

/-- At most 128 bytes, `NFS4_FHSIZE`. -/
def NfsFh4.ty : Xdr.Ty :=
  .struct (.limited 128 .bytes .nil)

instance : XdrEncode NfsFh4 where
  encode fh := NfsFh4.ty.encode (fh.data, ())

instance : XdrDecode NfsFh4 where
  decode buf := do
    let (value, buf) ← NfsFh4.ty.decode buf
    return (⟨value.1⟩, buf)

/-- `change_info4`. -/
structure ChangeInfo4 where
  atomic : Bool
  before : UInt64
  after : UInt64
  deriving DecidableEq, Repr

/-- A flag and two numbers. -/
def ChangeInfo4.ty : Xdr.Ty :=
  .struct (.plain .bool (.plain .u64 (.plain .u64 .nil)))

instance : XdrDecode ChangeInfo4 where
  decode buf := do
    let (value, buf) ← ChangeInfo4.ty.decode buf
    return (⟨value.1, value.2.1, value.2.2.1⟩, buf)

/-- `build_bitmap`: the words of a set of attribute numbers. -/
def buildBitmap (bits : List UInt32) : List UInt32 :=
  let maxWord := (bits.map fun bit => bit.toNat / 32).foldl max 0
  bits.foldl
    (fun (words : List UInt32) (bit : UInt32) =>
      words.modify (bit.toNat / 32) fun word => word ||| (1 : UInt32) <<< (bit % 32))
    (List.replicate (maxWord + 1) 0)

/-- Builder of a `COMPOUND4args`. -/
structure Compound where
  ops : Bytes
  nops : UInt32
  deriving DecidableEq, Repr

namespace Compound

/-- A request without operations. -/
def new : Compound :=
  ⟨[], 0⟩

/-- Appends a value to the operations. -/
def put {α : Type} [XdrEncode α] (value : α) (c : Compound) : Except XdrError Compound := do
  let ops ← XdrEncode.encode value c.ops
  return { c with ops := ops }

/-- Begins an operation. -/
def op (opcode : UInt32) (c : Compound) : Except XdrError Compound := do
  let c ← c.put opcode
  return { c with nops := c.nops + 1 }

/-- Makes a handle the current object. -/
def putfh (fh : NfsFh4) (c : Compound) : Except XdrError Compound := do
  let c ← c.op opPutfh
  c.put fh

/-- Asks for the handle of the current object. -/
def getfh (c : Compound) : Except XdrError Compound :=
  c.op opGetfh

/-- `OPEN` by name; a file it creates gets no attributes. -/
def «open» (seqid : UInt32) (clientid : UInt64) (owner : Bytes) (shareAccess : UInt32)
    (create : Bool) (name : String) (c : Compound) : Except XdrError Compound := do
  let c ← c.op opOpen
  let c ← c.put seqid
  let c ← c.put shareAccess
  let c ← c.put open4ShareDenyNone
  let c ← c.put clientid
  let c ← c.put owner
  let c ←
    if create then do
      let c ← c.put open4Create
      let c ← c.put unchecked4
      let c ← c.put (buildBitmap [])
      c.put (0 : UInt32)
    else
      c.put open4Nocreate
  let c ← c.put claimNull
  c.put name

/-- Confirms an open. -/
def openConfirm (stateid : Stateid4) (seqid : UInt32) (c : Compound) :
    Except XdrError Compound := do
  let c ← c.op opOpenConfirm
  let c ← c.put stateid
  c.put seqid

/-- Closes a file. -/
def close (seqid : UInt32) (stateid : Stateid4) (c : Compound) : Except XdrError Compound := do
  let c ← c.op opClose
  let c ← c.put seqid
  c.put stateid

/-- `LOCK` with a new lock-owner, which takes a seqid of the open-owner. -/
def lockNew (locktype : UInt32) (offset length : UInt64) (openSeqid : UInt32)
    (openStateid : Stateid4) (lockSeqid : UInt32) (clientid : UInt64) (lockOwner : Bytes)
    (c : Compound) : Except XdrError Compound := do
  let c ← c.op opLock
  let c ← c.put locktype
  let c ← c.put false
  let c ← c.put offset
  let c ← c.put length
  let c ← c.put true
  let c ← c.put openSeqid
  let c ← c.put openStateid
  let c ← c.put lockSeqid
  let c ← c.put clientid
  c.put lockOwner

/-- The whole request: an empty tag, the minor version and the operations. -/
def finish (c : Compound) (minor : UInt32) : Except XdrError Bytes := do
  let buf ← XdrEncode.encode "" []
  let buf ← XdrEncode.encode minor buf
  let buf ← XdrEncode.encode c.nops buf
  return buf ++ c.ops

end Compound

/-- The results of a `COMPOUND` still to be read. -/
structure CompoundReader where
  buf : Bytes
  deriving DecidableEq, Repr

/-- Reading results one after the other. -/
abbrev ReadM := StateT CompoundReader (Except ProtoError)

namespace CompoundReader

/-- The header of the reply: a status other than `NFS4_OK` is an error. -/
def parse (buf : Bytes) : Except ProtoError CompoundReader := do
  let (status, buf) ← liftXdr (decodeU32 buf)
  let (_tag, buf) ← liftXdr (XdrDecode.decode buf : Except XdrError (String × Bytes))
  let (_count, buf) ← liftXdr (decodeU32 buf)
  if status ≠ nfs4Ok then
    .error (.nfs4 status)
  else
    return ⟨buf⟩

/-- Reads a value off what is left of a reply. -/
def decode {α : Type} [XdrDecode α] : ReadM α := fun reader => do
  let (value, buf) ← liftXdr (XdrDecode.decode reader.buf)
  return (value, ⟨buf⟩)

/-- The header of the next result: its opcode and status. -/
def beginOp (expected : UInt32) : ReadM Unit := do
  let opcode : UInt32 ← decode
  if opcode ≠ expected then
    throw (.protocol "COMPOUND: opcode inesperado")
  let status : UInt32 ← decode
  if status ≠ nfs4Ok then
    throw (.nfs4 status)

end CompoundReader

/-- The code of a stateid. -/
def Stateid4.code (stateid : Stateid4) : Bytes :=
  Stateid4.ty.code (stateid.seqid, stateid.other, ())

/-- The code of a handle. -/
def NfsFh4.code (fh : NfsFh4) : Bytes :=
  NfsFh4.ty.code (fh.data, ())

/-- The code of a change of a directory. -/
def ChangeInfo4.code (cinfo : ChangeInfo4) : Bytes :=
  ChangeInfo4.ty.code (cinfo.atomic, cinfo.before, cinfo.after, ())

/-- The handle respects `NFS4_FHSIZE`. -/
def NfsFh4.Short (fh : NfsFh4) : Prop :=
  fh.data.length ≤ 128

instance : DecidablePred NfsFh4.Short :=
  fun fh => inferInstanceAs (Decidable (fh.data.length ≤ 128))

theorem Stateid4.writes (stateid : Stateid4) : Writes XdrEncode.encode stateid stateid.code :=
  Stateid4.ty.writes _ ⟨trivial, trivial, trivial⟩ ⟨trivial, trivial, trivial⟩

theorem Stateid4.reads (stateid : Stateid4) : Reads XdrDecode.decode stateid stateid.code := by
  intro rest
  have read := Stateid4.ty.reads (stateid.seqid, stateid.other, ()) ⟨trivial, trivial, trivial⟩
    ⟨trivial, trivial, trivial⟩ ⟨trivial, trivial, trivial⟩ ⟨trivial, trivial, trivial⟩ rest
  simp only [XdrDecode.decode, Stateid4.code, read, bind, Except.bind, pure, Except.pure]

theorem ChangeInfo4.reads (cinfo : ChangeInfo4) : Reads XdrDecode.decode cinfo cinfo.code := by
  intro rest
  have read := ChangeInfo4.ty.reads (cinfo.atomic, cinfo.before, cinfo.after, ())
    ⟨trivial, trivial, trivial, trivial⟩ ⟨trivial, trivial, trivial, trivial⟩
    ⟨trivial, trivial, trivial, trivial⟩ ⟨trivial, trivial, trivial, trivial⟩ rest
  simp only [XdrDecode.decode, ChangeInfo4.code, read, bind, Except.bind, pure, Except.pure]

section Handles

variable {fh : NfsFh4}

theorem NfsFh4.fits (short : fh.Short) : NfsFh4.ty.Fits (fh.data, ()) := by
  have small : fh.data.length < 2 ^ 32 := Nat.lt_of_le_of_lt short (by decide)
  exact ⟨⟨trivial, small⟩, trivial⟩

theorem NfsFh4.writes (short : fh.Short) : Writes XdrEncode.encode fh fh.code :=
  NfsFh4.ty.writes _ (fits short) ⟨⟨short, trivial⟩, trivial⟩

theorem NfsFh4.reads (short : fh.Short) : Reads XdrDecode.decode fh fh.code := by
  intro rest
  have read := NfsFh4.ty.reads (fh.data, ()) ⟨trivial, trivial⟩ ⟨trivial, trivial⟩ (fits short)
    ⟨⟨short, trivial⟩, trivial⟩ rest
  simp only [XdrDecode.decode, NfsFh4.code, read, bind, Except.bind, pure, Except.pure]

/-- Only a short handle is encoded. -/
theorem NfsFh4.short_of_encode {buf whole : Bytes} (encoded : XdrEncode.encode fh buf = .ok whole) :
    fh.Short := by
  by_contra long
  have exceeds : Xdr.SizedTy.xdrLen .bytes fh.data > (128 : UInt64).toNat := Nat.not_le.mp long
  simp only [XdrEncode.encode, NfsFh4.ty, Xdr.Ty.encode, Xdr.Fields.encode, encodePair,
    Xdr.encodeLimited, exceeds, ↓reduceIte, bind, Except.bind, reduceCtorEq] at encoded

end Handles

namespace Compound

variable {α : Type} [XdrEncode α]

/-- What is written is put at the end of a request. -/
theorem put_of_writes {value : α} {code : Bytes} (writes : Writes XdrEncode.encode value code)
    (c : Compound) : c.put value = .ok { c with ops := c.ops ++ code } := by
  rw [put, writes c.ops]
  rfl

@[simp] theorem put_u32 (value : UInt32) (c : Compound) :
    c.put value = .ok { c with ops := c.ops ++ beU32 value } := rfl

@[simp] theorem put_u64 (value : UInt64) (c : Compound) :
    c.put value = .ok { c with ops := c.ops ++ Xdr.beU64 value } := rfl

/-- A boolean is put at the end of a request. -/
@[simp] theorem put_bool (value : Bool) (c : Compound) :
    c.put value = .ok { c with ops := c.ops ++ beU32 (Xdr.boolWord value) } := rfl

/-- A stateid is put at the end of a request. -/
@[simp] theorem put_stateid (stateid : Stateid4) (c : Compound) :
    c.put stateid = .ok { c with ops := c.ops ++ stateid.code } :=
  put_of_writes stateid.writes c

/-- An operation begins with its opcode, and is counted. -/
@[simp] theorem op_eq (opcode : UInt32) (c : Compound) :
    c.op opcode = .ok ⟨c.ops ++ beU32 opcode, c.nops + 1⟩ := rfl

/-- A value is put after what is there. -/
theorem put_appends {value : α} {c after : Compound}
    (appends : ∀ {buf whole : Bytes}, XdrEncode.encode value buf = .ok whole → buf <+: whole)
    (done : c.put value = .ok after) : c.ops <+: after.ops := by
  rcases encoded : XdrEncode.encode value c.ops with error | whole
  · simp [put, encoded, bind, Except.bind] at done
  · simp only [put, encoded, bind, Except.bind, pure, Except.pure, Except.ok.injEq] at done
    subst done
    exact appends encoded

theorem put_bytes_appends {data : Bytes} {c after : Compound} (done : c.put data = .ok after) :
    c.ops <+: after.ops :=
  put_appends Rpc.encodeOpaque_appends done

/-- Putting a text keeps what was put before. -/
theorem put_string_appends {text : String} {c after : Compound} (done : c.put text = .ok after) :
    c.ops <+: after.ops :=
  put_appends Rpc.encodeOpaque_appends done

/-- `PUTFH` of a handle that is encoded. -/
theorem putfh_inv {fh : NfsFh4} {c after : Compound} (done : c.putfh fh = .ok after) :
    fh.Short ∧ after = ⟨c.ops ++ (beU32 opPutfh ++ fh.code), c.nops + 1⟩ := by
  have encoded : ∃ whole, XdrEncode.encode fh (c.ops ++ beU32 opPutfh) = .ok whole := by
    rcases encoded : XdrEncode.encode fh (c.ops ++ beU32 opPutfh) with error | whole
    · simp [putfh, put, encoded, bind, Except.bind] at done
    · exact ⟨whole, rfl⟩
  obtain ⟨whole, encoded⟩ := encoded
  have short := NfsFh4.short_of_encode encoded
  refine ⟨short, ?_⟩
  simp only [putfh, op_eq, bind, Except.bind, put_of_writes (NfsFh4.writes short),
    Except.ok.injEq] at done
  rw [← done, List.append_assoc]

end Compound

/-- `COMPOUND4res`, with the results of its operations as bytes. -/
structure CompoundRes where
  status : UInt32
  tag : String
  count : UInt32
  results : Bytes
  deriving DecidableEq, Repr

/-- The reply on the wire. -/
def CompoundRes.encode (res : CompoundRes) : Bytes :=
  beU32 res.status ++ (Xdr.Ty.code (.sized .string) res.tag ++ (beU32 res.count ++ res.results))

/-- The client reads the header of a reply of a server. -/
theorem parse_encode {res : CompoundRes} (fits : (Xdr.asBytes res.tag).length < 2 ^ 32) :
    CompoundReader.parse res.encode =
      if res.status = nfs4Ok then .ok ⟨res.results⟩ else .error (.nfs4 res.status) := by
  have tag : Reads (XdrDecode.decode : Bytes → Except XdrError (String × Bytes)) res.tag
      (Xdr.Ty.code (.sized .string) res.tag) :=
    Xdr.Ty.reads (.sized .string) res.tag trivial trivial fits trivial
  have rest := tag (beU32 res.count ++ res.results)
  by_cases good : res.status = nfs4Ok <;>
    simp [CompoundReader.parse, CompoundRes.encode, rest, good, bind, Except.bind, pure,
      Except.pure]

end LibNfs.Proto
