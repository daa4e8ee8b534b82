import LibNfs.Proto.LinkedLists
import LibNfs.Xdr.Cursor

/-! # Protocol decoders over the cursor

The decoders of the protocols that are written by hand, over the cursor that panics.
On the 64-bit build with overflow checks none of them does, on any buffer.
-/

namespace LibNfs.Proto

open Coding Guarded
open Xdr (Buf Target XdrError XdrDecode Ty decodeU32 flag_bool follows_bool follows_bytes
  follows_u32)

variable (target : Target) {most : Nat}

/-- `Nfs3Result::decode`. -/
def Nfs3Result.reader {α : Type} (ok : Buf α) : Buf (Nfs3Result α) := do
  let status ← Buf.decodeU32
  if status = nfs3Ok then
    let value ← ok
    return .ok value
  else
    return .fail status

theorem Nfs3Result.follows {α : Type} {ok : Buf α} {decode : Decoder XdrError UInt8 α}
    (payload : Follows most ok decode) :
    Follows most (Nfs3Result.reader ok) (Nfs3Result.decode decode) :=
  follows_u32.bind fun status =>
    .ite (fun _ => payload.bind fun value => .pure (Nfs3Result.ok value))
      fun _ => .pure (Nfs3Result.fail status)

/-- One turn of the loop of `READDIR`. -/
def Entry3.reader : Buf Entry3 := do
  let fileid ← Buf.decodeU64
  let name ← target.decodeString
  let cookie ← Buf.decodeU64
  return ⟨fileid, name, cookie⟩

/-- `ReaddirOk::decode`. -/
def ReaddirOk.reader : Buf ReaddirOk := do
  let dirAttributes ← Buf.decodeOption (target.decode Fattr3.ty)
  let cookieverf ← target.decodeFixed 8
  let entries ← Reader.list Buf.decodeBool (Entry3.reader target)
  let eof ← Buf.decodeBool
  return ⟨dirAttributes, cookieverf, entries, eof⟩

/-- One turn of the loop of `READDIRPLUS`. -/
def EntryPlus3.reader : Buf EntryPlus3 := do
  let fileid ← Buf.decodeU64
  let name ← target.decodeString
  let cookie ← Buf.decodeU64
  let nameAttributes ← Buf.decodeOption (target.decode Fattr3.ty)
  let nameHandle ← Buf.decodeOption (target.decode NfsFh3.ty)
  return ⟨fileid, name, cookie, nameAttributes, nameHandle.map .ofVal⟩

/-- `ReaddirplusOk::decode`. -/
def ReaddirplusOk.reader : Buf ReaddirplusOk := do
  let dirAttributes ← Buf.decodeOption (target.decode Fattr3.ty)
  let cookieverf ← target.decodeFixed 8
  let entries ← Reader.list Buf.decodeBool (EntryPlus3.reader target)
  let eof ← Buf.decodeBool
  return ⟨dirAttributes, cookieverf, entries, eof⟩

theorem follows_fattr3 :
    Follows most (Buf.decodeOption (Target.checked64.decode Fattr3.ty))
      (Ty.option Fattr3.ty).decode := by
  apply (Ty.option Fattr3.ty).follows
  simp [Fattr3.ty, Specdata3.ty, Nfstime3.ty, Ty.Placed, Xdr.Fields.Placed]

/-- The statements of the turn read the fields of an entry. -/
theorem Entry3.reader_eq : Entry3.reader target = do
    let value ← target.decode Entry3.ty
    return .ofVal value := by
  simp only [reader, ty, ofVal, Target.decode, Target.decodeFields, Target.decodeSized, bind_assoc,
    pure_bind]

theorem EntryPlus3.reader_eq : EntryPlus3.reader target = do
    let value ← target.decode EntryPlus3.ty
    return .ofVal value := by
  simp only [reader, ty, ofVal, Target.decode, Target.decodeFields, Target.decodeSized, bind_assoc,
    pure_bind]

theorem Entry3.follows : Follows most (Entry3.reader .checked64) Entry3.decode := by
  rw [Entry3.reader_eq]
  have fields : Follows most (Target.checked64.decode Entry3.ty) Entry3.ty.decode :=
    Entry3.ty.follows ⟨trivial, trivial, trivial, trivial⟩
  exact fields.bind fun value => .pure (Entry3.ofVal value)

theorem EntryPlus3.follows : Follows most (EntryPlus3.reader .checked64) EntryPlus3.decode := by
  rw [EntryPlus3.reader_eq]
  have fields : Follows most (Target.checked64.decode EntryPlus3.ty) EntryPlus3.ty.decode := by
    apply EntryPlus3.ty.follows
    simp [EntryPlus3.ty, NfsFh3.ty, Fattr3.ty, Specdata3.ty, Nfstime3.ty, Ty.Placed,
      Xdr.Fields.Placed, Xdr.SizedTy.Placed]
  exact fields.bind fun value => .pure (EntryPlus3.ofVal value)

/-- A page of a directory, by its kind of entries. -/
theorem follows_page {α γ : Type} {entry : Buf α} {decode : Decoder XdrError UInt8 α}
    {layout : Layout UInt8 α} (each : Follows most entry decode) (decodes : Decodes decode layout)
    (page : Option Fattr3 → Vector UInt8 8 → List α → Bool → γ) :
    Follows most (do
      let dirAttributes ← Buf.decodeOption (Target.checked64.decode Fattr3.ty)
      let cookieverf ← Target.checked64.decodeFixed 8
      let entries ← Reader.list Buf.decodeBool entry
      let eof ← Buf.decodeBool
      return page dirAttributes cookieverf entries eof) fun buf => do
        let (dirAttributes, buf) ← (Ty.option Fattr3.ty).decode buf
        let (cookieverf, buf) ← (Ty.fixed 8).decode buf
        let (entries, buf) ← decodeList Ty.bool.decode decode buf
        let (eof, buf) ← Ty.bool.decode buf
        return (page dirAttributes cookieverf entries eof, buf) :=
  follows_fattr3.bind fun _ => (Xdr.follows_fixed (by decide)).bind fun _ =>
    (follows_bool.list each flag_bool decodes).bind fun _ => follows_bool.bind fun _ => .pure _

theorem ReaddirOk.follows : Follows most (ReaddirOk.reader .checked64) ReaddirOk.decode :=
  follows_page Entry3.follows Entry3.decodes ReaddirOk.mk

theorem ReaddirplusOk.follows :
    Follows most (ReaddirplusOk.reader .checked64) ReaddirplusOk.decode := by
  apply (follows_page EntryPlus3.follows EntryPlus3.decodes ReaddirplusOk.mk).congr
  funext buf
  simp only [ReaddirplusOk.decode, ReaddirplusOk.decodeEntries_eq]
  rfl

namespace Mount

/-- `Mountres3::decode`. -/
def Mountres3.reader : Buf Mountres3 := do
  let status ← Buf.decodeU32
  if status = mnt3Ok then
    let fhandle ← target.decodeOpaque fhsize3
    let authFlavors ← Buf.decodeVec Buf.decodeU32
    return .ok ⟨fhandle, authFlavors⟩
  else
    return .err status

/-- `decode_string_list`. -/
def stringListReader : Buf (List String) :=
  Reader.list Buf.decodeBool target.decodeString

/-- One turn of the loop of `EXPORT`. -/
def ExportNode.reader : Buf ExportNode := do
  let dir ← target.decodeString
  let groups ← stringListReader target
  return ⟨dir, groups⟩

/-- `ExportList::decode`. -/
def ExportList.reader : Buf ExportList := do
  let nodes ← Reader.list Buf.decodeBool (ExportNode.reader target)
  return ⟨nodes⟩

/-- One turn of the loop of `DUMP`. -/
def MountEntry.reader : Buf MountEntry := do
  let hostname ← target.decodeString
  let dir ← target.decodeString
  return ⟨hostname, dir⟩

/-- `MountList::decode`. -/
def MountList.reader : Buf MountList := do
  let entries ← Reader.list Buf.decodeBool (MountEntry.reader target)
  return ⟨entries⟩

theorem Mountres3.follows : Follows most (Mountres3.reader .checked64) Mountres3.decode :=
  follows_u32.bind fun status =>
    .ite (fun _ => (follows_bytes fhsize3).bind fun fhandle =>
      (Xdr.follows_vec follows_u32).bind fun authFlavors =>
        .pure (Mountres3.ok ⟨fhandle, authFlavors⟩)) fun _ => .pure (Mountres3.err status)

theorem follows_text :
    Follows most Target.checked64.decodeString (Ty.sized .string).decode :=
  Xdr.follows_string

theorem follows_stringList : Follows most (stringListReader .checked64) decodeStringList :=
  follows_bool.list follows_text flag_bool decodes_text

theorem ExportNode.follows : Follows most (ExportNode.reader .checked64) ExportNode.decode :=
  follows_text.bind fun dir => follows_stringList.bind fun groups => .pure (ExportNode.mk dir groups)

theorem ExportList.follows : Follows most (ExportList.reader .checked64) ExportList.decode :=
  (follows_bool.list ExportNode.follows flag_bool ExportNode.decodes).bind fun nodes =>
    .pure (ExportList.mk nodes)

theorem MountEntry.follows : Follows most (MountEntry.reader .checked64) MountEntry.decode :=
  follows_text.bind fun hostname => follows_text.bind fun dir => .pure (MountEntry.mk hostname dir)

theorem MountList.follows : Follows most (MountList.reader .checked64) MountList.decode :=
  (follows_bool.list MountEntry.follows flag_bool MountEntry.decodes).bind fun entries =>
    .pure (MountList.mk entries)

end Mount

namespace Portmap

/-- `PortmapList::decode`. -/
def PortmapList.reader : Buf PortmapList := do
  let entries ← Reader.list Buf.decodeBool (target.decode Mapping.ty)
  return ⟨entries⟩

theorem PortmapList.follows : Follows most (PortmapList.reader .checked64) PortmapList.decode := by
  have mapping : Follows most (Target.checked64.decode Mapping.ty) Mapping.ty.decode :=
    Mapping.ty.follows ⟨trivial, trivial, trivial, trivial, trivial⟩
  exact (follows_bool.list mapping flag_bool decodes_mapping).bind fun entries =>
    .pure (PortmapList.mk entries)

end Portmap

namespace Nlm

/-- `TestResult::decode`. -/
def TestResult.reader : Buf TestResult := do
  let _cookie ← target.decodeBytes
  let stat ← Buf.decodeU32
  if stat = nlm4Granted then
    return .granted
  else if stat = nlm4Denied then
    let exclusive ← Buf.decodeBool
    let svid ← Buf.decodeI32
    let _oh ← target.decodeBytes
    let offset ← Buf.decodeU64
    let len ← Buf.decodeU64
    return .denied ⟨exclusive, svid, offset, len⟩
  else
    return .other stat

theorem TestResult.follows : Follows most (TestResult.reader .checked64) TestResult.decode :=
  (follows_bytes usizeMax).bind fun _ => follows_u32.bind fun stat =>
    .ite (fun _ => .pure TestResult.granted) fun _ =>
      .ite (fun _ => follows_bool.bind fun exclusive => Xdr.follows_i32.bind fun svid =>
        (follows_bytes usizeMax).bind fun _ => Xdr.follows_u64.bind fun offset =>
          Xdr.follows_u64.bind fun len => .pure (TestResult.denied ⟨exclusive, svid, offset, len⟩))
        fun _ => .pure (TestResult.other stat)

end Nlm

namespace Rquota

def qOk : UInt32 := 1

/-- `rquota`: block size, whether it is active, and its limits and counts. -/
def ty : Ty :=
  .struct (.plain .i32 (.plain .bool (.plain .u32 (.plain .u32 (.plain .u32 (.plain .u32
    (.plain .u32 (.plain .u32 (.plain .u32 (.plain .u32 .nil))))))))))

/-- What `GETQUOTA` returns. -/
inductive GetquotaResult where
  | ok (quota : ty.Val)
  | status (status : UInt32)

def GetquotaResult.decode (buf : Bytes) : Except XdrError (GetquotaResult × Bytes) := do
  let (stat, buf) ← decodeU32 buf
  if stat = qOk then
    let (quota, buf) ← ty.decode buf
    return (.ok quota, buf)
  else
    return (.status stat, buf)

/-- `GetquotaResult::decode`. -/
def GetquotaResult.reader : Buf GetquotaResult := do
  let stat ← Buf.decodeU32
  if stat = qOk then
    let quota ← target.decode ty
    return .ok quota
  else
    return .status stat

theorem GetquotaResult.follows :
    Follows most (GetquotaResult.reader .checked64) GetquotaResult.decode := by
  have quota : Follows most (Target.checked64.decode ty) ty.decode := by
    apply ty.follows
    simp [ty, Ty.Placed, Xdr.Fields.Placed]
  exact follows_u32.bind fun stat =>
    .ite (fun _ => quota.bind fun value => .pure (GetquotaResult.ok value))
      fun _ => .pure (GetquotaResult.status stat)

end Rquota

end LibNfs.Proto
