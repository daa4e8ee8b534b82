import LibNfs.Lib.Layout
import LibNfs.Xdr.Canonical

/-! # The MOUNT protocol

What the server of MOUNT version 3 answers. Lists are linked: a `true` before each
node and a `false` after the last one.
-/

namespace LibNfs.Proto

open Coding
open Xdr (XdrError XdrDecode Ty decodeU32)

namespace Mount

/-- The program number of MOUNT. -/
def program : UInt32 := 100005

/-- The version of MOUNT. -/
def version3 : UInt32 := 3

/-- The procedure `MNT`. -/
def mntProc : UInt32 := 1

/-- Size limit of a `fhandle3`. -/
def fhsize3 : Nat := 64

/-- The status of a mount that was made. -/
def mnt3Ok : UInt32 := 0

/-- The handle of the export's root and the accepted kinds of authentication. -/
structure MountOk where
  fhandle : Bytes
  authFlavors : List UInt32
  deriving DecidableEq, Repr

/-- The result of `MNT`. -/
inductive Mountres3 where
  | ok (mounted : MountOk)
  | err (status : UInt32)
  deriving DecidableEq, Repr

/-- Reads the status, and after a good one the handle and the flavors. -/
def Mountres3.decode (buf : Bytes) : Except XdrError (Mountres3 × Bytes) := do
  let (status, buf) ← decodeU32 buf
  if status = mnt3Ok then
    let (fhandle, buf) ← Xdr.decodeOpaque fhsize3 buf
    let (authFlavors, buf) ← (XdrDecode.decode buf : Except XdrError (List UInt32 × Bytes))
    return (.ok ⟨fhandle, authFlavors⟩, buf)
  else
    return (.err status, buf)

/-- A published directory and the groups that may mount it. -/
structure ExportNode where
  dir : String
  groups : List String
  deriving DecidableEq, Repr

/-- `decode_string_list`. -/
def decodeStringList : Decoder XdrError UInt8 (List String) :=
  decodeList Ty.bool.decode (Ty.sized .string).decode

/-- Reads a directory and its groups. -/
def ExportNode.decode (buf : Bytes) : Except XdrError (ExportNode × Bytes) := do
  let (dir, buf) ← (Ty.sized .string).decode buf
  let (groups, buf) ← decodeStringList buf
  return (⟨dir, groups⟩, buf)

/-- What `EXPORT` returns. -/
structure ExportList where
  nodes : List ExportNode
  deriving DecidableEq, Repr

/-- Reads the exports, each announced by a `true`. -/
def ExportList.decode (buf : Bytes) : Except XdrError (ExportList × Bytes) := do
  let (nodes, buf) ← decodeList Ty.bool.decode ExportNode.decode buf
  return (⟨nodes⟩, buf)

/-- A host and the directory it has mounted. -/
structure MountEntry where
  hostname : String
  dir : String
  deriving DecidableEq, Repr

/-- Reads a host and a directory. -/
def MountEntry.decode (buf : Bytes) : Except XdrError (MountEntry × Bytes) := do
  let (hostname, buf) ← (Ty.sized .string).decode buf
  let (dir, buf) ← (Ty.sized .string).decode buf
  return (⟨hostname, dir⟩, buf)

/-- What `DUMP` returns. -/
structure MountList where
  entries : List MountEntry
  deriving DecidableEq, Repr

/-- Reads the mounts, each announced by a `true`. -/
def MountList.decode (buf : Bytes) : Except XdrError (MountList × Bytes) := do
  let (entries, buf) ← decodeList Ty.bool.decode MountEntry.decode buf
  return (⟨entries⟩, buf)

end Mount

end LibNfs.Proto
