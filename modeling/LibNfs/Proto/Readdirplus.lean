import LibNfs.Proto.Nfs3

/-! # READDIRPLUS

A procedure of NFSv3 whose results have no derived codec, as those of `READDIR`, which
the backends do not call: a list of entries, each announced by a `true`. A page of a
directory that is written so is read back whole.
-/

namespace LibNfs.Proto

open Coding
open Xdr (XdrError Ty beU32)

/-- `entryplus3`. -/
structure EntryPlus3 where
  fileid : UInt64
  name : String
  cookie : UInt64
  nameAttributes : Option Fattr3
  nameHandle : Option NfsFh3

namespace EntryPlus3

/-- The fields of an entry. -/
def ty : Ty :=
  .struct (.plain .u64 (.plain (.sized .string) (.plain .u64 (.plain (.option Fattr3.ty)
    (.plain (.option NfsFh3.ty) .nil)))))

/-- An entry as a value of its type. -/
def val (entry : EntryPlus3) : ty.Val :=
  (entry.fileid, entry.name, entry.cookie, entry.nameAttributes, entry.nameHandle.map NfsFh3.val, ())

/-- The entry of a value. -/
def ofVal (val : ty.Val) : EntryPlus3 :=
  ⟨val.1, val.2.1, val.2.2.1, val.2.2.2.1, val.2.2.2.2.1.map NfsFh3.ofVal⟩

end EntryPlus3

/-- What `READDIRPLUS` returns. -/
structure ReaddirplusOk where
  dirAttributes : Option Fattr3
  cookieverf : Vector UInt8 8
  entries : List EntryPlus3
  eof : Bool

namespace ReaddirplusOk

/-- The entries up to the word that announces no more. Each takes bytes of the buffer, so
fuel beyond their number is never used up. -/
def decodeEntries : Nat → Bytes → Except XdrError (List EntryPlus3 × Bytes)
  | 0, buf => return ([], buf)
  | fuel + 1, buf => do
      let (present, buf) ← Ty.bool.decode buf
      if present then
        let (entry, buf) ← EntryPlus3.ty.decode buf
        let (entries, buf) ← decodeEntries fuel buf
        return (.ofVal entry :: entries, buf)
      else
        return ([], buf)

/-- Reads the attributes of the directory, its verifier, the entries, and whether they are the last.
-/
def decode (buf : Bytes) : Except XdrError (ReaddirplusOk × Bytes) := do
  let (dirAttributes, buf) ← (Ty.option Fattr3.ty).decode buf
  let (cookieverf, buf) ← (Ty.fixed 8).decode buf
  let (entries, buf) ← decodeEntries (buf.length + 1) buf
  let (eof, buf) ← Ty.bool.decode buf
  return (⟨dirAttributes, cookieverf, entries, eof⟩, buf)

end ReaddirplusOk

namespace Nfs3

/-- The procedure `READDIRPLUS`. -/
def procReaddirplus : UInt32 := 17

/-- `READDIRPLUS3args`: directory, cookie, verifier and the limits of the reply. -/
def ReaddirplusArgs : Ty :=
  .struct (.plain NfsFh3.ty (.plain .u64 (.plain (.fixed 8) (.plain .u32 (.plain .u32 .nil)))))

/-- Asks for a page of a directory. -/
def readdirplus {τ : Type} (transport : Transport τ) (dir : NfsFh3) (cookie : UInt64)
    (cookieverf : Vector UInt8 8) (dircount maxcount : UInt32) :
    Prog τ ProtoError ReaddirplusOk := do
  let result ← transport.callAs program version3 procReaddirplus
    (ReaddirplusArgs.encode (dir.val, cookie, cookieverf, dircount, maxcount, ()) [])
    (Nfs3Result.decode ReaddirplusOk.decode)
  Prog.ofExcept result.intoResult

end Nfs3

end LibNfs.Proto
