import LibNfs.Proto.Fattr4
import LibNfs.Proto.Nfs4

/-! # The operations of the NFSv4 client

The methods of `Nfs4` other than those that carry a seqid of the open-owner: the
requests they build and how they read the results. The clock that seeds the
boot verifier and the names of the owners is a parameter.
-/

namespace LibNfs.Proto

open Xdr (XdrError XdrEncode XdrDecode)

/-- The opcode of `ACCESS`. -/
def opAccess : UInt32 := 3

/-- The opcode of `COMMIT`. -/
def opCommit : UInt32 := 5

/-- The opcode of `CREATE`. -/
def opCreate : UInt32 := 6

/-- The opcode of `GETATTR`. -/
def opGetattr : UInt32 := 9

/-- The opcode of `LINK`. -/
def opLink : UInt32 := 11

/-- The opcode of `LOCKT`. -/
def opLockt : UInt32 := 13

/-- The opcode of `LOCKU`. -/
def opLocku : UInt32 := 14

/-- The opcode of `LOOKUP`. -/
def opLookup : UInt32 := 15

/-- The opcode of `PUTROOTFH`. -/
def opPutrootfh : UInt32 := 24

/-- The opcode of `READ`. -/
def opRead : UInt32 := 25

/-- The opcode of `READDIR`. -/
def opReaddir : UInt32 := 26

/-- The opcode of `READLINK`. -/
def opReadlink : UInt32 := 27

/-- The opcode of `REMOVE`. -/
def opRemove : UInt32 := 28

/-- The opcode of `RENAME`. -/
def opRename : UInt32 := 29

/-- The opcode of `RENEW`. -/
def opRenew : UInt32 := 30

/-- The opcode of `SAVEFH`. -/
def opSavefh : UInt32 := 32

/-- The opcode of `SETATTR`. -/
def opSetattr : UInt32 := 34

/-- The opcode of `SETCLIENTID`. -/
def opSetclientid : UInt32 := 35

/-- The opcode of `SETCLIENTID_CONFIRM`. -/
def opSetclientidConfirm : UInt32 := 36

/-- The opcode of `WRITE`. -/
def opWrite : UInt32 := 38

/-- The opcode of `EXCHANGE_ID`. -/
def opExchangeId : UInt32 := 42

/-- The opcode of `CREATE_SESSION`. -/
def opCreateSession : UInt32 := 43

/-- The opcode of `DESTROY_SESSION`. -/
def opDestroySession : UInt32 := 44

/-- The opcode of `RECLAIM_COMPLETE`. -/
def opReclaimComplete : UInt32 := 58

/-- The status of a lock that another lock stands against. -/
def nfs4errDenied : UInt32 := 10010

/-- The type of a directory. -/
def nf4Dir : UInt32 := 2

/-- The type of a symbolic link. -/
def nf4Lnk : UInt32 := 5

/-- Share access for reading. -/
def open4ShareAccessRead : UInt32 := 1

/-- Share access for writing. -/
def open4ShareAccessWrite : UInt32 := 2

/-- Share access for reading and writing. -/
def open4ShareAccessBoth : UInt32 := 3

/-- `UNSTABLE4`: the server may keep what is written in memory. -/
def unstable4 : UInt32 := 0

/-- `Stateid4::default()`. -/
def Stateid4.default : Stateid4 :=
  ⟨0, Vector.replicate 12 0⟩

/-- What `READ` returns. -/
structure ReadResult where
  eof : Bool
  data : Bytes
  deriving DecidableEq, Repr

/-- An entry of a directory, with the cookie after it. -/
structure DirEntry4 where
  cookie : UInt64
  name : String
  attrs : Fattr4
  deriving DecidableEq

/-- A page of a directory. -/
structure ReaddirResult where
  cookieverf : Vector UInt8 8
  entries : List DirEntry4
  eof : Bool
  deriving DecidableEq

namespace Compound

/-- Appends bytes written by an encoder of their own. -/
def append (write : Bytes → Except XdrError Bytes) (c : Compound) : Except XdrError Compound := do
  let ops ← write c.ops
  return { c with ops := ops }

/-- Makes the root the current object. -/
def putrootfh (c : Compound) : Except XdrError Compound :=
  c.op opPutrootfh

/-- Keeps the current object as the saved one. -/
def savefh (c : Compound) : Except XdrError Compound :=
  c.op opSavefh

/-- Asks for the attributes with these numbers. -/
def getattr (bits : List UInt32) (c : Compound) : Except XdrError Compound := do
  let c ← c.op opGetattr
  c.append (encodeBitmap bits)

/-- Goes to a name in the current directory. -/
def lookup (name : String) (c : Compound) : Except XdrError Compound := do
  let c ← c.op opLookup
  c.put name

/-- Asks which of these rights the current object grants. -/
def access (mask : UInt32) (c : Compound) : Except XdrError Compound := do
  let c ← c.op opAccess
  c.put mask

/-- Reads the target of the current link. -/
def readlink (c : Compound) : Except XdrError Compound :=
  c.op opReadlink

/-- Reads the current file. -/
def read (stateid : Stateid4) (offset : UInt64) (count : UInt32) (c : Compound) :
    Except XdrError Compound := do
  let c ← c.op opRead
  let c ← c.put stateid
  let c ← c.put offset
  c.put count

/-- Writes the current file. -/
def write (stateid : Stateid4) (offset : UInt64) (stable : UInt32) (data : Bytes) (c : Compound) :
    Except XdrError Compound := do
  let c ← c.op opWrite
  let c ← c.put stateid
  let c ← c.put offset
  let c ← c.put stable
  c.put data

/-- Makes a part of the current file durable. -/
def commit (offset : UInt64) (count : UInt32) (c : Compound) : Except XdrError Compound := do
  let c ← c.op opCommit
  let c ← c.put offset
  c.put count

/-- Removes a name from the current directory. -/
def remove (name : String) (c : Compound) : Except XdrError Compound := do
  let c ← c.op opRemove
  c.put name

/-- Renames from the saved directory to the current one. -/
def rename (old new : String) (c : Compound) : Except XdrError Compound := do
  let c ← c.op opRename
  let c ← c.put old
  c.put new

/-- Links the saved object into the current directory. -/
def link (newname : String) (c : Compound) : Except XdrError Compound := do
  let c ← c.op opLink
  c.put newname

/-- Renews the lease of the client. -/
def renew (clientid : UInt64) (c : Compound) : Except XdrError Compound := do
  let c ← c.op opRenew
  c.put clientid

/-- `CREATE` of a directory, without attributes. -/
def createDir (name : String) (c : Compound) : Except XdrError Compound := do
  let c ← c.op opCreate
  let c ← c.put nf4Dir
  let c ← c.put name
  let c ← c.append (encodeBitmap [])
  c.put (0 : UInt32)

/-- `CREATE` of a symbolic link, without attributes. -/
def createSymlink (name target : String) (c : Compound) : Except XdrError Compound := do
  let c ← c.op opCreate
  let c ← c.put nf4Lnk
  let c ← c.put target
  let c ← c.put name
  let c ← c.append (encodeBitmap [])
  c.put (0 : UInt32)

/-- Releases a range under a lock stateid. -/
def locku (locktype lockSeqid : UInt32) (lockStateid : Stateid4) (offset length : UInt64)
    (c : Compound) : Except XdrError Compound := do
  let c ← c.op opLocku
  let c ← c.put locktype
  let c ← c.put lockSeqid
  let c ← c.put lockStateid
  let c ← c.put offset
  c.put length

/-- Asks whether a range could be locked. -/
def lockt (locktype : UInt32) (offset length clientid : UInt64) (lockOwner : Bytes)
    (c : Compound) : Except XdrError Compound := do
  let c ← c.op opLockt
  let c ← c.put locktype
  let c ← c.put offset
  let c ← c.put length
  let c ← c.put clientid
  c.put lockOwner

/-- Sets attributes of the current object. -/
def setattr (stateid : Stateid4) (attrs : SetAttr4) (c : Compound) :
    Except XdrError Compound := do
  let c ← c.op opSetattr
  let c ← c.put stateid
  c.append (encodeSetattrFattr4 attrs)

/-- Reads a page of the current directory. -/
def readdir (cookie : UInt64) (cookieverf : Vector UInt8 8) (dircount maxcount : UInt32)
    (attrBits : List UInt32) (c : Compound) : Except XdrError Compound := do
  let c ← c.op opReaddir
  let c ← c.put cookie
  let c ← c.put cookieverf
  let c ← c.put dircount
  let c ← c.put maxcount
  c.append (encodeBitmap attrBits)

end Compound

namespace CompoundReader

/-- `opaque<>` up to a limit. -/
def opaqueData (limit : Nat) : ReadM Bytes := fun reader => do
  let (data, buf) ← liftXdr (Xdr.decodeOpaque limit reader.buf)
  return (data, ⟨buf⟩)

/-- An `fattr4`: its bitmap and its attribute list. -/
def fattr4 : ReadM Fattr4 := do
  let bitmap : List UInt32 ← decode
  let attrlist ← opaqueData usizeMax
  StateT.lift (decodeFattr4 bitmap attrlist)

/-- The entries of a directory: each one announces whether there is another. Each
takes bytes of the buffer, so fuel beyond their number is never used up. -/
def entries : Nat → Bool → List DirEntry4 → ReadM (List DirEntry4)
  | _, false, found => return found
  | 0, true, found => return found
  | fuel + 1, true, found => do
      let cookie : UInt64 ← decode
      let name : String ← decode
      let attrs ← fattr4
      let present : Bool ← decode
      entries fuel present (found ++ [⟨cookie, name, attrs⟩])

/-- The results of `READDIR`. -/
def dirlist : ReadM ReaddirResult := do
  let cookieverf : Vector UInt8 8 ← decode
  let present : Bool ← decode
  let reader ← get
  let found ← entries (reader.buf.length + 1) present []
  let eof : Bool ← decode
  return ⟨cookieverf, found, eof⟩

end CompoundReader

namespace Nfs4

variable {τ : Type} (transport : Transport τ)

/-- Builds a request, runs it and reads its results. -/
def request {α : Type} (c : Except XdrError Compound) (read : ReadM α) :
    Prog (Nfs4 τ) ProtoError α := do
  let c ← Prog.ofExcept (liftXdr c)
  let reader ← run transport c
  Prog.ofExcept (read.run' reader)

open CompoundReader (beginOp decode opaqueData fattr4 dirlist)

/-- Renews the lease of the client. -/
def renew : Prog (Nfs4 τ) ProtoError Unit := do
  let nfs ← Prog.get
  request transport (Compound.new.renew nfs.clientid) (beginOp opRenew)

/-- The handle of the root. -/
def rootFh : Prog (Nfs4 τ) ProtoError NfsFh4 :=
  request transport (do
    let c ← Compound.new.putrootfh
    c.getfh) do
    beginOp opPutrootfh
    beginOp opGetfh
    decode

/-- The attributes of an object that are asked for. -/
def getattrBits (fh : NfsFh4) (bits : List UInt32) : Prog (Nfs4 τ) ProtoError Fattr4 :=
  request transport (do
    let c ← Compound.new.putfh fh
    c.getattr bits) do
    beginOp opPutfh
    beginOp opGetattr
    fattr4

/-- The attributes that a listing shows. -/
def getattr (fh : NfsFh4) : Prog (Nfs4 τ) ProtoError Fattr4 :=
  getattrBits transport fh requestAttrs

/-- The attributes that `statvfs` needs. -/
def statvfs (fh : NfsFh4) : Prog (Nfs4 τ) ProtoError Fattr4 :=
  getattrBits transport fh statvfsAttrs

/-- The object of a name, with its attributes. -/
def lookup (dir : NfsFh4) (name : String) : Prog (Nfs4 τ) ProtoError (NfsFh4 × Fattr4) :=
  request transport (do
    let c ← Compound.new.putfh dir
    let c ← c.lookup name
    let c ← c.getfh
    c.getattr requestAttrs) do
    beginOp opPutfh
    beginOp opLookup
    beginOp opGetfh
    let fh : NfsFh4 ← decode
    beginOp opGetattr
    let attrs ← fattr4
    return (fh, attrs)

/-- The access bits granted; those the server supports are dropped. -/
def access (fh : NfsFh4) (mask : UInt32) : Prog (Nfs4 τ) ProtoError UInt32 :=
  request transport (do
    let c ← Compound.new.putfh fh
    c.access mask) do
    beginOp opPutfh
    beginOp opAccess
    let _supported : UInt32 ← decode
    decode

/-- The target of a symbolic link. -/
def readlink (fh : NfsFh4) : Prog (Nfs4 τ) ProtoError String :=
  request transport (do
    let c ← Compound.new.putfh fh
    c.readlink) do
    beginOp opPutfh
    beginOp opReadlink
    decode

/-- The lock-owner has had one use, in `LOCK`. -/
def unlock (fh : NfsFh4) (grant : LockGrant) (offset length : UInt64) :
    Prog (Nfs4 τ) ProtoError Stateid4 :=
  request transport (do
    let c ← Compound.new.putfh fh
    c.locku grant.locktype 1 grant.stateid offset length) do
    beginOp opPutfh
    beginOp opLocku
    decode

/-- Whether a lock would be granted. -/
def testLock (fh : NfsFh4) (offset length : UInt64) (exclusive : Bool) :
    Prog (Nfs4 τ) ProtoError Bool := do
  let locktype := if exclusive then writeLt else readLt
  let lockOwner ← freshLockOwner
  let nfs ← Prog.get
  let c ← Prog.ofExcept (liftXdr (do
    let c ← Compound.new.putfh fh
    c.lockt locktype offset length nfs.clientid lockOwner))
  match ← Prog.outcome (run transport c) with
  | .ok reader =>
      Prog.ofExcept ((do
        beginOp opPutfh
        beginOp opLockt
        return true : ReadM Bool).run' reader)
  | .error error =>
      if error = .nfs4 nfs4errDenied then
        return false
      else
        Prog.throw error

/-- A part of a file, and whether the end was reached. -/
def read (fh : NfsFh4) (stateid : Stateid4) (offset : UInt64) (count : UInt32) :
    Prog (Nfs4 τ) ProtoError ReadResult :=
  request transport (do
    let c ← Compound.new.putfh fh
    c.read stateid offset count) do
    beginOp opPutfh
    beginOp opRead
    let eof : Bool ← decode
    let data ← opaqueData usizeMax
    return ⟨eof, data⟩

/-- The number of bytes written; how they were committed and the write verifier
are dropped. -/
def write (fh : NfsFh4) (stateid : Stateid4) (offset : UInt64) (stable : UInt32) (data : Bytes) :
    Prog (Nfs4 τ) ProtoError UInt32 :=
  request transport (do
    let c ← Compound.new.putfh fh
    c.write stateid offset stable data) do
    beginOp opPutfh
    beginOp opWrite
    let count : UInt32 ← decode
    let _committed : UInt32 ← decode
    let _verf : Vector UInt8 8 ← decode
    return count

/-- The write verifier is dropped. -/
def commit (fh : NfsFh4) (offset : UInt64) (count : UInt32) : Prog (Nfs4 τ) ProtoError Unit :=
  request transport (do
    let c ← Compound.new.putfh fh
    c.commit offset count) do
    beginOp opPutfh
    beginOp opCommit
    let _verf : Vector UInt8 8 ← decode
    return ()

/-- Sets the mode and the size. -/
def setattr (fh : NfsFh4) (attrs : SetAttr4) : Prog (Nfs4 τ) ProtoError Unit :=
  request transport (do
    let c ← Compound.new.putfh fh
    c.setattr Stateid4.default attrs) do
    beginOp opPutfh
    beginOp opSetattr
    let _attrsset : List UInt32 ← decode
    return ()

/-- The results of `CREATE` and `GETFH`. -/
def readCreated : ReadM NfsFh4 := do
  beginOp opPutfh
  beginOp opCreate
  let _cinfo : ChangeInfo4 ← decode
  let _attrset : List UInt32 ← decode
  beginOp opGetfh
  decode

/-- Makes a directory and returns its handle. -/
def mkdir (dir : NfsFh4) (name : String) : Prog (Nfs4 τ) ProtoError NfsFh4 :=
  request transport (do
    let c ← Compound.new.putfh dir
    let c ← c.createDir name
    c.getfh) readCreated

/-- Makes a symbolic link and returns its handle. -/
def symlink (dir : NfsFh4) (name target : String) : Prog (Nfs4 τ) ProtoError NfsFh4 :=
  request transport (do
    let c ← Compound.new.putfh dir
    let c ← c.createSymlink name target
    c.getfh) readCreated

/-- Removes a file or a directory. -/
def remove (dir : NfsFh4) (name : String) : Prog (Nfs4 τ) ProtoError Unit :=
  request transport (do
    let c ← Compound.new.putfh dir
    c.remove name) do
    beginOp opPutfh
    beginOp opRemove
    let _cinfo : ChangeInfo4 ← decode
    return ()

/-- Makes another name for a file. -/
def link (file dir : NfsFh4) (name : String) : Prog (Nfs4 τ) ProtoError Unit :=
  request transport (do
    let c ← Compound.new.putfh file
    let c ← c.savefh
    let c ← c.putfh dir
    c.link name) do
    beginOp opPutfh
    beginOp opSavefh
    beginOp opPutfh
    beginOp opLink
    let _cinfo : ChangeInfo4 ← decode
    return ()

/-- Moves a name from one directory to another. -/
def rename (fromDir : NfsFh4) (fromName : String) (toDir : NfsFh4) (toName : String) :
    Prog (Nfs4 τ) ProtoError Unit :=
  request transport (do
    let c ← Compound.new.putfh fromDir
    let c ← c.savefh
    let c ← c.putfh toDir
    c.rename fromName toName) do
    beginOp opPutfh
    beginOp opSavefh
    beginOp opPutfh
    beginOp opRename
    let _source : ChangeInfo4 ← decode
    let _target : ChangeInfo4 ← decode
    return ()

/-- A page of a directory after a cookie. -/
def readdir (dir : NfsFh4) (cookie : UInt64) (cookieverf : Vector UInt8 8) (maxcount : UInt32) :
    Prog (Nfs4 τ) ProtoError ReaddirResult :=
  request transport (do
    let c ← Compound.new.putfh dir
    c.readdir cookie cookieverf (maxcount / 2) maxcount requestAttrs) do
    beginOp opPutfh
    beginOp opReaddir
    dirlist

end Nfs4

end LibNfs.Proto
