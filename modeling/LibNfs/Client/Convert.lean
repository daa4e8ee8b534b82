import LibNfs.Client.Backend
import LibNfs.Proto.Nfs3
import LibNfs.Proto.Operations

/-! # Errors and attributes of both versions

What the statuses and the attributes of NFSv3 and NFSv4 are for the file API.
-/

namespace LibNfs.Client

open Proto (ProtoError Fattr3 Fattr4 Nfstime3 Nfstime4 Sattr3 SetTime)

/-- The error of a status of NFSv3. -/
def NfsError.fromNfsstat3 (code : UInt32) : NfsError :=
  if code = 2 then .notFound
  else if code = 20 then .notADirectory
  else if code = 21 then .isADirectory
  else if code = 17 then .alreadyExists
  else if code = 1 ∨ code = 13 then .permissionDenied
  else if code = 66 then .notEmpty
  else if code = 63 then .nameTooLong
  else if code = 28 then .noSpace
  else if code = 30 then .readOnly
  else if code = 70 then .stale
  else if code = 22 then .invalidArgument
  else .proto (.nfs3 code)

/-- The error of a status of NFSv4. -/
def NfsError.fromNfsstat4 (code : UInt32) : NfsError :=
  if code = 2 then .notFound
  else if code = 20 then .notADirectory
  else if code = 17 then .alreadyExists
  else if code = 13 then .permissionDenied
  else if code = 66 then .notEmpty
  else if code = 70 then .stale
  else if code = 22 then .invalidArgument
  else if code = Proto.nfs4errDenied then .locked
  else .proto (.nfs4 code)

/-- `From<ProtoError> for NfsError`; a lock that NLM denies is in conflict. -/
def NfsError.ofProto : ProtoError → NfsError
  | .nfs3 code => fromNfsstat3 code
  | .nfs4 code => fromNfsstat4 code
  | .io kind => .io kind
  | .nlm stat => if stat = 1 then .locked else .proto (.nlm stat)
  | .rpc error => .proto (.rpc error)
  | .xdr error => .proto (.xdr error)
  | .portNotRegistered prog vers => .proto (.portNotRegistered prog vers)
  | .protocol text => .proto (.protocol text)

/-- Both versions share the low values of `ftype`. -/
def FileType.fromNfs (value : UInt32) : FileType :=
  if value = 1 then .regular
  else if value = 2 then .directory
  else if value = 3 then .block
  else if value = 4 then .char
  else if value = 5 then .symlink
  else if value = 6 then .socket
  else if value = 7 then .fifo
  else .unknown

/-- The time of NFSv3. -/
def Timestamp.fromNfstime3 (time : Nfstime3) : Timestamp :=
  ⟨time.seconds.toUInt64.toInt64, time.nseconds⟩

/-- The attributes of NFSv3. -/
def Attr.fromFattr3 (attr : Fattr3) : Attr where
  fileType := .fromNfs attr.ftype
  mode := attr.mode
  nlink := attr.nlink
  uid := attr.uid
  gid := attr.gid
  size := attr.size
  used := attr.used
  fileid := attr.fileid
  fsid := attr.fsid
  rdev := attr.rdev
  atime := .fromNfstime3 attr.atime
  mtime := .fromNfstime3 attr.mtime
  ctime := .fromNfstime3 attr.ctime

/-- `str::parse` for a `u32`: decimal digits, after a plus sign maybe. -/
def parseU32 (text : List Char) : Option UInt32 :=
  let digits : List Char := match text with
    | '+' :: rest => rest
    | _ => text
  let value : Nat := digits.foldl (fun value digit => 10 * value + (digit.toNat - '0'.toNat)) 0
  if digits ≠ [] ∧ digits.all Char.isDigit ∧ value < 2 ^ 32 then some (UInt32.ofNat value) else none

/-- The number that an owner of NFSv4 is given by, with a domain maybe; a name is not
looked up. -/
def parseId (value : String) : Option UInt32 :=
  parseU32 (value.toList.takeWhile (· ≠ '@'))

/-- The time of NFSv4; one that is missing is the epoch. -/
def Timestamp.fromNfstime4 (time : Option Nfstime4) : Timestamp :=
  (time.map fun time => ⟨time.seconds, time.nseconds⟩).getD .default

/-- The attributes of NFSv4, with defaults for those that are missing. -/
def Attr.fromFattr4 (attr : Fattr4) : Attr where
  fileType := (attr.ftype.map FileType.fromNfs).getD .unknown
  mode := attr.mode.getD 0
  nlink := attr.numlinks.getD 1
  uid := (attr.owner.bind parseId).getD 0
  gid := (attr.ownerGroup.bind parseId).getD 0
  size := attr.size.getD 0
  used := attr.spaceUsed.getD 0
  fileid := attr.fileid.getD 0
  fsid := (attr.fsid.map Prod.fst).getD 0
  rdev := attr.rawdev.getD (0, 0)
  atime := .fromNfstime4 attr.timeAccess
  mtime := .fromNfstime4 attr.timeModify
  ctime := .fromNfstime4 attr.timeMetadata

/-- The seconds of a time are cast to a `u32`. -/
def Timestamp.toSetTime (time : Option Timestamp) : SetTime :=
  match time with
  | none => .dontChange
  | some time => .toClientTime ⟨time.secs.toUInt64.toUInt32, time.nsecs⟩

/-- The attributes to set with NFSv3. -/
def SetAttr.toSattr3 (attr : SetAttr) : Sattr3 where
  mode := attr.mode
  uid := attr.uid
  gid := attr.gid
  size := attr.size
  atime := Timestamp.toSetTime attr.atime
  mtime := Timestamp.toSetTime attr.mtime

end LibNfs.Client
