import LibNfs.Proto.Nfs4

/-! # The NFSv3 client

The XDR types of RFC 1813 that the client uses and the procedures of `Nfs3` over a
transport. A type is given by its expression in the derived codec, field by field
as the source declares it; those that the client builds have a structure as well.
`Nfs3` holds only the RPC client, so its methods act on the state of the transport.
-/

namespace LibNfs.Proto

open Coding
open Xdr (XdrError XdrEncode XdrDecode Ty decodeU32)

/-- The version of the NFS program. -/
def version3 : UInt32 := 3

/-- `NFS3_OK`. -/
def nfs3Ok : UInt32 := 0

/-- `stable_how`: the data may be lost until a `COMMIT`. -/
def unstable : UInt32 := 0

/-- `nfstime3`. -/
structure Nfstime3 where
  seconds : UInt32
  nseconds : UInt32
  deriving DecidableEq, Repr

namespace Nfstime3

/-- Seconds and nanoseconds. -/
def ty : Ty :=
  .struct (.plain .u32 (.plain .u32 .nil))

/-- The value of the description. -/
def val (time : Nfstime3) : ty.Val :=
  (time.seconds, time.nseconds, ())

/-- The time of a value. -/
def ofVal (val : ty.Val) : Nfstime3 :=
  ⟨val.1, val.2.1⟩

end Nfstime3

/-- The two numbers of a device. -/
def Specdata3.ty : Ty :=
  .struct (.plain .u32 (.plain .u32 .nil))

/-- `fattr3`: type, mode, links, owner, group, size, space used, device, file system,
file number and three times. -/
def Fattr3.ty : Ty :=
  .struct (.plain .u32 (.plain .u32 (.plain .u32 (.plain .u32 (.plain .u32 (.plain .u64
    (.plain .u64 (.plain Specdata3.ty (.plain .u64 (.plain .u64 (.plain Nfstime3.ty
      (.plain Nfstime3.ty (.plain Nfstime3.ty .nil)))))))))))))

/-- `fattr3`, as the value of its description. -/
abbrev Fattr3 := Fattr3.ty.Val

namespace Fattr3

variable (attr : Fattr3)

/-- The type of the object. -/
def ftype : UInt32 :=
  attr.1

/-- The permission bits. -/
def mode : UInt32 :=
  attr.2.1

/-- The number of names. -/
def nlink : UInt32 :=
  attr.2.2.1

/-- The owner. -/
def uid : UInt32 :=
  attr.2.2.2.1

/-- The group. -/
def gid : UInt32 :=
  attr.2.2.2.2.1

/-- The size of the content. -/
def size : UInt64 :=
  attr.2.2.2.2.2.1

/-- The space that the object takes. -/
def used : UInt64 :=
  attr.2.2.2.2.2.2.1

/-- The numbers of a device. -/
def rdev : UInt32 × UInt32 :=
  (attr.2.2.2.2.2.2.2.1.1, attr.2.2.2.2.2.2.2.1.2.1)

/-- The file system that the object is in. -/
def fsid : UInt64 :=
  attr.2.2.2.2.2.2.2.2.1

/-- The number of the object in its file system. -/
def fileid : UInt64 :=
  attr.2.2.2.2.2.2.2.2.2.1

/-- The time of the last access. -/
def atime : Nfstime3 :=
  .ofVal attr.2.2.2.2.2.2.2.2.2.2.1

/-- The time of the last change of the content. -/
def mtime : Nfstime3 :=
  .ofVal attr.2.2.2.2.2.2.2.2.2.2.2.1

/-- The time of the last change of the attributes. -/
def ctime : Nfstime3 :=
  .ofVal attr.2.2.2.2.2.2.2.2.2.2.2.2.1

end Fattr3

/-- `nfs_fh3`. -/
structure NfsFh3 where
  data : Bytes
  deriving DecidableEq, Repr

namespace NfsFh3

/-- At most 64 bytes, `NFS3_FHSIZE`. -/
def ty : Ty :=
  .struct (.limited 64 .bytes .nil)

/-- The value of the description. -/
def val (fh : NfsFh3) : ty.Val :=
  (fh.data, ())

/-- The handle of a value. -/
def ofVal (val : ty.Val) : NfsFh3 :=
  ⟨val.1⟩

end NfsFh3

/-- `wcc_attr`: the size and two times before an operation. -/
def WccAttr.ty : Ty :=
  .struct (.plain .u64 (.plain Nfstime3.ty (.plain Nfstime3.ty .nil)))

/-- `wcc_data`: the attributes before and after an operation. -/
def WccData.ty : Ty :=
  .struct (.plain (.option WccAttr.ty) (.plain (.option Fattr3.ty) .nil))

/-- How a time is set in `sattr3`. -/
inductive SetTime where
  | dontChange
  | toServerTime
  | toClientTime (time : Nfstime3)
  deriving DecidableEq, Repr

namespace SetTime

/-- One arm for each way of setting a time. -/
def ty : Ty :=
  .union (.cons 0 .nil (.cons 1 .nil (.cons 2 (.plain Nfstime3.ty .nil) .nil)))

/-- The value of the description. -/
def val : SetTime → ty.Val
  | .dontChange => .inl ()
  | .toServerTime => .inr (.inl ())
  | .toClientTime time => .inr (.inr (.inl (time.val, ())))

/-- The way that a value stands for. -/
def ofVal : ty.Val → SetTime
  | .inl () => .dontChange
  | .inr (.inl ()) => .toServerTime
  | .inr (.inr (.inl (time, ()))) => .toClientTime (.ofVal time)

end SetTime

/-- `sattr3`: the attributes to set. -/
structure Sattr3 where
  mode : Option UInt32 := none
  uid : Option UInt32 := none
  gid : Option UInt32 := none
  size : Option UInt64 := none
  atime : SetTime := .dontChange
  mtime : SetTime := .dontChange
  deriving DecidableEq, Repr

namespace Sattr3

/-- No attribute is set. -/
def unchanged : Sattr3 := {}

/-- Each attribute is optional. -/
def ty : Ty :=
  .struct (.plain (.option .u32) (.plain (.option .u32) (.plain (.option .u32)
    (.plain (.option .u64) (.plain SetTime.ty (.plain SetTime.ty .nil))))))

/-- The value of the description. -/
def val (attrs : Sattr3) : ty.Val :=
  (attrs.mode, attrs.uid, attrs.gid, attrs.size, attrs.atime.val, attrs.mtime.val, ())

/-- The attributes of a value. -/
def ofVal (val : ty.Val) : Sattr3 :=
  ⟨val.1, val.2.1, val.2.2.1, val.2.2.2.1, .ofVal val.2.2.2.2.1, .ofVal val.2.2.2.2.2.1⟩

end Sattr3

/-- `createhow3`. -/
inductive CreateHow3 where
  | unchecked (attrs : Sattr3)
  | guarded (attrs : Sattr3)
  | exclusive (verf : Vector UInt8 8)
  deriving DecidableEq, Repr

namespace CreateHow3

/-- One arm for each way of creating a file. -/
def ty : Ty :=
  .union (.cons 0 (.plain Sattr3.ty .nil) (.cons 1 (.plain Sattr3.ty .nil)
    (.cons 2 (.plain (.fixed 8) .nil) .nil)))

/-- The value of the description. -/
def val : CreateHow3 → ty.Val
  | .unchecked attrs => .inl (attrs.val, ())
  | .guarded attrs => .inr (.inl (attrs.val, ()))
  | .exclusive verf => .inr (.inr (.inl (verf, ())))

/-- The way that a value stands for. -/
def ofVal : ty.Val → CreateHow3
  | .inl (attrs, ()) => .unchecked (.ofVal attrs)
  | .inr (.inl (attrs, ())) => .guarded (.ofVal attrs)
  | .inr (.inr (.inl (verf, ()))) => .exclusive verf

end CreateHow3

/-- A directory and a name in it. -/
def DirOpArgs3.ty : Ty :=
  .struct (.plain NfsFh3.ty (.plain (.sized .string) .nil))

/-- The procedures that the client calls. -/
inductive Proc3 where
  | getattr
  | setattr
  | lookup
  | readlink
  | read
  | write
  | create
  | mkdir
  | fsinfo
  | commit
  deriving DecidableEq, Repr

namespace Proc3

/-- The number of the procedure in the program. -/
def number : Proc3 → UInt32
  | getattr => 1
  | setattr => 2
  | lookup => 3
  | readlink => 5
  | read => 6
  | write => 7
  | create => 8
  | mkdir => 9
  | fsinfo => 19
  | commit => 21

/-- `SETATTR3args`: object, attributes and guard. `READ3args`: file, offset and count.
`WRITE3args`: file, offset, count, stability and data. `COMMIT3args`: file, offset and
count. -/
def Args : Proc3 → Ty
  | getattr | readlink | fsinfo => NfsFh3.ty
  | setattr =>
      .struct (.plain NfsFh3.ty (.plain Sattr3.ty (.plain (.option Nfstime3.ty) .nil)))
  | lookup => DirOpArgs3.ty
  | read | commit => .struct (.plain NfsFh3.ty (.plain .u64 (.plain .u32 .nil)))
  | write =>
      .struct (.plain NfsFh3.ty (.plain .u64 (.plain .u32 (.plain .u32
        (.plain (.sized .bytes) .nil)))))
  | create => .struct (.plain DirOpArgs3.ty (.plain CreateHow3.ty .nil))
  | mkdir => .struct (.plain DirOpArgs3.ty (.plain Sattr3.ty .nil))

/-- What a procedure returns when it succeeds, in the order of RFC 1813. -/
def Ok : Proc3 → Ty
  | getattr => Fattr3.ty
  | setattr => WccData.ty
  | lookup =>
      .struct (.plain NfsFh3.ty (.plain (.option Fattr3.ty) (.plain (.option Fattr3.ty) .nil)))
  | readlink => .struct (.plain (.option Fattr3.ty) (.plain (.sized .string) .nil))
  | read =>
      .struct (.plain (.option Fattr3.ty) (.plain .u32 (.plain .bool (.plain (.sized .bytes) .nil))))
  | write => .struct (.plain WccData.ty (.plain .u32 (.plain .u32 (.plain (.fixed 8) .nil))))
  | create | mkdir =>
      .struct (.plain (.option NfsFh3.ty) (.plain (.option Fattr3.ty) (.plain WccData.ty .nil)))
  | fsinfo =>
      .struct (.plain (.option Fattr3.ty) (.plain .u32 (.plain .u32 (.plain .u32 (.plain .u32
        (.plain .u32 (.plain .u32 (.plain .u32 (.plain .u64 (.plain Nfstime3.ty
          (.plain .u32 .nil)))))))))))
  | commit => .struct (.plain WccData.ty (.plain (.fixed 8) .nil))

end Proc3

/-- What `LOOKUP` returns. -/
abbrev LookupOk := (Proc3.Ok .lookup).Val

/-- The handle that was found. -/
def LookupOk.object (res : LookupOk) : NfsFh3 :=
  .ofVal res.1

/-- The attributes of the object, when the server sends them. -/
def LookupOk.objAttributes (res : LookupOk) : Option Fattr3 :=
  res.2.1

/-- What `READLINK` returns. -/
abbrev ReadlinkOk := (Proc3.Ok .readlink).Val

/-- The target of the link. -/
def ReadlinkOk.data (res : ReadlinkOk) : String :=
  res.2.1

/-- What `READ` returns. -/
abbrev ReadOk := (Proc3.Ok .read).Val

/-- Whether the end of the file was reached. -/
def ReadOk.eof (res : ReadOk) : Bool :=
  res.2.2.1

/-- The bytes that were read. -/
def ReadOk.data (res : ReadOk) : Bytes :=
  res.2.2.2.1

/-- What `WRITE` returns. -/
abbrev WriteOk := (Proc3.Ok .write).Val

/-- The number of bytes that were written. -/
def WriteOk.count (res : WriteOk) : UInt32 :=
  res.2.1

/-- What `CREATE` and `MKDIR` return. -/
abbrev CreateOk := (Proc3.Ok .create).Val

/-- The handle of the new object, when the server sends it. -/
def CreateOk.obj (res : CreateOk) : Option NfsFh3 :=
  res.1.map .ofVal

/-- What `FSINFO` returns. -/
abbrev FsinfoOk := (Proc3.Ok .fsinfo).Val

/-- The size of a read that the server prefers. -/
def FsinfoOk.rtpref (res : FsinfoOk) : UInt32 :=
  res.2.2.1

/-- The size of a write that the server prefers. -/
def FsinfoOk.wtpref (res : FsinfoOk) : UInt32 :=
  res.2.2.2.2.2.1

/-- Success with its results, or an error status; what follows the status of an error
is left alone. -/
inductive Nfs3Result (α : Type) where
  | ok (value : α)
  | fail (status : UInt32)

/-- Reads a status, and after `NFS3_OK` the result. -/
def Nfs3Result.decode {α : Type} (decode : Bytes → Except XdrError (α × Bytes)) (buf : Bytes) :
    Except XdrError (Nfs3Result α × Bytes) := do
  let (status, buf) ← decodeU32 buf
  if status = nfs3Ok then
    let (value, buf) ← decode buf
    return (.ok value, buf)
  else
    return (.fail status, buf)

/-- A status other than `NFS3_OK` is an error. -/
def Nfs3Result.intoResult {α : Type} : Nfs3Result α → Except ProtoError α
  | .ok value => .ok value
  | .fail status => .error (.nfs3 status)

/-- The RPC client as a transport that hands on the bytes of a result. -/
def rawTransport {ω : Type} (env : Rpc.Env ω) : Transport (Rpc.World ω) where
  call := Rpc.RpcClient.call env fun body => .ok (body, [])

/-- `RpcClient::call` with the decoder of the result. -/
def Transport.callAs {τ α : Type} (transport : Transport τ) (prog vers proc : UInt32)
    (args : Except XdrError Bytes) (decode : Bytes → Except XdrError (α × Bytes)) :
    Prog τ ProtoError α := do
  let body ← Prog.within id (fun next _ => next) .rpc (transport.call prog vers proc args)
  let (value, _) ← Prog.ofExcept ((decode body).mapError fun error => .rpc (.xdr error))
  return value

namespace Nfs3

variable {τ : Type} (transport : Transport τ)

/-- Calls a procedure. -/
def call (proc : Proc3) (args : proc.Args.Val) : Prog τ ProtoError proc.Ok.Val := do
  let result ← transport.callAs program version3 proc.number (proc.Args.encode args [])
    (Nfs3Result.decode proc.Ok.decode)
  Prog.ofExcept result.intoResult

/-- The attributes of an object. -/
def getattr (fh : NfsFh3) : Prog τ ProtoError Fattr3 :=
  call transport .getattr fh.val

/-- Sets attributes, if the guard has the time of the last change. -/
def setattr (object : NfsFh3) (newAttributes : Sattr3) (guard : Option Nfstime3) :
    Prog τ ProtoError WccData.ty.Val :=
  call transport .setattr (object.val, newAttributes.val, guard.map Nfstime3.val, ())

/-- The object of a name in a directory. -/
def lookup (dir : NfsFh3) (name : String) : Prog τ ProtoError LookupOk :=
  call transport .lookup (dir.val, name, ())

/-- The target of a symbolic link. -/
def readlink (symlink : NfsFh3) : Prog τ ProtoError ReadlinkOk :=
  call transport .readlink symlink.val

/-- A part of a file. -/
def read (file : NfsFh3) (offset : UInt64) (count : UInt32) : Prog τ ProtoError ReadOk :=
  call transport .read (file.val, offset, count, ())

/-- The count of a `WRITE` is the length of the data, cast to a `u32`. -/
def write (file : NfsFh3) (offset : UInt64) (stable : UInt32) (data : Bytes) :
    Prog τ ProtoError WriteOk :=
  call transport .write (file.val, offset, UInt32.ofNat data.length, stable, data, ())

/-- Creates a regular file. -/
def create (dir : NfsFh3) (name : String) (how : CreateHow3) : Prog τ ProtoError CreateOk :=
  call transport .create ((dir.val, name, ()), how.val, ())

/-- Makes a directory. -/
def mkdir (dir : NfsFh3) (name : String) (attributes : Sattr3) : Prog τ ProtoError CreateOk :=
  call transport .mkdir ((dir.val, name, ()), attributes.val, ())

/-- What the server says about the file system. -/
def fsinfo (fh : NfsFh3) : Prog τ ProtoError FsinfoOk :=
  call transport .fsinfo fh.val

/-- Makes a part of a file durable. -/
def commit (file : NfsFh3) (offset : UInt64) (count : UInt32) :
    Prog τ ProtoError (Proc3.Ok .commit).Val :=
  call transport .commit (file.val, offset, count, ())

end Nfs3

end LibNfs.Proto
