import LibNfs.Proto.LinkedLists

/-! # The other procedures of NFSv3

The procedures of RFC 1813 beside those of `LibNfs.Proto.Nfs3` and `READDIRPLUS`: the
changes of the names in a directory, `ACCESS`, `READDIR` and what there is to know of a
file system, each as a method of `Nfs3` over a transport.
-/

namespace LibNfs.Proto

open Xdr (XdrError Ty)

/-- `ACCESS3args`: object and mask. -/
def AccessArgs.ty : Ty :=
  .struct (.plain NfsFh3.ty (.plain .u32 .nil))

/-- What `ACCESS` returns: attributes and the bits that are granted. -/
def AccessOk.ty : Ty :=
  .struct (.plain (.option Fattr3.ty) (.plain .u32 .nil))

/-- What `ACCESS` returns. -/
abbrev AccessOk := AccessOk.ty.Val

/-- The rights that are granted. -/
def AccessOk.access (res : AccessOk) : UInt32 :=
  res.2.1

/-- `symlinkdata3`: the attributes and the target. -/
def SymlinkData3.ty : Ty :=
  .struct (.plain Sattr3.ty (.plain (.sized .string) .nil))

/-- A directory and a name, attributes and a target. -/
def SymlinkArgs.ty : Ty :=
  .struct (.plain DirOpArgs3.ty (.plain SymlinkData3.ty .nil))

/-- `devicedata3`: the attributes, and the major and minor number. -/
structure DeviceData3 where
  devAttributes : Sattr3
  spec : UInt32 × UInt32
  deriving DecidableEq, Repr

namespace DeviceData3

/-- Attributes and the two numbers. -/
def ty : Ty :=
  .struct (.plain Sattr3.ty (.plain Specdata3.ty .nil))

/-- The value of the description. -/
def val (device : DeviceData3) : ty.Val :=
  (device.devAttributes.val, (device.spec.1, device.spec.2, ()), ())

end DeviceData3

/-- `mknoddata3`: what to create. -/
inductive MknodData3 where
  | blk (device : DeviceData3)
  | chr (device : DeviceData3)
  | sock (attributes : Sattr3)
  | fifo (attributes : Sattr3)
  deriving DecidableEq, Repr

namespace MknodData3

/-- One arm for each kind of special file. -/
def ty : Ty :=
  .union (.cons 3 (.plain DeviceData3.ty .nil) (.cons 4 (.plain DeviceData3.ty .nil)
    (.cons 6 (.plain Sattr3.ty .nil) (.cons 7 (.plain Sattr3.ty .nil) .nil))))

/-- The value of the description. -/
def val : MknodData3 → ty.Val
  | .blk device => .inl (device.val, ())
  | .chr device => .inr (.inl (device.val, ()))
  | .sock attributes => .inr (.inr (.inl (attributes.val, ())))
  | .fifo attributes => .inr (.inr (.inr (.inl (attributes.val, ()))))

end MknodData3

/-- A directory and a name, and the special file. -/
def MknodArgs.ty : Ty :=
  .struct (.plain DirOpArgs3.ty (.plain MknodData3.ty .nil))

/-- What `CREATE`, `MKDIR`, `SYMLINK` and `MKNOD` return. -/
def CreateOk.ty : Ty :=
  Proc3.create.Ok

/-- `RENAME3args`: the old directory and name, and the new ones. -/
def RenameArgs.ty : Ty :=
  .struct (.plain DirOpArgs3.ty (.plain DirOpArgs3.ty .nil))

/-- What `RENAME` returns, for each of the directories. -/
def RenameOk.ty : Ty :=
  .struct (.plain WccData.ty (.plain WccData.ty .nil))

/-- What `RENAME` returns. -/
abbrev RenameOk := RenameOk.ty.Val

/-- `LINK3args`: the file, and the directory and the name of the link. -/
def LinkArgs.ty : Ty :=
  .struct (.plain NfsFh3.ty (.plain DirOpArgs3.ty .nil))

/-- The attributes of the file, and those of the directory before and after. -/
def LinkOk.ty : Ty :=
  .struct (.plain (.option Fattr3.ty) (.plain WccData.ty .nil))

/-- What `LINK` returns. -/
abbrev LinkOk := LinkOk.ty.Val

/-- `READDIR3args`: directory, cookie, verifier and the limit of the reply. -/
def ReaddirArgs.ty : Ty :=
  .struct (.plain NfsFh3.ty (.plain .u64 (.plain (.fixed 8) (.plain .u32 .nil))))

/-- What `FSSTAT` returns: attributes, bytes and files (in all, free and available) and for
how long that holds. -/
def FsstatOk.ty : Ty :=
  .struct (.plain (.option Fattr3.ty) (.plain .u64 (.plain .u64 (.plain .u64 (.plain .u64
    (.plain .u64 (.plain .u64 (.plain .u32 .nil))))))))

/-- What `FSSTAT` returns. -/
abbrev FsstatOk := FsstatOk.ty.Val

namespace FsstatOk

variable (res : FsstatOk)

/-- All the space. -/
def tbytes : UInt64 :=
  res.2.1

/-- The free space. -/
def fbytes : UInt64 :=
  res.2.2.1

/-- The space that the user may take. -/
def abytes : UInt64 :=
  res.2.2.2.1

/-- All the slots for files. -/
def tfiles : UInt64 :=
  res.2.2.2.2.1

/-- The free slots for files. -/
def ffiles : UInt64 :=
  res.2.2.2.2.2.1

/-- The slots for files that the user may take. -/
def afiles : UInt64 :=
  res.2.2.2.2.2.2.1

end FsstatOk

/-- What `PATHCONF` returns: attributes, the most links, the longest name, and whether long
names are refused, `chown` is restricted, case is ignored and case is preserved. -/
def PathconfOk.ty : Ty :=
  .struct (.plain (.option Fattr3.ty) (.plain .u32 (.plain .u32 (.plain .bool (.plain .bool
    (.plain .bool (.plain .bool .nil)))))))

/-- What `PATHCONF` returns. -/
abbrev PathconfOk := PathconfOk.ty.Val

namespace Nfs3

variable {τ : Type} (transport : Transport τ)

/-- Calls a procedure whose results have a type of the derived codec. -/
def callOk (number : UInt32) (Args Ok : Ty) (args : Args.Val) : Prog τ ProtoError Ok.Val := do
  let result ← transport.callAs program version3 number (Args.encode args [])
    (Nfs3Result.decode Ok.decode)
  Prog.ofExcept result.intoResult

/-- The procedure that does nothing. -/
def null : Prog τ ProtoError Unit :=
  transport.callAs program version3 0 (Ty.void.encode () []) Ty.void.decode

/-- Asks which of these rights the object grants. -/
def access (object : NfsFh3) (access : UInt32) : Prog τ ProtoError AccessOk :=
  callOk transport 4 AccessArgs.ty AccessOk.ty (object.val, access, ())

/-- Makes a symbolic link. -/
def symlink (dir : NfsFh3) (name target : String) (attributes : Sattr3) :
    Prog τ ProtoError CreateOk :=
  callOk transport 10 SymlinkArgs.ty CreateOk.ty
    ((dir.val, name, ()), (attributes.val, target, ()), ())

/-- Makes a special file. -/
def mknod (dir : NfsFh3) (name : String) (what : MknodData3) : Prog τ ProtoError CreateOk :=
  callOk transport 11 MknodArgs.ty CreateOk.ty ((dir.val, name, ()), what.val, ())

/-- Removes a file. -/
def remove (dir : NfsFh3) (name : String) : Prog τ ProtoError WccData.ty.Val :=
  callOk transport 12 DirOpArgs3.ty WccData.ty (dir.val, name, ())

/-- Removes a directory. -/
def rmdir (dir : NfsFh3) (name : String) : Prog τ ProtoError WccData.ty.Val :=
  callOk transport 13 DirOpArgs3.ty WccData.ty (dir.val, name, ())

/-- Moves a name from one directory to another. -/
def rename (fromDir : NfsFh3) (fromName : String) (toDir : NfsFh3) (toName : String) :
    Prog τ ProtoError RenameOk :=
  callOk transport 14 RenameArgs.ty RenameOk.ty
    ((fromDir.val, fromName, ()), (toDir.val, toName, ()), ())

/-- Makes another name for a file. -/
def link (file dir : NfsFh3) (name : String) : Prog τ ProtoError LinkOk :=
  callOk transport 15 LinkArgs.ty LinkOk.ty (file.val, (dir.val, name, ()), ())

/-- A page of a directory. -/
def readdir (dir : NfsFh3) (cookie : UInt64) (cookieverf : Vector UInt8 8) (count : UInt32) :
    Prog τ ProtoError ReaddirOk := do
  let result ← transport.callAs program version3 16
    (ReaddirArgs.ty.encode (dir.val, cookie, cookieverf, count, ()) [])
    (Nfs3Result.decode ReaddirOk.decode)
  Prog.ofExcept result.intoResult

/-- The space of a file system. -/
def fsstat (fh : NfsFh3) : Prog τ ProtoError FsstatOk :=
  callOk transport 18 NfsFh3.ty FsstatOk.ty fh.val

/-- The limits of a file system. -/
def pathconf (fh : NfsFh3) : Prog τ ProtoError PathconfOk :=
  callOk transport 20 NfsFh3.ty PathconfOk.ty fh.val

end Nfs3

end LibNfs.Proto
