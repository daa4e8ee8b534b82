import LibNfs.Proto.Cursor
import LibNfs.Proto.LinkedLists

/-! # The programs beside NFS

The clients of MOUNT, PORTMAP, NSM, RQUOTA and the one procedure of NLM that no lock
needs, as functions over a transport. MOUNT and RQUOTA have errors of their own.
-/

namespace LibNfs.Proto

open Coding
open Xdr (XdrError XdrDecode Ty)

/-- The errors of a call: those of `ProtoError`, and the statuses of MOUNT and RQUOTA. -/
inductive CallError where
  | proto (error : ProtoError)
  | mount (status : UInt32)
  | rquota (status : UInt32)
  deriving DecidableEq, Repr

section Calls

variable {τ : Type} (transport : Transport τ)

/-- A part of a call whose errors are those of `ProtoError`. -/
def asCall {α : Type} (body : Prog τ ProtoError α) : Prog τ CallError α :=
  Prog.within id (fun next _ => next) .proto body

namespace Mount

/-- `mount::mnt`. -/
def mnt (path : String) : Prog τ CallError MountOk := do
  match ← asCall (transport.callAs program version3 mntProc ((Ty.sized .string).encode path [])
    Mountres3.decode) with
  | .ok mounted => return mounted
  | .err code => Prog.throw (.mount code)

/-- Tells the server that the export is no longer mounted. -/
def umnt (path : String) : Prog τ CallError Unit :=
  asCall (transport.callAs program version3 3 ((Ty.sized .string).encode path []) Ty.void.decode)

/-- The exports of the server. -/
def «export» : Prog τ CallError (List ExportNode) := do
  let list ← asCall (transport.callAs program version3 5 (Ty.void.encode () []) ExportList.decode)
  return list.nodes

/-- The mounts of the server. -/
def dump : Prog τ CallError (List MountEntry) := do
  let list ← asCall (transport.callAs program version3 2 (Ty.void.encode () []) MountList.decode)
  return list.entries

end Mount

/-- `portmap::dump`. -/
def Portmap.dump : Prog τ CallError (List Mapping.ty.Val) := do
  let list ← asCall (transport.callAs program version2 4 (Ty.void.encode () []) PortmapList.decode)
  return list.entries

end Calls

namespace Nsm

/-- The program number of NSM. -/
def program : UInt32 := 100024

/-- The version of NSM. -/
def version1 : UInt32 := 1

/-- `my_id`: who asks to be told, and the procedure to tell. -/
structure MyId where
  myName : String
  myProg : Int32
  myVers : Int32
  myProc : Int32
  deriving DecidableEq, Repr

namespace MyId

/-- The fields of a monitor's identity. -/
def ty : Ty :=
  .struct (.plain (.sized .string) (.plain .i32 (.plain .i32 (.plain .i32 .nil))))

/-- An identity as a value of its type. -/
def val (id : MyId) : ty.Val :=
  (id.myName, id.myProg, id.myVers, id.myProc, ())

end MyId

/-- `mon_id`: the host to watch, and who asks. -/
def MonId.ty : Ty :=
  .struct (.plain (.sized .string) (.plain MyId.ty .nil))

/-- `mon`: what to watch, and 16 bytes to give back. -/
def MonArgs.ty : Ty :=
  .struct (.plain MonId.ty (.plain (.fixed 16) .nil))

/-- The argument of `stat`: a host name. -/
def SmName.ty : Ty :=
  .struct (.plain (.sized .string) .nil)

/-- `sm_stat_res`: the result and the state number. -/
def SmStatRes.ty : Ty :=
  .struct (.plain .u32 (.plain .i32 .nil))

/-- The result of `stat` and `mon`. -/
abbrev SmStatRes := SmStatRes.ty.Val

/-- `sm_stat`: the state number. -/
def SmStat.ty : Ty :=
  .struct (.plain .i32 .nil)

section Client

variable {τ : Type} (transport : Transport τ)

/-- Asks for a host to be monitored. -/
def mon (monName : String) (id : MyId) (priv : Vector UInt8 16) : Prog τ CallError SmStatRes :=
  asCall (transport.callAs program version1 2
    (MonArgs.ty.encode ((monName, id.val, ()), priv, ()) []) SmStatRes.ty.decode)

/-- Ends the monitoring of a host; the result is the state number. -/
def unmon (monName : String) (id : MyId) : Prog τ CallError Int32 := do
  let res ← asCall (transport.callAs program version1 3 (MonId.ty.encode (monName, id.val, ()) [])
    SmStat.ty.decode)
  return res.1

/-- The status of a host. -/
def stat (monName : String) : Prog τ CallError SmStatRes :=
  asCall (transport.callAs program version1 1 (SmName.ty.encode (monName, ()) [])
    SmStatRes.ty.decode)

end Client

end Nsm

namespace Rquota

/-- The program number of RQUOTA. -/
def program : UInt32 := 100011

/-- The version of RQUOTA. -/
def version1 : UInt32 := 1

/-- The arguments of both quota procedures. -/
def GetquotaArgs.ty : Ty :=
  .struct (.plain (.sized .string) (.plain .i32 .nil))

section Client

variable {τ : Type} (transport : Transport τ)

/-- Asks for a quota by the procedure with a number. -/
def quotaBy (number : UInt32) (path : String) (uid : Int32) : Prog τ CallError ty.Val := do
  match ← asCall (transport.callAs program version1 number
    (GetquotaArgs.ty.encode (path, uid, ()) []) GetquotaResult.decode) with
  | .ok quota => return quota
  | .status status => Prog.throw (.rquota status)

/-- The quota of a user. -/
def getquota (path : String) (uid : Int32) : Prog τ CallError ty.Val :=
  quotaBy transport 1 path uid

/-- The quota of a user whose quotas are enforced. -/
def getactivequota (path : String) (uid : Int32) : Prog τ CallError ty.Val :=
  quotaBy transport 2 path uid

end Client

end Rquota

namespace Nlm

/-- `Nlm4CancelArgs`: cookie, block, exclusive and lock. -/
def CancelArgs.ty : Ty :=
  .struct (.plain (.sized .bytes) (.plain .bool (.plain .bool (.plain Nlm4Lock.ty .nil))))

/-- Withdraws a request for a lock that is waiting. -/
def cancel {τ : Type} (transport : Transport τ) (lock : Nlm4Lock) (exclusive : Bool) :
    Prog τ ProtoError Unit := do
  let res ← transport.callAs program version4 3
    (CancelArgs.ty.encode (cookie, false, exclusive, lock.val, ()) []) Nlm4Res.ty.decode
  Prog.ofExcept (statToResult res.2.1)

end Nlm

end LibNfs.Proto
