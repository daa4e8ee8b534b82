import LibNfs.Proto.Interface
import LibNfs.Proto.Procedures3
import LibNfs.Proto.Programs

/-! # Every procedure that the client calls

The procedures of NFSv3, MOUNT, PORTMAP, NSM, RQUOTA and NLM as one interface, and the
functions that call them. Whatever service executes them, a function returns what the
service made of exactly the arguments it was given.
-/

namespace LibNfs.Proto

open Coding
open Xdr (XdrError Ty)

/-- The procedures of the clients of NFSv3, MOUNT, PORTMAP, NSM, RQUOTA and NLM. -/
inductive Remote where
  | null3
  | basic3 (proc : Proc3)
  | access3
  | symlink3
  | mknod3
  | remove3
  | rmdir3
  | rename3
  | link3
  | readdir3
  | readdirplus3
  | fsstat3
  | pathconf3
  | mnt
  | mountDump
  | umnt
  | mountExport
  | getport
  | portmapDump
  | smStat
  | mon
  | unmon
  | getquota
  | getactivequota
  | nlmTest
  | nlmLock
  | nlmCancel
  | nlmUnlock
  deriving DecidableEq, Repr

namespace Remote

/-- The description of the arguments of a procedure. -/
def Args : Remote → Ty
  | null3 | mountDump | mountExport | portmapDump => .void
  | basic3 proc => proc.Args
  | access3 => AccessArgs.ty
  | symlink3 => SymlinkArgs.ty
  | mknod3 => MknodArgs.ty
  | remove3 | rmdir3 => DirOpArgs3.ty
  | rename3 => RenameArgs.ty
  | link3 => LinkArgs.ty
  | readdir3 => ReaddirArgs.ty
  | readdirplus3 => Nfs3.ReaddirplusArgs
  | fsstat3 | pathconf3 => NfsFh3.ty
  | mnt | umnt => .sized .string
  | getport => Portmap.Mapping.ty
  | smStat => Nsm.SmName.ty
  | mon => Nsm.MonArgs.ty
  | unmon => Nsm.MonId.ty
  | getquota | getactivequota => Rquota.GetquotaArgs.ty
  | nlmTest => Nlm.NlmProc.test.Args
  | nlmLock => Nlm.NlmProc.lock.Args
  | nlmCancel => Nlm.CancelArgs.ty
  | nlmUnlock => Nlm.NlmProc.unlock.Args

section Types

attribute [local simp] Args AccessArgs.ty SymlinkArgs.ty SymlinkData3.ty MknodArgs.ty MknodData3.ty
  DeviceData3.ty DirOpArgs3.ty RenameArgs.ty LinkArgs.ty ReaddirArgs.ty Nfs3.ReaddirplusArgs NfsFh3.ty
  Sattr3.ty SetTime.ty Nfstime3.ty Specdata3.ty Portmap.Mapping.ty Nsm.SmName.ty Nsm.MonArgs.ty
  Nsm.MonId.ty Nsm.MyId.ty Rquota.GetquotaArgs.ty Nlm.NlmProc.Args Nlm.CancelArgs.ty Nlm.Nlm4Lock.ty
  Ty.Occupied Ty.Distinct Xdr.SizedTy.Occupied Xdr.SizedTy.Distinct Xdr.Fields.Occupied
  Xdr.Fields.Distinct Xdr.Variants.Occupied Xdr.Variants.Distinct Xdr.Variants.discriminants
  Xdr.i32Lit

theorem args_occupied (remote : Remote) : remote.Args.Occupied := by
  cases remote with
  | basic3 proc => exact proc.args_occupied
  | _ => simp

theorem args_distinct (remote : Remote) : remote.Args.Distinct := by
  cases remote with
  | basic3 proc => exact proc.args_distinct
  | _ => simp

end Types

end Remote

/-- A status for the client, or a result. -/
def Nfs3Result.ofExcept {α : Type} : Except UInt32 α → Nfs3Result α
  | .ok value => .ok value
  | .error status => .fail status

namespace Mount

/-- `decode_opaque` with the size limit of a handle. -/
def fhandleLayout : Layout UInt8 Bytes where
  valid data := data.length ≤ fhsize3
  code := dataCode
  mask data := Xdr.opaquePads data.length

theorem decodes_fhandle : Decodes (Xdr.decodeOpaque fhsize3) fhandleLayout where
  reads := by
    intro data within
    exact Xdr.reads_opaque fhsize3 within (Nat.lt_of_le_of_lt within (by decide))
      List.length_replicate
  accepts := by
    intro buffer rest data read
    obtain ⟨pad, aligned, within, -, shape⟩ := Xdr.decodeOpaque_inv read
    exact ⟨_, shape, within, Xdr.agreeOff_opaque aligned⟩

/-- A handle, and the kinds of authentication. -/
def decodeMounted : Decoder XdrError UInt8 (Bytes × List UInt32) :=
  decodePair (Xdr.decodeOpaque fhsize3) (Ty.sized (.vec .u32)).decode

theorem decodes_mounted :
    Decodes decodeMounted (fhandleLayout.pair (Ty.sized (.vec .u32)).layout) := by
  apply decodes_fhandle.pair
  apply Ty.decodes
  · refine ⟨trivial, fun word code writes empty => ?_⟩
    have same := writes.unique (fun _ => rfl : Writes _ word (Xdr.beU32 word))
    rw [empty] at same
    cases same
  · trivial

/-- A status of a mount, or its result. -/
def Mountres3.ofExcept : Except UInt32 (Bytes × List UInt32) → Mountres3
  | .ok mounted => .ok ⟨mounted.1, mounted.2⟩
  | .error status => .err status

theorem Mountres3.decode_eq (buffer : Bytes) : Mountres3.decode buffer = (do
    let (status, buf) ← Xdr.decodeU32 buffer
    if status = mnt3Ok then
      let (found, buf) ← decodeMounted buf
      return (Mountres3.ofExcept (.ok found), buf)
    else
      return (Mountres3.ofExcept (.error status), buf)) := by
  simp only [Mountres3.decode, decodeMounted, decodePair, bind_assoc, pure_bind]
  rfl

end Mount

/-- A status of a quota, or its result. -/
def Rquota.GetquotaResult.ofExcept : Except UInt32 Rquota.ty.Val → Rquota.GetquotaResult
  | .ok quota => .ok quota
  | .error code => .status code

theorem Rquota.decodes_quota : Decodes Rquota.ty.decode Rquota.ty.layout := by
  apply Ty.decodes
  · simp [Rquota.ty, Ty.Occupied, Xdr.Fields.Occupied]
  · simp [Rquota.ty, Ty.Distinct, Xdr.Fields.Distinct]

namespace Nlm

/-- A reply of the lock manager is read by its layout. -/
theorem decodes_res : Decodes Nlm4Res.ty.decode Nlm4Res.ty.layout :=
  Ty.decodes ⟨trivial, trivial, trivial⟩ ⟨trivial, trivial, trivial⟩

/-- What `TEST` returns is read without the cookie and the owner of the lock that conflicts. -/
theorem reads_test (cookie : Data) (reply : TestReply) :
    Reads TestResult.decode reply.result (dataCode cookie.1 ++ reply.code) := by
  intro rest
  have leads := reads_data cookie.2 (reply.code ++ rest)
  rw [List.append_assoc, TestResult.decode, leads]
  simp only [bind, Except.bind]
  cases reply with
  | granted => simp only [TestReply.code, Xdr.reads_u32 nlm4Granted _]; rfl
  | denied holder oh =>
      have owner := reads_data oh.2 (Xdr.beU64 holder.offset ++ (Xdr.beU64 holder.len ++ rest))
      have offset : (Xdr.XdrDecode.decode (Xdr.beU64 holder.offset ++ (Xdr.beU64 holder.len ++ rest)) :
          Except XdrError (UInt64 × Bytes)) = .ok (holder.offset, _) :=
        Xdr.reads_u64 holder.offset _
      have len : (Xdr.XdrDecode.decode (Xdr.beU64 holder.len ++ rest) :
          Except XdrError (UInt64 × Bytes)) = .ok (holder.len, rest) :=
        Xdr.reads_u64 holder.len rest
      simp only [TestReply.code, List.append_assoc, Xdr.reads_u32 nlm4Denied _,
        Xdr.reads_bool holder.exclusive _, Xdr.reads_i32 holder.svid _, owner, offset, len]
      rfl
  | other stat neither =>
      simp only [TestReply.code, Xdr.reads_u32 stat _, if_neg neither.1, if_neg neither.2]
      rfl

end Nlm

namespace Remote

/-- A procedure of NFSv3. -/
def nfs3 (remote : Remote) (number : UInt32) {α : Type} {decode : Decoder XdrError UInt8 α}
    {layout : Layout UInt8 α} (decodes : Decodes decode layout) : Procedure :=
  .ofStatus program version3 number remote.Args remote.args_occupied remote.args_distinct nfs3Ok
    Nfs3Result.ofExcept decodes (Nfs3Result.decode decode) fun _ => rfl

/-- A query for a quota. -/
def quota (remote : Remote) (number : UInt32) : Procedure :=
  .ofStatus Rquota.program Rquota.version1 number remote.Args remote.args_occupied
    remote.args_distinct Rquota.qOk Rquota.GetquotaResult.ofExcept Rquota.decodes_quota
    Rquota.GetquotaResult.decode fun _ => rfl

/-- A procedure whose answers have no status. -/
def plain (remote : Remote) (prog vers number : UInt32) {α : Type}
    {decode : Decoder XdrError UInt8 α} {layout : Layout UInt8 α} (decodes : Decodes decode layout) :
    Procedure :=
  .ofLayout prog vers number remote.Args remote.args_occupied remote.args_distinct decodes

section Results

attribute [local simp] Fattr3.ty Specdata3.ty Nfstime3.ty WccData.ty WccAttr.ty AccessOk.ty
  RenameOk.ty LinkOk.ty FsstatOk.ty PathconfOk.ty Nsm.SmStatRes.ty Nsm.SmStat.ty Ty.Occupied
  Ty.Distinct Xdr.Fields.Occupied Xdr.Fields.Distinct

theorem decodes_void : Decodes Ty.void.decode Ty.void.layout :=
  Ty.decodes trivial trivial

theorem decodes_u32 : Decodes Ty.u32.decode Ty.u32.layout :=
  Ty.decodes trivial trivial

/-- The results of the first procedures are read by their layouts. -/
theorem decodes_basic (proc : Proc3) : Decodes proc.Ok.decode proc.Ok.layout :=
  Ty.decodes proc.ok_occupied proc.ok_distinct

/-- The results of `ACCESS` are read by their layout. -/
theorem decodes_access : Decodes AccessOk.ty.decode AccessOk.ty.layout :=
  Ty.decodes (by simp) (by simp)

/-- The results of `RENAME` are read by their layout. -/
theorem decodes_rename : Decodes RenameOk.ty.decode RenameOk.ty.layout :=
  Ty.decodes (by simp) (by simp)

/-- The results of `LINK` are read by their layout. -/
theorem decodes_link : Decodes LinkOk.ty.decode LinkOk.ty.layout :=
  Ty.decodes (by simp) (by simp)

/-- The results of `FSSTAT` are read by their layout. -/
theorem decodes_fsstat : Decodes FsstatOk.ty.decode FsstatOk.ty.layout :=
  Ty.decodes (by simp) (by simp)

/-- The results of `PATHCONF` are read by their layout. -/
theorem decodes_pathconf : Decodes PathconfOk.ty.decode PathconfOk.ty.layout :=
  Ty.decodes (by simp) (by simp)

/-- The results of a monitor are read by their layout. -/
theorem decodes_smStatRes : Decodes Nsm.SmStatRes.ty.decode Nsm.SmStatRes.ty.layout :=
  Ty.decodes (by simp) (by simp)

theorem decodes_smStat : Decodes Nsm.SmStat.ty.decode Nsm.SmStat.ty.layout :=
  Ty.decodes (by simp) (by simp)

end Results

/-- The program, the version, the number and the codecs of a procedure. -/
def procedure (remote : Remote) : Procedure :=
  match remote with
  | null3 => remote.plain program version3 0 decodes_void
  | basic3 proc => remote.nfs3 proc.number (decodes_basic proc)
  | access3 => remote.nfs3 4 decodes_access
  | symlink3 => remote.nfs3 10 (decodes_basic .create)
  | mknod3 => remote.nfs3 11 (decodes_basic .create)
  | remove3 => remote.nfs3 12 (decodes_basic .setattr)
  | rmdir3 => remote.nfs3 13 (decodes_basic .setattr)
  | rename3 => remote.nfs3 14 decodes_rename
  | link3 => remote.nfs3 15 decodes_link
  | readdir3 => remote.nfs3 16 ReaddirOk.decodes
  | readdirplus3 => remote.nfs3 Nfs3.procReaddirplus ReaddirplusOk.decodes
  | fsstat3 => remote.nfs3 18 decodes_fsstat
  | pathconf3 => remote.nfs3 20 decodes_pathconf
  | mnt => .ofStatus Mount.program Mount.version3 Mount.mntProc remote.Args remote.args_occupied
      remote.args_distinct Mount.mnt3Ok Mount.Mountres3.ofExcept Mount.decodes_mounted
      Mount.Mountres3.decode Mount.Mountres3.decode_eq
  | mountDump => remote.plain Mount.program Mount.version3 2 Mount.MountList.decodes
  | umnt => remote.plain Mount.program Mount.version3 3 decodes_void
  | mountExport => remote.plain Mount.program Mount.version3 5 Mount.ExportList.decodes
  | getport => remote.plain Portmap.program Portmap.version2 Portmap.getportProc decodes_u32
  | portmapDump => remote.plain Portmap.program Portmap.version2 4 Portmap.PortmapList.decodes
  | smStat => remote.plain Nsm.program Nsm.version1 1 decodes_smStatRes
  | mon => remote.plain Nsm.program Nsm.version1 2 decodes_smStatRes
  | unmon => remote.plain Nsm.program Nsm.version1 3 decodes_smStat
  | getquota => remote.quota 1
  | getactivequota => remote.quota 2
  | nlmTest =>
      { prog := Nlm.program
        vers := Nlm.version4
        number := Nlm.NlmProc.test.number
        Args := remote.Args
        occupied := remote.args_occupied
        distinct := remote.args_distinct
        Answer := Nlm.TestResult
        decode := Nlm.TestResult.decode
        Reply := Data × Nlm.TestReply
        code := fun reply => dataCode reply.1.1 ++ reply.2.code
        answer := fun reply => reply.2.result
        reads := fun reply => Nlm.reads_test reply.1 reply.2 }
  | nlmLock => remote.plain Nlm.program Nlm.version4 Nlm.NlmProc.lock.number Nlm.decodes_res
  | nlmCancel => remote.plain Nlm.program Nlm.version4 3 Nlm.decodes_res
  | nlmUnlock => remote.plain Nlm.program Nlm.version4 Nlm.NlmProc.unlock.number Nlm.decodes_res

/-- The procedures that the client has a function for. -/
def all : List Remote :=
  [null3, access3, symlink3, mknod3, remove3, rmdir3, rename3, link3, readdir3, readdirplus3,
    fsstat3, pathconf3, mnt, mountDump, umnt, mountExport, getport, portmapDump, smStat, mon, unmon,
    getquota, getactivequota, nlmTest, nlmLock, nlmCancel, nlmUnlock] ++
  [.getattr, .setattr, .lookup, .readlink, .read, .write, .create, .mkdir, .fsinfo, .commit].map
    basic3

/-- The procedure of a program that has a number. -/
def find (prog vers number : UInt32) : Option Remote :=
  all.find? fun remote =>
    remote.procedure.prog = prog ∧ remote.procedure.vers = vers ∧ remote.procedure.number = number

theorem find_procedure (remote : Remote) :
    find remote.procedure.prog remote.procedure.vers remote.procedure.number = some remote := by
  cases remote with
  | basic3 proc => cases proc <;> rfl
  | _ => rfl

end Remote

/-- The interface of all the programs. -/
def remotes : Interface Remote where
  procedure := Remote.procedure
  find := Remote.find
  finds := Remote.find_procedure

/-- A call of a function of the client. -/
inductive RemoteCall where
  | null
  | getattr (fh : NfsFh3)
  | setattr (object : NfsFh3) (newAttributes : Sattr3) (guard : Option Nfstime3)
  | lookup (dir : NfsFh3) (name : String)
  | access (object : NfsFh3) (mask : UInt32)
  | readlink (symlink : NfsFh3)
  | read (file : NfsFh3) (offset : UInt64) (count : UInt32)
  | write (file : NfsFh3) (offset : UInt64) (stable : UInt32) (data : Bytes)
  | create (dir : NfsFh3) (name : String) (how : CreateHow3)
  | mkdir (dir : NfsFh3) (name : String) (attributes : Sattr3)
  | symlink (dir : NfsFh3) (name target : String) (attributes : Sattr3)
  | mknod (dir : NfsFh3) (name : String) (what : MknodData3)
  | remove (dir : NfsFh3) (name : String)
  | rmdir (dir : NfsFh3) (name : String)
  | rename (fromDir : NfsFh3) (fromName : String) (toDir : NfsFh3) (toName : String)
  | link (file dir : NfsFh3) (name : String)
  | readdir (dir : NfsFh3) (cookie : UInt64) (cookieverf : Vector UInt8 8) (count : UInt32)
  | readdirplus (dir : NfsFh3) (cookie : UInt64) (cookieverf : Vector UInt8 8)
      (dircount maxcount : UInt32)
  | fsstat (fh : NfsFh3)
  | fsinfo (fh : NfsFh3)
  | pathconf (fh : NfsFh3)
  | commit (file : NfsFh3) (offset : UInt64) (count : UInt32)
  | mnt (path : String)
  | mountDump
  | umnt (path : String)
  | mountExport
  | getport (prog vers prot : UInt32)
  | portmapDump
  | smStat (monName : String)
  | mon (monName : String) (id : Nsm.MyId) (priv : Vector UInt8 16)
  | unmon (monName : String) (id : Nsm.MyId)
  | getquota (path : String) (uid : Int32)
  | getactivequota (path : String) (uid : Int32)
  | nlmTest (lock : Nlm.Nlm4Lock) (exclusive : Bool)
  | nlmLock (lock : Nlm.Nlm4Lock) (exclusive : Bool)
  | nlmCancel (lock : Nlm.Nlm4Lock) (exclusive : Bool)
  | nlmUnlock (lock : Nlm.Nlm4Lock)

namespace RemoteCall

/-- The procedure that a call is meant for. -/
def proc : RemoteCall → Remote
  | null => .null3
  | getattr _ => .basic3 .getattr
  | setattr .. => .basic3 .setattr
  | lookup .. => .basic3 .lookup
  | access .. => .access3
  | readlink _ => .basic3 .readlink
  | read .. => .basic3 .read
  | write .. => .basic3 .write
  | create .. => .basic3 .create
  | mkdir .. => .basic3 .mkdir
  | symlink .. => .symlink3
  | mknod .. => .mknod3
  | remove .. => .remove3
  | rmdir .. => .rmdir3
  | rename .. => .rename3
  | link .. => .link3
  | readdir .. => .readdir3
  | readdirplus .. => .readdirplus3
  | fsstat _ => .fsstat3
  | fsinfo _ => .basic3 .fsinfo
  | pathconf _ => .pathconf3
  | commit .. => .basic3 .commit
  | mnt _ => .mnt
  | mountDump => .mountDump
  | umnt _ => .umnt
  | mountExport => .mountExport
  | getport .. => .getport
  | portmapDump => .portmapDump
  | smStat _ => .smStat
  | mon .. => .mon
  | unmon .. => .unmon
  | getquota .. => .getquota
  | getactivequota .. => .getactivequota
  | nlmTest .. => .nlmTest
  | nlmLock .. => .nlmLock
  | nlmCancel .. => .nlmCancel
  | nlmUnlock _ => .nlmUnlock

/-- The arguments that the procedure is meant to get. -/
def args : (call : RemoteCall) → call.proc.procedure.Args.Val
  | null | mountDump | mountExport | portmapDump => ()
  | getattr fh | readlink fh | fsstat fh | fsinfo fh | pathconf fh => fh.val
  | setattr object attrs guard => (object.val, attrs.val, guard.map Nfstime3.val, ())
  | lookup dir name | remove dir name | rmdir dir name => (dir.val, name, ())
  | access object mask => (object.val, mask, ())
  | read file offset count | commit file offset count => (file.val, offset, count, ())
  | write file offset stable data =>
      (file.val, offset, UInt32.ofNat data.length, stable, data, ())
  | create dir name how => ((dir.val, name, ()), how.val, ())
  | mkdir dir name attributes => ((dir.val, name, ()), attributes.val, ())
  | symlink dir name target attributes =>
      ((dir.val, name, ()), (attributes.val, target, ()), ())
  | mknod dir name what => ((dir.val, name, ()), what.val, ())
  | rename fromDir fromName toDir toName =>
      ((fromDir.val, fromName, ()), (toDir.val, toName, ()), ())
  | link file dir name => (file.val, (dir.val, name, ()), ())
  | readdir dir cookie cookieverf count => (dir.val, cookie, cookieverf, count, ())
  | readdirplus dir cookie cookieverf dircount maxcount =>
      (dir.val, cookie, cookieverf, dircount, maxcount, ())
  | mnt path | umnt path => path
  | getport prog vers prot => (prog, vers, prot, 0, ())
  | smStat monName => (monName, ())
  | mon monName id priv => ((monName, id.val, ()), priv, ())
  | unmon monName id => (monName, id.val, ())
  | getquota path uid | getactivequota path uid => (path, uid, ())
  | nlmTest lock exclusive => (Nlm.cookie, exclusive, lock.val, ())
  | nlmLock lock exclusive => (Nlm.cookie, false, exclusive, lock.val, false, 0, ())
  | nlmCancel lock exclusive => (Nlm.cookie, false, exclusive, lock.val, ())
  | nlmUnlock lock => (Nlm.cookie, lock.val, ())

/-- What a call returns. -/
def Result : RemoteCall → Type
  | null | umnt _ => Unit
  | getattr _ => Fattr3
  | setattr .. | remove .. | rmdir .. => WccData.ty.Val
  | lookup .. => LookupOk
  | access .. => AccessOk
  | readlink _ => ReadlinkOk
  | read .. => ReadOk
  | write .. => WriteOk
  | create .. | mkdir .. | symlink .. | mknod .. => CreateOk
  | rename .. => RenameOk
  | link .. => LinkOk
  | readdir .. => ReaddirOk
  | readdirplus .. => ReaddirplusOk
  | fsstat _ => FsstatOk
  | fsinfo _ => FsinfoOk
  | pathconf _ => PathconfOk
  | commit .. => Proc3.commit.Ok.Val
  | mnt _ => Mount.MountOk
  | mountDump => List Mount.MountEntry
  | mountExport => List Mount.ExportNode
  | getport .. => UInt16
  | portmapDump => List Portmap.Mapping.ty.Val
  | smStat _ | mon .. => Nsm.SmStatRes
  | unmon .. => Int32
  | getquota .. | getactivequota .. => Rquota.ty.Val
  | nlmTest .. => Nlm.TestResult
  | nlmLock .. | nlmCancel .. | nlmUnlock _ => Unit

/-- The function that is called. -/
def perform {τ : Type} (transport : Transport τ) :
    (call : RemoteCall) → Prog τ CallError call.Result
  | null => asCall (Nfs3.null transport)
  | getattr fh => asCall (Nfs3.getattr transport fh)
  | setattr object attrs guard => asCall (Nfs3.setattr transport object attrs guard)
  | lookup dir name => asCall (Nfs3.lookup transport dir name)
  | access object mask => asCall (Nfs3.access transport object mask)
  | readlink object => asCall (Nfs3.readlink transport object)
  | read file offset count => asCall (Nfs3.read transport file offset count)
  | write file offset stable data => asCall (Nfs3.write transport file offset stable data)
  | create dir name how => asCall (Nfs3.create transport dir name how)
  | mkdir dir name attributes => asCall (Nfs3.mkdir transport dir name attributes)
  | symlink dir name target attributes =>
      asCall (Nfs3.symlink transport dir name target attributes)
  | mknod dir name what => asCall (Nfs3.mknod transport dir name what)
  | remove dir name => asCall (Nfs3.remove transport dir name)
  | rmdir dir name => asCall (Nfs3.rmdir transport dir name)
  | rename fromDir fromName toDir toName =>
      asCall (Nfs3.rename transport fromDir fromName toDir toName)
  | link file dir name => asCall (Nfs3.link transport file dir name)
  | readdir dir cookie cookieverf count =>
      asCall (Nfs3.readdir transport dir cookie cookieverf count)
  | readdirplus dir cookie cookieverf dircount maxcount =>
      asCall (Nfs3.readdirplus transport dir cookie cookieverf dircount maxcount)
  | fsstat fh => asCall (Nfs3.fsstat transport fh)
  | fsinfo fh => asCall (Nfs3.fsinfo transport fh)
  | pathconf fh => asCall (Nfs3.pathconf transport fh)
  | commit file offset count => asCall (Nfs3.commit transport file offset count)
  | mnt path => Mount.mnt transport path
  | mountDump => Mount.dump transport
  | umnt path => Mount.umnt transport path
  | mountExport => Mount.export transport
  | getport prog vers prot => asCall (Portmap.getport transport prog vers prot)
  | portmapDump => Portmap.dump transport
  | smStat monName => Nsm.stat transport monName
  | mon monName id priv => Nsm.mon transport monName id priv
  | unmon monName id => Nsm.unmon transport monName id
  | getquota path uid => Rquota.getquota transport path uid
  | getactivequota path uid => Rquota.getactivequota transport path uid
  | nlmTest lock exclusive => asCall (Nlm.test transport lock exclusive)
  | nlmLock lock exclusive => asCall (Nlm.lock transport lock exclusive)
  | nlmCancel lock exclusive => asCall (Nlm.cancel transport lock exclusive)
  | nlmUnlock lock => asCall (Nlm.unlock transport lock)

section Concluding

variable {α : Type}

/-- A status of NFSv3 is an error. -/
def ofStatus3 (answer : Nfs3Result α) : Except CallError α :=
  answer.intoResult.mapError .proto

/-- A status of a mount is an error. -/
def ofMounted : Mount.Mountres3 → Except CallError Mount.MountOk
  | .ok mounted => .ok mounted
  | .err code => .error (.mount code)

/-- The port 0 means that there is none. -/
def ofPort (prog vers port : UInt32) : Except CallError UInt16 :=
  if port = 0 then .error (.proto (.portNotRegistered prog vers)) else .ok port.toUInt16

/-- A status of a quota is an error. -/
def ofQuota : Rquota.GetquotaResult → Except CallError Rquota.ty.Val
  | .ok quota => .ok quota
  | .status code => .error (.rquota code)

/-- A status of the lock manager is an error. -/
def ofLock (res : Nlm.Nlm4Res.ty.Val) : Except CallError Unit :=
  (Nlm.statToResult res.2.1).mapError .proto

end Concluding

/-- What the function makes of an answer. -/
def conclude : (call : RemoteCall) → call.proc.procedure.Answer → Except CallError call.Result
  | null | umnt _ => .ok
  | getattr _ | setattr .. | lookup .. | access .. | readlink _ | read .. | write .. | create ..
  | mkdir .. | symlink .. | mknod .. | remove .. | rmdir .. | rename .. | link .. | readdir ..
  | readdirplus .. | fsstat _ | fsinfo _ | pathconf _ | commit .. => ofStatus3
  | mnt _ => ofMounted
  | mountDump => fun answer => .ok (Mount.MountList.entries answer)
  | mountExport => fun answer => .ok (Mount.ExportList.nodes answer)
  | getport prog vers _ => ofPort prog vers
  | portmapDump => fun answer => .ok (Portmap.PortmapList.entries answer)
  | smStat _ | mon .. => .ok
  | unmon .. => fun answer => .ok (Prod.fst (answer : Nsm.SmStat.ty.Val))
  | getquota .. | getactivequota .. => ofQuota
  | nlmTest .. => .ok
  | nlmLock .. | nlmCancel .. | nlmUnlock _ => ofLock

section Running

variable {τ α β : Type} {body : Prog τ ProtoError α} {state : τ}

/-- What a call comes to that makes something of an answer. -/
def concluded (after : α → Except CallError β) : Except ProtoError α → Except CallError β
  | .ok answer => after answer
  | .error error => .error (.proto error)

theorem asCall_run :
    (asCall body).run state =
      (body.run state).map fun (answer, next) => (concluded .ok answer, next) := by
  simp only [asCall, Prog.within, id_eq]
  rcases body.run state with _ | ⟨error | value, next⟩ <;> rfl

/-- What follows a program, when it is a value or an error. -/
theorem bind_run {next : α → Prog τ CallError β} {after : α → Except CallError β}
    (same : ∀ value mid, (next value).run mid = some (after value, mid)) :
    (asCall body >>= next).run state =
      (body.run state).map fun (answer, mid) => (concluded after answer, mid) := by
  rw [Prog.bind_apply, asCall_run]
  rcases body.run state with _ | ⟨error | value, mid⟩
  · rfl
  · rfl
  · exact same value mid

/-- The same, when both have their errors turned into those of a call. -/
theorem asCall_bind_run {next : α → Prog τ ProtoError β} {after : α → Except CallError β}
    (same : ∀ value mid, (asCall (next value)).run mid = some (after value, mid)) :
    (asCall (body >>= next)).run state =
      (body.run state).map fun (answer, mid) => (concluded after answer, mid) := by
  have parts : (asCall (body >>= next)).run state =
      (asCall body >>= fun value => asCall (next value)).run state := by
    simp only [asCall, Prog.within, id_eq, Prog.bind_apply]
    rcases body.run state with _ | ⟨error | value, mid⟩ <;> rfl
  exact parts.trans (bind_run same)

end Running

/-- A function calls its procedure, and concludes from the answer. -/
theorem perform_run {τ : Type} (transport : Transport τ) (call : RemoteCall) (state : τ) :
    (call.perform transport).run state =
      ((call.proc.procedure.call transport call.args).run state).map fun (answer, next) =>
        (concluded call.conclude answer, next) := by
  cases call with
  | null | smStat | mon | umnt | nlmTest => exact asCall_run
  | mnt | getquota | getactivequota =>
      refine bind_run fun answer mid => ?_
      cases answer <;> rfl
  | mountDump | mountExport | portmapDump | unmon => exact bind_run fun _ _ => rfl
  | getport prog vers prot =>
      refine asCall_bind_run fun port mid => ?_
      change _ = some (ofPort prog vers port, mid)
      unfold ofPort
      split <;> rfl
  | _ => exact asCall_bind_run fun _ _ => rfl

/-- What a call comes to when a service executes its procedure. -/
def served {S : Type} (service : Service remotes S) (call : RemoteCall) (state : S) :
    Option (Except CallError call.Result × S) :=
  ((service.exec call.proc call.args).run state).map fun (outcome, next) =>
    match outcome with
    | .ok (reply, _) => (call.conclude (call.proc.procedure.answer reply), next)
    | .error error => (.error (.proto (.rpc error)), next)

/-- A call whose arguments have an encoding does what the service makes of them, with a result
that depends on nothing but the reply; another one leaves the service alone. -/
theorem perform_served {S : Type} (service : Service remotes S) (call : RemoteCall) (state : S) :
    (call.proc.procedure.Args.Encodable call.args ∧
      (call.perform service.transport).run state = call.served service state) ∨
    (¬ call.proc.procedure.Args.Encodable call.args ∧ ∃ error,
      (call.perform service.transport).run state =
        some (.error (.proto (.rpc (.xdr error))), state)) := by
  by_cases encodable : call.proc.procedure.Args.Encodable call.args
  · refine .inl ⟨encodable, ?_⟩
    have made : (call.proc.procedure.call service.transport call.args).run state =
        (service.result call.proc call.args).run state := Service.call_eq encodable
    rw [perform_run, made, served]
    simp only [Service.result, Prog.bind_apply, Prog.within, id_eq]
    rcases (service.exec call.proc call.args).run state with _ | ⟨error | ⟨reply, extra⟩, next⟩ <;> rfl
  · obtain ⟨error, unsent⟩ : ∃ error, (call.proc.procedure.call service.transport call.args).run
        state = some (.error (.rpc (.xdr error)), state) := Service.call_unwritable encodable
    exact .inr ⟨encodable, error, by rw [perform_run, unsent]; rfl⟩

end RemoteCall

end LibNfs.Proto
