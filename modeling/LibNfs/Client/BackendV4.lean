import LibNfs.Client.Context
import LibNfs.Client.Convert
import LibNfs.Proto.Session

/-! # The NFSv4 backend

`V4Backend` over the NFSv4 client.
-/

namespace LibNfs.Client

open Proto (ProtoError Transport NfsFh4 Nfs4 Stateid4)

/-- `V4Backend`: the client of the protocol and the preferred sizes. -/
structure V4Backend (τ : Type) where
  nfs : Nfs4 τ
  rsize : UInt32
  wsize : UInt32

namespace V4Backend

variable {τ : Type} (transport : Transport τ)

/-- A backend over a client of NFSv4. -/
def new (nfs : Nfs4 τ) : V4Backend τ :=
  ⟨nfs, 256 * 1024, 256 * 1024⟩

/-- Runs a method of the client. -/
def within {α : Type} (body : Prog (Nfs4 τ) ProtoError α) : Prog (V4Backend τ) NfsError α :=
  Prog.within (·.nfs) (fun nfs backend => { backend with nfs := nfs }) .ofProto body

/-- A method of the client that succeeds. -/
theorem within_ok {α : Type} {body : Prog (Nfs4 τ) ProtoError α} {value : α} {next : Nfs4 τ}
    {backend : V4Backend τ} (ended : body.run backend.nfs = some (.ok value, next)) :
    (within body).run backend = some (.ok value, { backend with nfs := next }) := by
  simp only [within, Prog.within, ended, Option.map_some]
  rfl

/-- A method of the client that fails. -/
theorem within_error {α : Type} {body : Prog (Nfs4 τ) ProtoError α} {error : ProtoError}
    {next : Nfs4 τ} {backend : V4Backend τ}
    (ended : body.run backend.nfs = some (.error error, next)) :
    (within body).run backend = some (.error (.ofProto error), { backend with nfs := next }) := by
  simp only [within, Prog.within, ended, Option.map_some]
  rfl

/-- The attributes of an object. -/
def getattr (fh : ObjId) : Prog (V4Backend τ) NfsError Attr := do
  let attrs ← within (Nfs4.getattr transport ⟨fh⟩)
  return .fromFattr4 attrs

/-- The object that a directory has under a name, with its attributes. -/
def lookup (dir : ObjId) (name : String) : Prog (V4Backend τ) NfsError (ObjId × Attr) := do
  let (fh, attrs) ← within (Nfs4.lookup transport ⟨dir⟩ name)
  return (fh.data, .fromFattr4 attrs)

/-- The share access that an open asks for. -/
def share (opts : OpenOpts) : UInt32 :=
  if opts.write ∧ opts.create then Proto.open4ShareAccessBoth
  else if opts.write then Proto.open4ShareAccessWrite
  else Proto.open4ShareAccessRead

/-- Opens a file; only `create` of the flags for a new file is passed on. -/
def «open» (dir : ObjId) (name : String) (opts : OpenOpts) :
    Prog (V4Backend τ) NfsError OpenFile := do
  let res ← within (Nfs4.open transport ⟨dir⟩ name (share opts) opts.create)
  return ⟨res.fh.data, some res.stateid, opts.write⟩

/-- Closes a file, if it was opened with a stateid. -/
def close (file : OpenFile) : Prog (V4Backend τ) NfsError Unit :=
  match file.stateid with
  | some stateid => within (Nfs4.close transport ⟨file.fh⟩ stateid)
  | none => return ()

/-- Reads from a file with the stateid that it was opened with. -/
def pread (file : OpenFile) (offset : UInt64) (count : UInt32) :
    Prog (V4Backend τ) NfsError (Bytes × Bool) := do
  let res ← within
    (Nfs4.read transport ⟨file.fh⟩ (file.stateid.getD Stateid4.default) offset count)
  return (res.data, res.eof)

/-- Writes to a file, `UNSTABLE`; the verifier of the reply is dropped. -/
def pwrite (file : OpenFile) (offset : UInt64) (data : Bytes) :
    Prog (V4Backend τ) NfsError UInt32 :=
  within (Nfs4.write transport ⟨file.fh⟩ (file.stateid.getD Stateid4.default) offset Proto.unstable4
    data)

/-- Commits a file; the verifier of the reply is dropped. -/
def commit (file : OpenFile) : Prog (V4Backend τ) NfsError Unit :=
  within (Nfs4.commit transport ⟨file.fh⟩ 0 0)

/-- The mode is not sent. -/
def mkdir (dir : ObjId) (name : String) (_mode : UInt32) : Prog (V4Backend τ) NfsError ObjId := do
  let fh ← within (Nfs4.mkdir transport ⟨dir⟩ name)
  return fh.data

/-- The target of a link. -/
def readlink (fh : ObjId) : Prog (V4Backend τ) NfsError String :=
  within (Nfs4.readlink transport ⟨fh⟩)

/-- Sets the mode and the size; no other attribute is sent. -/
def setattr (fh : ObjId) (attr : SetAttr) : Prog (V4Backend τ) NfsError Unit :=
  within (Nfs4.setattr transport ⟨fh⟩ { mode := attr.mode, size := attr.size })

/-- An entry of a page, with its cookie. -/
def dirEntry (entry : Proto.DirEntry4) : UInt64 × DirEntry :=
  (entry.cookie, ⟨entry.name, entry.attrs.fileid.getD 0, some (.fromFattr4 entry.attrs)⟩)

/-- A page of a directory. -/
def readPage (dir : ObjId) (cookie : UInt64) (verf : Vector UInt8 8) :
    Prog (V4Backend τ) NfsError DirPage := do
  let page ← within (Nfs4.readdir transport ⟨dir⟩ cookie verf 32768)
  return ⟨page.cookieverf, page.entries.map dirEntry, page.eof⟩

/-- The entries of a directory. -/
def readdir (pages : Nat) (dir : ObjId) : Prog (V4Backend τ) NfsError (List DirEntry) :=
  readPages (readPage transport dir) pages 0 (Vector.replicate 8 0) []

/-- Takes a lock with a fresh lock-owner. -/
def lock (file : OpenFile) (offset length : UInt64) (exclusive : Bool) :
    Prog (V4Backend τ) NfsError LockToken := do
  let grant ← within (Nfs4.lock transport ⟨file.fh⟩ (file.stateid.getD Stateid4.default) offset length
    exclusive)
  return .v4 grant offset length

/-- A token of the other version is left alone. -/
def unlock (file : OpenFile) (token : LockToken) : Prog (V4Backend τ) NfsError Unit := do
  match token with
  | .v4 grant offset length =>
      let _ ← within (Nfs4.unlock transport ⟨file.fh⟩ grant offset length)
      return ()
  | .v3 .. => return ()

/-- Whether a range could be locked. -/
def testLock (file : OpenFile) (offset length : UInt64) (exclusive : Bool) :
    Prog (V4Backend τ) NfsError Bool :=
  within (Nfs4.testLock transport ⟨file.fh⟩ offset length exclusive)

/-- The backend for `NfsContext`. -/
def backend : VfsBackend (V4Backend τ) where
  prefWrite backend := backend.wsize
  lookup := lookup transport
  «open» := V4Backend.open transport
  close := close transport
  pwrite := pwrite transport
  commit := commit transport
  readlink := readlink transport
  setattr := setattr transport
  prefRead backend := backend.rsize
  getattr := getattr transport
  readdir := readdir transport
  pread := pread transport
  mkdir := mkdir transport
  lock := lock transport
  unlock := unlock transport
  testLock := testLock transport

end V4Backend

end LibNfs.Client
