import LibNfs.Capi.Texts
import LibNfs.Client.Whole

/-! # The C library

The functions that C programs call, over the memory that the library shares with them. A
pointer is `none` when it is NULL. A call whose behaviour is undefined, or for which the
allocator picked an address in use, has no result.

A panic is caught; what it leaves of a context is left open (`System.wreck`). So are the texts
of I/O errors and the JSON writer, which escapes control characters.
-/

namespace LibNfs.Capi

open Client
open Xdr (asBytes fromUtf8)

/-- A C string, without the NUL that ends it. -/
structure CString where
  bytes : Bytes
  terminated : 0 ∉ bytes
  deriving DecidableEq

namespace CString

/-- `CString::new`. -/
def new (text : String) : Option CString :=
  if terminated : 0 ∉ asBytes text then
    some ⟨asBytes text, terminated⟩
  else
    none

/-- The empty text. -/
def default : CString :=
  ⟨[], List.not_mem_nil⟩

end CString

/-- The text of a C string, unless it is NULL or not UTF-8. -/
def asStr : Option CString → Option String
  | none => none
  | some text => fromUtf8 text.bytes

/-- A JSON value. -/
inductive Json where
  | null
  | uint (number : Nat)
  | int (number : Int)
  | string (text : String)
  | array (items : List Json)
  | object (fields : List (String × Json))

/-- Writes JSON without control characters. -/
structure JsonWriter where
  write : Json → String
  escapes : ∀ value, 0 ∉ asBytes (write value)

/-- A mounted context, and its last error. -/
structure NfsHandle (κ : Type) where
  ctx : κ
  root : ObjId
  lastError : CString

/-- A message with a NUL inside is lost. -/
def NfsHandle.setError {κ : Type} (handle : NfsHandle κ) (msg : String) : NfsHandle κ :=
  { handle with lastError := (CString.new msg).getD .default }

/-- What the allocator has given out. -/
inductive Block (κ : Type) where
  | handle (handle : NfsHandle κ)
  | string (text : CString)
  | bytes (content : Bytes)

/-- The world outside and the heap of the program. -/
structure Memory (κ ω : Type) where
  world : ω
  heap : Nat → Option (Block κ)

/-- What the library stands on. Contexts have states of their own and share the network. `pages`
bounds the pages of a `readdir`, which the source does not. -/
structure System (κ ω : Type) where
  whole : WholeBackend (κ × ω)
  pages : Nat
  mountUrl : String → Prog ω NfsError (κ × ObjId)
  disconnect : κ → ω → ω
  ioText : Rpc.IoErrorKind → String
  json : JsonWriter
  wreck : κ × ω → κ × ω
  wreckMount : ω → ω

/-- What a call returns, with what it gives to the program. -/
inductive Return where
  | void
  | int (code : Int32)
  | handle (h : Option Nat)
  | string (s : Option Nat)
  | message (text : Option CString)
  | bytes (code : Int32) (out : Option (Nat × Nat))
  deriving DecidableEq

/-- The address of an empty buffer, which is not allocated. -/
def dangling : Nat := 1

/-- A call of the library; `address` is where the allocator puts a new block. -/
inductive Call where
  | mount (url : Option CString) (address : Nat)
  | unmount (h : Option Nat)
  | lastError (h : Option Nat)
  | stat (h : Option Nat) (path : Option CString) (address : Nat)
  | readdir (h : Option Nat) (path : Option CString) (address : Nat)
  | read (h : Option Nat) (path : Option CString) (outs : Bool) (address : Nat)
  | write (h : Option Nat) (path : Option CString) (data : Option Slice)
  | mkdir (h : Option Nat) (path : Option CString)
  | rmdir (h : Option Nat) (path : Option CString)
  | unlink (h : Option Nat) (path : Option CString)
  | rename (h : Option Nat) (fromPath toPath : Option CString)
  | access (h : Option Nat) (path : Option CString)
  | freeString (s : Option Nat)
  | freeBytes (buf : Option Nat) (len : Nat)

namespace System

variable {κ ω : Type} (system : System κ ω)

/-- What a function of the library does with the memory. -/
abbrev Effect (κ ω : Type) :=
  Memory κ ω → Option (Return × Memory κ ω)

/-- `.map_err(|e| e.to_string())`. -/
def told {α : Type} (body : Prog (κ × ω) NfsError α) : Prog (κ × ω) String α :=
  Prog.within id (fun next _ => next) (NfsError.text system.ioText) body

/-- `.ok_or_else(|| invalid.to_string())`. -/
def given (path : Option CString) (invalid : String) : Prog (κ × ω) String String :=
  Prog.ofExcept ((asStr path).elim (.error invalid) .ok)

/-- The message for a path that is missing or is no UTF-8. -/
def invalidPath : String := "ruta inválida"

/-- Runs a body and catches its panic; what failed sets the error of the handle. A body that does
not end, which only a `readdir` past its bound of pages is, is told as one that panics. -/
def guarded {α : Type} (what : String) (body : Prog (κ × ω) String α) (handle : NfsHandle κ)
    (world : ω) : Option α × NfsHandle κ × ω :=
  match body.run (handle.ctx, world) with
  | some (.ok value, ctx, world) => (some value, { handle with ctx := ctx }, world)
  | some (.error msg, ctx, world) => (none, { handle with ctx := ctx }.setError msg, world)
  | none =>
      let (ctx, world) := system.wreck (handle.ctx, world)
      (none, { handle with ctx := ctx }.setError ("pánico en " ++ what), world)

/-- A block at an address that is not in use. -/
def alloc (block : Block κ) (address : Nat) (result : Return) : Effect κ ω := fun memory =>
  match memory.heap address with
  | some _ => none
  | none => some (result, { memory with heap := Function.update memory.heap address (some block) })

/-- `as_handle`, and what is returned for NULL. -/
def onHandle (h : Option Nat) (null : Return) (body : Nat → NfsHandle κ → Effect κ ω) :
    Effect κ ω := fun memory =>
  match h with
  | none => some (null, memory)
  | some address =>
      match memory.heap address with
      | some (.handle handle) => body address handle memory
      | _ => none

/-- Runs a guarded body on a handle and goes on with what it gives. -/
def running {α : Type} (h : Option Nat) (null : Return) (what : String)
    (body : ObjId → Prog (κ × ω) String α) (failed : Return) (next : α → Effect κ ω) :
    Effect κ ω :=
  onHandle h null fun address handle memory =>
    let (value, handle, world) := system.guarded what (body handle.root) handle memory.world
    let memory := ⟨world, Function.update memory.heap address (some (.handle handle))⟩
    match value with
    | some value => next value memory
    | none => some (failed, memory)

/-- `guard_int`, with the NULL check before it. -/
def guardInt (h : Option Nat) (what : String) (body : ObjId → Prog (κ × ω) String Unit) :
    Effect κ ω :=
  system.running h (.int (-1)) what body (.int (-1)) fun () memory => some (.int 0, memory)

/-- `into_json_ptr`. -/
def intoJsonPtr (value : Json) (address : Nat) : Effect κ ω :=
  match CString.new (system.json.write value) with
  | some text => alloc (.string text) address (.string (some address))
  | none => fun memory => some (.string none, memory)

/-- Mounts a URL, and gives a handle to the program. -/
def mount (url : Option CString) (address : Nat) : Effect κ ω := fun memory =>
  match asStr url with
  | none => some (.handle none, memory)
  | some url =>
      match (system.mountUrl url).run memory.world with
      | some (.ok (ctx, root), world) =>
          alloc (.handle ⟨ctx, root, .default⟩) address (.handle (some address))
            { memory with world := world }
      | some (.error _, world) => some (.handle none, { memory with world := world })
      | none => some (.handle none, { memory with world := system.wreckMount memory.world })

/-- Ends a mount and takes its handle. -/
def unmount (h : Option Nat) : Effect κ ω :=
  onHandle h .void fun address handle memory =>
    some (.void, ⟨system.disconnect handle.ctx memory.world,
      Function.update memory.heap address none⟩)

/-- The last error of a handle, which the library keeps. -/
def lastError (h : Option Nat) : Effect κ ω :=
  onHandle h (.message none) fun _ handle memory => some (.message (some handle.lastError), memory)

/-- The `Debug` of a file type. -/
def debugType : FileType → String
  | .regular => "Regular"
  | .directory => "Directory"
  | .symlink => "Symlink"
  | .block => "Block"
  | .char => "Char"
  | .socket => "Socket"
  | .fifo => "Fifo"
  | .unknown => "Unknown"

/-- The JSON object of some attributes. -/
def attrJson (attr : Attr) : Json :=
  .object [("type", .string (debugType attr.fileType)), ("mode", .uint attr.mode.toNat),
    ("nlink", .uint attr.nlink.toNat), ("uid", .uint attr.uid.toNat), ("gid", .uint attr.gid.toNat),
    ("size", .uint attr.size.toNat), ("fileid", .uint attr.fileid.toNat),
    ("mtime", .int attr.mtime.secs.toInt), ("atime", .int attr.atime.secs.toInt),
    ("ctime", .int attr.ctime.secs.toInt)]

/-- The JSON object of an entry. -/
def entryJson (entry : DirEntry) : Json :=
  .object [("name", .string entry.name), ("fileid", .uint entry.fileid.toNat),
    ("type", entry.attr.elim .null fun attr => .string (debugType attr.fileType)),
    ("size", entry.attr.elim .null fun attr => .uint attr.size.toNat)]

/-- The attributes of a path. -/
def statBody (path : Option CString) (root : ObjId) : Prog (κ × ω) String Json := do
  let path ← given path invalidPath
  let attr ← system.told (NfsContext.stat root system.whole.toVfsBackend path)
  return attrJson attr

/-- Gives the attributes of a path, as a text. -/
def stat (h : Option Nat) (path : Option CString) (address : Nat) : Effect κ ω :=
  system.running h (.string none) "nfs_rs_stat" (system.statBody path) (.string none) fun value =>
    system.intoJsonPtr value address

/-- The entries of a directory. -/
def readdirBody (path : Option CString) (root : ObjId) : Prog (κ × ω) String Json := do
  let path ← given path invalidPath
  let entries ← system.told (NfsContext.readdir root system.whole.toVfsBackend system.pages path)
  return .array (entries.map entryJson)

/-- Gives the entries of a directory, as a text. -/
def readdir (h : Option Nat) (path : Option CString) (address : Nat) : Effect κ ω :=
  system.running h (.string none) "nfs_rs_readdir" (system.readdirBody path) (.string none)
    fun value => system.intoJsonPtr value address

/-- The content of a file. -/
def readBody (path : Option CString) (root : ObjId) : Prog (κ × ω) String Bytes := do
  let path ← given path invalidPath
  system.told (NfsContext.readWhole root system.whole.toVfsBackend path)

/-- Hands out a buffer; an empty one is not allocated. -/
def intoBuffer (data : Bytes) (address : Nat) : Effect κ ω :=
  if data = [] then
    fun memory => some (.bytes 0 (some (dangling, 0)), memory)
  else
    alloc (.bytes data) address (.bytes 0 (some (address, data.length)))

/-- The message for a missing place of a result. -/
def nullOuts : String := "punteros de salida nulos"

/-- Gives the content of a file, as a buffer. -/
def read (h : Option Nat) (path : Option CString) (outs : Bool) (address : Nat) : Effect κ ω :=
  if outs then
    system.running h (.bytes (-1) none) "nfs_rs_read" (system.readBody path) (.bytes (-1) none)
      fun data => intoBuffer data address
  else
    onHandle h (.bytes (-1) none) fun address handle memory =>
      some (.bytes (-1) none, { memory with
        heap := Function.update memory.heap address (some (.handle (handle.setError nullOuts))) })

/-- NULL is no data. -/
def writeBody (path : Option CString) (data : Option Slice) (root : ObjId) :
    Prog (κ × ω) String Unit := do
  let path ← given path invalidPath
  system.told (NfsContext.writeWhole system.whole.toBackend root path
    (data.getD ⟨[], Nat.two_pow_pos 63⟩))

/-- Writes a whole file. -/
def write (h : Option Nat) (path : Option CString) (data : Option Slice) : Effect κ ω :=
  system.guardInt h "nfs_rs_write" (system.writeBody path data)

/-- The body of `path_op!`. -/
def pathBody (path : Option CString) (method : ObjId → String → Prog (κ × ω) NfsError Unit)
    (root : ObjId) : Prog (κ × ω) String Unit := do
  let path ← given path invalidPath
  system.told (method root path)

/-- Makes a directory. -/
def mkdirBody (path : Option CString) : ObjId → Prog (κ × ω) String Unit :=
  system.pathBody path fun root => NfsContext.mkdir root system.whole.toVfsBackend

/-- Makes a directory, and tells 0 or -1. -/
def mkdir (h : Option Nat) (path : Option CString) : Effect κ ω :=
  system.guardInt h "nfs_rs_mkdir" (system.mkdirBody path)

/-- Removes a directory. -/
def rmdirBody (path : Option CString) : ObjId → Prog (κ × ω) String Unit :=
  system.pathBody path fun root => NfsContext.rmdir root system.whole.toNameBackend

/-- Removes a directory, and tells 0 or -1. -/
def rmdir (h : Option Nat) (path : Option CString) : Effect κ ω :=
  system.guardInt h "nfs_rs_rmdir" (system.rmdirBody path)

/-- Removes a file. -/
def unlinkBody (path : Option CString) : ObjId → Prog (κ × ω) String Unit :=
  system.pathBody path fun root => NfsContext.unlink root system.whole.toNameBackend

/-- Removes a file, and tells 0 or -1. -/
def unlink (h : Option Nat) (path : Option CString) : Effect κ ω :=
  system.guardInt h "nfs_rs_unlink" (system.unlinkBody path)

/-- Moves a name. -/
def renameBody (fromPath toPath : Option CString) (root : ObjId) : Prog (κ × ω) String Unit := do
  let fromPath ← given fromPath "ruta origen inválida"
  let toPath ← given toPath "ruta destino inválida"
  system.told (NfsContext.rename root system.whole.toNameBackend fromPath toPath)

/-- Moves a name, and tells 0 or -1. -/
def rename (h : Option Nat) (fromPath toPath : Option CString) : Effect κ ω :=
  system.guardInt h "nfs_rs_rename" (system.renameBody fromPath toPath)

/-- Asks for access to a path. -/
def accessBody (path : Option CString) (root : ObjId) : Prog (κ × ω) String Bool := do
  let path ← given path invalidPath
  system.told (NfsContext.access root system.whole path)

/-- 1 when the path may be read, and 0 when not. -/
def access (h : Option Nat) (path : Option CString) : Effect κ ω :=
  system.running h (.int (-1)) "nfs_rs_access" (system.accessBody path) (.int (-1))
    fun allowed memory => some (.int (if allowed then 1 else 0), memory)

/-- Takes a text back. -/
def freeString (s : Option Nat) : Effect κ ω := fun memory =>
  match s with
  | none => some (.void, memory)
  | some address =>
      match memory.heap address with
      | some (.string _) =>
          some (.void, { memory with heap := Function.update memory.heap address none })
      | _ => none

/-- Nothing is freed for NULL or for an empty buffer. -/
def freeBytes (buf : Option Nat) (len : Nat) : Effect κ ω := fun memory =>
  match buf with
  | none => some (.void, memory)
  | some address =>
      if len = 0 then
        some (.void, memory)
      else
        match memory.heap address with
        | some (.bytes content) =>
            if content.length = len then
              some (.void, { memory with heap := Function.update memory.heap address none })
            else
              none
        | _ => none

/-- What a call does. -/
def call : Call → Effect κ ω
  | .mount url address => system.mount url address
  | .unmount h => system.unmount h
  | .lastError h => lastError h
  | .stat h path address => system.stat h path address
  | .readdir h path address => system.readdir h path address
  | .read h path outs address => system.read h path outs address
  | .write h path data => system.write h path data
  | .mkdir h path => system.mkdir h path
  | .rmdir h path => system.rmdir h path
  | .unlink h path => system.unlink h path
  | .rename h fromPath toPath => system.rename h fromPath toPath
  | .access h path => system.access h path
  | .freeString s => freeString s
  | .freeBytes buf len => freeBytes buf len

end System

end LibNfs.Capi
