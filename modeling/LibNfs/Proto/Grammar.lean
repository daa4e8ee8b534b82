import LibNfs.Proto.Operations
import LibNfs.Proto.OwnerWire

/-! # The COMPOUND grammar

`COMPOUND4args` and `COMPOUND4res` of RFC 7530 and RFC 5661 as a server has them,
for the operations of the client: a reader of requests, and the results of
operations that succeed. A bitmap stands for the list of its attribute numbers,
and an `fattr4` of a request for the list of its attributes.
-/

namespace LibNfs.Proto

open Coding Reading
open Xdr (XdrError XdrEncode XdrDecode beU32 beU64)

/-- Reading a request by the grammar. -/
abbrev GrammarM := StateT Bytes (Except XdrError)

/-- The next field of a request. -/
def item {α : Type} [XdrDecode α] : GrammarM α :=
  fun buf => XdrDecode.decode buf

/-- `settime4`. -/
inductive SetTime4 where
  | server
  | client (time : Nfstime4)
  deriving DecidableEq

/-- An attribute that a request can set. -/
inductive Attribute where
  | size (size : UInt64)
  | mode (mode : UInt32)
  | owner (who : String)
  | ownerGroup (who : String)
  | timeAccessSet (time : SetTime4)
  | timeModifySet (time : SetTime4)
  deriving DecidableEq

/-- `createtype4`. -/
inductive CreateType where
  | link (target : String)
  | block (major minor : UInt32)
  | char (major minor : UInt32)
  | socket
  | fifo
  | dir
  deriving DecidableEq

/-- `openflag4`. -/
inductive OpenHow where
  | nocreate
  | unchecked (attrs : List Attribute)
  | guarded (attrs : List Attribute)
  | exclusive (verf : Vector UInt8 8)
  deriving DecidableEq

/-- `locker4`. -/
inductive Locker where
  | fresh (openSeqid : UInt32) (openStateid : Stateid4) (lockSeqid : UInt32) (clientid : UInt64)
      (owner : Bytes)
  | existing (lockStateid : Stateid4) (lockSeqid : UInt32)
  deriving DecidableEq

/-- `nfs_argop4`. -/
inductive ArgOp where
  | access (mask : UInt32)
  | close (seqid : UInt32) (stateid : Stateid4)
  | commit (offset : UInt64) (count : UInt32)
  | create (kind : CreateType) (name : String) (attrs : List Attribute)
  | getattr (attrs : List Nat)
  | getfh
  | link (name : String)
  | lock (locktype : UInt32) (reclaim : Bool) (offset length : UInt64) (locker : Locker)
  | lockt (locktype : UInt32) (offset length clientid : UInt64) (owner : Bytes)
  | locku (locktype seqid : UInt32) (stateid : Stateid4) (offset length : UInt64)
  | lookup (name : String)
  | open (seqid access deny : UInt32) (clientid : UInt64) (owner : Bytes) (how : OpenHow)
      (name : String)
  | openConfirm (stateid : Stateid4) (seqid : UInt32)
  | putfh (fh : NfsFh4)
  | putrootfh
  | read (stateid : Stateid4) (offset : UInt64) (count : UInt32)
  | readdir (cookie : UInt64) (cookieverf : Vector UInt8 8) (dircount maxcount : UInt32)
      (attrs : List Nat)
  | readlink
  | remove (name : String)
  | rename (old new : String)
  | renew (clientid : UInt64)
  | savefh
  | setattr (stateid : Stateid4) (attrs : List Attribute)
  | write (stateid : Stateid4) (offset : UInt64) (stable : UInt32) (data : Bytes)
  | sequence (sessionid : Vector UInt8 16) (seqid slotid highest : UInt32) (cache : Bool)
  deriving DecidableEq

def SetTime4.read : GrammarM SetTime4 := do
  let how : UInt32 ← item
  if how = 0 then
    return .server
  else if how = 1 then
    return .client (← item)
  else
    throw (.invalidUnion how)

/-- The value of the attribute with a number. -/
def Attribute.read (bit : Nat) : GrammarM Attribute :=
  if bit = fattr4Size.toNat then return .size (← item)
  else if bit = fattr4Mode.toNat then return .mode (← item)
  else if bit = fattr4Owner.toNat then return .owner (← item)
  else if bit = fattr4OwnerGroup.toNat then return .ownerGroup (← item)
  else if bit = 48 then return .timeAccessSet (← SetTime4.read)
  else if bit = 54 then return .timeModifySet (← SetTime4.read)
  else throw (.invalidUnion (UInt32.ofNat bit))

/-- `fattr4`: a bitmap and the values of its attributes, with nothing after them. -/
def readAttributes : GrammarM (List Attribute) := do
  let words : List UInt32 ← item
  let values : Bytes ← item
  match ((attributesOf words).mapM Attribute.read).run values with
  | .ok (attrs, []) => return attrs
  | .ok (_, left) => throw (.trailingData left.length)
  | .error error => throw error

def CreateType.read : GrammarM CreateType := do
  let kind : UInt32 ← item
  if kind = nf4Lnk then return .link (← item)
  else if kind = 3 then return .block (← item) (← item)
  else if kind = 4 then return .char (← item) (← item)
  else if kind = 6 then return .socket
  else if kind = 7 then return .fifo
  else if kind = nf4Dir then return .dir
  else throw (.invalidUnion kind)

def OpenHow.read : GrammarM OpenHow := do
  let kind : UInt32 ← item
  if kind = open4Nocreate then
    return .nocreate
  else if kind = open4Create then
    let mode : UInt32 ← item
    if mode = unchecked4 then return .unchecked (← readAttributes)
    else if mode = 1 then return .guarded (← readAttributes)
    else if mode = 2 then return .exclusive (← item)
    else throw (.invalidUnion mode)
  else
    throw (.invalidUnion kind)

def Locker.read : GrammarM Locker := do
  let fresh : Bool ← item
  if fresh then
    return .fresh (← item) (← item) (← item) (← item) (← item)
  else
    return .existing (← item) (← item)

/-- `open_claim4`: only `CLAIM_NULL` is used here. -/
def readClaim : GrammarM String := do
  let kind : UInt32 ← item
  if kind = claimNull then item else throw (.invalidUnion kind)

/-- The attribute numbers of a `bitmap4`. -/
def readBitmap : GrammarM (List Nat) := do
  return attributesOf (← item)

/-- The arguments of an operation. -/
def ArgOp.args (opnum : UInt32) : GrammarM ArgOp :=
  if opnum = opAccess then return .access (← item)
  else if opnum = opClose then return .close (← item) (← item)
  else if opnum = opCommit then return .commit (← item) (← item)
  else if opnum = opCreate then return .create (← CreateType.read) (← item) (← readAttributes)
  else if opnum = opGetattr then return .getattr (← readBitmap)
  else if opnum = opGetfh then return .getfh
  else if opnum = opLink then return .link (← item)
  else if opnum = opLock then
    return .lock (← item) (← item) (← item) (← item) (← Locker.read)
  else if opnum = opLockt then
    return .lockt (← item) (← item) (← item) (← item) (← item)
  else if opnum = opLocku then
    return .locku (← item) (← item) (← item) (← item) (← item)
  else if opnum = opLookup then return .lookup (← item)
  else if opnum = opOpen then
    return .open (← item) (← item) (← item) (← item) (← item) (← OpenHow.read) (← readClaim)
  else if opnum = opOpenConfirm then return .openConfirm (← item) (← item)
  else if opnum = opPutfh then return .putfh (← item)
  else if opnum = opPutrootfh then return .putrootfh
  else if opnum = opRead then return .read (← item) (← item) (← item)
  else if opnum = opReaddir then
    return .readdir (← item) (← item) (← item) (← item) (← readBitmap)
  else if opnum = opReadlink then return .readlink
  else if opnum = opRemove then return .remove (← item)
  else if opnum = opRename then return .rename (← item) (← item)
  else if opnum = opRenew then return .renew (← item)
  else if opnum = opSavefh then return .savefh
  else if opnum = opSetattr then return .setattr (← item) (← readAttributes)
  else if opnum = opWrite then return .write (← item) (← item) (← item) (← item)
  else if opnum = opSequence then
    return .sequence (← item) (← item) (← item) (← item) (← item)
  else throw (.invalidUnion opnum)

/-- An operation: its number and its arguments. -/
def readOp : GrammarM ArgOp := do
  let opnum : UInt32 ← item
  ArgOp.args opnum

/-- `COMPOUND4args`. -/
structure CompoundArgs where
  tag : String
  minor : UInt32
  ops : List ArgOp
  deriving DecidableEq

/-- As many operations as the request announces. -/
def readCompound : GrammarM CompoundArgs := do
  let tag : String ← item
  let minor : UInt32 ← item
  let count : UInt32 ← item
  let ops ← many readOp count.toNat
  return ⟨tag, minor, ops⟩

/-- Parses a whole request: nothing may follow its operations. -/
def CompoundArgs.parse (buf : Bytes) : Except XdrError CompoundArgs :=
  match readCompound.run buf with
  | .ok (args, []) => .ok args
  | .ok (_, left) => .error (.trailingData left.length)
  | .error error => .error error

/-- Bytes that have a length prefix. -/
def Sized (bytes : Bytes) : Prop :=
  bytes.length < 2 ^ 32

instance : DecidablePred Sized :=
  fun bytes => inferInstanceAs (Decidable (bytes.length < 2 ^ 32))

/-- The code of a byte string. -/
def dataCode (data : Bytes) : Bytes :=
  Xdr.Ty.code (.sized .bytes) data

/-- The code of data of a fixed size. -/
def fixedCode {size : Nat} (data : Vector UInt8 size) : Bytes :=
  data.toList ++ List.replicate (Xdr.padding size) 0

abbrev Text := { text : String // Sized (Xdr.asBytes text) }

abbrev Data := { data : Bytes // Sized data }

def Data.empty : Data :=
  ⟨[], Nat.two_pow_pos 32⟩

abbrev Bitmap := { words : List UInt32 // words.length < 2 ^ 32 }

def Bitmap.empty : Bitmap :=
  ⟨[], Nat.two_pow_pos 32⟩

/-- An `fattr4` with attributes among those asked for. The client counts the bits of the bitmap
in a `u32`, so it has fewer than 2^27 words. -/
structure Attrs (asked : List Nat) where
  words : List UInt32
  attrs : Fattr4
  subset : ∀ bit ∈ attributesOf words, bit ∈ asked
  describes : Fattr4.Describes words attrs
  fits : attrs.Fits
  short : words.length < 2 ^ 27
  sized : Sized (attrs.values words)

/-- `OPEN4resok` without a delegation. -/
structure OpenRes where
  stateid : Stateid4
  cinfo : ChangeInfo4
  rflags : UInt32
  attrset : Bitmap

/-- `WRITE4resok`. -/
structure WriteRes where
  count : UInt32
  committed : UInt32
  verf : Vector UInt8 8

/-- `entry4`. -/
structure EntryRes (asked : List Nat) where
  cookie : UInt64
  name : Text
  attrs : Attrs asked

/-- `READDIR4resok`. -/
structure DirRes (asked : List Nat) where
  cookieverf : Vector UInt8 8
  entries : List (EntryRes asked)
  eof : Bool

/-- `SEQUENCE4resok`. -/
structure SequenceRes where
  sessionid : Vector UInt8 16
  seqid : UInt32
  slotid : UInt32
  highest : UInt32
  target : UInt32
  flags : UInt32

namespace ArgOp

def opnum : ArgOp → UInt32
  | access .. => opAccess
  | close .. => opClose
  | commit .. => opCommit
  | create .. => opCreate
  | getattr .. => opGetattr
  | getfh => opGetfh
  | link .. => opLink
  | lock .. => opLock
  | lockt .. => opLockt
  | locku .. => opLocku
  | lookup .. => opLookup
  | «open» .. => opOpen
  | openConfirm .. => opOpenConfirm
  | putfh .. => opPutfh
  | putrootfh => opPutrootfh
  | read .. => opRead
  | readdir .. => opReaddir
  | readlink => opReadlink
  | remove .. => opRemove
  | rename .. => opRename
  | renew .. => opRenew
  | savefh => opSavefh
  | setattr .. => opSetattr
  | write .. => opWrite
  | sequence .. => opSequence

/-- What an operation returns when it succeeds. -/
def Result : ArgOp → Type
  | access .. => UInt32 × UInt32
  | close .. | lock .. | locku .. | openConfirm .. => Stateid4
  | commit .. => Vector UInt8 8
  | create .. => ChangeInfo4 × Bitmap
  | getattr asked => Attrs asked
  | getfh => Handle
  | link .. | remove .. => ChangeInfo4
  | «open» .. => OpenRes
  | read .. => Bool × Data
  | readdir _ _ _ _ asked => DirRes asked
  | readlink => Text
  | rename .. => ChangeInfo4 × ChangeInfo4
  | setattr .. => Bitmap
  | write .. => WriteRes
  | sequence .. => SequenceRes
  | lockt .. | lookup .. | putfh .. | putrootfh | renew .. | savefh => Unit

end ArgOp

def Attrs.code {asked : List Nat} (given : Attrs asked) : Bytes :=
  bitmapCode given.words ++ dataCode (given.attrs.values given.words)

def EntryRes.code {asked : List Nat} (entry : EntryRes asked) : Bytes :=
  beU64 entry.cookie ++ (textCode entry.name.1 ++ entry.attrs.code)

/-- The entries of a directory as a list of XDR: each is announced by a `true`. -/
def entriesCode {asked : List Nat} : List (EntryRes asked) → Bytes
  | [] => beU32 (Xdr.boolWord false)
  | entry :: rest => beU32 (Xdr.boolWord true) ++ (entry.code ++ entriesCode rest)

/-- What follows the status of an operation that succeeded. -/
def ArgOp.body : (op : ArgOp) → op.Result → Bytes
  | access .., given => beU32 given.1 ++ beU32 given.2
  | close .., stateid | lock .., stateid | locku .., stateid | openConfirm .., stateid =>
      Stateid4.code stateid
  | commit .., verf => fixedCode verf
  | create .., made => ChangeInfo4.code made.1 ++ bitmapCode made.2.1
  | getattr _, given => Attrs.code given
  | getfh, handle => Handle.fh handle |>.code
  | link .., cinfo | remove .., cinfo => ChangeInfo4.code cinfo
  | «open» .., opened =>
      opened.stateid.code ++ (opened.cinfo.code ++ (beU32 opened.rflags ++
        (bitmapCode opened.attrset.1 ++ beU32 0)))
  | read .., given => beU32 (Xdr.boolWord given.1) ++ dataCode given.2.1
  | readdir .., dir =>
      fixedCode dir.cookieverf ++ (entriesCode dir.entries ++ beU32 (Xdr.boolWord dir.eof))
  | readlink, text => textCode text.1
  | rename .., given => ChangeInfo4.code given.1 ++ ChangeInfo4.code given.2
  | setattr .., words => bitmapCode words.1
  | write .., done => beU32 done.count ++ (beU32 done.committed ++ fixedCode done.verf)
  | sequence .., slot =>
      fixedCode slot.sessionid ++ (beU32 slot.seqid ++ (beU32 slot.slotid ++
        (beU32 slot.highest ++ (beU32 slot.target ++ beU32 slot.flags))))
  | lockt .., _ | lookup .., _ | putfh .., _ | putrootfh, _ | renew .., _ | savefh, _ => []

/-- The result of an operation that succeeded. -/
def ArgOp.res (op : ArgOp) (result : op.Result) : Bytes :=
  resultHeader op.opnum nfs4Ok ++ op.body result

end LibNfs.Proto
