import LibNfs.Proto.Cursor
import LibNfs.Rpc.Portability

/-! # Replies over the cursor

The reader of `COMPOUND` results over the cursor that panics: the header, each
operation of the reader, and the loops over the bits of a bitmap and the entries of a
directory. A message is no longer than a record, which bounds the bits of a bitmap.
-/

namespace LibNfs.Proto

open Coding Guarded
open Xdr (Buf Target XdrError XdrDecode Ty decodeU32)

/-- A decoder of the protocol over the cursor. -/
abbrev Cursor (α : Type) :=
  Reader ProtoError UInt8 α

/-- The `?` operator on a decoder of the codec. -/
def lifted {α : Type} (decode : Buf α) : Cursor α :=
  decode.mapError .xdr

variable (target : Target)

/-- Reads a time. -/
def Nfstime4.reader : Buf Nfstime4 := do
  let value ← target.decode Nfstime4.ty
  return ⟨value.1, value.2.1⟩

/-- `bit_set`; an index out of range and a shift by the whole width panic. -/
def bitSetReader (bitmap : List UInt32) (bit : UInt32) : Option Bool :=
  let word := (bit / 32).toNat
  if word < bitmap.length then do
    let value ← bitmap[word]?
    let shifted ← target.shrU32 value (bit % 32)
    return shifted &&& 1 = 1
  else
    return false

/-- One arm of the `match` of `decode_fattr4`. -/
def attrReader (bit : UInt32) (out : Fattr4) : Cursor Fattr4 :=
  if bit = fattr4Type then return { out with ftype := some (← lifted Buf.decodeU32) }
  else if bit = fattr4Change then return { out with change := some (← lifted Buf.decodeU64) }
  else if bit = fattr4Size then return { out with size := some (← lifted Buf.decodeU64) }
  else if bit = fattr4Fsid then
    return { out with fsid := some (← lifted Buf.decodeU64, ← lifted Buf.decodeU64) }
  else if bit = fattr4Fileid then return { out with fileid := some (← lifted Buf.decodeU64) }
  else if bit = fattr4Mode then return { out with mode := some (← lifted Buf.decodeU32) }
  else if bit = fattr4Numlinks then
    return { out with numlinks := some (← lifted Buf.decodeU32) }
  else if bit = fattr4Owner then
    return { out with owner := some (← lifted target.decodeString) }
  else if bit = fattr4OwnerGroup then
    return { out with ownerGroup := some (← lifted target.decodeString) }
  else if bit = fattr4Rawdev then
    return { out with rawdev := some (← lifted Buf.decodeU32, ← lifted Buf.decodeU32) }
  else if bit = fattr4SpaceUsed then
    return { out with spaceUsed := some (← lifted Buf.decodeU64) }
  else if bit = fattr4FilesAvail then
    return { out with filesAvail := some (← lifted Buf.decodeU64) }
  else if bit = fattr4FilesFree then
    return { out with filesFree := some (← lifted Buf.decodeU64) }
  else if bit = fattr4FilesTotal then
    return { out with filesTotal := some (← lifted Buf.decodeU64) }
  else if bit = fattr4SpaceAvail then
    return { out with spaceAvail := some (← lifted Buf.decodeU64) }
  else if bit = fattr4SpaceFree then
    return { out with spaceFree := some (← lifted Buf.decodeU64) }
  else if bit = fattr4SpaceTotal then
    return { out with spaceTotal := some (← lifted Buf.decodeU64) }
  else if bit = fattr4TimeAccess then
    return { out with timeAccess := some (← lifted (Nfstime4.reader target)) }
  else if bit = fattr4TimeMetadata then
    return { out with timeMetadata := some (← lifted (Nfstime4.reader target)) }
  else if bit = fattr4TimeModify then
    return { out with timeModify := some (← lifted (Nfstime4.reader target)) }
  else throwThe ProtoError (.protocol "fattr4 con atributo no soportado en la respuesta")

/-- `decode_fattr4`, on the attribute list as its buffer. -/
def fattr4Reader (bitmap : List UInt32) : Cursor Fattr4 := do
  let maxBit ← Reader.ofOption (target.mulU32 (UInt32.ofNat bitmap.length) 32)
  (List.range maxBit.toNat).foldlM (fun out bit => do
    let set ← Reader.ofOption (bitSetReader target bitmap (UInt32.ofNat bit))
    if set then attrReader target (UInt32.ofNat bit) out else return out) {}

namespace CompoundReader

/-- `CompoundReader::parse`; the reader is left with the results. -/
def parseReader : Cursor Unit := do
  let status ← lifted Buf.decodeU32
  let _tag ← lifted target.decodeString
  let _count ← lifted Buf.decodeU32
  if status ≠ nfs4Ok then
    throwThe ProtoError (.nfs4 status)
  else
    return ()

/-- `CompoundReader::begin_op`. -/
def beginOpReader (expected : UInt32) : Cursor Unit := do
  let opcode ← lifted Buf.decodeU32
  if opcode ≠ expected then
    throwThe ProtoError (.protocol "COMPOUND: opcode inesperado")
  else
    let status ← lifted Buf.decodeU32
    if status ≠ nfs4Ok then
      throwThe ProtoError (.nfs4 status)
    else
      return ()

/-- `CompoundReader::fattr4`. -/
def fattrReader : Cursor Fattr4 := do
  let bitmap ← lifted (Buf.decodeVec Buf.decodeU32)
  let attrlist ← lifted (target.decodeOpaque target.usizeMax)
  (fattr4Reader target bitmap).on attrlist

/-- One turn of the loop of `Nfs4::readdir`. -/
def entryReader : Cursor DirEntry4 := do
  let cookie ← lifted Buf.decodeU64
  let name ← lifted target.decodeString
  let attrs ← fattrReader target
  return ⟨cookie, name, attrs⟩

/-- The loop of `Nfs4::readdir`. -/
def entriesReader : Cursor (List DirEntry4) :=
  Reader.list (lifted Buf.decodeBool) (entryReader target)

end CompoundReader

section Attributes

variable {most : Nat}

/-- Reading a bit of a bitmap is safe for a 64-bit target. -/
theorem bitSetReader_checked64 (bitmap : List UInt32) (bit : Nat) (small : bit < 2 ^ 32) :
    bitSetReader .checked64 bitmap (UInt32.ofNat bit) = some (bitSet bitmap bit) := by
  have same : (UInt32.ofNat bit).toNat = bit := UInt32.toNat_ofNat_of_lt' small
  have word : (UInt32.ofNat bit / 32).toNat = bit / 32 := by
    rw [UInt32.toNat_div, same]
    rfl
  have rest : UInt32.ofNat bit % 32 = UInt32.ofNat (bit % 32) := by
    apply UInt32.toNat_inj.mp
    rw [UInt32.toNat_mod, same, UInt32.toNat_ofNat_of_lt' (by change _ < 2 ^ 32; omega)]
    rfl
  have shift : (UInt32.ofNat (bit % 32)).toNat < 32 := by
    rw [UInt32.toNat_ofNat_of_lt' (by change _ < 2 ^ 32; omega)]
    omega
  simp only [bitSetReader, bitSet, word, rest]
  by_cases inside : bit / 32 < bitmap.length
  · simp only [inside, ↓reduceIte, List.getElem?_eq_getElem, List.getD_eq_getElem?_getD,
      Option.getD_some, Target.shrU32, shift, true_and]
    rfl
  · simp only [inside, ↓reduceIte, false_and, decide_false]
    rfl

/-- A reader with its errors lifted follows its decoder. -/
theorem follows_lifted {α : Type} {reader : Buf α} {decode : Decoder XdrError UInt8 α}
    (follows : Follows most reader decode) :
    Follows most (lifted reader) fun buf => liftXdr (decode buf) :=
  follows.mapError ProtoError.xdr

theorem Nfstime4.follows : Follows most (Nfstime4.reader .checked64)
    (XdrDecode.decode : Decoder XdrError UInt8 Nfstime4) := by
  have fields : Follows most (Target.checked64.decode Nfstime4.ty) Nfstime4.ty.decode :=
    Nfstime4.ty.follows ⟨trivial, trivial, trivial⟩
  exact fields.bind fun value => .pure (Nfstime4.mk value.1 value.2.1)

/-- A value that sets one field. -/
theorem follows_field {α : Type} [XdrDecode α] {reader : Buf α}
    (follows : Follows most reader XdrDecode.decode) (set : α → Fattr4) :
    Follows most (do return set (← lifted reader))
      (do return set (← attr) : AttrM Fattr4).run :=
  (follows_lifted follows).bind fun value => .pure (set value)

/-- Two values that set one field. -/
theorem follows_pair {α : Type} [XdrDecode α] {reader : Buf α}
    (follows : Follows most reader XdrDecode.decode) (set : α → α → Fattr4) :
    Follows most (do return set (← lifted reader) (← lifted reader))
      (do return set (← attr) (← attr) : AttrM Fattr4).run :=
  (follows_lifted follows).bind fun left =>
    (follows_lifted follows).bind fun right => .pure (set left right)

/-- Reading an attribute follows its decoder. -/
theorem follows_attr (bit : UInt32) (out : Fattr4) :
    Follows most (attrReader .checked64 bit out) (decodeAttr bit out).run :=
  have word := @Xdr.follows_u32 most
  have long := @Xdr.follows_u64 most
  have text := @Xdr.follows_string most
  have time := @Nfstime4.follows most
  .branch (fun _ => follows_field word _) fun _ => .branch (fun _ => follows_field long _) fun _ =>
  .branch (fun _ => follows_field long _) fun _ => .branch (fun _ => follows_pair long _) fun _ =>
  .branch (fun _ => follows_field long _) fun _ => .branch (fun _ => follows_field word _) fun _ =>
  .branch (fun _ => follows_field word _) fun _ => .branch (fun _ => follows_field text _) fun _ =>
  .branch (fun _ => follows_field text _) fun _ => .branch (fun _ => follows_pair word _) fun _ =>
  .branch (fun _ => follows_field long _) fun _ => .branch (fun _ => follows_field long _) fun _ =>
  .branch (fun _ => follows_field long _) fun _ => .branch (fun _ => follows_field long _) fun _ =>
  .branch (fun _ => follows_field long _) fun _ => .branch (fun _ => follows_field long _) fun _ =>
  .branch (fun _ => follows_field long _) fun _ => .branch (fun _ => follows_field time _) fun _ =>
  .branch (fun _ => follows_field time _) fun _ => .branch (fun _ => follows_field time _) fun _ =>
  .throw _

/-- The bits of a bitmap of fewer than `2 ^ 27` words are counted without an overflow. -/
theorem checked64_maxBit {bitmap : List UInt32} (short : bitmap.length < 2 ^ 27) :
    Target.checked64.mulU32 (UInt32.ofNat bitmap.length) 32 = some (maxBit bitmap) := by
  have same : (UInt32.ofNat bitmap.length).toNat = bitmap.length :=
    UInt32.toNat_ofNat_of_lt' (show bitmap.length < 2 ^ 32 by omega)
  have fits : (UInt32.ofNat bitmap.length).toNat * (32 : UInt32).toNat < 2 ^ 32 := by
    rw [same]
    change bitmap.length * 32 < 2 ^ 32
    omega
  exact if_pos fits

/-- Reading attributes follows their decoder, under a short bitmap. -/
theorem follows_fattr4 {bitmap : List UInt32} (short : bitmap.length < 2 ^ 27) :
    Follows most (fattr4Reader .checked64 bitmap)
      ((List.range (maxBit bitmap).toNat).foldlM (fun out bit =>
        if bitSet bitmap bit then decodeAttr (UInt32.ofNat bit) out else return out)
        ({} : Fattr4) : AttrM Fattr4).run := by
  rw [fattr4Reader, checked64_maxBit short]
  apply Follows.foldlM
  intro bit member out
  have small : bit < 2 ^ 32 := Nat.lt_trans (List.mem_range.mp member) (UInt32.toNat_lt _)
  rw [bitSetReader_checked64 bitmap bit small]
  exact .branch (fun _ => follows_attr _ _) fun _ => .pure out

end Attributes

namespace CompoundReader

variable {most : Nat} {α γ : Type}

/-- What a reader of results makes of the bytes that are left. -/
def onBytes (read : ReadM α) : Decoder ProtoError UInt8 α :=
  fun buf => (read.run ⟨buf⟩).map fun parsed => (parsed.1, parsed.2.buf)

theorem onBytes_bind (read : ReadM α) (next : α → ReadM γ) :
    onBytes (read >>= next) = decodeThen (onBytes read) fun value => onBytes (next value) := by
  funext buf
  simp only [onBytes, decodeThen, StateT.run_bind]
  cases read.run ⟨buf⟩ <;> rfl

theorem onBytes_decode [XdrDecode α] :
    onBytes (decode : ReadM α) = fun buf => liftXdr (XdrDecode.decode buf) := by
  funext buf
  change ((liftXdr (XdrDecode.decode buf) >>= _) : Except ProtoError _).map _ = _
  cases (XdrDecode.decode buf : Except XdrError (α × Bytes)) <;> rfl

/-- Opaque data is read by its decoder. -/
theorem onBytes_opaqueData (limit : Nat) :
    onBytes (opaqueData limit) = fun buf => liftXdr (Xdr.decodeOpaque limit buf) := by
  funext buf
  change ((liftXdr (Xdr.decodeOpaque limit buf) >>= _) : Except ProtoError _).map _ = _
  cases Xdr.decodeOpaque limit buf <;> rfl

/-- A sequence follows when its parts do. -/
theorem follows_bind {reader : Cursor α} {read : ReadM α} {following : α → Cursor γ}
    {next : α → ReadM γ} (first : Follows most reader (onBytes read))
    (second : ∀ value, Follows most (following value) (onBytes (next value))) :
    Follows most (reader >>= following) (onBytes (read >>= next)) := by
  rw [onBytes_bind]
  exact first.bind second

theorem follows_decode [XdrDecode α] {reader : Buf α}
    (follows : Follows most reader XdrDecode.decode) :
    Follows most (lifted reader) (onBytes (decode : ReadM α)) := by
  rw [onBytes_decode]
  exact follows_lifted follows

theorem follows_opaqueData (limit : Nat) :
    Follows most (lifted (Target.checked64.decodeOpaque limit)) (onBytes (opaqueData limit)) := by
  rw [onBytes_opaqueData]
  exact follows_lifted (Xdr.follows_bytes limit)

/-- A choice follows when both arms do. -/
theorem follows_branch {test : Prop} [Decidable test] {reader other : Cursor α}
    {read read' : ReadM α} (holds : Follows most reader (onBytes read))
    (fails : Follows most other (onBytes read')) :
    Follows most (if test then reader else other) (onBytes (if test then read else read')) := by
  rw [apply_ite onBytes]
  exact .branch (fun _ => holds) fun _ => fails

theorem follows_throw (error : ProtoError) :
    Follows most (throwThe ProtoError error : Cursor α) (onBytes (throw error)) :=
  .throw error

theorem follows_pure (value : α) :
    Follows most (pure value : Cursor α) (onBytes (pure value)) :=
  .pure value

theorem follows_beginOp (expected : UInt32) :
    Follows most (beginOpReader expected) (onBytes (beginOp expected)) :=
  have word := follows_decode (@Xdr.follows_u32 most)
  follows_bind word fun _ => follows_branch (follows_throw _) <|
    follows_bind word fun _ => follows_branch (follows_throw _) (follows_pure ())

theorem onBytes_lift (value : Except ProtoError α) :
    onBytes (StateT.lift value) = fun buf => value.map fun found => (found, buf) := by
  funext buf
  cases value <;> rfl

/-- What is lifted to a value is that value. -/
theorem lift_ok {result : Except XdrError α} {value : α} (lifted : liftXdr result = .ok value) :
    result = .ok value := by
  cases result with
  | error fault => cases lifted
  | ok found =>
      cases lifted
      rfl

/-- No more words are read than there are bytes. -/
theorem decodeVec_length {item : Decoder XdrError UInt8 α} {buf rest : Bytes} {items : List α}
    (read : Xdr.decodeVec item buf = .ok (items, rest)) : items.length ≤ buf.length := by
  rw [Xdr.decodeVec_eq] at read
  cases first : decodeU32 buf with
  | error fault =>
      rw [decodeThen_error first] at read
      cases read
  | ok parsed =>
      obtain ⟨count, body⟩ := parsed
      have shape := congrArg List.length (Xdr.decodeU32_inv first)
      rw [List.length_append] at shape
      rw [decodeThen_ok first] at read
      by_cases more : count.toNat > body.length
      · rw [if_pos more] at read
        cases read
      · rw [if_neg more] at read
        have counted := decodeMany_length read
        omega

/-- A message of fewer than `2 ^ 27` bytes has bitmaps whose bits are counted. -/
theorem follows_fattr (short : most < 2 ^ 27) :
    Follows most (fattrReader .checked64) (onBytes fattr4) := by
  rw [fattr4, onBytes_bind]
  apply Follows.bind_of (follows_decode (Xdr.follows_vec Xdr.follows_u32))
  intro buf bitmap rest bound read
  rw [onBytes_decode] at read
  have words : bitmap.length < 2 ^ 27 := by
    have counted := decodeVec_length (lift_ok read)
    omega
  rw [onBytes_bind]
  apply Follows.bind_of (follows_opaqueData usizeMax)
  intro middle attrlist left within cut
  rw [onBytes_opaqueData] at cut
  have held : attrlist.length ≤ most := by
    obtain ⟨pad, -, -, -, rfl⟩ := Xdr.decodeOpaque_inv (lift_ok cut)
    simp only [Xdr.opaqueCode, List.length_append] at within
    omega
  apply ((follows_fattr4 words).on held).congr
  funext buffer
  rw [onBytes_lift, decodeFattr4, StateT.run'_eq]
  cases StateT.run _ attrlist <;> rfl

/-- Reading an entry of a directory follows. -/
theorem follows_entry (short : most < 2 ^ 27) :
    Follows most (entryReader .checked64) entry := by
  have fields : Follows most (entryReader .checked64) (onBytes do
      let cookie : UInt64 ← decode
      let name : String ← decode
      let attrs ← fattr4
      return ⟨cookie, name, attrs⟩) :=
    follows_bind (follows_decode Xdr.follows_u64) fun cookie =>
      follows_bind (follows_decode Xdr.follows_string) fun name =>
        follows_bind (follows_fattr short) fun attrs => follows_pure (DirEntry4.mk cookie name attrs)
  apply fields.congr
  funext buf
  rw [onBytes, entry_run]
  cases entry buf <;> rfl

/-- The loop over the entries ends, as each flag takes bytes. -/
theorem follows_entries (short : most < 2 ^ 27) :
    Follows most (entriesReader .checked64) (onBytes entryLoop) := by
  have flags : Follows most (lifted Buf.decodeBool) present := follows_lifted Xdr.follows_bool
  apply flags.list_of (follows_entry short) flag_present.length_lt entryList_loops
  intro buf rest found read
  exact (entryList_loops buf).length_le flag_present.length_lt decodes_entry_length read

/-- Reading the head of a reply follows. -/
theorem follows_parse : Follows most (parseReader .checked64) fun buf =>
    (parse buf).map fun reader => ((), reader.buf) := by
  have word := follows_lifted (@Xdr.follows_u32 most)
  have parts : Follows most (parseReader .checked64) _ :=
    word.bind fun status => (follows_lifted Xdr.follows_string).bind fun _ => word.bind fun _ =>
      .ite (fun _ => .throw (ProtoError.nfs4 status)) fun _ => .pure ()
  apply parts.congr
  funext buf
  simp only [parse, decodeThen]
  cases liftXdr (decodeU32 buf) with
  | error fault => rfl
  | ok status =>
      simp only [bind, Except.bind]
      cases liftXdr (XdrDecode.decode status.2 : Except XdrError (String × Bytes)) with
      | error fault => rfl
      | ok tag =>
          simp only []
          cases liftXdr (decodeU32 tag.2) with
          | error fault => rfl
          | ok count =>
              by_cases good : status.1 ≠ nfs4Ok
              · simp only [good, ↓reduceIte, not_false_eq_true, ne_eq]
                rfl
              · simp only [good, ↓reduceIte]
                rfl

end CompoundReader

/-- A reader of results: operations of `CompoundReader`, which keeps its buffer to itself,
each chosen by what those before it returned. -/
inductive Script (α : Type) where
  | done (value : α)
  | fail (error : ProtoError)
  | beginOp (expected : UInt32) (next : Script α)
  | decode (ty : Ty) (placed : ty.Placed) (next : ty.Val → Script α)
  | opaqueData (limit : Nat) (next : Bytes → Script α)
  | fattr4 (next : Fattr4 → Script α)
  | entries (next : List DirEntry4 → Script α)

namespace Script

variable {most : Nat} {α : Type}

/-- The reader in the model of the client. -/
def plain : Script α → ReadM α
  | done value => return value
  | fail error => throw error
  | beginOp expected next => do
      CompoundReader.beginOp expected
      next.plain
  | decode ty _ next => do
      let value ← @CompoundReader.decode ty.Val ⟨ty.decode⟩
      (next value).plain
  | opaqueData limit next => do
      let data ← CompoundReader.opaqueData limit
      (next data).plain
  | fattr4 next => do
      let attrs ← CompoundReader.fattr4
      (next attrs).plain
  | entries next => do
      let found ← CompoundReader.entryLoop
      (next found).plain

/-- The reader over the cursor. -/
def reader : Script α → Cursor α
  | done value => return value
  | fail error => throwThe ProtoError error
  | beginOp expected next => do
      CompoundReader.beginOpReader expected
      next.reader
  | decode ty _ next => do
      let value ← lifted (target.decode ty)
      (next value).reader
  | opaqueData limit next => do
      let data ← lifted (target.decodeOpaque limit)
      (next data).reader
  | fattr4 next => do
      let attrs ← CompoundReader.fattrReader target
      (next attrs).reader
  | entries next => do
      let found ← CompoundReader.entriesReader target
      (next found).reader

open CompoundReader (onBytes follows_bind) in
theorem follows (short : most < 2 ^ 27) : (script : Script α) →
    Follows most (script.reader .checked64) (onBytes script.plain)
  | done value => CompoundReader.follows_pure value
  | fail error => CompoundReader.follows_throw error
  | beginOp expected next =>
      follows_bind (CompoundReader.follows_beginOp expected) fun _ => next.follows short
  | decode ty placed next =>
      follows_bind (@CompoundReader.follows_decode most ty.Val ⟨ty.decode⟩ _ (ty.follows placed))
        fun value => (next value).follows short
  | opaqueData limit next =>
      follows_bind (CompoundReader.follows_opaqueData limit) fun data => (next data).follows short
  | fattr4 next =>
      follows_bind (CompoundReader.follows_fattr short) fun attrs => (next attrs).follows short
  | entries next =>
      follows_bind (CompoundReader.follows_entries short) fun found => (next found).follows short

/-- The reader of `Nfs4::readdir`. -/
def readdir : Script ReaddirResult :=
  .beginOp opPutfh <| .beginOp opReaddir <| .decode (.fixed 8) (by change 8 < 2 ^ 63; decide)
    fun cookieverf => .entries fun found => .decode .bool trivial fun eof =>
      .done ⟨cookieverf, found, eof⟩

/-- A page of a directory, as a script. -/
theorem readdir_plain : readdir.plain = (do
    CompoundReader.beginOp opPutfh
    CompoundReader.beginOp opReaddir
    CompoundReader.dirlist) := by
  simp only [readdir, plain, CompoundReader.dirlist, CompoundReader.entryLoop, bind_assoc]
  rfl

end Script

/-- Every decoder of the client, on one message: it does not panic, and returns what the
model of it returns. -/
structure Decoded (message : Bytes) : Prop where
  derived : ∀ ty : Ty, ty.Placed →
    (Target.checked64.decode ty).outcome message = some (ty.decode message)
  f32 : Buf.decodeF32.outcome message =
    some ((decodeU32 message).map fun parsed => (Float32.ofBits parsed.1, parsed.2))
  f64 : Buf.decodeF64.outcome message =
    some ((Xdr.decodeU64 message).map fun parsed => (Float.ofBits parsed.1, parsed.2))
  reply : ∃ result, (Rpc.replyReader .checked64).outcome message = some result ∧
    result.map Prod.fst = Rpc.parseReply message
  nfs3Result : ∀ ty : Ty, ty.Placed →
    (Nfs3Result.reader (Target.checked64.decode ty)).outcome message =
      some (Nfs3Result.decode ty.decode message)
  readdir3 : (Nfs3Result.reader (ReaddirOk.reader .checked64)).outcome message =
    some (Nfs3Result.decode ReaddirOk.decode message)
  readdirplus3 : (Nfs3Result.reader (ReaddirplusOk.reader .checked64)).outcome message =
    some (Nfs3Result.decode ReaddirplusOk.decode message)
  mountres3 : (Mount.Mountres3.reader .checked64).outcome message =
    some (Mount.Mountres3.decode message)
  exportList : (Mount.ExportList.reader .checked64).outcome message =
    some (Mount.ExportList.decode message)
  mountList : (Mount.MountList.reader .checked64).outcome message =
    some (Mount.MountList.decode message)
  portmapList : (Portmap.PortmapList.reader .checked64).outcome message =
    some (Portmap.PortmapList.decode message)
  testResult : (Nlm.TestResult.reader .checked64).outcome message =
    some (Nlm.TestResult.decode message)
  getquotaResult : (Rquota.GetquotaResult.reader .checked64).outcome message =
    some (Rquota.GetquotaResult.decode message)
  fattr4 : ∀ bitmap : List UInt32, bitmap.length ≤ Rpc.defaultMaxRecord →
    ((fattr4Reader .checked64 bitmap).outcome message).map (Except.map Prod.fst) =
      some (decodeFattr4 bitmap message)
  header : (CompoundReader.parseReader .checked64).outcome message =
    some ((CompoundReader.parse message).map fun reader => ((), reader.buf))
  results : ∀ {α : Type} (script : Script α), (script.reader .checked64).outcome message =
    some (CompoundReader.onBytes script.plain message)

/-- No message of a record makes a decoder panic: every read is within the buffer, no sum
and no product overflows, and no capacity is more than the bytes left can need. -/
theorem decoding_ends (message : Bytes) (bound : message.length ≤ Rpc.defaultMaxRecord) :
    Decoded message := by
  have short : Rpc.defaultMaxRecord < 2 ^ 27 := by decide
  refine ⟨?_, ?_, ?_, ?_, ?_, ?_, ?_, ?_, ?_, ?_, ?_, ?_, ?_, ?_, ?_, ?_⟩
  · exact fun ty placed => (ty.follows placed message bound).1
  · rw [(Xdr.follows_f32 message bound).1]
    cases read : decodeU32 message <;> simp only [decodeThen, read] <;> rfl
  · rw [(Xdr.follows_f64 message bound).1]
    cases read : Xdr.decodeU64 message <;> simp only [decodeThen, read] <;> rfl
  · exact Rpc.yields_reply (Xdr.follows_bytes Rpc.maxAuthBody) message bound
  · exact fun ty placed => (Nfs3Result.follows (ty.follows placed) message bound).1
  · exact (Nfs3Result.follows ReaddirOk.follows message bound).1
  · exact (Nfs3Result.follows ReaddirplusOk.follows message bound).1
  · exact (Mount.Mountres3.follows message bound).1
  · exact (Mount.ExportList.follows message bound).1
  · exact (Mount.MountList.follows message bound).1
  · exact (Portmap.PortmapList.follows message bound).1
  · exact (Nlm.TestResult.follows message bound).1
  · exact (Rquota.GetquotaResult.follows message bound).1
  · intro bitmap counted
    rw [(follows_fattr4 (Nat.lt_of_le_of_lt counted short) message bound).1, decodeFattr4,
      StateT.run'_eq]
    cases StateT.run _ message <;> rfl
  · exact (CompoundReader.follows_parse message bound).1
  · exact fun script => (script.follows short message bound).1

/-- An `fattr4` as a message: a bitmap of two words, and the type of a directory. -/
def attrsMessage : Bytes :=
  [0, 0, 0, 2, 0, 0, 0, 2, 0, 0, 0, 0, 0, 0, 0, 4, 0, 0, 0, 2]

/-- The bitmap is read, and nothing in it makes a decoder panic. -/
theorem decoding_ends_sample :
    Decoded attrsMessage ∧
      (Target.checked64.decode (.sized (.vec .u32))).outcome attrsMessage =
        some (.ok ([2, 0], [0, 0, 0, 4, 0, 0, 0, 2])) := by
  have ended := decoding_ends attrsMessage (by decide)
  exact ⟨ended, (ended.derived (.sized (.vec .u32)) trivial).trans rfl⟩

end LibNfs.Proto
