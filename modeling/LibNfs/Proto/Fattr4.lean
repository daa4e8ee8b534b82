import LibNfs.Lib.Reading
import LibNfs.Proto.Compound

/-! # NFSv4 attributes

The bitmaps of attribute numbers, the `fattr4` the client decodes and the one it
sends with `SETATTR`. An `fattr4` is a bitmap and the values of its attributes in
ascending order of their numbers; `decode_fattr4` reads back every set of
attributes it knows, whatever the length of the bitmap.
-/

namespace LibNfs.Proto

open Coding Reading
open Xdr (XdrError XdrEncode XdrDecode beU32 beU64 decodeU32 decodeU64)

/-- The type of the object. -/
def fattr4Type : UInt32 := 1

/-- The number that every change makes anew. -/
def fattr4Change : UInt32 := 3

/-- The size of the content. -/
def fattr4Size : UInt32 := 4

/-- The file system that the object is in. -/
def fattr4Fsid : UInt32 := 8

/-- The number of the object in its file system. -/
def fattr4Fileid : UInt32 := 20

/-- The slots for files that the user may take. -/
def fattr4FilesAvail : UInt32 := 21

/-- The free slots for files. -/
def fattr4FilesFree : UInt32 := 22

/-- All the slots for files. -/
def fattr4FilesTotal : UInt32 := 23

/-- The permission bits. -/
def fattr4Mode : UInt32 := 33

/-- The number of names. -/
def fattr4Numlinks : UInt32 := 35

/-- The owner, as a text. -/
def fattr4Owner : UInt32 := 36

/-- The group, as a text. -/
def fattr4OwnerGroup : UInt32 := 37

/-- The numbers of a device. -/
def fattr4Rawdev : UInt32 := 41

/-- The space that the user may take. -/
def fattr4SpaceAvail : UInt32 := 42

/-- The free space. -/
def fattr4SpaceFree : UInt32 := 43

/-- All the space. -/
def fattr4SpaceTotal : UInt32 := 44

/-- The space that the object takes. -/
def fattr4SpaceUsed : UInt32 := 45

/-- The time of the last access. -/
def fattr4TimeAccess : UInt32 := 47

/-- The time of the last change of the attributes. -/
def fattr4TimeMetadata : UInt32 := 52

/-- The time of the last change of the content. -/
def fattr4TimeModify : UInt32 := 53

/-- The attributes that `GETATTR`, `LOOKUP` and `READDIR` ask for. -/
def requestAttrs : List UInt32 :=
  [fattr4Type, fattr4Change, fattr4Size, fattr4Fsid, fattr4Fileid, fattr4Mode, fattr4Numlinks,
    fattr4Owner, fattr4OwnerGroup, fattr4Rawdev, fattr4SpaceUsed, fattr4TimeAccess,
    fattr4TimeMetadata, fattr4TimeModify]

/-- The attributes that `statvfs` asks for. -/
def statvfsAttrs : List UInt32 :=
  [fattr4FilesAvail, fattr4FilesFree, fattr4FilesTotal, fattr4SpaceAvail, fattr4SpaceFree,
    fattr4SpaceTotal]

/-- `nfstime4`. -/
structure Nfstime4 where
  seconds : Int64
  nseconds : UInt32
  deriving DecidableEq

/-- Seconds and nanoseconds. -/
def Nfstime4.ty : Xdr.Ty :=
  .struct (.plain .i64 (.plain .u32 .nil))

instance : XdrDecode Nfstime4 where
  decode buf := do
    let (value, buf) ← Nfstime4.ty.decode buf
    return (⟨value.1, value.2.1⟩, buf)

/-- The attributes decoded from an `fattr4`. -/
structure Fattr4 where
  ftype : Option UInt32 := none
  change : Option UInt64 := none
  size : Option UInt64 := none
  fsid : Option (UInt64 × UInt64) := none
  fileid : Option UInt64 := none
  mode : Option UInt32 := none
  numlinks : Option UInt32 := none
  owner : Option String := none
  ownerGroup : Option String := none
  rawdev : Option (UInt32 × UInt32) := none
  spaceUsed : Option UInt64 := none
  filesAvail : Option UInt64 := none
  filesFree : Option UInt64 := none
  filesTotal : Option UInt64 := none
  spaceAvail : Option UInt64 := none
  spaceFree : Option UInt64 := none
  spaceTotal : Option UInt64 := none
  timeAccess : Option Nfstime4 := none
  timeMetadata : Option Nfstime4 := none
  timeModify : Option Nfstime4 := none
  deriving DecidableEq

/-- The attributes that `SETATTR` sends. -/
structure SetAttr4 where
  mode : Option UInt32 := none
  size : Option UInt64 := none
  deriving DecidableEq, Repr

/-- Whether a bit of a bitmap is set. -/
def bitSet (bitmap : List UInt32) (bit : Nat) : Bool :=
  bit / 32 < bitmap.length ∧ (bitmap.getD (bit / 32) 0 >>> UInt32.ofNat (bit % 32)) &&& 1 = 1

/-- The attribute numbers in a bitmap, in ascending order. -/
def attributesOf (bitmap : List UInt32) : List Nat :=
  (List.range (32 * bitmap.length)).filter (bitSet bitmap)

/-- Reading the values of an attribute list. -/
abbrev AttrM := StateT Bytes (Except ProtoError)

/-- The next value of the list. -/
def attr {α : Type} [XdrDecode α] : AttrM α :=
  fun buf => liftXdr (XdrDecode.decode buf)

/-- The value of one attribute, added to those read before it. -/
def decodeAttr (bit : UInt32) (out : Fattr4) : AttrM Fattr4 :=
  if bit = fattr4Type then return { out with ftype := some (← attr) }
  else if bit = fattr4Change then return { out with change := some (← attr) }
  else if bit = fattr4Size then return { out with size := some (← attr) }
  else if bit = fattr4Fsid then return { out with fsid := some (← attr, ← attr) }
  else if bit = fattr4Fileid then return { out with fileid := some (← attr) }
  else if bit = fattr4Mode then return { out with mode := some (← attr) }
  else if bit = fattr4Numlinks then return { out with numlinks := some (← attr) }
  else if bit = fattr4Owner then return { out with owner := some (← attr) }
  else if bit = fattr4OwnerGroup then return { out with ownerGroup := some (← attr) }
  else if bit = fattr4Rawdev then return { out with rawdev := some (← attr, ← attr) }
  else if bit = fattr4SpaceUsed then return { out with spaceUsed := some (← attr) }
  else if bit = fattr4FilesAvail then return { out with filesAvail := some (← attr) }
  else if bit = fattr4FilesFree then return { out with filesFree := some (← attr) }
  else if bit = fattr4FilesTotal then return { out with filesTotal := some (← attr) }
  else if bit = fattr4SpaceAvail then return { out with spaceAvail := some (← attr) }
  else if bit = fattr4SpaceFree then return { out with spaceFree := some (← attr) }
  else if bit = fattr4SpaceTotal then return { out with spaceTotal := some (← attr) }
  else if bit = fattr4TimeAccess then return { out with timeAccess := some (← attr) }
  else if bit = fattr4TimeMetadata then return { out with timeMetadata := some (← attr) }
  else if bit = fattr4TimeModify then return { out with timeModify := some (← attr) }
  else throw (.protocol "fattr4 con atributo no soportado en la respuesta")

/-- The number of bits of a bitmap, as a `u32`. -/
def maxBit (bitmap : List UInt32) : UInt32 :=
  UInt32.ofNat bitmap.length * 32

/-- Decodes the values of the attributes in a bitmap. -/
def decodeFattr4 (bitmap : List UInt32) (attrs : Bytes) : Except ProtoError Fattr4 :=
  ((List.range (maxBit bitmap).toNat).foldlM (fun out bit =>
    if bitSet bitmap bit then decodeAttr (UInt32.ofNat bit) out else return out)
    ({} : Fattr4) : AttrM Fattr4).run' attrs

/-- Writes the bitmap of some numbers. -/
def encodeBitmap (bits : List UInt32) (buf : Bytes) : Except XdrError Bytes :=
  XdrEncode.encode (buildBitmap bits) buf

/-- The `fattr4` of `SETATTR`: size before mode, in ascending order of their bits. -/
def encodeSetattrFattr4 (attrs : SetAttr4) (buf : Bytes) : Except XdrError Bytes := do
  let (bits, values) ← match attrs.size with
    | some size => do
        let values ← XdrEncode.encode size []
        pure ([fattr4Size], values)
    | none => pure ([], [])
  let (bits, values) ← match attrs.mode with
    | some mode => do
        let values ← XdrEncode.encode mode values
        pure (bits ++ [fattr4Mode], values)
    | none => pure (bits, values)
  let buf ← encodeBitmap bits buf
  let buf ← XdrEncode.encode (UInt32.ofNat values.length) buf
  return buf ++ values ++ List.replicate ((4 - values.length % 4) % 4) 0

/-- The code of a text. -/
def textCode (text : String) : Bytes :=
  Xdr.Ty.code (.sized .string) text

/-- The code of a time. -/
def Nfstime4.code (time : Nfstime4) : Bytes :=
  Nfstime4.ty.code (time.seconds, time.nseconds, ())

namespace Fattr4

/-- The code of the value of an attribute, if the attribute is there. -/
def value (attrs : Fattr4) (bit : UInt32) : Option Bytes :=
  if bit = fattr4Type then attrs.ftype.map beU32
  else if bit = fattr4Change then attrs.change.map beU64
  else if bit = fattr4Size then attrs.size.map beU64
  else if bit = fattr4Fsid then attrs.fsid.map (fun id => beU64 id.1 ++ beU64 id.2)
  else if bit = fattr4Fileid then attrs.fileid.map beU64
  else if bit = fattr4Mode then attrs.mode.map beU32
  else if bit = fattr4Numlinks then attrs.numlinks.map beU32
  else if bit = fattr4Owner then attrs.owner.map textCode
  else if bit = fattr4OwnerGroup then attrs.ownerGroup.map textCode
  else if bit = fattr4Rawdev then attrs.rawdev.map (fun dev => beU32 dev.1 ++ beU32 dev.2)
  else if bit = fattr4SpaceUsed then attrs.spaceUsed.map beU64
  else if bit = fattr4FilesAvail then attrs.filesAvail.map beU64
  else if bit = fattr4FilesFree then attrs.filesFree.map beU64
  else if bit = fattr4FilesTotal then attrs.filesTotal.map beU64
  else if bit = fattr4SpaceAvail then attrs.spaceAvail.map beU64
  else if bit = fattr4SpaceFree then attrs.spaceFree.map beU64
  else if bit = fattr4SpaceTotal then attrs.spaceTotal.map beU64
  else if bit = fattr4TimeAccess then attrs.timeAccess.map Nfstime4.code
  else if bit = fattr4TimeMetadata then attrs.timeMetadata.map Nfstime4.code
  else if bit = fattr4TimeModify then attrs.timeModify.map Nfstime4.code
  else none

/-- The texts among the attributes fit their length prefix. -/
def Fits (attrs : Fattr4) : Prop :=
  (∀ text, attrs.owner = some text → (Xdr.asBytes text).length < 2 ^ 32) ∧
    ∀ text, attrs.ownerGroup = some text → (Xdr.asBytes text).length < 2 ^ 32

/-- Changes each attribute by its number. -/
def mapFields (f : (α : Type) → UInt32 → Option α → Option α) (attrs : Fattr4) : Fattr4 where
  ftype := f _ fattr4Type attrs.ftype
  change := f _ fattr4Change attrs.change
  size := f _ fattr4Size attrs.size
  fsid := f _ fattr4Fsid attrs.fsid
  fileid := f _ fattr4Fileid attrs.fileid
  mode := f _ fattr4Mode attrs.mode
  numlinks := f _ fattr4Numlinks attrs.numlinks
  owner := f _ fattr4Owner attrs.owner
  ownerGroup := f _ fattr4OwnerGroup attrs.ownerGroup
  rawdev := f _ fattr4Rawdev attrs.rawdev
  spaceUsed := f _ fattr4SpaceUsed attrs.spaceUsed
  filesAvail := f _ fattr4FilesAvail attrs.filesAvail
  filesFree := f _ fattr4FilesFree attrs.filesFree
  filesTotal := f _ fattr4FilesTotal attrs.filesTotal
  spaceAvail := f _ fattr4SpaceAvail attrs.spaceAvail
  spaceFree := f _ fattr4SpaceFree attrs.spaceFree
  spaceTotal := f _ fattr4SpaceTotal attrs.spaceTotal
  timeAccess := f _ fattr4TimeAccess attrs.timeAccess
  timeMetadata := f _ fattr4TimeMetadata attrs.timeMetadata
  timeModify := f _ fattr4TimeModify attrs.timeModify

/-- Two changes agree when they agree on every attribute. -/
theorem mapFields_congr {f g : (α : Type) → UInt32 → Option α → Option α} {attrs : Fattr4}
    (same : ∀ {α : Type} (bit : UInt32) (field : Option α) (code : α → Bytes),
      attrs.value bit = field.map code → f α bit field = g α bit field) :
    attrs.mapFields f = attrs.mapFields g := by
  simp only [mapFields, same fattr4Type attrs.ftype beU32 rfl,
    same fattr4Change attrs.change beU64 rfl, same fattr4Size attrs.size beU64 rfl,
    same fattr4Fsid attrs.fsid (fun id => beU64 id.1 ++ beU64 id.2) rfl,
    same fattr4Fileid attrs.fileid beU64 rfl, same fattr4Mode attrs.mode beU32 rfl,
    same fattr4Numlinks attrs.numlinks beU32 rfl, same fattr4Owner attrs.owner textCode rfl,
    same fattr4OwnerGroup attrs.ownerGroup textCode rfl,
    same fattr4Rawdev attrs.rawdev (fun dev => beU32 dev.1 ++ beU32 dev.2) rfl,
    same fattr4SpaceUsed attrs.spaceUsed beU64 rfl,
    same fattr4FilesAvail attrs.filesAvail beU64 rfl,
    same fattr4FilesFree attrs.filesFree beU64 rfl,
    same fattr4FilesTotal attrs.filesTotal beU64 rfl,
    same fattr4SpaceAvail attrs.spaceAvail beU64 rfl,
    same fattr4SpaceFree attrs.spaceFree beU64 rfl,
    same fattr4SpaceTotal attrs.spaceTotal beU64 rfl,
    same fattr4TimeAccess attrs.timeAccess Nfstime4.code rfl,
    same fattr4TimeMetadata attrs.timeMetadata Nfstime4.code rfl,
    same fattr4TimeModify attrs.timeModify Nfstime4.code rfl]

theorem reads_text {text : String} (fits : (Xdr.asBytes text).length < 2 ^ 32) :
    Reads XdrDecode.decode text (textCode text) :=
  Xdr.Ty.reads (.sized .string) text trivial trivial fits trivial

theorem reads_time (time : Nfstime4) :
    Reads XdrDecode.decode time time.code := by
  intro rest
  have read := Nfstime4.ty.reads (time.seconds, time.nseconds, ()) ⟨trivial, trivial, trivial⟩
    ⟨trivial, trivial, trivial⟩ ⟨trivial, trivial, trivial⟩ ⟨trivial, trivial, trivial⟩ rest
  simp only [XdrDecode.decode, Nfstime4.code, read, bind, Except.bind, pure, Except.pure]

/-- An attribute takes a value as its decoder reads it. -/
theorem takes_attr {α : Type} [XdrDecode α] {v : α} {code : Bytes}
    (reads : Reads XdrDecode.decode v code) : Takes id (attr : AttrM α) v code := by
  intro rest
  change liftXdr (XdrDecode.decode (code ++ rest)) = _
  rw [reads rest]
  rfl

/-- An attribute that is there is read into its field. -/
theorem takes_field {α : Type} [XdrDecode α] {read : AttrM Fattr4} {set : α → Fattr4}
    {field : Option α} {enc : α → Bytes} {code : Bytes} {final : Fattr4}
    (given : field.map enc = some code)
    (reads : ∀ v, field = some v → Reads XdrDecode.decode v (enc v))
    (body : read = attr >>= fun v => pure (set v))
    (same : ∀ v, field = some v → set v = final) : Takes id read final code := by
  obtain ⟨v, present, rfl⟩ := Option.map_eq_some_iff.mp given
  have takes : Takes id (attr >>= fun v => pure (set v)) (set v) (enc v ++ []) :=
    (takes_attr (reads v present)).bind (.pure _)
  rwa [List.append_nil, ← body, same v present] at takes

/-- An attribute of two numbers is read into its field. -/
theorem takes_pair {α : Type} [XdrDecode α] {read : AttrM Fattr4} {set : α → α → Fattr4}
    {field : Option (α × α)} {enc : α → Bytes} {code : Bytes} {final : Fattr4}
    (given : field.map (fun v => enc v.1 ++ enc v.2) = some code)
    (reads : ∀ v, Reads XdrDecode.decode v (enc v))
    (body : read = attr >>= fun first => attr >>= fun second => pure (set first second))
    (same : ∀ first second, field = some (first, second) → set first second = final) :
    Takes id read final code := by
  obtain ⟨⟨first, second⟩, present, rfl⟩ := Option.map_eq_some_iff.mp given
  have takes : Takes id (attr >>= fun first => attr >>= fun second => pure (set first second))
      (set first second) (enc first ++ (enc second ++ [])) :=
    (takes_attr (reads first)).bind ((takes_attr (reads second)).bind (.pure _))
  rwa [List.append_nil, ← body, same first second present] at takes

/-- The attributes with a number below a bound. -/
def below (bound : Nat) (α : Type) (bit : UInt32) (field : Option α) : Option α :=
  if bit.toNat < bound then field else none

/-- The attributes whose numbers are below a bound. -/
def upto (attrs : Fattr4) (bound : Nat) : Fattr4 :=
  attrs.mapFields (below bound)

/-- Each attribute is read after those with a smaller number. -/
theorem takes_decodeAttr {attrs : Fattr4} (fits : attrs.Fits) {bit : UInt32} {code : Bytes}
    (given : attrs.value bit = some code) :
    Takes id (decodeAttr bit (attrs.upto bit.toNat)) (attrs.upto (bit.toNat + 1)) code := by
  by_cases h0 : bit = fattr4Type
  · subst h0
    exact takes_field given (fun v _ => Xdr.reads_u32 v) rfl fun v h => by rw [← h]; rfl
  by_cases h1 : bit = fattr4Change
  · subst h1
    exact takes_field given (fun v _ => Xdr.reads_u64 v) rfl fun v h => by rw [← h]; rfl
  by_cases h2 : bit = fattr4Size
  · subst h2
    exact takes_field given (fun v _ => Xdr.reads_u64 v) rfl fun v h => by rw [← h]; rfl
  by_cases h3 : bit = fattr4Fsid
  · subst h3
    exact takes_pair given Xdr.reads_u64 rfl fun first second h => by rw [← h]; rfl
  by_cases h4 : bit = fattr4Fileid
  · subst h4
    exact takes_field given (fun v _ => Xdr.reads_u64 v) rfl fun v h => by rw [← h]; rfl
  by_cases h5 : bit = fattr4Mode
  · subst h5
    exact takes_field given (fun v _ => Xdr.reads_u32 v) rfl fun v h => by rw [← h]; rfl
  by_cases h6 : bit = fattr4Numlinks
  · subst h6
    exact takes_field given (fun v _ => Xdr.reads_u32 v) rfl fun v h => by rw [← h]; rfl
  by_cases h7 : bit = fattr4Owner
  · subst h7
    exact takes_field given (fun v h => reads_text (fits.1 v h)) rfl
      fun v h => by rw [← h]; rfl
  by_cases h8 : bit = fattr4OwnerGroup
  · subst h8
    exact takes_field given (fun v h => reads_text (fits.2 v h)) rfl
      fun v h => by rw [← h]; rfl
  by_cases h9 : bit = fattr4Rawdev
  · subst h9
    exact takes_pair given Xdr.reads_u32 rfl fun first second h => by rw [← h]; rfl
  by_cases h10 : bit = fattr4SpaceUsed
  · subst h10
    exact takes_field given (fun v _ => Xdr.reads_u64 v) rfl fun v h => by rw [← h]; rfl
  by_cases h11 : bit = fattr4FilesAvail
  · subst h11
    exact takes_field given (fun v _ => Xdr.reads_u64 v) rfl fun v h => by rw [← h]; rfl
  by_cases h12 : bit = fattr4FilesFree
  · subst h12
    exact takes_field given (fun v _ => Xdr.reads_u64 v) rfl fun v h => by rw [← h]; rfl
  by_cases h13 : bit = fattr4FilesTotal
  · subst h13
    exact takes_field given (fun v _ => Xdr.reads_u64 v) rfl fun v h => by rw [← h]; rfl
  by_cases h14 : bit = fattr4SpaceAvail
  · subst h14
    exact takes_field given (fun v _ => Xdr.reads_u64 v) rfl fun v h => by rw [← h]; rfl
  by_cases h15 : bit = fattr4SpaceFree
  · subst h15
    exact takes_field given (fun v _ => Xdr.reads_u64 v) rfl fun v h => by rw [← h]; rfl
  by_cases h16 : bit = fattr4SpaceTotal
  · subst h16
    exact takes_field given (fun v _ => Xdr.reads_u64 v) rfl fun v h => by rw [← h]; rfl
  by_cases h17 : bit = fattr4TimeAccess
  · subst h17
    exact takes_field given (fun v _ => reads_time v) rfl fun v h => by rw [← h]; rfl
  by_cases h18 : bit = fattr4TimeMetadata
  · subst h18
    exact takes_field given (fun v _ => reads_time v) rfl fun v h => by rw [← h]; rfl
  by_cases h19 : bit = fattr4TimeModify
  · subst h19
    exact takes_field given (fun v _ => reads_time v) rfl fun v h => by rw [← h]; rfl
  simp [value, h0, h1, h2, h3, h4, h5, h6, h7, h8, h9, h10, h11, h12, h13, h14, h15, h16, h17, h18,
    h19] at given

/-- An attribute that is not there adds nothing. -/
theorem upto_of_absent {attrs : Fattr4} {bit : UInt32} (absent : attrs.value bit = none) :
    attrs.upto (bit.toNat + 1) = attrs.upto bit.toNat := by
  refine mapFields_congr fun other field code same => ?_
  unfold below
  by_cases here : other = bit
  · rw [here] at same
    have empty : field = none := Option.map_eq_none_iff.mp (same.symm.trans absent)
    rw [empty, ite_self, ite_self]
  · have apart : other.toNat ≠ bit.toNat := fun equal => here (UInt32.toNat_inj.mp equal)
    by_cases under : other.toNat < bit.toNat
    · rw [if_pos (Nat.lt_succ_of_lt under), if_pos under]
    · rw [if_neg (by omega), if_neg under]

/-- The bits of a bitmap are the attributes that are there. -/
def Describes (words : List UInt32) (attrs : Fattr4) : Prop :=
  ∀ bit : UInt32, bitSet words bit.toNat = (attrs.value bit).isSome

/-- The values of the attributes in a bitmap, in ascending order. -/
def values (words : List UInt32) (attrs : Fattr4) : Bytes :=
  ((attributesOf words).map fun bit => (attrs.value (UInt32.ofNat bit)).getD []).flatten

/-- The attributes beyond the bitmap are not there. -/
theorem upto_all {words : List UInt32} {attrs : Fattr4} (describes : Describes words attrs) :
    attrs.upto (32 * words.length) = attrs := by
  have whole : attrs.mapFields (fun _ _ field => field) = attrs := rfl
  refine Eq.trans (mapFields_congr fun bit field code same => ?_) whole
  unfold below
  by_cases inside : bit.toNat < 32 * words.length
  · rw [if_pos inside]
  · have unset : bitSet words bit.toNat = false := by
      have outside : ¬ bit.toNat / 32 < words.length := by omega
      simp [bitSet, outside]
    rw [describes bit, same, Option.isSome_map] at unset
    rw [if_neg inside, Option.isSome_eq_false_iff.mp unset |> Option.isNone_iff_eq_none.mp]

/-- The loop over the bits reads the attributes one by one. -/
theorem takes_bits {words : List UInt32} {attrs : Fattr4} (fits : attrs.Fits) (start count : Nat)
    (small : start + count < 2 ^ 32)
    (describes : ∀ bit < start + count,
      bitSet words bit = (attrs.value (UInt32.ofNat bit)).isSome) :
    Takes id ((List.range' start count).foldlM (fun out bit =>
        if bitSet words bit then decodeAttr (UInt32.ofNat bit) out else return out)
      (attrs.upto start) : AttrM Fattr4) (attrs.upto (start + count))
      (((List.range' start count).filter (bitSet words)).map fun bit =>
        (attrs.value (UInt32.ofNat bit)).getD []).flatten := by
  induction count generalizing start with
  | zero => exact .pure _
  | succ count ih =>
      have word : (UInt32.ofNat start).toNat = start :=
        UInt32.toNat_ofNat_of_lt' (show start < UInt32.size by simp only [UInt32.size]; omega)
      have rest := ih (start + 1) (by omega) fun bit bound => describes bit (by omega)
      rw [show start + 1 + count = start + (count + 1) by omega] at rest
      have set := describes start (by omega)
      rw [List.range'_succ, List.foldlM_cons]
      cases present : attrs.value (UInt32.ofNat start) with
      | none =>
          rw [present] at set
          have same := upto_of_absent present
          rw [word] at same
          rw [List.filter_cons_of_neg (by simpa using set), set]
          rw [same] at rest
          exact Takes.bind (.pure _) rest
      | some code =>
          rw [present] at set
          have read := takes_decodeAttr fits present
          rw [word] at read
          rw [List.filter_cons_of_pos set, List.map_cons, List.flatten_cons, present, set]
          exact read.bind rest

/-- `decode_fattr4` reads back the attributes of a bitmap of fewer than 2^27
words, whose bits can be counted in a `u32`. -/
theorem decodeFattr4_values {words : List UInt32} {attrs : Fattr4} (fits : attrs.Fits)
    (describes : Describes words attrs) (short : words.length < 2 ^ 27) :
    decodeFattr4 words (attrs.values words) = .ok attrs := by
  have bits : (maxBit words).toNat = 32 * words.length := by
    rw [maxBit, UInt32.toNat_mul, UInt32.toNat_ofNat_of_lt' (show words.length < UInt32.size by
      simp only [UInt32.size]; omega)]
    change words.length * 32 % 2 ^ 32 = _
    omega
  have read := takes_bits fits 0 (32 * words.length) (by omega) fun bit bound => by
    rw [← describes, UInt32.toNat_ofNat_of_lt' (show bit < UInt32.size by
      simp only [UInt32.size]; omega)]
  rw [Nat.zero_add, upto_all describes] at read
  rw [decodeFattr4, bits, values, attributesOf, List.range_eq_range']
  exact read.run'

end Fattr4

end LibNfs.Proto
