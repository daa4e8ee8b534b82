import LibNfs.Proto.Grammar

/-! # What a server reads of a request

Each step of the builder appends one operation, which the grammar reads back with
its arguments; a request built from several steps is read as their operations,
as many as it counts.
-/

namespace LibNfs.Proto

open Coding Reading
open Xdr (XdrError XdrEncode XdrDecode beU32 beU64)

/-- Data with a length prefix is read back. -/
theorem reads_data {data : Bytes} (sized : Sized data) :
    Reads XdrDecode.decode data (dataCode data) :=
  Xdr.Ty.reads (.sized .bytes) data trivial trivial sized trivial

theorem reads_fixed {size : Nat} (data : Vector UInt8 size) :
    Reads XdrDecode.decode data (fixedCode data) :=
  Xdr.reads_fixed List.length_replicate

/-- The grammar takes a value as its decoder reads it. -/
theorem takes_item {α : Type} [XdrDecode α] {value : α} {code : Bytes}
    (reads : Reads XdrDecode.decode value code) : Takes id (item : GrammarM α) value code :=
  fun rest => reads rest

theorem takes_u32 (value : UInt32) : Takes id (item : GrammarM UInt32) value (beU32 value) :=
  takes_item (Xdr.reads_u32 value)

theorem takes_u64 (value : UInt64) : Takes id (item : GrammarM UInt64) value (beU64 value) :=
  takes_item (Xdr.reads_u64 value)

theorem takes_stateid (stateid : Stateid4) :
    Takes id (item : GrammarM Stateid4) stateid stateid.code :=
  takes_item stateid.reads

theorem takes_text {text : String} (sized : Sized (Xdr.asBytes text)) :
    Takes id (item : GrammarM String) text (textCode text) :=
  takes_item (Fattr4.reads_text sized)

namespace Compound

/-- A text with a length prefix is put at the end of a request. -/
@[simp] theorem put_text {text : String} (sized : Sized (Xdr.asBytes text)) (c : Compound) :
    c.put text = .ok { c with ops := c.ops ++ textCode text } :=
  put_of_writes (Xdr.Ty.writes (.sized .string) text sized trivial) c

/-- Data with a length prefix is put at the end of a request. -/
@[simp] theorem put_data {data : Bytes} (sized : Sized data) (c : Compound) :
    c.put data = .ok { c with ops := c.ops ++ dataCode data } :=
  put_of_writes (Xdr.Ty.writes (.sized .bytes) data sized trivial) c

/-- Data of a fixed size is put at the end of a request. -/
@[simp] theorem put_fixed {size : Nat} (data : Vector UInt8 size) (c : Compound) :
    c.put data = .ok { c with ops := c.ops ++ fixedCode data } :=
  put_of_writes (Xdr.writes_fixed data) c

/-- The step appends an operation that the grammar reads as `op`. -/
def Adds (step : Compound → Except XdrError Compound) (op : ArgOp) : Prop :=
  ∃ code, Takes id readOp op code ∧ ∀ c : Compound, step c = .ok ⟨c.ops ++ code, c.nops + 1⟩

section Steps

variable {step : Compound → Except XdrError Compound} {op : ArgOp}

/-- A step writes the number of an operation and its arguments. -/
theorem Adds.of_args (opnum : UInt32) {code : Bytes} (takes : Takes id (ArgOp.args opnum) op code)
    (puts : ∀ c : Compound, step c = .ok ⟨c.ops ++ (beU32 opnum ++ code), c.nops + 1⟩) :
    Adds step op :=
  ⟨beU32 opnum ++ code, (takes_u32 opnum).bind takes, puts⟩

/-- An operation without arguments. -/
theorem adds_op (opnum : UInt32) (bare : ArgOp.args opnum = pure op) :
    Adds (Compound.op opnum) op := by
  have takes : Takes id (ArgOp.args opnum) op [] := by
    rw [bare]
    exact .pure op
  exact .of_args opnum takes fun c => by simp

variable {fh : NfsFh4} {name : String}

/-- A handle of at most 128 bytes is sent. -/
theorem adds_putfh (short : fh.Short) : Adds (putfh fh) (.putfh fh) := by
  refine .of_args opPutfh ((takes_item (NfsFh4.reads short)).bind (.pure _)) fun c => ?_
  simp [putfh, put_of_writes (NfsFh4.writes short), bind, Except.bind]

theorem adds_putrootfh : Adds putrootfh .putrootfh :=
  adds_op opPutrootfh rfl

theorem adds_getfh : Adds getfh .getfh :=
  adds_op opGetfh rfl

theorem adds_savefh : Adds savefh .savefh :=
  adds_op opSavefh rfl

theorem adds_readlink : Adds readlink .readlink :=
  adds_op opReadlink rfl

/-- `ACCESS` is read back with its mask. -/
theorem adds_access (mask : UInt32) : Adds (access mask) (.access mask) := by
  refine .of_args opAccess ((takes_u32 mask).bind (.pure _)) fun c => ?_
  simp [access, bind, Except.bind]

/-- `RENEW` is read back with its client id. -/
theorem adds_renew (clientid : UInt64) : Adds (renew clientid) (.renew clientid) := by
  refine .of_args opRenew ((takes_u64 clientid).bind (.pure _)) fun c => ?_
  simp [renew, bind, Except.bind]

/-- `COMMIT` is read back with its range. -/
theorem adds_commit (offset : UInt64) (count : UInt32) :
    Adds (commit offset count) (.commit offset count) := by
  refine .of_args opCommit ((takes_u64 offset).bind ((takes_u32 count).bind (.pure _)))
    fun c => ?_
  simp [commit, bind, Except.bind]

theorem adds_read (stateid : Stateid4) (offset : UInt64) (count : UInt32) :
    Adds (read stateid offset count) (.read stateid offset count) := by
  refine .of_args opRead ((takes_stateid stateid).bind ((takes_u64 offset).bind
    ((takes_u32 count).bind (.pure _)))) fun c => ?_
  simp [read, bind, Except.bind]

/-- `WRITE` is read back with its data. -/
theorem adds_write (stateid : Stateid4) (offset : UInt64) (stable : UInt32) {data : Bytes}
    (sized : Sized data) :
    Adds (write stateid offset stable data) (.write stateid offset stable data) := by
  refine .of_args opWrite ((takes_stateid stateid).bind ((takes_u64 offset).bind
    ((takes_u32 stable).bind ((takes_item (reads_data sized)).bind (.pure _))))) fun c => ?_
  simp [write, sized, bind, Except.bind]

/-- An operation on a name. -/
theorem adds_name (opnum : UInt32) (make : String → ArgOp) (sized : Sized (Xdr.asBytes name))
    (args : ArgOp.args opnum = item >>= fun name => pure (make name)) :
    Adds (fun c => do let c ← c.op opnum; c.put name) (make name) := by
  have takes : Takes id (ArgOp.args opnum) (make name) (textCode name ++ []) := by
    rw [args]
    exact (takes_text sized).bind (.pure _)
  exact .of_args opnum takes fun c => by simp [sized, bind, Except.bind]

/-- `LOOKUP` is read back with its name. -/
theorem adds_lookup (sized : Sized (Xdr.asBytes name)) : Adds (lookup name) (.lookup name) :=
  adds_name opLookup .lookup sized rfl

/-- `REMOVE` is read back with its name. -/
theorem adds_remove (sized : Sized (Xdr.asBytes name)) : Adds (remove name) (.remove name) :=
  adds_name opRemove .remove sized rfl

theorem adds_link (sized : Sized (Xdr.asBytes name)) : Adds (link name) (.link name) :=
  adds_name opLink .link sized rfl

/-- `RENAME` is read back with both names. -/
theorem adds_rename {new : String} (sized : Sized (Xdr.asBytes name))
    (sizedNew : Sized (Xdr.asBytes new)) : Adds (rename name new) (.rename name new) := by
  refine .of_args opRename ((takes_text sized).bind ((takes_text sizedNew).bind (.pure _)))
    fun c => ?_
  simp [rename, sized, sizedNew, bind, Except.bind]

/-- `OPEN_CONFIRM` is read back with its seqid. -/
theorem adds_openConfirm (stateid : Stateid4) (seqid : UInt32) :
    Adds (openConfirm stateid seqid) (.openConfirm stateid seqid) := by
  refine .of_args opOpenConfirm ((takes_stateid stateid).bind ((takes_u32 seqid).bind (.pure _)))
    fun c => ?_
  simp [openConfirm, bind, Except.bind]

/-- `CLOSE` is read back with its seqid. -/
theorem adds_close (seqid : UInt32) (stateid : Stateid4) :
    Adds (close seqid stateid) (.close seqid stateid) := by
  refine .of_args opClose ((takes_u32 seqid).bind ((takes_stateid stateid).bind (.pure _)))
    fun c => ?_
  simp [close, bind, Except.bind]

/-- `LOCKU` is read back with its range. -/
theorem adds_locku (locktype seqid : UInt32) (stateid : Stateid4) (offset length : UInt64) :
    Adds (locku locktype seqid stateid offset length)
      (.locku locktype seqid stateid offset length) := by
  refine .of_args opLocku ((takes_u32 locktype).bind ((takes_u32 seqid).bind
    ((takes_stateid stateid).bind ((takes_u64 offset).bind ((takes_u64 length).bind (.pure _))))))
    fun c => ?_
  simp [locku, bind, Except.bind]

/-- `LOCKT` is read back with its owner. -/
theorem adds_lockt (locktype : UInt32) (offset length clientid : UInt64) {owner : Bytes}
    (sized : Sized owner) :
    Adds (lockt locktype offset length clientid owner)
      (.lockt locktype offset length clientid owner) := by
  refine .of_args opLockt ((takes_u32 locktype).bind ((takes_u64 offset).bind
    ((takes_u64 length).bind ((takes_u64 clientid).bind ((takes_item (reads_data sized)).bind
      (.pure _)))))) fun c => ?_
  simp [lockt, sized, bind, Except.bind]

/-- The grammar takes a new lock-owner. -/
theorem takes_fresh (openSeqid : UInt32) (openStateid : Stateid4) (lockSeqid : UInt32)
    (clientid : UInt64) {owner : Bytes} (sized : Sized owner) :
    Takes id Locker.read (.fresh openSeqid openStateid lockSeqid clientid owner)
      (beU32 (Xdr.boolWord true) ++ (beU32 openSeqid ++ (openStateid.code ++ (beU32 lockSeqid ++
        (beU64 clientid ++ (dataCode owner ++ [])))))) :=
  (takes_item (Xdr.reads_bool true)).bind ((takes_u32 openSeqid).bind
    ((takes_stateid openStateid).bind ((takes_u32 lockSeqid).bind ((takes_u64 clientid).bind
      ((takes_item (reads_data sized)).bind (.pure _))))))

/-- `LOCK` for a new lock-owner is read back. -/
theorem adds_lockNew (locktype : UInt32) (offset length : UInt64) (openSeqid : UInt32)
    (openStateid : Stateid4) (lockSeqid : UInt32) (clientid : UInt64) {owner : Bytes}
    (sized : Sized owner) :
    Adds (lockNew locktype offset length openSeqid openStateid lockSeqid clientid owner)
      (.lock locktype false offset length
        (.fresh openSeqid openStateid lockSeqid clientid owner)) := by
  refine .of_args opLock ((takes_u32 locktype).bind ((takes_item (Xdr.reads_bool false)).bind
    ((takes_u64 offset).bind ((takes_u64 length).bind
      ((takes_fresh openSeqid openStateid lockSeqid clientid sized).bind (.pure _)))))) fun c => ?_
  simp [lockNew, sized, bind, Except.bind]

/-- The bitmaps of the client stand for the attributes they were built from. -/
theorem attributesOf_buildBitmap :
    attributesOf (buildBitmap requestAttrs) = requestAttrs.map UInt32.toNat ∧
      attributesOf (buildBitmap statvfsAttrs) = statvfsAttrs.map UInt32.toNat := by
  decide +kernel

theorem encodeBitmap_eq (bits : List UInt32) (short : (buildBitmap bits).length < 2 ^ 32)
    (buf : Bytes) : encodeBitmap bits buf = .ok (buf ++ bitmapCode (buildBitmap bits)) :=
  Xdr.Ty.writes (.sized (.vec .u32)) _ ⟨short, fun _ _ => trivial⟩ ⟨trivial, fun _ _ => trivial⟩ buf

/-- A bitmap is put at the end of a request. -/
theorem append_bitmap (bits : List UInt32) (short : (buildBitmap bits).length < 2 ^ 32)
    (c : Compound) :
    c.append (encodeBitmap bits) =
      .ok { c with ops := c.ops ++ bitmapCode (buildBitmap bits) } := by
  rw [append, encodeBitmap_eq bits short]
  rfl

/-- The grammar takes a bitmap as the numbers of its bits. -/
theorem takes_bitmap {words : List UInt32} {attrs : List Nat} (short : words.length < 2 ^ 32)
    (same : attributesOf words = attrs) :
    Takes id readBitmap attrs (bitmapCode words ++ []) := by
  rw [← same]
  exact (takes_item (bitmap_reads short)).bind (.pure _)

/-- `GETATTR` is read back as the numbers that were asked for. -/
theorem adds_getattr {bits : List UInt32} {attrs : List Nat}
    (short : (buildBitmap bits).length < 2 ^ 32)
    (same : attributesOf (buildBitmap bits) = attrs) : Adds (getattr bits) (.getattr attrs) := by
  refine .of_args opGetattr ((takes_bitmap short same).bind (.pure _)) fun c => ?_
  simp [getattr, append_bitmap _ short, bind, Except.bind]

/-- `READDIR` is read back; the client asks for a fixed set of attributes. -/
theorem adds_readdir (cookie : UInt64) (cookieverf : Vector UInt8 8)
    (dircount maxcount : UInt32) :
    Adds (readdir cookie cookieverf dircount maxcount requestAttrs)
      (.readdir cookie cookieverf dircount maxcount (requestAttrs.map UInt32.toNat)) := by
  have short : (buildBitmap requestAttrs).length < 2 ^ 32 := by decide
  refine .of_args opReaddir ((takes_u64 cookie).bind ((takes_item (reads_fixed cookieverf)).bind
    ((takes_u32 dircount).bind ((takes_u32 maxcount).bind
      ((takes_bitmap short attributesOf_buildBitmap.1).bind (.pure _)))))) fun c => ?_
  simp [readdir, append_bitmap _ short, bind, Except.bind]

/-- The grammar takes the values behind a bitmap, one after another. -/
theorem takes_attributes (words : List UInt32) (values : Bytes) {attrs : List Attribute}
    (short : words.length < 2 ^ 32) (sized : Sized values)
    (read : ((attributesOf words).mapM Attribute.read).run values = .ok (attrs, [])) :
    Takes id readAttributes attrs (bitmapCode words ++ (dataCode values ++ [])) := by
  refine (takes_item (bitmap_reads short)).bind ((takes_item (reads_data sized)).bind ?_)
  intro rest
  rw [read]
  rfl

/-- A file or directory that the client creates gets no attributes. -/
theorem takes_no_attributes :
    Takes id readAttributes [] (bitmapCode (buildBitmap []) ++ (beU32 0 ++ [])) := by
  have none : attributesOf (buildBitmap []) = [] := by decide +kernel
  have empty : dataCode [] = beU32 0 := by decide
  have takes : Takes id readAttributes [] _ :=
    takes_attributes (buildBitmap []) [] (by decide) (by decide) (by rw [none]; rfl)
  rwa [empty] at takes

/-- The numbers of the attributes a `SETATTR` sends. -/
def setattrBits (attrs : SetAttr4) : List UInt32 :=
  (attrs.size.map fun _ => fattr4Size).toList ++ (attrs.mode.map fun _ => fattr4Mode).toList

/-- Each attribute it sends, with its code. -/
def setattrValues (attrs : SetAttr4) : List (Attribute × Bytes) :=
  (attrs.size.map fun size => (Attribute.size size, beU64 size ++ [])).toList ++
    (attrs.mode.map fun mode => (Attribute.mode mode, beU32 mode ++ [])).toList

/-- The attributes that are set are put at the end of a request. -/
theorem append_setattr (attrs : SetAttr4) (c : Compound) :
    c.append (encodeSetattrFattr4 attrs) = .ok { c with
      ops := c.ops ++ (bitmapCode (buildBitmap (setattrBits attrs)) ++
        dataCode ((setattrValues attrs).map Prod.snd).flatten) } := by
  obtain ⟨mode, size⟩ := attrs
  cases size <;> cases mode <;>
    simp (disch := decide) [append, encodeSetattrFattr4, setattrBits, setattrValues,
      encodeBitmap_eq, XdrEncode.encode, dataCode, Xdr.Ty.code, Xdr.SizedTy.code, Xdr.opaqueCode,
      Xdr.padding, bind, Except.bind, pure, Except.pure]

/-- The bitmap of the attributes that are set has their numbers. -/
theorem attributesOf_setattr (attrs : SetAttr4) :
    attributesOf (buildBitmap (setattrBits attrs)) = (setattrBits attrs).map UInt32.toNat ∧
      (buildBitmap (setattrBits attrs)).length < 2 ^ 32 := by
  obtain ⟨mode, size⟩ := attrs
  cases size <;> cases mode <;>
    simp only [setattrBits, Option.map_none, Option.map_some, Option.toList_none,
      Option.toList_some, List.nil_append, List.append_nil] <;>
    decide +kernel

/-- The grammar takes the attributes that are set. -/
theorem takes_setattr (attrs : SetAttr4) :
    Takes id readAttributes ((setattrValues attrs).map Prod.fst)
      (bitmapCode (buildBitmap (setattrBits attrs)) ++
        (dataCode ((setattrValues attrs).map Prod.snd).flatten ++ [])) := by
  have bits := attributesOf_setattr attrs
  have size (size : UInt64) : Takes id (Attribute.read 4) (.size size) (beU64 size ++ []) :=
    (takes_u64 size).bind (.pure _)
  have mode (mode : UInt32) : Takes id (Attribute.read 33) (.mode mode) (beU32 mode ++ []) :=
    (takes_u32 mode).bind (.pure _)
  have each : List.Forall₂ (fun bit outcome => Takes id (Attribute.read bit) outcome.1 outcome.2)
      ((setattrBits attrs).map UInt32.toNat) (setattrValues attrs) := by
    obtain ⟨m, s⟩ := attrs
    cases s with
    | none =>
        cases m with
        | none => exact .nil
        | some m => exact .cons (mode m) .nil
    | some s =>
        cases m with
        | none => exact .cons (size s) .nil
        | some m => exact .cons (size s) (.cons (mode m) .nil)
  have read := Takes.mapM each []
  rw [List.append_nil] at read
  refine takes_attributes _ _ bits.2 ?_ (bits.1 ▸ read)
  obtain ⟨m, s⟩ := attrs
  cases s <;> cases m <;> simp [Sized, setattrValues]

/-- `SETATTR` is read back with the attributes that were given. -/
theorem adds_setattr (stateid : Stateid4) (attrs : SetAttr4) :
    Adds (setattr stateid attrs) (.setattr stateid ((setattrValues attrs).map Prod.fst)) := by
  refine .of_args opSetattr ((takes_stateid stateid).bind ((takes_setattr attrs).bind (.pure _)))
    fun c => ?_
  simp [setattr, append_setattr, bind, Except.bind]

/-- `CREATE` of a directory is read back; it sets no attributes. -/
theorem adds_createDir (sized : Sized (Xdr.asBytes name)) :
    Adds (createDir name) (.create .dir name []) := by
  have dir : Takes id CreateType.read .dir (beU32 nf4Dir ++ []) :=
    (takes_u32 nf4Dir).bind (.pure _)
  refine .of_args opCreate (dir.bind ((takes_text sized).bind
    (takes_no_attributes.bind (.pure _)))) fun c => ?_
  simp [createDir, sized, append_bitmap [] (by decide), bind, Except.bind]

/-- `CREATE` of a symbolic link is read back with its target. -/
theorem adds_createSymlink {target : String} (sized : Sized (Xdr.asBytes name))
    (sizedTarget : Sized (Xdr.asBytes target)) :
    Adds (createSymlink name target) (.create (.link target) name []) := by
  have link : Takes id CreateType.read (.link target) (beU32 nf4Lnk ++ (textCode target ++ [])) :=
    (takes_u32 nf4Lnk).bind ((takes_text sizedTarget).bind (.pure _))
  refine .of_args opCreate (link.bind ((takes_text sized).bind
    (takes_no_attributes.bind (.pure _)))) fun c => ?_
  simp [createSymlink, sized, sizedTarget, append_bitmap [] (by decide), bind,
    Except.bind]

/-- How `OPEN` asks for a file: a file that exists is opened either way. -/
def how (create : Bool) : OpenHow :=
  if create then .unchecked [] else .nocreate

/-- The grammar takes the claim of an open by name. -/
theorem takes_claim (sized : Sized (Xdr.asBytes name)) :
    Takes id readClaim name (beU32 claimNull ++ textCode name) :=
  (takes_u32 claimNull).bind (takes_text sized)

/-- `OPEN` is read back with how it creates the file. -/
theorem adds_open (seqid : UInt32) (clientid : UInt64) {owner : Bytes} (shareAccess : UInt32)
    (create : Bool) (sizedOwner : Sized owner) (sized : Sized (Xdr.asBytes name)) :
    Adds (Compound.open seqid clientid owner shareAccess create name)
      (.open seqid shareAccess open4ShareDenyNone clientid owner (how create) name) := by
  cases create with
  | false =>
      have how : Takes id OpenHow.read .nocreate (beU32 open4Nocreate ++ []) :=
        (takes_u32 open4Nocreate).bind (.pure _)
      refine .of_args opOpen ((takes_u32 seqid).bind ((takes_u32 shareAccess).bind
        ((takes_u32 open4ShareDenyNone).bind ((takes_u64 clientid).bind
          ((takes_item (reads_data sizedOwner)).bind (how.bind
            ((takes_claim sized).bind (.pure _)))))))) fun c => ?_
      simp [Compound.open, sized, sizedOwner, bind, Except.bind]
  | true =>
      have how : Takes id OpenHow.read (.unchecked []) (beU32 open4Create ++ (beU32 unchecked4 ++
          (bitmapCode (buildBitmap []) ++ (beU32 0 ++ []) ++ []))) :=
        (takes_u32 open4Create).bind ((takes_u32 unchecked4).bind
          (takes_no_attributes.bind (.pure _)))
      refine .of_args opOpen ((takes_u32 seqid).bind ((takes_u32 shareAccess).bind
        ((takes_u32 open4ShareDenyNone).bind ((takes_u64 clientid).bind
          ((takes_item (reads_data sizedOwner)).bind (how.bind
            ((takes_claim sized).bind (.pure _)))))))) fun c => ?_
      simp [Compound.open, sized, sizedOwner, put_empty_bitmap, bind, Except.bind]
      rfl

end Steps

/-- The operations of a request, as many as it counts. -/
structure Holds (c : Compound) (ops : List ArgOp) : Prop where
  read : ∃ codes, c.ops = codes.flatten ∧ List.Forall₂ (Takes id readOp) ops codes
  counted : c.nops = UInt32.ofNat ops.length

/-- The builder succeeds with a request of these operations. -/
def Builds (built : Except XdrError Compound) (ops : List ArgOp) : Prop :=
  ∃ c, built = .ok c ∧ Holds c ops

/-- A step adds its operation at the end. -/
theorem Holds.step {c : Compound} {ops : List ArgOp}
    {step : Compound → Except XdrError Compound} {op : ArgOp} (holds : Holds c ops)
    (adds : Adds step op) : Builds (step c) (ops ++ [op]) := by
  obtain ⟨code, takes, puts⟩ := adds
  obtain ⟨codes, whole, each⟩ := holds.read
  refine ⟨_, puts c, ⟨codes ++ [code], ?_, ?_⟩, ?_⟩
  · rw [whole, List.flatten_append, List.flatten_singleton]
  · exact List.rel_append each (.cons takes .nil)
  · rw [holds.counted, List.length_append, List.length_singleton, UInt32.ofNat_add]
    rfl

theorem holds_new : Holds Compound.new [] :=
  ⟨⟨[], rfl, .nil⟩, rfl⟩

/-- A step that is followed by others. -/
theorem Holds.andThen {c : Compound} {ops final : List ArgOp}
    {step next : Compound → Except XdrError Compound} {op : ArgOp} (holds : Holds c ops)
    (adds : Adds step op) (rest : ∀ c, Holds c (ops ++ [op]) → Builds (next c) final) :
    Builds (step c >>= next) final := by
  obtain ⟨after, built, grown⟩ := holds.step adds
  rw [built]
  exact rest after grown

/-- The header of a request and its operations are read as a whole. -/
theorem parse_ops {minor : UInt32} {ops : List ArgOp} {codes : List Bytes}
    (each : List.Forall₂ (Takes id readOp) ops codes) (small : ops.length < 2 ^ 32) :
    CompoundArgs.parse (textCode "" ++ (beU32 minor ++ (beU32 (UInt32.ofNat ops.length) ++
      codes.flatten))) = .ok ⟨"", minor, ops⟩ := by
  have many := Takes.many each
  have counted : (UInt32.ofNat ops.length).toNat = ops.length := UInt32.toNat_ofNat_of_lt' small
  rw [← counted] at many
  have tag : Sized (Xdr.asBytes "") := by decide
  have read : Takes id readCompound ⟨"", minor, ops⟩ _ :=
    (takes_text tag).bind ((takes_u32 minor).bind ((takes_u32 (UInt32.ofNat ops.length)).bind
      (many.bind (.pure _))))
  have whole := read []
  rw [List.append_nil, List.append_nil] at whole
  simp only [CompoundArgs.parse, id] at whole ⊢
  rw [whole]

/-- A request of minor version 0 is read as its operations. -/
theorem Holds.parse {c : Compound} {ops : List ArgOp} (holds : Holds c ops)
    (small : ops.length < 2 ^ 32) (minor : UInt32) :
    ∃ args, c.finish minor = .ok args ∧ CompoundArgs.parse args = .ok ⟨"", minor, ops⟩ := by
  obtain ⟨codes, whole, each⟩ := holds.read
  refine ⟨_, finish_eq c minor, ?_⟩
  rw [whole, holds.counted]
  exact parse_ops each small

/-- The grammar takes the `SEQUENCE` that the client puts first. -/
theorem takes_sequence (sessionid : Vector UInt8 16) (seqid : UInt32) :
    Takes id readOp (.sequence sessionid seqid 0 0 false)
      (beU32 opSequence ++ (fixedCode sessionid ++ (beU32 seqid ++ (beU32 0 ++ (beU32 0 ++
        (beU32 (Xdr.boolWord false) ++ [])))))) :=
  (takes_u32 opSequence).bind ((takes_item (reads_fixed sessionid)).bind ((takes_u32 seqid).bind
    ((takes_u32 0).bind ((takes_u32 0).bind ((takes_item (Xdr.reads_bool false)).bind
      (.pure _))))))

/-- A request of a session is read as `SEQUENCE` and its operations. -/
theorem Holds.parse_sequenced {c : Compound} {ops : List ArgOp} (holds : Holds c ops)
    (small : ops.length + 1 < 2 ^ 32) (minor : UInt32) (sessionid : Vector UInt8 16)
    (seqid : UInt32) :
    ∃ args, Nfs4.sequenced minor sessionid seqid c = .ok args ∧
      CompoundArgs.parse args = .ok ⟨"", minor, .sequence sessionid seqid 0 0 false :: ops⟩ := by
  obtain ⟨codes, whole, each⟩ := holds.read
  have tag : XdrEncode.encode "" [] = .ok (textCode "") :=
    Xdr.Ty.writes (.sized .string) "" (by decide : Sized (Xdr.asBytes "")) trivial []
  have read := @parse_ops minor _ _ (.cons (takes_sequence sessionid seqid) each) small
  refine ⟨_, ?_, read⟩
  rw [Nfs4.sequenced, tag, whole, holds.counted]
  simp [XdrEncode.encode, fixedCode, UInt32.ofNat_add, bind, Except.bind, pure, Except.pure]

end Compound

end LibNfs.Proto
