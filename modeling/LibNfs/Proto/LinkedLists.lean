import LibNfs.Proto.Mount
import LibNfs.Proto.Nlm
import LibNfs.Proto.Readdirplus

/-! # Linked lists on the wire

The decoders of linked lists bypass the derive: they loop over a flag that the
server sends before each entry. Each of them reads the encoding of RFC 4506 for
optional data and nothing else, for lists of any length and nested ones.
-/

namespace LibNfs.Xdr

open Coding

/-- The codes of a type of the derived codec. -/
def Ty.layout (ty : Ty) : Layout UInt8 ty.Val where
  valid value := ty.Fits value ∧ ty.Within value
  code := ty.code
  mask := ty.pads

/-- Accepted input is canonical up to padding, and the round trip. -/
theorem Ty.decodes {ty : Ty} (occupied : ty.Occupied) (distinct : ty.Distinct) :
    Decodes ty.decode ty.layout where
  reads valid := ty.reads _ occupied distinct valid.1 valid.2
  accepts read := by
    obtain ⟨consumed, shape, agree, -, fits, within⟩ := ty.accepts occupied read
    exact ⟨consumed, shape, ⟨fits, within⟩, agree⟩

/-- The flag before an entry of a linked list. -/
def sign (present : Bool) : Bytes :=
  beU32 (boolWord present)

theorem flag_bool : Flag Ty.bool.decode sign where
  reads := reads_bool
  accepts := decodeBool_inv
  nonempty present := by
    rw [← List.length_pos_iff, sign, length_beU32]
    decide

end LibNfs.Xdr

namespace LibNfs.Proto

open Coding
open Xdr (XdrError XdrDecode Ty sign flag_bool)

namespace Mount

/-- A text. -/
def textLayout : Layout UInt8 String :=
  (Ty.sized .string).layout

theorem decodes_text : Decodes (Ty.sized .string).decode textLayout :=
  Ty.decodes trivial trivial

theorem decodes_stringList : Decodes decodeStringList (textLayout.list sign) :=
  decodes_text.list flag_bool

/-- A directory and then its groups, as a list inside the list of exports. -/
def ExportNode.layout : Layout UInt8 ExportNode :=
  (textLayout.pair (textLayout.list sign)).view fun node => (node.dir, node.groups)

theorem ExportNode.decodes : Decodes ExportNode.decode ExportNode.layout := by
  apply (decodes_text.pair decodes_stringList).view (fun value => ⟨value.1, value.2⟩)
    (fun node : ExportNode => (node.dir, node.groups)) (fun _ => rfl) (fun _ => rfl)
  intro buf
  simp only [ExportNode.decode, decodePair, bind_assoc, pure_bind]

/-- A list of exports, each announced by a flag. -/
def ExportList.layout : Layout UInt8 ExportList :=
  (ExportNode.layout.list sign).view ExportList.nodes

/-- A list of exports is read by its layout. -/
theorem ExportList.decodes : Decodes ExportList.decode ExportList.layout := by
  apply (ExportNode.decodes.list flag_bool).view ExportList.mk ExportList.nodes (fun _ => rfl)
    (fun _ => rfl)
  exact fun _ => rfl

/-- A host and a directory. -/
def MountEntry.layout : Layout UInt8 MountEntry :=
  (textLayout.pair textLayout).view fun entry => (entry.hostname, entry.dir)

theorem MountEntry.decodes : Decodes MountEntry.decode MountEntry.layout := by
  apply (decodes_text.pair decodes_text).view (fun value => ⟨value.1, value.2⟩)
    (fun entry : MountEntry => (entry.hostname, entry.dir)) (fun _ => rfl) (fun _ => rfl)
  intro buf
  simp only [MountEntry.decode, decodePair, bind_assoc, pure_bind]

/-- A list of mounts, each announced by a flag. -/
def MountList.layout : Layout UInt8 MountList :=
  (MountEntry.layout.list sign).view MountList.entries

theorem MountList.decodes : Decodes MountList.decode MountList.layout := by
  apply (MountEntry.decodes.list flag_bool).view MountList.mk MountList.entries (fun _ => rfl)
    (fun _ => rfl)
  exact fun _ => rfl

end Mount

namespace Portmap

/-- What `DUMP` returns. -/
structure PortmapList where
  entries : List Mapping.ty.Val

/-- Reads the mappings of a port mapper. -/
def PortmapList.decode (buf : Bytes) : Except XdrError (PortmapList × Bytes) := do
  let (entries, buf) ← decodeList Ty.bool.decode Mapping.ty.decode buf
  return (⟨entries⟩, buf)

/-- A list of mappings, each announced by a flag. -/
def PortmapList.layout : Layout UInt8 PortmapList :=
  (Mapping.ty.layout.list sign).view PortmapList.entries

theorem decodes_mapping : Decodes Mapping.ty.decode Mapping.ty.layout :=
  Ty.decodes ⟨trivial, trivial, trivial, trivial, trivial⟩
    ⟨trivial, trivial, trivial, trivial, trivial⟩

/-- A list of mappings is read by its layout. -/
theorem PortmapList.decodes : Decodes PortmapList.decode PortmapList.layout := by
  apply (decodes_mapping.list flag_bool).view PortmapList.mk PortmapList.entries (fun _ => rfl)
    (fun _ => rfl)
  exact fun _ => rfl

end Portmap

/-- `entry3`. -/
structure Entry3 where
  fileid : UInt64
  name : String
  cookie : UInt64
  deriving DecidableEq, Repr

namespace Entry3

/-- A number, a name and a cookie. -/
def ty : Ty :=
  .struct (.plain .u64 (.plain (.sized .string) (.plain .u64 .nil)))

/-- The value of the description. -/
def val (entry : Entry3) : ty.Val :=
  (entry.fileid, entry.name, entry.cookie, ())

/-- The entry of a value. -/
def ofVal (val : ty.Val) : Entry3 :=
  ⟨val.1, val.2.1, val.2.2.1⟩

/-- Reads an entry of a listing. -/
def decode (buf : Bytes) : Except XdrError (Entry3 × Bytes) := do
  let (value, buf) ← ty.decode buf
  return (.ofVal value, buf)

/-- The layout of an entry. -/
def layout : Layout UInt8 Entry3 :=
  ty.layout.view val

theorem decodes : Decodes decode layout := by
  have whole : Decodes ty.decode ty.layout :=
    Ty.decodes ⟨trivial, trivial, trivial, trivial⟩ ⟨trivial, trivial, trivial, trivial⟩
  exact whole.view ofVal val (fun _ => rfl) (fun _ => rfl) fun _ => rfl

end Entry3

/-- What `READDIR` returns. -/
structure ReaddirOk where
  dirAttributes : Option Fattr3
  cookieverf : Vector UInt8 8
  entries : List Entry3
  eof : Bool

/-- Optional attributes are read by their layout. -/
theorem decodes_fattr3 : Decodes (Ty.option Fattr3.ty).decode (Ty.option Fattr3.ty).layout := by
  apply Ty.decodes
  · simp [Fattr3.ty, Specdata3.ty, Nfstime3.ty, Ty.Occupied, Xdr.Fields.Occupied]
  · simp [Fattr3.ty, Specdata3.ty, Nfstime3.ty, Ty.Distinct, Xdr.Fields.Distinct]

/-- Attributes, a verifier, the entries and whether they are the last ones. -/
def pageLayout {α : Type} (entry : Layout UInt8 α) :
    Layout UInt8 (Option Fattr3 × Vector UInt8 8 × List α × Bool) :=
  (Ty.option Fattr3.ty).layout.pair ((Ty.fixed 8).layout.pair ((entry.list sign).pair
    Ty.bool.layout))

/-- The entries of a page and the flag behind them are read by their layout. -/
theorem decodes_page {α : Type} {entry : Decoder XdrError UInt8 α} {layout : Layout UInt8 α}
    (decodes : Decodes entry layout) :
    Decodes (decodePair (Ty.option Fattr3.ty).decode (decodePair (Ty.fixed 8).decode
      (decodePair (decodeList Ty.bool.decode entry) Ty.bool.decode))) (pageLayout layout) := by
  have verf : Decodes (Ty.fixed 8).decode (Ty.fixed 8).layout := Ty.decodes trivial trivial
  have eof : Decodes Ty.bool.decode Ty.bool.layout := Ty.decodes trivial trivial
  exact decodes_fattr3.pair (verf.pair ((decodes.list flag_bool).pair eof))

namespace ReaddirOk

/-- Reads a page of a directory. -/
def decode (buf : Bytes) : Except XdrError (ReaddirOk × Bytes) := do
  let (dirAttributes, buf) ← (Ty.option Fattr3.ty).decode buf
  let (cookieverf, buf) ← (Ty.fixed 8).decode buf
  let (entries, buf) ← decodeList Ty.bool.decode Entry3.decode buf
  let (eof, buf) ← Ty.bool.decode buf
  return (⟨dirAttributes, cookieverf, entries, eof⟩, buf)

/-- The layout of a page. -/
def layout : Layout UInt8 ReaddirOk :=
  (pageLayout Entry3.layout).view fun page =>
    (page.dirAttributes, page.cookieverf, page.entries, page.eof)

theorem decodes : Decodes decode layout := by
  apply (decodes_page Entry3.decodes).view (fun value => ⟨value.1, value.2.1, value.2.2.1,
    value.2.2.2⟩) (fun page : ReaddirOk => (page.dirAttributes, page.cookieverf, page.entries,
      page.eof)) (fun _ => rfl) (fun _ => rfl)
  intro buf
  simp only [decode, decodePair, bind_assoc, pure_bind]

end ReaddirOk

namespace EntryPlus3

/-- Reads an entry with its attributes and its handle. -/
def decode (buf : Bytes) : Except XdrError (EntryPlus3 × Bytes) := do
  let (value, buf) ← ty.decode buf
  return (.ofVal value, buf)

/-- The layout of such an entry. -/
def layout : Layout UInt8 EntryPlus3 :=
  ty.layout.view val

theorem decodes : Decodes decode layout := by
  have whole : Decodes ty.decode ty.layout := by
    apply Ty.decodes
    · simp [ty, NfsFh3.ty, Fattr3.ty, Specdata3.ty, Nfstime3.ty, Ty.Occupied,
        Xdr.SizedTy.Occupied, Xdr.Fields.Occupied]
    · simp [ty, NfsFh3.ty, Fattr3.ty, Specdata3.ty, Nfstime3.ty, Ty.Distinct,
        Xdr.SizedTy.Distinct, Xdr.Fields.Distinct]
  apply whole.view ofVal val ?_ ?_ fun _ => rfl
  · rintro ⟨fileid, name, cookie, attributes, handle, _⟩
    cases handle <;> rfl
  · rintro ⟨fileid, name, cookie, attributes, handle⟩
    cases handle <;> rfl

end EntryPlus3

namespace ReaddirplusOk

/-- The entries of a page are read as any list is. -/
theorem decodeEntries_eq (fuel : Nat) (buf : Bytes) :
    decodeEntries fuel buf = decodeWhile Ty.bool.decode EntryPlus3.decode fuel buf := by
  induction fuel generalizing buf with
  | zero => rfl
  | succ fuel ih =>
      simp only [decodeEntries, decodeWhile, EntryPlus3.decode, bind_assoc, pure_bind, ih]

/-- The layout of a page of such entries. -/
def layout : Layout UInt8 ReaddirplusOk :=
  (pageLayout EntryPlus3.layout).view fun page =>
    (page.dirAttributes, page.cookieverf, page.entries, page.eof)

theorem decodes : Decodes decode layout := by
  apply (decodes_page EntryPlus3.decodes).view (fun value => ⟨value.1, value.2.1, value.2.2.1,
    value.2.2.2⟩) (fun page : ReaddirplusOk => (page.dirAttributes, page.cookieverf,
      page.entries, page.eof)) (fun _ => rfl) (fun _ => rfl)
  intro buf
  simp only [decode, decodeEntries_eq, decodePair, decodeList, bind_assoc, pure_bind]

end ReaddirplusOk

namespace CompoundReader

/-- `entry4`: a cookie, a name, and attributes as a bitmap and their values. -/
def entry4 : Ty :=
  .struct (.plain .u64 (.plain (.sized .string) (.plain (.sized (.vec .u32))
    (.plain (.sized .bytes) .nil))))

/-- The entry that the client makes of what it reads. -/
def interpret (raw : entry4.Val) : Except ProtoError DirEntry4 :=
  (decodeFattr4 raw.2.2.1 raw.2.2.2.1).map fun attrs => ⟨raw.1, raw.2.1, attrs⟩

/-- An entry of NFSv4 is read by its layout. -/
theorem decodes_entry4 : Decodes entry4.decode entry4.layout := by
  apply Ty.decodes
  · refine ⟨trivial, trivial, ⟨trivial, ?_⟩, trivial, trivial⟩
    intro word code writes empty
    have same := congrArg List.length (writes.unique (fun _ => rfl : Writes _ word (Xdr.beU32 word)))
    simp [empty] at same
  · exact ⟨trivial, trivial, trivial, trivial, trivial⟩

/-- The flag before an entry, with the errors of the client. -/
def present : Decoder ProtoError UInt8 Bool :=
  fun buf => (Ty.bool.decode buf).mapError .xdr

/-- An entry before it is interpreted, with the errors of the client. -/
def rawEntry : Decoder ProtoError UInt8 entry4.Val :=
  fun buf => (entry4.decode buf).mapError .xdr

/-- An entry, interpreted as soon as it is read. -/
def entry : Decoder ProtoError UInt8 DirEntry4 :=
  decodeThen rawEntry fun raw buf => (interpret raw).map fun found => (found, buf)

/-- So are its fields with their errors lifted. -/
theorem decodes_rawEntry : Decodes rawEntry entry4.layout :=
  decodes_entry4.mapError ProtoError.xdr

/-- Reading an entry leaves no more than there was. -/
theorem decodes_entry_length {buf rest : Bytes} {value : DirEntry4}
    (read : entry buf = .ok (value, rest)) : rest.length ≤ buf.length := by
  cases first : rawEntry buf with
  | error fault =>
      rw [entry, decodeThen_error first] at read
      cases read
  | ok parsed =>
      have shorter := decodes_rawEntry.length_le first
      rw [entry, decodeThen_ok first] at read
      cases computed : interpret parsed.1 with
      | error fault =>
          rw [computed] at read
          cases read
      | ok found =>
          rw [computed] at read
          cases read
          exact shorter

theorem flag_present : Flag present sign :=
  flag_bool.mapError ProtoError.xdr

/-- The fields of an entry, read one after another. -/
theorem entry4_decode (buf : Bytes) : entry4.decode buf = (do
    let (cookie, buf) ← (XdrDecode.decode buf : Except XdrError (UInt64 × Bytes))
    let (name, buf) ← (XdrDecode.decode buf : Except XdrError (String × Bytes))
    let (bitmap, buf) ← (XdrDecode.decode buf : Except XdrError (List UInt32 × Bytes))
    let (attrlist, buf) ← Xdr.decodeOpaque usizeMax buf
    return ((cookie, name, bitmap, attrlist, ()), buf)) := by
  simp only [entry4, Ty.decode, Xdr.Fields.decode, Xdr.SizedTy.decode, decodePair, bind_assoc,
    pure_bind]
  rfl

theorem decode_bind {α γ : Type} [XdrDecode α] (next : α → ReadM γ) (buf : Bytes) :
    (decode >>= next).run ⟨buf⟩ =
      (liftXdr (XdrDecode.decode buf)).bind fun parsed => (next parsed.1).run ⟨parsed.2⟩ := by
  change ((liftXdr (XdrDecode.decode buf) >>= _) >>= _) = _
  cases (XdrDecode.decode buf : Except XdrError (α × Bytes)) <;> rfl

/-- Reading attributes, and what follows them. -/
theorem fattr4_bind {γ : Type} (next : Fattr4 → ReadM γ) (buf : Bytes) :
    (fattr4 >>= next).run ⟨buf⟩ =
      (liftXdr (XdrDecode.decode buf)).bind fun parsed =>
        (liftXdr (Xdr.decodeOpaque usizeMax parsed.2)).bind fun attrlist =>
          (decodeFattr4 parsed.1 attrlist.1).bind fun attrs => (next attrs).run ⟨attrlist.2⟩ := by
  rw [fattr4, bind_assoc, decode_bind]
  congr 1
  funext parsed
  rw [bind_assoc]
  change ((liftXdr (Xdr.decodeOpaque usizeMax parsed.2) >>= _) >>= _) = _
  cases Xdr.decodeOpaque usizeMax parsed.2 with
  | error fault => rfl
  | ok attrlist =>
    change ((decodeFattr4 parsed.1 attrlist.1 >>= _) >>= _) = (decodeFattr4 parsed.1 attrlist.1).bind _
    cases decodeFattr4 parsed.1 attrlist.1 <;> rfl

/-- The statements of one turn of the loop read an entry. -/
theorem entry_run {α : Type} (next : DirEntry4 → ReadM α) (buf : Bytes) :
    (do
      let cookie : UInt64 ← decode
      let name : String ← decode
      let attrs ← fattr4
      next ⟨cookie, name, attrs⟩ : ReadM α).run ⟨buf⟩ =
      (entry buf).bind fun parsed => (next parsed.1).run ⟨parsed.2⟩ := by
  simp only [entry, decodeThen, rawEntry, entry4_decode, decode_bind, fattr4_bind]
  cases (XdrDecode.decode buf : Except XdrError (UInt64 × Bytes)) with
  | error fault => rfl
  | ok first =>
      simp only [liftXdr_ok, bind, Except.bind]
      cases (XdrDecode.decode first.2 : Except XdrError (String × Bytes)) with
      | error fault => rfl
      | ok second =>
          simp only [liftXdr_ok]
          cases (XdrDecode.decode second.2 : Except XdrError (List UInt32 × Bytes)) with
          | error fault => rfl
          | ok third =>
              simp only [liftXdr_ok]
              cases Xdr.decodeOpaque usizeMax third.2 with
              | error fault => rfl
              | ok fourth =>
                  simp only [liftXdr_ok, interpret, pure, Except.pure, Except.mapError]
                  cases decodeFattr4 third.1 fourth.1 <;> rfl
/-- The loop of `readdir`, from the flag it has read, is the loop over entries. -/
theorem entries_loops (fuel : Nat) {start buf : Bytes} {more : Bool}
    (flagged : present start = .ok (more, buf)) (enough : buf.length < fuel)
    (found : List DirEntry4) :
    ∃ result, Loops present entry start result ∧ (entries fuel more found).run ⟨buf⟩ =
      result.map fun listed => (found ++ listed.1, ⟨listed.2⟩) := by
  induction fuel generalizing start buf more found with
  | zero => exact (Nat.not_lt_zero _ enough).elim
  | succ fuel ih =>
      cases more with
      | false =>
          refine ⟨_, .stop flagged, ?_⟩
          simp only [entries, Except.map, List.append_nil]
          rfl
      | true =>
          have turn := entry_run (fun read => do
            let more : Bool ← decode
            entries fuel more (found ++ [read])) buf
          simp only [entries]
          rw [turn]
          cases read : entry buf with
          | error fault => exact ⟨_, .itemFails flagged read, rfl⟩
          | ok parsed =>
              obtain ⟨value, later⟩ := parsed
              have shorter : later.length ≤ buf.length := decodes_entry_length read
              have flag : liftXdr (XdrDecode.decode later : Except XdrError (Bool × Bytes)) =
                  present later := rfl
              simp only [Except.bind, decode_bind, flag]
              cases again : present later with
              | error fault => exact ⟨_, .next flagged read (.flagFails again), rfl⟩
              | ok parsed =>
                  obtain ⟨more, rest⟩ := parsed
                  have announced := flag_present.length_lt again
                  obtain ⟨result, loops, ran⟩ := ih again (by omega) (found ++ [value])
                  refine ⟨_, .next flagged read loops, ?_⟩
                  simp only [ran]
                  cases result with
                  | error fault => rfl
                  | ok listed => simp only [Except.map, List.append_assoc, List.singleton_append]

/-- The part of `dirlist` that reads the entries. -/
def entryLoop : ReadM (List DirEntry4) := do
  let more : Bool ← decode
  let reader ← get
  entries (reader.buf.length + 1) more []

/-- The same as a decoder of a buffer. -/
def entryList : Decoder ProtoError UInt8 (List DirEntry4) :=
  fun buf => (entryLoop.run ⟨buf⟩).map fun listed => (listed.1, listed.2.buf)

/-- Reading the entries, and what follows them. -/
theorem entryLoop_bind {γ : Type} (next : List DirEntry4 → ReadM γ) (buf : Bytes) :
    (entryLoop >>= next).run ⟨buf⟩ =
      (entryList buf).bind fun listed => (next listed.1).run ⟨listed.2⟩ := by
  rw [entryList, StateT.run_bind]
  cases entryLoop.run ⟨buf⟩ <;> rfl

/-- The loop of `readdir` ends on every input, with the entries it read. -/
theorem entryList_loops (buf : Bytes) : Loops present entry buf (entryList buf) := by
  have flag : liftXdr (XdrDecode.decode buf : Except XdrError (Bool × Bytes)) = present buf := rfl
  rw [entryList, entryLoop, decode_bind, flag]
  cases first : present buf with
  | error fault => exact .flagFails first
  | ok parsed =>
      obtain ⟨more, rest⟩ := parsed
      obtain ⟨result, loops, ran⟩ := entries_loops (rest.length + 1) first (Nat.lt_succ_self _) []
      have run : ((do
          let reader ← get
          entries (reader.buf.length + 1) more [] : ReadM (List DirEntry4)).run ⟨rest⟩) =
          result.map fun listed => (listed.1, ⟨listed.2⟩) := ran
      simp only [Except.bind, run]
      cases result <;> exact loops

/-- What `READDIR` returns, before its entries are interpreted. -/
def dirLayout : Layout UInt8 (Vector UInt8 8 × List entry4.Val × Bool) :=
  (Ty.fixed 8).layout.pair ((entry4.layout.list sign).pair Ty.bool.layout)

/-- The results of `READDIR`: a verifier, the entries, and whether they are the last. -/
def dirDecoder : Decoder ProtoError UInt8 (Vector UInt8 8 × List DirEntry4 × Bool) :=
  decodePair (fun buf => liftXdr ((Ty.fixed 8).decode buf)) (decodePair entryList present)

theorem dirlist_run (buf : Bytes) :
    dirlist.run ⟨buf⟩ = (dirDecoder buf).map fun listed =>
      (⟨listed.1.1, listed.1.2.1, listed.1.2.2⟩, ⟨listed.2⟩) := by
  have parts : dirlist = (do
      let cookieverf : Vector UInt8 8 ← decode
      let found ← entryLoop
      let eof : Bool ← decode
      return ⟨cookieverf, found, eof⟩) := by
    simp only [dirlist, entryLoop, bind_assoc]
  have whole : dirDecoder buf = (liftXdr (XdrDecode.decode buf)).bind fun verf =>
      ((entryList verf.2).bind fun listed =>
        (liftXdr (XdrDecode.decode listed.2)).bind fun eof =>
          .ok ((listed.1, eof.1), eof.2)).bind fun rest => .ok ((verf.1, rest.1), rest.2) := rfl
  rw [parts, whole, decode_bind]
  simp only [entryLoop_bind, decode_bind]
  cases liftXdr (XdrDecode.decode buf : Except XdrError (Vector UInt8 8 × Bytes)) with
  | error fault => rfl
  | ok verf =>
      simp only [Except.bind]
      cases entryList verf.2 with
      | error fault => rfl
      | ok listed =>
          simp only []
          cases liftXdr (XdrDecode.decode listed.2 : Except XdrError (Bool × Bytes)) <;> rfl

/-- The verifier of a page is read by its layout. -/
theorem decodes_verf :
    Decodes (fun buf => liftXdr ((Ty.fixed 8).decode buf)) (Ty.fixed 8).layout := by
  have verf : Decodes (Ty.fixed 8).decode (Ty.fixed 8).layout := Ty.decodes trivial trivial
  exact verf.mapError ProtoError.xdr

/-- The end flag of a page is read by its layout. -/
theorem decodes_eof : Decodes present Ty.bool.layout := by
  have eof : Decodes Ty.bool.decode Ty.bool.layout := Ty.decodes trivial trivial
  exact eof.mapError ProtoError.xdr

/-- Entries whose attributes can be interpreted are read off their code. -/
theorem reads_entryList {raws : List entry4.Val} {found : List DirEntry4}
    (valid : (entry4.layout.list sign).valid raws)
    (each : List.Forall₂ (fun raw read => interpret raw = .ok read) raws found) :
    Reads entryList found ((entry4.layout.list sign).code raws) := by
  intro rest
  have loops := Loops.of_list flag_present decodes_rawEntry raws valid rest
  exact (entryList_loops _).unique (loops.interpret rfl each)

/-- A page that is written by the layout is read back. -/
theorem dirlist_reads {verf : Vector UInt8 8} {raws : List entry4.Val} {eof : Bool}
    {found : List DirEntry4} (valid : dirLayout.valid (verf, raws, eof))
    (each : List.Forall₂ (fun raw read => interpret raw = .ok read) raws found) (rest : Bytes) :
    dirlist.run ⟨dirLayout.code (verf, raws, eof) ++ rest⟩ =
      .ok (⟨verf, found, eof⟩, ⟨rest⟩) := by
  have read : Reads dirDecoder (verf, found, eof) (dirLayout.code (verf, raws, eof)) :=
    Reads.pair (decodes_verf.reads valid.1)
      (Reads.pair (reads_entryList valid.2.1 each) (decodes_eof.reads valid.2.2))
  rw [dirlist_run, read rest]
  rfl

/-- What is read as a page was written by the layout. -/
theorem dirlist_accepts {buf : Bytes} {result : ReaddirResult} {rest : CompoundReader}
    (read : dirlist.run ⟨buf⟩ = .ok (result, rest)) :
    ∃ raws consumed, buf = consumed ++ rest.buf ∧
      dirLayout.valid (result.cookieverf, raws, result.eof) ∧
      List.Forall₂ (fun raw read => interpret raw = .ok read) raws result.entries ∧
      AgreeOff (dirLayout.mask (result.cookieverf, raws, result.eof)) consumed
        (dirLayout.code (result.cookieverf, raws, result.eof)) := by
  rw [dirlist_run] at read
  cases whole : dirDecoder buf with
  | error fault =>
      rw [whole] at read
      cases read
  | ok parsed =>
      rw [whole] at read
      cases read
      obtain ⟨middle, head, tail⟩ := decodePair_inv whole
      obtain ⟨later, list, last⟩ := decodePair_inv tail
      obtain ⟨raws, loops, each⟩ := (entryList_loops middle).interpreted list
      obtain ⟨front, rfl, valid, agree⟩ := decodes_verf.accepts head
      obtain ⟨body, rfl, valids, agree'⟩ := loops.accepts flag_present decodes_rawEntry rfl
      obtain ⟨back, rfl, valid', agree''⟩ := decodes_eof.accepts last
      refine ⟨raws, front ++ (body ++ back), ?_, ⟨valid, valids, valid'⟩, each,
        agree.append (agree'.append agree'')⟩
      simp only [List.append_assoc]

end CompoundReader

/-- Every decoder of linked lists reads exactly the encodings of lists, of any length,
and its loop ends on every input. -/
theorem linkedLists_decode :
    Decodes ReaddirOk.decode ReaddirOk.layout ∧
    Decodes ReaddirplusOk.decode ReaddirplusOk.layout ∧
    Decodes Mount.ExportList.decode Mount.ExportList.layout ∧
    Decodes Mount.MountList.decode Mount.MountList.layout ∧
    Decodes Portmap.PortmapList.decode Portmap.PortmapList.layout ∧
    (∀ verf raws eof found rest,
      CompoundReader.dirLayout.valid (verf, raws, eof) →
      List.Forall₂ (fun raw read => CompoundReader.interpret raw = .ok read) raws found →
      CompoundReader.dirlist.run ⟨CompoundReader.dirLayout.code (verf, raws, eof) ++ rest⟩ =
        .ok (⟨verf, found, eof⟩, ⟨rest⟩)) ∧
    (∀ buf result rest, CompoundReader.dirlist.run ⟨buf⟩ = .ok (result, rest) →
      ∃ raws consumed, buf = consumed ++ rest.buf ∧
        CompoundReader.dirLayout.valid (result.cookieverf, raws, result.eof) ∧
        List.Forall₂ (fun raw read => CompoundReader.interpret raw = .ok read) raws
          result.entries ∧
        AgreeOff (CompoundReader.dirLayout.mask (result.cookieverf, raws, result.eof)) consumed
          (CompoundReader.dirLayout.code (result.cookieverf, raws, result.eof))) ∧
    (∀ buf, Loops Ty.bool.decode Entry3.decode buf (decodeList Ty.bool.decode Entry3.decode buf) ∧
      Loops Ty.bool.decode EntryPlus3.decode buf
        (ReaddirplusOk.decodeEntries (buf.length + 1) buf) ∧
      Loops Ty.bool.decode Mount.ExportNode.decode buf
        (decodeList Ty.bool.decode Mount.ExportNode.decode buf) ∧
      Loops Ty.bool.decode (Ty.sized .string).decode buf (Mount.decodeStringList buf) ∧
      Loops Ty.bool.decode Mount.MountEntry.decode buf
        (decodeList Ty.bool.decode Mount.MountEntry.decode buf) ∧
      Loops Ty.bool.decode Portmap.Mapping.ty.decode buf
        (decodeList Ty.bool.decode Portmap.Mapping.ty.decode buf) ∧
      Loops CompoundReader.present CompoundReader.entry buf (CompoundReader.entryList buf)) := by
  refine ⟨ReaddirOk.decodes, ReaddirplusOk.decodes, Mount.ExportList.decodes,
    Mount.MountList.decodes, Portmap.PortmapList.decodes,
    fun _ _ _ _ rest valid each => CompoundReader.dirlist_reads valid each rest,
    fun _ _ _ read => CompoundReader.dirlist_accepts read, fun buf => ?_⟩
  refine ⟨decodeList_loops flag_bool Entry3.decodes buf, ?_,
    decodeList_loops flag_bool Mount.ExportNode.decodes buf,
    decodeList_loops flag_bool Mount.decodes_text buf,
    decodeList_loops flag_bool Mount.MountEntry.decodes buf,
    decodeList_loops flag_bool Portmap.decodes_mapping buf,
    CompoundReader.entryList_loops buf⟩
  rw [ReaddirplusOk.decodeEntries_eq]
  exact decodeList_loops flag_bool EntryPlus3.decodes buf

end LibNfs.Proto
