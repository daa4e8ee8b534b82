import LibNfs.Proto.Requests

/-! # What the client reads of a reply

The client reads the result of each operation in turn; a result that the grammar
allows is read as it was written, and what follows is left for the next one.
-/

namespace LibNfs.Proto

open Coding Reading
open Xdr (XdrError XdrEncode XdrDecode beU32 beU64)

namespace CompoundReader

/-- A part that is read by a decoder. -/
theorem takes_decode {α : Type} [XdrDecode α] {value : α} {code : Bytes}
    (reads : Reads XdrDecode.decode value code) : Takes mk (decode : ReadM α) value code :=
  decode_of_reads reads

/-- The header of a result. -/
theorem takes_beginOp (opnum : UInt32) :
    Takes mk (beginOp opnum) () (resultHeader opnum nfs4Ok) :=
  beginOp_header opnum

theorem takes_word (value : UInt32) : Takes mk (decode : ReadM UInt32) value (beU32 value) :=
  takes_decode (Xdr.reads_u32 value)

/-- A long word. -/
theorem takes_long (value : UInt64) : Takes mk (decode : ReadM UInt64) value (beU64 value) :=
  takes_decode (Xdr.reads_u64 value)

theorem takes_flag (value : Bool) :
    Takes mk (decode : ReadM Bool) value (beU32 (Xdr.boolWord value)) :=
  takes_decode (Xdr.reads_bool value)

theorem takes_words (words : Bitmap) :
    Takes mk (decode : ReadM (List UInt32)) words.1 (bitmapCode words.1) :=
  takes_decode (bitmap_reads words.2)

/-- An opaque without a limit of its own. -/
theorem takes_opaqueData {data : Bytes} (sized : Sized data) :
    Takes mk (opaqueData usizeMax) data (dataCode data) := by
  intro rest
  have read : Xdr.decodeOpaque usizeMax (dataCode data ++ rest) = .ok (data, rest) :=
    reads_data sized rest
  change (liftXdr (Xdr.decodeOpaque usizeMax (dataCode data ++ rest)) >>= _) = _
  rw [read]
  rfl

variable {asked : List Nat}

/-- Attributes are read as `decode_fattr4` reads them, whatever it makes of them. -/
theorem takes_fattr4_of {words : List UInt32} {attrs value : Fattr4} (bitmap : words.length < 2 ^ 32)
    (sized : Sized (attrs.values words))
    (values : decodeFattr4 words (attrs.values words) = .ok value) :
    Takes mk fattr4 value (bitmapCode words ++ dataCode (attrs.values words)) := by
  have lifted : Takes mk (StateT.lift (decodeFattr4 words (attrs.values words))) value [] := by
    intro rest
    rw [values]
    rfl
  have whole : Takes mk fattr4 value _ :=
    (takes_decode (bitmap_reads bitmap)).bind ((takes_opaqueData sized).bind lifted)
  rwa [List.append_nil] at whole

/-- The attributes of an object. -/
theorem takes_fattr4 (given : Attrs asked) : Takes mk fattr4 given.attrs given.code :=
  takes_fattr4_of (Nat.lt_trans given.short (by decide)) given.sized
    (Fattr4.decodeFattr4_values given.fits given.describes given.short)

/-- An entry as the client returns it. -/
def entryOf (entry : EntryRes asked) : DirEntry4 :=
  ⟨entry.cookie, entry.name.1, entry.attrs.attrs⟩

/-- What follows the word that announces the first of some entries. -/
def entriesTail : List (EntryRes asked) → Bytes
  | [] => []
  | entry :: rest => entry.code ++ entriesCode rest

/-- A list of entries starts with whether there is one. -/
theorem entriesCode_eq (listed : List (EntryRes asked)) :
    entriesCode listed = beU32 (Xdr.boolWord (!listed.isEmpty)) ++ entriesTail listed := by
  cases listed <;> rfl

/-- With fuel for them all, the loop reads every entry. -/
theorem takes_entries (listed : List (EntryRes asked)) (fuel : Nat) (enough : listed.length ≤ fuel)
    (found : List DirEntry4) :
    Takes mk (entries fuel (!listed.isEmpty) found) (found ++ listed.map entryOf)
      (entriesTail listed) := by
  induction listed generalizing fuel found with
  | nil =>
      rw [List.map_nil, List.append_nil]
      cases fuel <;> exact .pure _
  | cons entry rest ih =>
      obtain ⟨fuel, rfl⟩ := Nat.exists_eq_succ_of_ne_zero (Nat.ne_zero_of_lt enough)
      have more := ih fuel (Nat.le_of_succ_le_succ enough) (found ++ [entryOf entry])
      have read : Takes mk (entries (fuel + 1) true found) _ _ :=
        (takes_long entry.cookie).bind ((takes_decode (Fattr4.reads_text entry.name.2)).bind
          ((takes_fattr4 entry.attrs).bind ((takes_flag (!rest.isEmpty)).bind more)))
      rw [← entriesCode_eq, List.append_assoc, List.singleton_append, ← List.map_cons] at read
      simp only [entriesTail, EntryRes.code, List.append_assoc]
      exact read

/-- An entry takes more than no bytes. -/
theorem length_le_entriesTail (listed : List (EntryRes asked)) :
    listed.length ≤ (entriesTail listed).length := by
  induction listed with
  | nil => exact Nat.le_refl 0
  | cons entry rest ih =>
      rw [entriesTail, entriesCode_eq]
      simp only [List.length_cons, List.length_append, Xdr.length_beU32]
      omega

/-- A directory as the client returns it. -/
def dirOf (dir : DirRes asked) : ReaddirResult :=
  ⟨dir.cookieverf, dir.entries.map entryOf, dir.eof⟩

/-- The entries of a directory, with its verifier and whether they are the last. -/
theorem takes_dirlist (dir : DirRes asked) :
    Takes mk dirlist (dirOf dir) (fixedCode dir.cookieverf ++ (entriesCode dir.entries ++
      beU32 (Xdr.boolWord dir.eof))) := by
  rw [entriesCode_eq, List.append_assoc, ← List.append_nil (beU32 (Xdr.boolWord dir.eof))]
  refine (takes_decode (reads_fixed dir.cookieverf)).bind
    ((takes_flag (!dir.entries.isEmpty)).bind ?_)
  intro rest
  -- the fuel is the number of bytes left, which is more than there are entries
  have enough : dir.entries.length ≤
      (entriesTail dir.entries ++ (beU32 (Xdr.boolWord dir.eof) ++ []) ++ rest).length + 1 := by
    have counted := length_le_entriesTail dir.entries
    simp only [List.length_append]
    omega
  have read (fuel : Nat) (enough : dir.entries.length ≤ fuel) : Takes mk (do
      let found ← entries fuel (!dir.entries.isEmpty) []
      let eof : Bool ← decode
      return ⟨dir.cookieverf, found, eof⟩ : ReadM ReaddirResult) (dirOf dir) _ :=
    (takes_entries dir.entries fuel enough []).bind ((takes_flag dir.eof).bind (.pure _))
  exact read _ enough rest

/-- The results of `SEQUENCE` are skipped. -/
theorem takes_skipSequence (slot : SequenceRes) (sessionid : Vector UInt8 16) (seqid : UInt32) :
    Takes mk Nfs4.skipSequence () ((ArgOp.sequence sessionid seqid 0 0 false).res slot) := by
  have unrolled : Nfs4.skipSequence = (do
      beginOp opSequence
      let _sid : Vector UInt8 16 ← decode
      let _ : UInt32 ← decode
      let _ : UInt32 ← decode
      let _ : UInt32 ← decode
      let _ : UInt32 ← decode
      let _ : UInt32 ← decode
      return ()) := by
    simp [Nfs4.skipSequence, List.range, List.range.loop]
  rw [unrolled]
  exact (takes_beginOp opSequence).bind ((takes_decode (reads_fixed slot.sessionid)).bind
    ((takes_word slot.seqid).bind ((takes_word slot.slotid).bind ((takes_word slot.highest).bind
      ((takes_word slot.target).bind ((takes_word slot.flags).ret fun _ => ()))))))

end CompoundReader

end LibNfs.Proto
