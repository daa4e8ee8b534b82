import LibNfs.Proto.OpenOwner

/-! # Requests and results of an open-owner

What either side reads of what the other wrote: the server finds the operation
and the seqid that the client put into its request, and the client finds in the
reply the results that the server put there.
-/

namespace LibNfs.Proto

open Coding
open Xdr (XdrError XdrDecode XdrEncode beU32 decodeU32)

/-- The request consists of `PUTFH` and an operation of the open-owner with this
seqid, and maybe more. -/
def Compound.Carries (c : Compound) (op : SeqidOp) (seqid : UInt32) : Prop :=
  ∃ (fh : NfsFh4) (before rest : Bytes), fh.Short ∧ Reads op.skip () before ∧
    c.ops = beU32 opPutfh ++ (fh.code ++ (beU32 op.opcode ++ (before ++ (beU32 seqid ++ rest))))

namespace Compound

/-- A request is its tag, its minor version, the number of its operations and their bytes. -/
theorem finish_eq (c : Compound) (minor : UInt32) :
    c.finish minor = .ok (Xdr.Ty.code (.sized .string) "" ++
      (beU32 minor ++ (beU32 c.nops ++ c.ops))) := by
  have tag := Xdr.Ty.writes (.sized .string) "" (by decide : (Xdr.asBytes "").length < 2 ^ 32)
    trivial []
  have written : XdrEncode.encode "" [] = .ok (Xdr.Ty.code (.sized .string) "") := tag
  rw [finish, written]
  simp [XdrEncode.encode, bind, Except.bind, pure, Except.pure]

/-- The server reads the operation and its seqid off the request. -/
theorem Carries.readRequest {c : Compound} {op : SeqidOp} {seqid : UInt32}
    (carries : c.Carries op seqid) :
    ∃ args, c.finish 0 = .ok args ∧ readRequest args = .ok (op, seqid) := by
  obtain ⟨fh, before, rest, short, skips, ops⟩ := carries
  refine ⟨_, finish_eq c 0, ?_⟩
  have tag : Reads (XdrDecode.decode : Bytes → Except XdrError (String × Bytes)) ""
      (Xdr.Ty.code (.sized .string) "") :=
    Xdr.Ty.reads (.sized .string) "" trivial trivial
      (by decide : (Xdr.asBytes "").length < 2 ^ 32) trivial
  simp only [Proto.readRequest, tag _, Xdr.decodeU32_append, ops, NfsFh4.reads short _,
    SeqidOp.ofOpcode_opcode, skips _, bind, Except.bind, pure, Except.pure]

section Builders

variable {fh : NfsFh4} {seqid : UInt32} {c start after : Compound}

/-- A step of the builder appends the operation with its seqid. -/
def Asks (op : SeqidOp) (seqid : UInt32) (start after : Compound) : Prop :=
  ∃ before, Reads op.skip () before ∧
    start.ops ++ (beU32 op.opcode ++ (before ++ beU32 seqid)) <+: after.ops

/-- A request on a handle whose further step asks for a seqid carries it. -/
theorem carries_of_asks {op : SeqidOp} {step : Compound → Except XdrError Compound}
    (asks : ∀ {start after}, step start = .ok after → Asks op seqid start after)
    (built : (Compound.new.putfh fh >>= step) = .ok c) : c.Carries op seqid := by
  rcases put : Compound.new.putfh fh with error | handle
  · simp [put, bind, Except.bind] at built
  · obtain ⟨short, rfl⟩ := putfh_inv put
    rw [put] at built
    obtain ⟨before, skips, rest, appended⟩ := asks built
    refine ⟨fh, before, rest, short, skips, ?_⟩
    rw [← appended]
    simp [Compound.new]

/-- An empty bitmap is one empty word. -/
theorem put_empty_bitmap (c : Compound) :
    c.put (buildBitmap []) = .ok { c with ops := c.ops ++ beU32 1 ++ beU32 0 } := rfl

/-- What follows the seqid of `OPEN` is appended to it. -/
theorem asks_open {clientid : UInt64} {owner : Bytes} {shareAccess : UInt32} {create : Bool}
    {name : String} (done : start.open seqid clientid owner shareAccess create name = .ok after) :
    Asks .open seqid start after := by
  refine ⟨[], fun _ => rfl, ?_⟩
  simp only [Compound.open, op_eq, put_u32, put_u64, bind, Except.bind] at done
  split at done
  · cases done
  · rename_i owned put
    refine .trans ?_ (.trans (put_bytes_appends put) ?_)
    · simp [SeqidOp.opcode]
    · cases create <;>
        simp only [put_empty_bitmap, ↓reduceIte, Bool.false_eq_true] at done
      · exact .trans (by simp) (put_string_appends done)
      · exact .trans (by simp) (put_string_appends done)

theorem asks_open_getfh {clientid : UInt64} {owner : Bytes} {shareAccess : UInt32} {create : Bool}
    {name : String}
    (done : (do
      let c ← start.open seqid clientid owner shareAccess create name
      c.getfh) = .ok after) : Asks .open seqid start after := by
  rcases opened : start.open seqid clientid owner shareAccess create name with error | c
  · simp [opened, bind, Except.bind] at done
  · simp only [opened, getfh, op_eq, bind, Except.bind, Except.ok.injEq] at done
    obtain ⟨before, skips, appended⟩ := asks_open opened
    subst done
    exact ⟨before, skips, appended.trans (List.prefix_append _ _)⟩

/-- `OPEN_CONFIRM` asks for its seqid. -/
theorem asks_openConfirm {stateid : Stateid4}
    (done : start.openConfirm stateid seqid = .ok after) :
    Asks .openConfirm seqid start after := by
  simp only [openConfirm, op_eq, put_stateid, put_u32, bind, Except.bind,
    Except.ok.injEq] at done
  subst done
  refine ⟨stateid.code, fun rest => ?_, by simp [SeqidOp.opcode]⟩
  simp only [SeqidOp.skip, stateid.reads rest, bind, Except.bind, pure, Except.pure]

theorem asks_close {stateid : Stateid4} (done : start.close seqid stateid = .ok after) :
    Asks .close seqid start after := by
  simp only [close, op_eq, put_stateid, put_u32, bind, Except.bind, Except.ok.injEq] at done
  subst done
  exact ⟨[], fun _ => rfl, by simp [SeqidOp.opcode]⟩

/-- A `LOCK` by a new lock-owner asks for the seqid of the open-owner. -/
theorem asks_lockNew {locktype lockSeqid : UInt32} {offset length clientid : UInt64}
    {openStateid : Stateid4} {lockOwner : Bytes}
    (done : start.lockNew locktype offset length seqid openStateid lockSeqid clientid lockOwner =
      .ok after) : Asks .lock seqid start after := by
  simp only [lockNew, op_eq, put_stateid, put_u32, put_u64, put_bool, bind, Except.bind] at done
  refine ⟨beU32 locktype ++ (beU32 (Xdr.boolWord false) ++ (Xdr.beU64 offset ++
    (Xdr.beU64 length ++ beU32 (Xdr.boolWord true)))), fun rest => ?_, ?_⟩
  · simp only [SeqidOp.skip, List.append_assoc, Xdr.decodeU32_append, Xdr.decodeU64_append,
      Xdr.reads_bool _ _, bind, Except.bind, pure, Except.pure]
  · refine .trans ?_ (put_bytes_appends done)
    simp [SeqidOp.opcode]

end Builders

end Compound

namespace CompoundReader

/-- A reading that goes on after a part that was read. -/
theorem run_bind_of_ok {α β : Type} {first : ReadM α} {next : α → ReadM β}
    {reader rest : CompoundReader} {value : α} (read : first.run reader = .ok (value, rest)) :
    (first >>= next).run reader = (next value).run rest := by
  rw [StateT.run_bind, read]
  rfl

/-- What a decoder reads, a reader of results takes. -/
theorem decode_of_reads {α : Type} [XdrDecode α] {value : α} {code : Bytes}
    (reads : Reads XdrDecode.decode value code) (rest : Bytes) :
    (decode : ReadM α).run ⟨code ++ rest⟩ = .ok (value, ⟨rest⟩) := by
  simp [decode, StateT.run, reads rest, bind, Except.bind, pure, Except.pure]

/-- The header of a result that did not fail. -/
theorem beginOp_header (opcode : UInt32) (rest : Bytes) :
    (beginOp opcode).run ⟨resultHeader opcode nfs4Ok ++ rest⟩ = .ok ((), ⟨rest⟩) := by
  rw [resultHeader, List.append_assoc, beginOp,
    run_bind_of_ok (decode_of_reads (Xdr.reads_u32 opcode) _)]
  simp only [ne_eq, not_true_eq_false, ↓reduceIte]
  rw [run_bind_of_ok (decode_of_reads (Xdr.reads_u32 nfs4Ok) _)]
  rfl

end CompoundReader

theorem bitmap_reads {words : List UInt32} (fits : words.length < 2 ^ 32) :
    Reads XdrDecode.decode words (bitmapCode words) := by
  refine Xdr.SizedTy.reads (.vec .u32) words ⟨trivial, ?_⟩ trivial ⟨fits, fun _ _ => trivial⟩
    ⟨trivial, fun _ _ => trivial⟩
  intro word code writes empty
  have same := congrArg List.length (writes.unique (fun _ => rfl : Writes _ word (beU32 word)))
  simp [empty] at same

namespace Nfs4

open CompoundReader

/-- The stateid of an operation after `PUTFH`. -/
theorem readStateid_ok (opcode : UInt32) (stateid : Stateid4) :
    (readStateid opcode).run' ⟨resultHeader opPutfh nfs4Ok ++
      (resultHeader opcode nfs4Ok ++ stateid.code)⟩ = .ok stateid := by
  have read := decode_of_reads stateid.reads []
  rw [List.append_nil] at read
  rw [StateT.run'_eq, readStateid, run_bind_of_ok (beginOp_header _ _),
    run_bind_of_ok (beginOp_header _ _), read]
  rfl

/-- The results of an `OPEN` that was followed by a successful `GETFH`: they are
read unless there is a delegation. -/
theorem readOpen_eq (opened : Opened) (stateid : Stateid4) (handle : Handle) :
    readOpen.run' ⟨resultHeader opPutfh nfs4Ok ++ (resultHeader opOpen nfs4Ok ++
      (opened.code stateid ++ (resultHeader opGetfh nfs4Ok ++ handle.fh.code)))⟩ =
      if opened.delegation = none then .ok (stateid, opened.rflags, handle.fh)
      else .error (.protocol "el servidor concedió una delegación (no soportado)") := by
  simp only [Opened.code, List.append_assoc]
  rw [StateT.run'_eq, readOpen, run_bind_of_ok (beginOp_header _ _),
    run_bind_of_ok (beginOp_header _ _), run_bind_of_ok (decode_of_reads stateid.reads _),
    run_bind_of_ok (decode_of_reads opened.cinfo.reads _),
    run_bind_of_ok (decode_of_reads (Xdr.reads_u32 _) _),
    run_bind_of_ok (decode_of_reads (bitmap_reads opened.attrsetFits) _)]
  rcases granted : opened.delegation with _ | delegation
  · have handled := decode_of_reads (NfsFh4.reads handle.short) []
    rw [List.append_nil] at handled
    rw [run_bind_of_ok (decode_of_reads (Xdr.reads_u32 0) _)]
    simp only [ne_eq, not_true_eq_false, ↓reduceIte]
    rw [run_bind_of_ok (beginOp_header _ _), run_bind_of_ok handled]
    rfl
  · rw [List.append_assoc, run_bind_of_ok (decode_of_reads (Xdr.reads_u32 _) _)]
    simp only [ne_eq, delegation.granted, not_false_eq_true, ↓reduceIte, reduceCtorEq]
    rfl

end Nfs4

end LibNfs.Proto
