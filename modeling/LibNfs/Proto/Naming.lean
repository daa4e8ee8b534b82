import LibNfs.Lib.Emits
import LibNfs.Proto.Recording

/-! # The names in the requests of a client

The component names that the requests of the NFSv4 client ask about, as a server
reads them, over a transport that records. Whatever the replies, a method names what
it was given and nothing else; a name that is too long to be encoded is not sent.
-/

namespace LibNfs.Proto

open Coding
open Xdr (XdrError)

/-- The component names among the arguments of an operation. -/
def ArgOp.names : ArgOp → List String
  | .create _ name _ | .link name | .lookup name | .remove name => [name]
  | .open _ _ _ _ _ _ name => [name]
  | .rename old new => [old, new]
  | .access .. | .close .. | .commit .. | .getattr .. | .getfh | .lock .. | .lockt .. | .locku ..
  | .openConfirm .. | .putfh .. | .putrootfh | .read .. | .readdir .. | .readlink | .renew ..
  | .savefh | .setattr .. | .write .. | .sequence .. => []

/-- The component names in a request, as a server of NFSv4 reads it. -/
def Sent.names (sent : Sent) : List String :=
  if sent.prog = program ∧ sent.vers = version4 ∧ sent.proc = compoundProc then
    match CompoundArgs.parse sent.args with
    | .ok args => args.ops.flatMap ArgOp.names
    | .error _ => []
  else
    []

/-- The component names in the requests sent so far. -/
def Recorded.names {τ : Type} (state : Recorded τ) : List String :=
  state.log.flatMap Sent.names

namespace Nfs4

variable {τ : Type} {transport : Transport τ} {ops : List ArgOp} {c : Compound}

/-- The names that the requests sent so far ask about. -/
def heard (nfs : Nfs4 (Recorded τ)) : List String :=
  nfs.rpc.names

/-- The program asks about these names, all of them once it returns, and about no other. -/
def Speaks {α : Type} (names : List String) (body : Prog (Nfs4 (Recorded τ)) ProtoError α) :
    Prop :=
  body.Emits Established heard {name | name ∈ names} {name | name ∈ names}

/-- An attempt sends the names of its operations. -/
theorem attempt_speaks (holds : c.Holds ops) (small : ops.length + 1 < 2 ^ 32) :
    (attempt transport.recorded c).Emits Established heard
      {name | name ∈ ops.flatMap ArgOp.names} {name | name ∈ ops.flatMap ArgOp.names} := by
  intro nfs final result established ended
  obtain ⟨after, args, parsed, grown⟩ := attempt_log holds small established ended
  have spoken : Sent.names ⟨program, version4, compoundProc, args⟩ = ops.flatMap ArgOp.names := by
    simp only [Sent.names, and_self, ↓reduceIte, parsed, intends, leading]
    split
    · rfl
    · cases nfs.sessionid <;> rfl
  have more : final.heard = nfs.heard ++ ops.flatMap ArgOp.names := by
    change final.rpc.log.flatMap Sent.names = _
    rw [grown, List.flatMap_append, List.flatMap_singleton, spoken]
    rfl
  exact ⟨after, _, more, fun _ member => member, fun _ _ _ member => member⟩

/-- Skipping the results of `SEQUENCE` sends nothing. -/
theorem ownResults_silent (reader : CompoundReader) {names : Set String} :
    (ownResults reader : Prog (Nfs4 (Recorded τ)) ProtoError _).Emits Established heard ∅
      names := by
  refine Prog.Emits.get_bind fun nfs _ => ?_
  split
  · exact (Prog.Emits.ofExcept _).andThen fun _ => Prog.Emits.pure _
  · exact Prog.Emits.pure _

/-- Whatever the replies, the attempts all ask about the same names. -/
theorem run_speaks (holds : c.Holds ops) (small : ops.length + 1 < 2 ^ 32) :
    Speaks (ops.flatMap ArgOp.names) (run transport.recorded c) := by
  suffices every : ∀ resends,
      Speaks (ops.flatMap ArgOp.names) (attempts transport.recorded c resends) from every maxResends
  have turn (again : UInt32 → Prog (Nfs4 (Recorded τ)) ProtoError CompoundReader)
      (follows : ∀ code, Speaks (ops.flatMap ArgOp.names) (again code)) :
      Speaks (ops.flatMap ArgOp.names) (runTurn transport.recorded c again) := by
    refine (attempt_speaks holds small).andThen fun outcome => ?_
    split
    · exact ownResults_silent _
    · split
      · exact (follows _).weaken (Set.empty_subset _) le_rfl
      · exact Prog.Emits.throw _
    · exact Prog.Emits.throw _
  intro resends
  induction resends with
  | zero => exact turn _ fun _ => Prog.Emits.throw _
  | succ resends ih => exact turn _ fun _ => ih

/-- A request that is built, or refused by the encoder, and what is done with it. -/
theorem speaks_built {α : Type} {built : Except XdrError Compound} {names : List String}
    {next : Compound → Prog (Nfs4 (Recorded τ)) ProtoError α}
    (settled : Compound.Settled built ops) (follows : ∀ c, c.Holds ops → Speaks names (next c)) :
    Speaks names (Prog.ofExcept (liftXdr built) >>= next) := by
  rcases settled with ⟨c, rfl, holds⟩ | ⟨error, rfl⟩
  · exact follows c holds
  · exact Prog.Emits.throw (ProtoError.xdr error)

/-- A request sends the names of its operations, however often it is tried. -/
theorem request_speaks {α : Type} {built : Except XdrError Compound} {read : ReadM α}
    (settled : Compound.Settled built ops) (small : ops.length + 1 < 2 ^ 32) :
    Speaks (ops.flatMap ArgOp.names) (request transport.recorded built read) :=
  speaks_built settled fun _ holds => (run_speaks holds small).andThen fun _ =>
    Prog.Emits.ofExcept _

/-- Counting an open-owner seqid sends nothing. -/
theorem advance_silent {names : Set String} :
    (advance : Prog (Nfs4 (Recorded τ)) ProtoError Unit).Emits Established heard ∅ names :=
  Prog.Emits.modify (fun _ established => established.advanced) fun _ => rfl

/-- A seqid request sends the names of its operations, however it ends. -/
theorem runStateful_speaks (opcode : UInt32) (holds : c.Holds ops)
    (small : ops.length + 1 < 2 ^ 32) :
    Speaks (ops.flatMap ArgOp.names) (runStateful transport.recorded opcode c) :=
  (run_speaks holds small).andThen fun _ => (Prog.Emits.ofExcept _).andThen fun _ =>
    advance_silent.andThen fun _ => Prog.Emits.pure _

open Compound

section Methods

variable (transport)

theorem getattr_speaks (fh : NfsFh4) : Speaks [] (getattr transport.recorded fh) :=
  request_speaks (settled_step holds_new (puts_putfh fh) fun _ holds =>
    settled_last holds (.inl (adds_getattr (by decide) attributesOf_buildBitmap.1))) (by simp)

/-- `lookup` sends the name that it looks up. -/
theorem lookup_speaks (dir : NfsFh4) (name : String) :
    Speaks [name] (lookup transport.recorded dir name) :=
  request_speaks (settled_lookup dir name) (by simp)

theorem readlink_speaks (fh : NfsFh4) : Speaks [] (readlink transport.recorded fh) :=
  request_speaks (settled_readlink fh) (by simp)

theorem setattr_speaks (fh : NfsFh4) (attrs : SetAttr4) :
    Speaks [] (setattr transport.recorded fh attrs) :=
  request_speaks (settled_setattr fh attrs) (by simp)

theorem readdir_speaks (dir : NfsFh4) (cookie : UInt64) (verf : Vector UInt8 8)
    (maxcount : UInt32) : Speaks [] (readdir transport.recorded dir cookie verf maxcount) :=
  request_speaks (settled_step holds_new (puts_putfh dir) fun _ holds =>
    settled_last holds (.inl (adds_readdir _ _ _ _))) (by simp)

/-- `mkdir` sends the name that it makes. -/
theorem mkdir_speaks (dir : NfsFh4) (name : String) :
    Speaks [name] (mkdir transport.recorded dir name) :=
  request_speaks (settled_mkdir dir name) (by simp)

/-- The target is not a component name. -/
theorem symlink_speaks (dir : NfsFh4) (name target : String) :
    Speaks [name] (symlink transport.recorded dir name target) := by
  have puts : Puts (createSymlink name target) (.create (.link target) name []) := by
    by_cases sized : Sized (Xdr.asBytes target)
    · refine puts_name (fun named => adds_createSymlink named sized) fun error refused c => ?_
      simp [createSymlink, put_text sized, refused, bind, Except.bind]
    · obtain ⟨error, refused⟩ := put_long sized
      refine .inr fun c => ⟨error, ?_⟩
      simp [createSymlink, refused, bind, Except.bind]
  exact request_speaks (settled_step holds_new (puts_putfh dir) fun _ holds =>
    settled_step holds puts fun _ holds => settled_last holds (.inl adds_getfh)) (by simp)

/-- `remove` sends the name that it removes. -/
theorem remove_speaks (dir : NfsFh4) (name : String) :
    Speaks [name] (remove transport.recorded dir name) :=
  request_speaks (settled_step holds_new (puts_putfh dir) fun _ holds =>
    settled_last holds (puts_name adds_remove fun error refused c => by
      simp [Compound.remove, refused, bind, Except.bind])) (by simp)

theorem link_speaks (file dir : NfsFh4) (name : String) :
    Speaks [name] (link transport.recorded file dir name) :=
  request_speaks (settled_step holds_new (puts_putfh file) fun _ holds =>
    settled_step holds (.inl adds_savefh) fun _ holds =>
      settled_step holds (puts_putfh dir) fun _ holds =>
        settled_last holds (puts_name adds_link fun error refused c => by
          simp [Compound.link, refused, bind, Except.bind])) (by simp)

/-- `rename` sends both names. -/
theorem rename_speaks (fromDir : NfsFh4) (fromName : String) (toDir : NfsFh4) (toName : String) :
    Speaks [fromName, toName] (rename transport.recorded fromDir fromName toDir toName) := by
  have puts : Puts (Compound.rename fromName toName) (.rename fromName toName) := by
    by_cases sized : Sized (Xdr.asBytes fromName)
    · refine puts_name (adds_rename sized) fun error refused c => ?_
      simp [Compound.rename, put_text sized, refused, bind, Except.bind]
    · obtain ⟨error, refused⟩ := put_long sized
      refine .inr fun c => ⟨error, ?_⟩
      simp [Compound.rename, refused, bind, Except.bind]
  exact request_speaks (settled_step holds_new (puts_putfh fromDir) fun _ holds =>
    settled_step holds (.inl adds_savefh) fun _ holds =>
      settled_step holds (puts_putfh toDir) fun _ holds => settled_last holds puts) (by simp)

/-- The confirmation of an open file asks about no name. -/
theorem confirm_speaks (fh : NfsFh4) (stateid : Stateid4) :
    Speaks [] (do
      let nfs ← Prog.get
      let c ← Prog.ofExcept (liftXdr (do
        let c ← Compound.new.putfh fh
        c.openConfirm stateid nfs.openSeqid))
      let stateid ← runStateful transport.recorded opOpenConfirm c
      return ⟨fh, stateid⟩ : Prog (Nfs4 (Recorded τ)) ProtoError OpenResult) := by
  refine Prog.Emits.get_bind fun nfs _ => ?_
  exact speaks_built (settled_confirm fh stateid nfs.openSeqid) fun _ holds =>
    (runStateful_speaks opOpenConfirm holds (by simp)).andThen fun _ => Prog.Emits.pure _

/-- `open` sends the name that it opens. -/
theorem open_speaks (dir : NfsFh4) (name : String) (shareAccess : UInt32) (create : Bool) :
    Speaks [name] (Nfs4.open transport.recorded dir name shareAccess create) := by
  refine Prog.Emits.get_bind fun nfs established => ?_
  refine speaks_built (settled_open established dir name shareAccess create) fun _ holds =>
    (run_speaks holds (by simp [Opening.ops])).andThen fun reader =>
      (Prog.Emits.ofExcept _).andThen fun opened => advance_silent.andThen fun _ => ?_
  split
  · exact (confirm_speaks transport _ _).weaken (Set.empty_subset _) (by simp)
  · exact Prog.Emits.pure _

end Methods

end Nfs4

end LibNfs.Proto
