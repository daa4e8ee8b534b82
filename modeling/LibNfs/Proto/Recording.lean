import LibNfs.Proto.Methods
import LibNfs.Proto.Serving3

/-! # The requests of a client

A transport that records the requests it is given, over any other transport. The
attributes that a request sets are those that the grammar of the server reads from
it. Whatever the replies, a method asks for its operations once for each attempt,
and a method that returns has made one.
-/

namespace LibNfs.Proto

open Coding
open Xdr (XdrError Ty)

/-- A request as it is sent. -/
structure Sent where
  prog : UInt32
  vers : UInt32
  proc : UInt32
  args : Bytes
  deriving DecidableEq, Repr

/-- A transport with what was asked over it. -/
structure Recorded (τ : Type) where
  world : τ
  log : List Sent

/-- Records a request and hands it on; arguments that have no encoding are not sent. -/
def Transport.recorded {τ : Type} (transport : Transport τ) : Transport (Recorded τ) where
  call prog vers proc args :=
    match args with
    | .error error => Prog.throw (.xdr error)
    | .ok request => ⟨fun state =>
        ((transport.call prog vers proc (.ok request)).run state.world).map fun (result, world) =>
          (result, ⟨world, state.log ++ [⟨prog, vers, proc, request⟩]⟩)⟩

/-- The attributes that the arguments of a procedure set. -/
def Proc3.sattr : (proc : Proc3) → proc.Args.Val → Option Sattr3
  | .setattr, args => some (.ofVal args.2.1)
  | .mkdir, args => some (.ofVal args.2.1)
  | .create, args =>
      match CreateHow3.ofVal args.2.1 with
      | .unchecked attrs | .guarded attrs => some attrs
      | .exclusive _ => some .unchanged
  | .getattr, _ | .lookup, _ | .readlink, _ | .read, _ | .write, _ | .fsinfo, _ | .commit, _ => none

/-- The attributes that a request sets, as a server of NFSv3 reads it. -/
def Sent.sattr (sent : Sent) : Option Sattr3 :=
  if sent.prog = program ∧ sent.vers = version3 then
    match Proc3.ofNumber sent.proc with
    | none => none
    | some proc =>
        match proc.Args.decode sent.args with
        | .ok (args, []) => proc.sattr args
        | .ok (_, _ :: _) | .error _ => none
  else
    none

/-- The attributes that an operation sets. -/
def ArgOp.sets : ArgOp → Option (List Attribute)
  | .setattr _ attrs => some attrs
  | .create _ _ attrs => some attrs
  | .open _ _ _ _ _ how _ =>
      match how with
      | .nocreate => none
      | .unchecked attrs | .guarded attrs => some attrs
      | .exclusive _ => some []
  | .access .. | .close .. | .commit .. | .getattr .. | .getfh | .link .. | .lock .. | .lockt ..
  | .locku .. | .lookup .. | .openConfirm .. | .putfh .. | .putrootfh | .read .. | .readdir ..
  | .readlink | .remove .. | .rename .. | .renew .. | .savefh | .write .. | .sequence .. => none

/-- The attributes that the operations of a request set, as a server of NFSv4 reads it. -/
def Sent.sets (sent : Sent) : List (List Attribute) :=
  if sent.prog = program ∧ sent.vers = version4 ∧ sent.proc = compoundProc then
    match CompoundArgs.parse sent.args with
    | .ok args => args.ops.filterMap ArgOp.sets
    | .error _ => []
  else
    []

/-- The attributes set by the requests sent so far. -/
def Recorded.sattrs {τ : Type} (state : Recorded τ) : List Sattr3 :=
  state.log.filterMap Sent.sattr

/-- The attributes that were set over NFSv4. -/
def Recorded.sets {τ : Type} (state : Recorded τ) : List (List Attribute) :=
  state.log.flatMap Sent.sets

namespace Proc3

/-- Arguments have an encoding, or the encoder refuses them. -/
def Settled (proc : Proc3) (args : proc.Args.Val) : Prop :=
  proc.Encodable args ∨ ∃ error, proc.Args.encode args [] = .error error

variable {fh : NfsFh3} {name : String}

theorem refuses_fh (long : ¬ fh.Short) (buf : Bytes) :
    ∃ error, NfsFh3.ty.encode fh.val buf = .error error := by
  have tooLong : fh.data.length > 64 := Nat.lt_of_not_le long
  have exceeds : fh.data.length > (64 : UInt64).toNat := tooLong
  refine ⟨.limitExceeded fh.data.length 64, ?_⟩
  simp only [NfsFh3.ty, NfsFh3.val, Ty.encode, Xdr.Fields.encode, encodePair, Xdr.encodeLimited,
    Xdr.SizedTy.xdrLen, Xdr.XdrLen.xdrLen, exceeds, ↓reduceIte, bind, Except.bind]
  rfl

theorem settled_fh : getattr.Settled fh.val := by
  by_cases short : fh.Short
  · exact .inl (encodable_getattr short)
  · exact .inr (refuses_fh short [])

/-- Whether the arguments of `SETATTR` can be written is settled. -/
theorem settled_setattr (attrs : Sattr3) : setattr.Settled (fh.val, attrs.val, none, ()) := by
  by_cases short : fh.Short
  · exact .inl (encodable_setattr attrs short)
  · obtain ⟨error, refused⟩ := refuses_fh short []
    exact .inr ⟨error, by
      simp only [Args, Ty.encode, Xdr.Fields.encode, encodePair, refused, bind, Except.bind]⟩

/-- Whether the arguments of `LOOKUP` can be written is settled. -/
theorem settled_lookup : lookup.Settled (fh.val, name, ()) := by
  by_cases short : fh.Short
  · by_cases sized : Sized (Xdr.asBytes name)
    · exact .inl (encodable_lookup short sized)
    · obtain ⟨error, refused⟩ := lookup_long short sized
      exact .inr ⟨error, refused []⟩
  · obtain ⟨error, refused⟩ := refuses_fh short []
    exact .inr ⟨error, by
      simp only [Args, DirOpArgs3.ty, Ty.encode, Xdr.Fields.encode, encodePair, refused, bind,
        Except.bind]⟩

/-- Arguments that start with a name in a directory. -/
theorem settled_where {proc : Proc3} {args : proc.Args.Val}
    (encodable : lookup.Encodable (fh.val, name, ()) → proc.Encodable args)
    (refuses : ∀ error, lookup.Args.encode (fh.val, name, ()) [] = .error error →
      proc.Args.encode args [] = .error error) : proc.Settled args := by
  rcases @settled_lookup fh name with encoded | ⟨error, refused⟩
  · exact .inl (encodable encoded)
  · exact .inr ⟨error, refuses error refused⟩

/-- Whether the arguments of `MKDIR` can be written is settled. -/
theorem settled_mkdir (attrs : Sattr3) : mkdir.Settled ((fh.val, name, ()), attrs.val, ()) := by
  refine settled_where (fun encoded => ⟨⟨encoded.1, attrs.lengths, trivial⟩, encoded.2,
    attrs.lengths, trivial⟩) fun error refused => ?_
  simp only [Args] at refused
  simp only [Args, Ty.encode, Xdr.Fields.encode, encodePair] at refused ⊢
  rw [refused]
  rfl

/-- Whether the arguments of `CREATE` can be written is settled. -/
theorem settled_create (how : CreateHow3) :
    create.Settled ((fh.val, name, ()), how.val, ()) := by
  refine settled_where (fun encoded => ⟨⟨encoded.1, how.lengths, trivial⟩, encoded.2, how.lengths,
    trivial⟩) fun error refused => ?_
  simp only [Args] at refused
  simp only [Args, Ty.encode, Xdr.Fields.encode, encodePair] at refused ⊢
  rw [refused]
  rfl

end Proc3

section Calls

variable {τ : Type} {transport : Transport τ}

/-- What is sent sets the attributes of the arguments. -/
theorem Nfs3.callAs_sets {α : Type} {proc : Proc3} {args : proc.Args.Val}
    {decode : Bytes → Except XdrError (α × Bytes)} (encodable : proc.Encodable args)
    (log : List Sattr3) :
    (transport.recorded.callAs program version3 proc.number (proc.Args.encode args []) decode).Meets
      (fun state => state.sattrs = log)
      fun _ state => state.sattrs = log ++ (proc.sattr args).toList := by
  have written := proc.Args.writes args encodable.1 encodable.2 []
  have read := proc.Args.reads args proc.args_occupied proc.args_distinct encodable.1 encodable.2
    []
  rw [List.append_nil] at read
  have sent : Sent.sattr ⟨program, version3, proc.number, proc.Args.code args⟩ =
      proc.sattr args := by
    simp only [Sent.sattr, and_self, ↓reduceIte, Proc3.ofNumber_number, read]
  have grown : (Prog.within id (fun next _ => next) ProtoError.rpc
      (transport.recorded.call program version3 proc.number
        (.ok (proc.Args.code args)))).Meets (fun state : Recorded τ => state.sattrs = log)
      fun _ state => state.sattrs = log ++ (proc.sattr args).toList := by
    refine Prog.Meets.within fun state next result before ended => ?_
    obtain ⟨⟨body, world⟩, -, same⟩ := Option.map_eq_some_iff.mp ended
    cases same
    change (state.log ++ _).filterMap Sent.sattr = _
    rw [List.filterMap_append, List.filterMap_cons, sent,
      show state.log.filterMap Sent.sattr = log from before]
    cases proc.sattr args <;> rfl
  rw [written, List.nil_append]
  exact Prog.Meets.bind _ grown.byCases fun _ =>
    Prog.Keeps.bind (Prog.Keeps.ofExcept _) fun _ => Prog.Keeps.pure _

/-- A call sets the attributes of its arguments, if it is sent. -/
theorem Nfs3.call_sets {proc : Proc3} {args : proc.Args.Val} (settled : proc.Settled args)
    (log : List Sattr3) :
    (Nfs3.call transport.recorded proc args).Meets (fun state => state.sattrs = log)
      (Prog.split (fun _ state => state.sattrs = log ++ (proc.sattr args).toList)
        fun _ state => state.sattrs = log ++ (proc.sattr args).toList ∨ state.sattrs = log) := by
  rcases settled with encodable | ⟨error, refused⟩
  · refine Prog.Meets.bind (fun _ state => state.sattrs = log ++ (proc.sattr args).toList)
      (Prog.Meets.onError (callAs_sets encodable log).byCases fun _ _ holds => .inl holds)
      fun result => ?_
    intro state final outcome before ended
    cases ended
    rcases result with value | status
    · exact before
    · exact .inl before
  · intro state final result before ended
    rw [Nfs3.call, refused] at ended
    cases ended
    exact .inr before

end Calls

namespace Compound

/-- The builder succeeds with these operations, or fails. -/
def Settled (built : Except XdrError Compound) (ops : List ArgOp) : Prop :=
  Builds built ops ∨ ∃ error, built = .error error

/-- The step adds an operation, or the encoder refuses it. -/
def Puts (step : Compound → Except XdrError Compound) (op : ArgOp) : Prop :=
  Adds step op ∨ ∀ c, ∃ error, step c = .error error

section Steps

variable {ops final : List ArgOp} {c : Compound} {op : ArgOp}
  {step next : Compound → Except XdrError Compound}

theorem puts_putfh (fh : NfsFh4) : Puts (putfh fh) (.putfh fh) := by
  by_cases short : fh.Short
  · exact .inl (adds_putfh short)
  · refine .inr fun c => ?_
    rcases put : putfh fh c with error | after
    · exact ⟨error, rfl⟩
    · exact (short (putfh_inv put).1).elim

/-- An operation on a name is put or refused with the name. -/
theorem puts_name {name : String} (adds : Sized (Xdr.asBytes name) → Adds step op)
    (refuses : ∀ error, (∀ c : Compound, c.put name = .error error) →
      ∀ c, step c = .error error) : Puts step op := by
  by_cases sized : Sized (Xdr.asBytes name)
  · exact .inl (adds sized)
  · obtain ⟨error, refused⟩ := Nfs4.put_long sized
    exact .inr fun c => ⟨error, refuses error refused c⟩

theorem settled_last (holds : Holds c ops) (puts : Puts step op) :
    Settled (step c) (ops ++ [op]) := by
  rcases puts with adds | refused
  · exact .inl (holds.step adds)
  · exact .inr (refused c)

/-- An operation in a request is settled with those after it. -/
theorem settled_step (holds : Holds c ops) (puts : Puts step op)
    (rest : ∀ c, Holds c (ops ++ [op]) → Settled (next c) final) :
    Settled (step c >>= next) final := by
  rcases puts with adds | refused
  · obtain ⟨after, built, grown⟩ := holds.step adds
    rw [built]
    exact rest after grown
  · obtain ⟨error, failed⟩ := refused c
    rw [failed]
    exact .inr ⟨error, rfl⟩

end Steps

theorem settled_lookup (dir : NfsFh4) (name : String) :
    Settled (do
      let c ← Compound.new.putfh dir
      let c ← c.lookup name
      let c ← c.getfh
      c.getattr requestAttrs)
      [.putfh dir, .lookup name, .getfh, .getattr Nfs4.requested] :=
  settled_step holds_new (puts_putfh dir) fun _ holds =>
    settled_step holds (puts_name adds_lookup fun error refused c => by
      simp [Compound.lookup, refused, bind, Except.bind]) fun _ holds =>
      settled_step holds (.inl adds_getfh) fun _ holds =>
        settled_last holds (.inl (adds_getattr (by decide) attributesOf_buildBitmap.1))

theorem settled_readlink (fh : NfsFh4) :
    Settled (do
      let c ← Compound.new.putfh fh
      c.readlink) [.putfh fh, .readlink] :=
  settled_step holds_new (puts_putfh fh) fun _ holds => settled_last holds (.inl adds_readlink)

/-- Whether a change of attributes can be sent is settled. -/
theorem settled_setattr (fh : NfsFh4) (attrs : SetAttr4) :
    Settled (do
      let c ← Compound.new.putfh fh
      c.setattr Stateid4.default attrs)
      [.putfh fh, .setattr Stateid4.default (Nfs4.setting attrs)] :=
  settled_step holds_new (puts_putfh fh) fun _ holds =>
    settled_last holds (.inl (adds_setattr _ attrs))

/-- Whether a directory can be asked for is settled. -/
theorem settled_mkdir (dir : NfsFh4) (name : String) :
    Settled (do
      let c ← Compound.new.putfh dir
      let c ← c.createDir name
      c.getfh) [.putfh dir, .create .dir name [], .getfh] :=
  settled_step holds_new (puts_putfh dir) fun _ holds =>
    settled_step holds (puts_name adds_createDir fun error refused c => by
      simp [Compound.createDir, refused, bind, Except.bind]) fun _ holds =>
      settled_last holds (.inl adds_getfh)

/-- Whether a confirmation can be sent is settled. -/
theorem settled_confirm (fh : NfsFh4) (stateid : Stateid4) (seqid : UInt32) :
    Settled (do
      let c ← Compound.new.putfh fh
      c.openConfirm stateid seqid) [.putfh fh, .openConfirm stateid seqid] :=
  settled_step holds_new (puts_putfh fh) fun _ holds =>
    settled_last holds (.inl (adds_openConfirm _ _))

theorem settled_open {τ : Type} {nfs : Nfs4 τ} (established : nfs.Established) (dir : NfsFh4)
    (name : String) (shareAccess : UInt32) (create : Bool) :
    Settled (do
      let c ← Compound.new.putfh dir
      let c ← c.open nfs.openSeqid nfs.clientid nfs.owner shareAccess create name
      c.getfh) (Nfs4.Opening.ops ⟨dir, name, shareAccess, create⟩ nfs) := by
  have puts : Puts (Compound.open nfs.openSeqid nfs.clientid nfs.owner shareAccess create name)
      (Nfs4.Opening.op ⟨dir, name, shareAccess, create⟩ nfs) :=
    puts_name (adds_open _ _ _ _ established.sized) fun error refused c => by
      cases create <;>
        simp [Compound.open, established.sized, refused, put_empty_bitmap, bind, Except.bind]
  exact settled_step holds_new (puts_putfh dir) fun _ holds =>
    settled_step holds puts fun _ holds => settled_last holds (.inl adds_getfh)

end Compound

section Requests

variable {τ : Type} {transport : Transport τ} {ops : List ArgOp} {c : Compound}

/-- The requests sent so far set these attributes. -/
def Nfs4.Showing (log : List (List Attribute)) (nfs : Nfs4 (Recorded τ)) : Prop :=
  nfs.Established ∧ nfs.rpc.sets = log

/-- The requests of a method: it has asked for its operations some number of times. -/
def Nfs4.Asked (log : List (List Attribute)) (ops : List ArgOp) (times : Nat)
    (nfs : Nfs4 (Recorded τ)) : Prop :=
  Showing (log ++ (List.replicate times (ops.filterMap ArgOp.sets)).flatten) nfs

namespace Nfs4

variable {log : List (List Attribute)} {times : Nat}

/-- A client that shows a log has asked for nothing since. -/
theorem Showing.asked {nfs : Nfs4 (Recorded τ)} (showing : Showing log nfs) :
    Asked log ops 0 nfs := by
  rw [Asked, List.replicate_zero, List.flatten_nil, List.append_nil]
  exact showing

/-- Operations that set nothing leave no trace. -/
theorem Asked.silent {nfs : Nfs4 (Recorded τ)} (silent : ops.filterMap ArgOp.sets = [])
    (asked : Asked log ops times nfs) : Showing log nfs := by
  have none : (List.replicate times ([] : List (List Attribute))).flatten = [] :=
    List.flatten_eq_nil_iff.mpr fun _ member => List.eq_of_mem_replicate member
  rwa [Asked, silent, none, List.append_nil] at asked

/-- An attempt adds one request to the log, in which a server reads the operations that are
meant. -/
theorem attempt_log {nfs final : Nfs4 (Recorded τ)}
    {result : Except ProtoError (Except ProtoError CompoundReader)} (holds : c.Holds ops)
    (small : ops.length + 1 < 2 ^ 32) (established : nfs.Established)
    (ended : (attempt transport.recorded c).run nfs = some (result, final)) :
    final.Established ∧ ∃ args, CompoundArgs.parse args = .ok (nfs.intends ops) ∧
      final.rpc.log = nfs.rpc.log ++ [⟨program, version4, compoundProc, args⟩] := by
  obtain ⟨args, assembled, parsed⟩ := assemble_ok established holds small
  have exchanged : ∀ outcome next, (exchange transport.recorded c).run nfs = some (outcome, next) →
      next.Established ∧
        next.rpc.log = nfs.rpc.log ++ [⟨program, version4, compoundProc, args⟩] := by
    intro outcome next sent
    rw [exchange, Prog.bind_of_ok assembled] at sent
    obtain ⟨⟨reply, rpc⟩, called, same⟩ := Option.map_eq_some_iff.mp sent
    obtain ⟨⟨body, world⟩, -, recorded⟩ := Option.map_eq_some_iff.mp called
    cases recorded
    cases same
    exact ⟨⟨established.version, established.named⟩, rfl⟩
  have both : final.Established ∧
      final.rpc.log = nfs.rpc.log ++ [⟨program, version4, compoundProc, args⟩] := by
    rcases Prog.bind_eq_some ended with ⟨error, failed, -⟩ | ⟨reply, mid, done, rest⟩
    · exact exchanged _ _ failed
    · cases rest
      exact exchanged _ _ done
  exact ⟨both.1, args, parsed, both.2⟩

theorem attempt_asks (holds : c.Holds ops) (small : ops.length + 1 < 2 ^ 32) :
    (attempt transport.recorded c).Meets (Asked log ops times)
      fun _ => Asked log ops (times + 1) := by
  intro nfs final result asked ended
  obtain ⟨established, before⟩ := asked
  obtain ⟨after, args, parsed, grown⟩ := attempt_log holds small established ended
  have sets : Sent.sets ⟨program, version4, compoundProc, args⟩ = ops.filterMap ArgOp.sets := by
    simp only [Sent.sets, and_self, ↓reduceIte, parsed, intends, leading]
    split
    · rfl
    · cases nfs.sessionid <;> rfl
  refine ⟨after, ?_⟩
  change final.rpc.log.flatMap Sent.sets = _
  rw [grown, List.flatMap_append, show nfs.rpc.log.flatMap Sent.sets = _ from before,
    List.replicate_succ', List.flatten_append, List.append_assoc]
  simp [sets]

theorem keeps_ownResults {invariant : Nfs4 τ → Prop} (reader : CompoundReader) :
    (ownResults reader).Keeps invariant := by
  refine Prog.Keeps.bind Prog.Keeps.get fun nfs => ?_
  split
  · exact Prog.Keeps.bind (Prog.Keeps.ofExcept _) fun _ => Prog.Keeps.pure _
  · exact Prog.Keeps.pure _

/-- Running a request asks for its operations, once at least. -/
theorem run_asks (holds : c.Holds ops) (small : ops.length + 1 < 2 ^ 32) :
    (run transport.recorded c).Meets (Asked log ops times)
      fun _ nfs => ∃ more, Asked log ops (times + more + 1) nfs := by
  suffices every : ∀ resends times, (attempts transport.recorded c resends).Meets
      (Asked log ops times) fun _ nfs => ∃ more, Asked log ops (times + more + 1) nfs from
    every maxResends times
  have turn (times : Nat) (again : UInt32 → Prog (Nfs4 (Recorded τ)) ProtoError CompoundReader)
      (follows : ∀ code, (again code).Meets (Asked log ops (times + 1))
        fun _ nfs => ∃ more, Asked log ops (times + more + 1) nfs) :
      (runTurn transport.recorded c again).Meets (Asked log ops times)
        fun _ nfs => ∃ more, Asked log ops (times + more + 1) nfs := by
    refine Prog.Meets.bind (fun _ => Asked log ops (times + 1))
      (Prog.Meets.onError (attempt_asks holds small).byCases fun _ _ asked => ⟨0, asked⟩) ?_
    intro outcome
    split
    · exact Prog.Meets.weaken (keeps_ownResults _) (fun _ asked => asked)
        fun _ _ asked => ⟨0, asked⟩
    · split
      · exact follows _
      · exact Prog.Meets.throw fun _ asked => ⟨0, asked⟩
    · exact Prog.Meets.throw fun _ asked => ⟨0, asked⟩
  intro resends
  induction resends with
  | zero => exact fun times => turn times _ fun _ => Prog.Meets.throw fun _ asked => ⟨0, asked⟩
  | succ resends ih =>
      intro times
      refine turn times _ fun _ => Prog.Meets.weaken (ih (times + 1)) (fun _ asked => asked) ?_
      rintro _ nfs ⟨more, asked⟩
      exact ⟨more + 1, by rwa [show times + (more + 1) + 1 = times + 1 + more + 1 by omega]⟩

/-- A request that returns has asked for its operations. -/
theorem request_asks {α : Type} {built : Except XdrError Compound} {read : ReadM α}
    (settled : Compound.Settled built ops) (small : ops.length + 1 < 2 ^ 32) :
    (request transport.recorded built read).Meets (Asked log ops 0)
      (Prog.split (fun _ nfs => ∃ more, Asked log ops (more + 1) nfs)
        fun _ nfs => ∃ more, Asked log ops more nfs) := by
  rcases settled with ⟨c, rfl, holds⟩ | ⟨error, rfl⟩
  · have ran := @run_asks τ transport ops c log 0 holds small
    simp only [Nat.zero_add] at ran
    refine Prog.Meets.bind (fun value nfs => value = c ∧ Asked log ops 0 nfs) ?_ fun value =>
      Prog.Meets.assuming ?_
    · intro nfs final result asked ended
      cases ended
      exact ⟨rfl, asked⟩
    · rintro rfl
      refine Prog.Meets.bind (fun _ nfs => ∃ more, Asked log ops (more + 1) nfs)
        (Prog.Meets.onError ran.byCases fun _ _ asked => ?_) fun reader => ?_
      · obtain ⟨more, asked⟩ := asked
        exact ⟨more + 1, asked⟩
      · intro nfs final result asked ended
        cases ended
        rcases read.run' reader with error | value
        · obtain ⟨more, asked⟩ := asked
          exact ⟨more + 1, asked⟩
        · exact asked
  · intro nfs final result asked ended
    cases ended
    exact ⟨0, asked⟩

/-- A request that sets nothing. -/
theorem keeps_request {α : Type} {built : Except XdrError Compound} {read : ReadM α}
    (settled : Compound.Settled built ops) (small : ops.length + 1 < 2 ^ 32)
    (silent : ops.filterMap ArgOp.sets = []) :
    (request transport.recorded built read).Keeps (Showing log) := by
  intro nfs final result showing ended
  have after := request_asks settled small nfs final result showing.asked ended
  cases result with
  | ok value =>
      obtain ⟨more, asked⟩ := after
      exact asked.silent silent
  | error error =>
      obtain ⟨more, asked⟩ := after
      exact asked.silent silent

/-- A request that counts and sets nothing shows the log unchanged. -/
theorem keeps_runStateful (opcode : UInt32) (holds : c.Holds ops) (small : ops.length + 1 < 2 ^ 32)
    (silent : ops.filterMap ArgOp.sets = []) :
    (runStateful transport.recorded opcode c).Keeps (Showing log) := by
  have ran : (run transport.recorded c).Keeps (Showing log) := by
    intro nfs final result showing ended
    obtain ⟨more, asked⟩ := run_asks holds small nfs final result showing.asked ended
    exact asked.silent silent
  refine Prog.Keeps.bind ran fun reader => Prog.Keeps.bind (Prog.Keeps.ofExcept _) fun stateid =>
    Prog.Keeps.bind (Prog.Keeps.modify fun nfs showing => ?_) fun _ => Prog.Keeps.pure _
  exact ⟨⟨showing.1.version, showing.1.named⟩, showing.2⟩

/-- The confirmation of an open file sets nothing. -/
theorem keeps_confirm (fh : NfsFh4) (stateid : Stateid4) :
    (do
      let nfs ← Prog.get
      let c ← Prog.ofExcept (liftXdr (do
        let c ← Compound.new.putfh fh
        c.openConfirm stateid nfs.openSeqid))
      let stateid ← runStateful transport.recorded opOpenConfirm c
      return ⟨fh, stateid⟩ : Prog (Nfs4 (Recorded τ)) ProtoError OpenResult).Keeps
      (Showing log) := by
  refine Prog.Keeps.bind Prog.Keeps.get fun nfs => ?_
  rcases Compound.settled_confirm fh stateid nfs.openSeqid with ⟨c, built, holds⟩ | ⟨error, failed⟩
  · rw [built]
    intro before final result showing ended
    rw [Prog.bind_of_ok (rfl : (Prog.ofExcept (liftXdr (.ok c))).run before = _)] at ended
    exact Prog.Keeps.bind (keeps_runStateful opOpenConfirm holds (by simp) rfl)
      (fun _ => Prog.Keeps.pure _) before final result showing ended
  · rw [failed]
    intro before final result showing ended
    cases ended
    exact showing

/-- An open that creates asks for a file without attributes. -/
theorem open_asks (dir : NfsFh4) (name : String) (shareAccess : UInt32) :
    (Nfs4.open transport.recorded dir name shareAccess true).Meets (Showing log)
      (Prog.split (fun _ nfs => ∃ more, Showing (log ++ List.replicate (more + 1) []) nfs)
        fun _ _ => True) := by
  refine Prog.Meets.get_bind fun nfs => ?_
  intro state final result before ended
  obtain ⟨showing, rfl⟩ := before
  have settled := Compound.settled_open showing.1 dir name shareAccess true
  rcases settled with ⟨c, built, holds⟩ | ⟨error, failed⟩
  · rw [built, Prog.bind_of_ok (rfl : (Prog.ofExcept (liftXdr (.ok c))).run state = _)] at ended
    have ran : (run transport.recorded c).Meets (Showing log)
        (Prog.split (fun _ nfs => ∃ more, Showing (log ++ List.replicate (more + 1) []) nfs)
          fun _ _ => True) := by
      intro nfs final outcome showing ended
      obtain ⟨more, asked⟩ := run_asks holds (by simp [Opening.ops]) nfs final outcome showing.asked
        ended
      have sets : (Opening.ops ⟨dir, name, shareAccess, true⟩ state).filterMap ArgOp.sets = [[]] :=
        rfl
      rw [Asked, sets, List.flatten_replicate_singleton, Nat.zero_add] at asked
      cases outcome with
      | ok reader => exact ⟨more, asked⟩
      | error error => trivial
    refine Prog.Meets.bind _ ran (fun reader => ?_) state final result showing ended
    refine Prog.Meets.onError (Prog.Meets.byCases (Prog.Keeps.bind (Prog.Keeps.ofExcept _)
      fun opened => Prog.Keeps.bind (Prog.Keeps.modify ?_) fun _ => ?_)) fun _ _ _ => trivial
    · rintro nfs ⟨more, established, sets⟩
      exact ⟨more, ⟨established.version, established.named⟩, sets⟩
    · split
      · exact Prog.Keeps.some fun more => keeps_confirm _ _
      · exact Prog.Keeps.pure _
  · rw [failed] at ended
    cases ended
    trivial

end Nfs4

end Requests

end LibNfs.Proto
