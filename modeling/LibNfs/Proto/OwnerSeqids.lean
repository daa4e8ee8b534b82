import LibNfs.Lib.Simulation
import LibNfs.Proto.Methods

/-! # Servers that count seqids

Around a server of operations, the one that RFC 7530, section 9.1.7, asks for: in NFSv4.0 an
operation of the open-owner that carries the next seqid is executed and remembered, one that
carries the last seqid gets the remembered reply again, and any other is refused. There is one
open-owner, that of the client. While the client is in step with such a server, it makes no
difference to its requests.
-/

namespace LibNfs.Proto

/-- The seqid of the open-owner that an operation carries. -/
def ArgOp.openSeqid : ArgOp → Option UInt32
  | .open seqid .. | .openConfirm _ seqid | .close seqid _ => some seqid
  | .lock _ _ _ _ (.fresh seqid ..) => some seqid
  | .lock _ _ _ _ (.existing ..) | .access .. | .commit .. | .create .. | .getattr .. | .getfh
  | .link .. | .lockt .. | .locku .. | .lookup .. | .putfh .. | .putrootfh | .read .. | .readdir ..
  | .readlink | .remove .. | .rename .. | .renew .. | .savefh | .setattr .. | .write ..
  | .sequence .. => none

/-- An operation carries no seqid of the open-owner. -/
def ArgOp.Unnumbered (op : ArgOp) : Prop :=
  op.openSeqid = none

/-- The last operation of the open-owner that was counted: its seqid, what it came to, and the
state of the server after it. -/
structure Remembered (S : Type) where
  seqid : UInt32
  op : ArgOp
  outcome : Except Failure (Success op)
  left : S

/-- A server with the minor version of the request it is at, and what it remembers. -/
structure SeqidState (S : Type) where
  inner : S
  minor : UInt32
  last : Option (Remembered S)

/-- A seqid is the one that the server expects. -/
def SeqidState.Expects {S : Type} (state : SeqidState S) (seqid : UInt32) : Prop :=
  state.minor = 0 → ∀ last, state.last = some last → seqid = last.seqid + 1

/-- `NFS4ERR_BAD_SEQID`. -/
def badSeqid : Failure :=
  ⟨nfs4errBadSeqid, by decide⟩

namespace OpServer

section Counting

variable {S : Type} (server : OpServer S) (reseat : S → S → S) (op : ArgOp) (seqid : UInt32)

/-- The operation of the server inside. -/
def passed : Prog (SeqidState S) Failure (Success op) :=
  Prog.within (·.inner) (fun next state => { state with inner := next }) id (server.exec op)

variable {op} in
/-- What is remembered of an operation, unless its status is one of those that are not counted. -/
def remembering (outcome : Except Failure (Success op)) (state : SeqidState S) : SeqidState S :=
  match outcome with
  | .ok _ => { state with last := some ⟨seqid, op, outcome, state.inner⟩ }
  | .error failure =>
      if failure.status ∈ uncounted then state
      else { state with last := some ⟨seqid, op, outcome, state.inner⟩ }

/-- Executes an operation and counts it. -/
def executing : Prog (SeqidState S) Failure (Success op) := do
  let outcome ← Prog.outcome (passed server op)
  Prog.modify (remembering seqid outcome)
  Prog.ofExcept outcome

/-- Gives the remembered reply again; a success is one of the same operation, after which the
request goes on from the object that it led to. -/
def repeating (last : Remembered S) : Prog (SeqidState S) Failure (Success op) :=
  match last.outcome with
  | .error failure => Prog.throw failure
  | .ok success =>
      if same : last.op = op then do
        Prog.modify fun state => { state with inner := reseat last.left state.inner }
        return same ▸ success
      else
        Prog.throw badSeqid

/-- Compares a seqid with the last one. -/
def counting (state : SeqidState S) : Prog (SeqidState S) Failure (Success op) :=
  match state.last with
  | none => executing server op seqid
  | some last =>
      if seqid = last.seqid + 1 then executing server op seqid
      else if seqid = last.seqid then repeating reseat op last
      else Prog.throw badSeqid

/-- The server that counts; `reseat` takes from the state after an operation the object that it
led to. -/
def counted : OpServer (SeqidState S) where
  receive args state :=
    { state with inner := server.receive args state.inner, minor := args.minor }
  exec op :=
    match op.openSeqid with
    | none => passed server op
    | some seqid => do
        let state ← Prog.get
        if state.minor = 0 then counting server reseat op seqid state else passed server op

end Counting

variable {S : Type} {server : OpServer S} {reseat : S → S → S} {op : ArgOp} {ops : List ArgOp}
  {state : SeqidState S}

theorem exec_unnumbered (unnumbered : op.Unnumbered) :
    (server.counted reseat).exec op = passed server op := by
  simp only [counted, show op.openSeqid = none from unnumbered]

/-- Operations without a seqid are executed by the server inside. -/
theorem perform_unnumbered (unnumbered : ∀ op ∈ ops, op.Unnumbered) :
    ((server.counted reseat).perform ops).run state =
      ((server.perform ops).run state.inner).map fun ended =>
        (ended.1, { state with inner := ended.2 }) := by
  induction ops generalizing state with
  | nil => rfl
  | cons op ops ih =>
      rw [perform, perform, exec_unnumbered (unnumbered op List.mem_cons_self), Prog.bind_apply,
        Prog.bind_apply, passed, Prog.within]
      dsimp only
      rcases (server.exec op).run state.inner with _ | ⟨failure | success, mid⟩
      · rfl
      · rfl
      · simp only [Option.map_some, Except.mapError, Prog.bind_apply]
        rw [ih fun other member => unnumbered other (List.mem_cons_of_mem op member)]
        rcases (server.perform ops).run mid with _ | ⟨failure | others, final⟩ <;> rfl

/-- A counted operation does what it does on the server inside. -/
theorem exec_counted {seqid : UInt32} (carries : op.openSeqid = some seqid)
    (expects : state.Expects seqid) {outcome : Except Failure (Success op)} {next : S}
    (ran : (server.exec op).run state.inner = some (outcome, next)) :
    ∃ last, ((server.counted reseat).exec op).run state =
        some (outcome, ⟨next, state.minor, last⟩) ∧
      (∀ success, outcome = .ok success → state.minor = 0 →
        ∀ remembered, last = some remembered → remembered.seqid = seqid) := by
  have inside : (passed server op).run state = some (outcome, { state with inner := next }) := by
    rw [passed, Prog.within]
    simp only [ran, Option.map_some]
    cases outcome <;> rfl
  by_cases zero : state.minor = 0
  · have counts : ((server.counted reseat).exec op).run state =
        (executing server op seqid).run state := by
      simp only [counted, carries]
      rw [Prog.bind_of_ok (rfl : Prog.get.run state = _), if_pos zero, counting]
      rcases known : state.last with _ | last
      · rfl
      · dsimp only
        rw [if_pos (expects zero last known)]
    have executed : (executing server op seqid).run state =
        some (outcome, remembering seqid outcome { state with inner := next }) := by
      rw [executing, Prog.bind_of_ok (Prog.outcome_of inside)]
      exact Prog.bind_of_ok rfl
    refine ⟨(remembering seqid outcome { state with inner := next }).last, ?_, ?_⟩
    · rw [counts, executed]
      cases outcome with
      | ok success => rfl
      | error failure =>
          rw [remembering]
          split <;> rfl
    · rintro success rfl _ remembered same
      cases same
      rfl
  · refine ⟨state.last, ?_, fun _ _ isZero => absurd isZero zero⟩
    simp only [counted, carries]
    rw [Prog.bind_of_ok (rfl : Prog.get.run state = _), if_neg zero]
    exact inside

/-- What a request comes to: its first operation fails, or the others are executed after it. -/
theorem perform_cons_inv {state next : S} {outcome : Except Failure (Results (op :: ops))}
    (ran : (server.perform (op :: ops)).run state = some (outcome, next)) :
    (∃ failure, outcome = .error failure ∧
        (server.exec op).run state = some (.error failure, next)) ∨
      ∃ success mid rest, (server.exec op).run state = some (.ok success, mid) ∧
        (server.perform ops).run mid = some (rest, next) ∧
        outcome = rest.map fun others => (success, others) := by
  rcases Prog.bind_eq_some ran with ⟨failure, failed, rfl⟩ | ⟨success, mid, executed, ran⟩
  · exact .inl ⟨failure, rfl, failed⟩
  · rcases Prog.bind_eq_some ran with ⟨failure, failed, rfl⟩ | ⟨others, final, performed, ran⟩
    · exact .inr ⟨success, mid, .error failure, executed, failed, rfl⟩
    · cases ran
      exact .inr ⟨success, mid, .ok others, executed, performed, rfl⟩

/-- A request goes on after an operation that succeeded. -/
theorem perform_cons {state mid next : S} {success : Success op} {rest : Except Failure (Results ops)}
    (begun : (server.exec op).run state = some (.ok success, mid))
    (performed : (server.perform ops).run mid = some (rest, next)) :
    (server.perform (op :: ops)).run state =
      some (rest.map fun others => (success, others), next) := by
  cases rest with
  | ok others => exact perform_cons_ok server begun performed
  | error failure => exact perform_cons_error server begun performed

/-- The outcome of a request, when it succeeded, leaves the last operation remembered under a
seqid. -/
def Remembers {α : Type} (seqid : UInt32) (outcome : Except Failure α)
    (state : SeqidState S) : Prop :=
  ∀ value, outcome = .ok value → state.minor = 0 →
    ∀ last, state.last = some last → last.seqid = seqid

/-- A request that begins with a counted operation does what it does on the server inside. -/
theorem perform_counted {seqid : UInt32} (carries : op.openSeqid = some seqid)
    (others : ∀ other ∈ ops, other.Unnumbered) (expects : state.Expects seqid)
    {outcome : Except Failure (Results (op :: ops))} {next : S}
    (ran : (server.perform (op :: ops)).run state.inner = some (outcome, next)) :
    ∃ last, ((server.counted reseat).perform (op :: ops)).run state =
        some (outcome, ⟨next, state.minor, last⟩) ∧
      Remembers seqid outcome (⟨next, state.minor, last⟩ : SeqidState S) := by
  rcases perform_cons_inv ran with
    ⟨failure, rfl, failed⟩ | ⟨success, mid, rest, executed, performed, rfl⟩
  · obtain ⟨last, counts, -⟩ :=
      @exec_counted S server reseat op state seqid carries expects _ _ failed
    exact ⟨last, perform_fails _ counts, fun _ same => by cases same⟩
  · obtain ⟨last, counts, remembers⟩ :=
      @exec_counted S server reseat op state seqid carries expects _ _ executed
    have after := @perform_unnumbered S server reseat ops ⟨mid, state.minor, last⟩ others
    rw [performed] at after
    exact ⟨last, perform_cons counts after, fun _ _ => remembers success rfl⟩

/-- An operation without a seqid may come first. -/
theorem perform_second {first : ArgOp} {seqid : UInt32} (unnumbered : first.Unnumbered)
    (carries : op.openSeqid = some seqid) (others : ∀ other ∈ ops, other.Unnumbered)
    (expects : state.Expects seqid) {outcome : Except Failure (Results (first :: op :: ops))}
    {next : S} (ran : (server.perform (first :: op :: ops)).run state.inner = some (outcome, next)) :
    ∃ last, ((server.counted reseat).perform (first :: op :: ops)).run state =
        some (outcome, ⟨next, state.minor, last⟩) ∧
      Remembers seqid outcome (⟨next, state.minor, last⟩ : SeqidState S) := by
  have passes {result : Except Failure (Success first)} {mid : S}
      (executed : (server.exec first).run state.inner = some (result, mid)) :
      ((server.counted reseat).exec first).run state =
        some (result, { state with inner := mid }) := by
    rw [exec_unnumbered unnumbered, passed, Prog.within]
    simp only [executed, Option.map_some]
    cases result <;> rfl
  rcases perform_cons_inv ran with
    ⟨failure, rfl, failed⟩ | ⟨success, mid, rest, executed, performed, rfl⟩
  · exact ⟨state.last, perform_fails _ (passes failed), fun _ same => by cases same⟩
  · obtain ⟨last, counts, remembers⟩ := @perform_counted S server reseat op ops
      { state with inner := mid } seqid carries others expects rest next performed
    refine ⟨last, perform_cons (passes executed) counts, ?_⟩
    intro results same
    cases rest with
    | error failure => cases same
    | ok others => exact remembers others rfl

end OpServer

/-- A failure does not make the client try again. -/
def Lasts (failure : Failure) : Prop :=
  ¬ (failure.status = nfs4errGrace ∨ failure.status = nfs4errDelay)

/-- The operations of the requests that open and close a file. -/
def ArgOp.Opens : ArgOp → Prop
  | .sequence .. | .putfh .. | .getfh | .open .. | .openConfirm .. | .close .. => True
  | .access .. | .commit .. | .create .. | .getattr .. | .link .. | .lock .. | .lockt ..
  | .locku .. | .lookup .. | .putrootfh | .read .. | .readdir .. | .readlink | .remove ..
  | .rename .. | .renew .. | .savefh | .setattr .. | .write .. => False

namespace OpServer

variable {S : Type} {server : OpServer S}

/-- No failure to open or to close a file is for a time only. -/
def Lasting (server : OpServer S) : Prop :=
  ∀ op : ArgOp, op.Opens → ∀ state failure next,
    (server.exec op).run state = some (.error failure, next) → Lasts failure

theorem lasts_perform (lasting : server.Lasting) {ops : List ArgOp} (opens : ∀ op ∈ ops, op.Opens)
    {state next : S} {failure : Failure}
    (failed : (server.perform ops).run state = some (.error failure, next)) : Lasts failure := by
  induction ops generalizing state with
  | nil => cases failed
  | cons op ops ih =>
      rcases perform_cons_inv failed with
        ⟨other, same, executed⟩ | ⟨success, mid, rest, -, performed, same⟩
      · cases same
        exact lasting op (opens op List.mem_cons_self) _ _ _ executed
      · cases rest with
        | ok others => cases same
        | error other =>
            cases same
            exact ih (fun op member => opens op (List.mem_cons_of_mem _ member)) performed

end OpServer

namespace Nfs4

variable {S : Type} {server : OpServer S} {reseat : S → S → S} {nfs : Nfs4 (SeqidState S)}

/-- The client of the server inside. -/
def plain (nfs : Nfs4 (SeqidState S)) : Nfs4 S :=
  { nfs with rpc := nfs.rpc.inner }

/-- The next seqid of the client is the one that the server expects. -/
def InStep (nfs : Nfs4 (SeqidState S)) : Prop :=
  nfs.minor = 0 → ∀ last, nfs.rpc.last = some last → nfs.openSeqid = last.seqid + 1

instance (nfs : Nfs4 (SeqidState S)) : Decidable nfs.InStep :=
  decidable_of_iff
    (nfs.minor = 0 → nfs.rpc.last.all fun last => decide (nfs.openSeqid = last.seqid + 1))
    (by simp only [InStep, Option.all_eq_true, decide_eq_true_eq])

/-- Nothing was counted between two states of a client. -/
structure Uncounted (nfs next : Nfs4 (SeqidState S)) : Prop where
  minor : next.minor = nfs.minor
  openSeqid : next.openSeqid = nfs.openSeqid
  last : next.rpc.last = nfs.rpc.last

theorem Uncounted.refl (nfs : Nfs4 (SeqidState S)) : nfs.Uncounted nfs :=
  ⟨rfl, rfl, rfl⟩

theorem Uncounted.trans {mid next : Nfs4 (SeqidState S)} (first : nfs.Uncounted mid)
    (second : mid.Uncounted next) : nfs.Uncounted next :=
  ⟨second.minor.trans first.minor, second.openSeqid.trans first.openSeqid,
    second.last.trans first.last⟩

theorem InStep.uncounted {next : Nfs4 (SeqidState S)} (inStep : nfs.InStep)
    (uncounted : nfs.Uncounted next) : next.InStep := by
  intro zero last known
  rw [uncounted.openSeqid]
  exact inStep (uncounted.minor ▸ zero) last (uncounted.last ▸ known)

/-- The operations that lead a request carry no seqid. -/
theorem unnumbered_leading {τ : Type} {nfs : Nfs4 τ} : ∀ op ∈ nfs.leading, op.Unnumbered := by
  intro op member
  unfold leading at member
  split at member
  · exact (List.not_mem_nil member).elim
  · obtain ⟨sessionid, -, rfl⟩ := List.mem_map.mp member
    rfl

/-- An attempt does what it does on the server inside, if the operations that it was made for
do. -/
theorem answered_counted {ops : List ArgOp}
    {remembers : Except Failure (Results ops) → Option (Remembered S) → Prop}
    (performs : ∀ (state : SeqidState S) outcome next, state.minor = nfs.minor →
      state.last = nfs.rpc.last → (server.perform ops).run state.inner = some (outcome, next) →
        ∃ last, ((server.counted reseat).perform ops).run state =
            some (outcome, ⟨next, state.minor, last⟩) ∧ remembers outcome last)
    (failed : ∀ failure, remembers (.error failure) nfs.rpc.last)
    {outcome : Except Failure (Results ops)} {next : Nfs4 S}
    (ran : (answered server ops).run nfs.plain = some (outcome, next)) :
    ∃ last, (answered (server.counted reseat) ops).run nfs =
        some (outcome, nfs.sentTo ⟨next.rpc, nfs.minor, last⟩) ∧
      next = nfs.plain.sentTo next.rpc ∧ remembers outcome last := by
  obtain ⟨⟨result, rpc⟩, ended, same⟩ := Option.map_eq_some_iff.mp ran
  cases same
  have begins := @OpServer.perform_unnumbered S server reseat nfs.leading
    ((server.counted reseat).receive (nfs.intends ops) nfs.rpc) unnumbered_leading
  rcases Prog.bind_eq_some ended with ⟨failure, led, rfl⟩ | ⟨results, mid, led, performed⟩
  · refine ⟨nfs.rpc.last, ?_, rfl, failed failure⟩
    change ((server.perform nfs.leading).run (server.receive (nfs.intends ops) nfs.rpc.inner)) =
      _ at led
    have started := begins.trans (congrArg (Option.map _) led)
    rw [answered_eq rfl, Prog.bind_of_error started]
    rfl
  · change ((server.perform nfs.leading).run (server.receive (nfs.intends ops) nfs.rpc.inner)) =
      _ at led
    have started := begins.trans (congrArg (Option.map _) led)
    obtain ⟨last, counts, remembered⟩ := performs ⟨mid, nfs.minor, nfs.rpc.last⟩ _ _ rfl rfl performed
    refine ⟨last, ?_, rfl, remembered⟩
    rw [answered_eq rfl, Prog.bind_of_ok started]
    exact congrArg (Option.map _) counts

/-- On a server that counts, a program does what another does on the server inside, and nothing is
counted. -/
abbrev Follows {ε α : Type} (left : Prog (Nfs4 (SeqidState S)) ε α) (right : Prog (Nfs4 S) ε α)
    (nfs : Nfs4 (SeqidState S)) : Prop :=
  Prog.Mirrors plain Uncounted left right nfs

/-- An attempt of a request without seqids. -/
theorem follows_answered {ops : List ArgOp} (unnumbered : ∀ op ∈ ops, op.Unnumbered) :
    Follows (answered (server.counted reseat) ops) (answered server ops) nfs := by
  intro outcome next ran
  have performs (state : SeqidState S) (outcome : Except Failure (Results ops)) (next : S)
      (_ : state.minor = nfs.minor) (known : state.last = nfs.rpc.last)
      (performed : (server.perform ops).run state.inner = some (outcome, next)) :
      ∃ last, ((server.counted reseat).perform ops).run state =
        some (outcome, ⟨next, state.minor, last⟩) ∧ last = nfs.rpc.last := by
    refine ⟨state.last, ?_, known⟩
    rw [OpServer.perform_unnumbered unnumbered, performed]
    rfl
  obtain ⟨last, counts, same, rfl⟩ := answered_counted performs (fun _ => rfl) ran
  rw [same]
  exact ⟨_, counts, rfl, rfl, rfl, rfl⟩

/-- What a turn comes to: the attempt succeeds, or something follows its failure. -/
theorem converseTurn_inv {S : Type} {server : OpServer S} {ops : List ArgOp} {nfs next : Nfs4 S}
    {again : UInt32 → Prog (Nfs4 S) ProtoError (Results ops)}
    {result : Except ProtoError (Results ops)}
    (ran : (converseTurn server ops again).run nfs = some (result, next)) :
    (∃ results, (answered server ops).run nfs = some (.ok results, next) ∧ result = .ok results) ∨
      ∃ failure mid, (answered server ops).run nfs = some (.error failure, mid) ∧
        (if failure.status = nfs4errGrace ∨ failure.status = nfs4errDelay then again failure.status
          else Prog.throw (.nfs4 failure.status)).run mid = some (result, next) := by
  rcases Prog.bind_eq_some ran with ⟨error, failed, -⟩ | ⟨outcome, mid, attempted, ran⟩
  · obtain ⟨_, absurd, -⟩ := Prog.outcome_eq_some failed
    cases absurd
  · obtain ⟨_, same, ended⟩ := Prog.outcome_eq_some attempted
    cases same
    cases outcome with
    | ok results =>
        cases ran
        exact .inl ⟨results, ended, rfl⟩
    | error failure => exact .inr ⟨failure, mid, ended, ran⟩

theorem converseTurn_ok {S : Type} {server : OpServer S} {ops : List ArgOp} {nfs next : Nfs4 S}
    {again : UInt32 → Prog (Nfs4 S) ProtoError (Results ops)} {results : Results ops}
    (ended : (answered server ops).run nfs = some (.ok results, next)) :
    (converseTurn server ops again).run nfs = some (.ok results, next) :=
  Prog.bind_of_ok (Prog.outcome_of ended)

theorem converseTurn_error {S : Type} {server : OpServer S} {ops : List ArgOp} {nfs mid : Nfs4 S}
    {again : UInt32 → Prog (Nfs4 S) ProtoError (Results ops)} {failure : Failure}
    (ended : (answered server ops).run nfs = some (.error failure, mid)) :
    (converseTurn server ops again).run nfs =
      (if failure.status = nfs4errGrace ∨ failure.status = nfs4errDelay then again failure.status
        else Prog.throw (.nfs4 failure.status)).run mid :=
  Prog.bind_of_ok (Prog.outcome_of ended)

/-- A request without seqids, as often as it is tried. -/
theorem follows_converse {ops : List ArgOp} (unnumbered : ∀ op ∈ ops, op.Unnumbered) :
    Follows (converse (server.counted reseat) ops) (converse server ops) nfs := by
  have turn {again : UInt32 → Prog (Nfs4 (SeqidState S)) ProtoError (Results ops)}
      {again' : UInt32 → Prog (Nfs4 S) ProtoError (Results ops)}
      (follows : ∀ code nfs, Follows (again code) (again' code) nfs) (nfs : Nfs4 (SeqidState S)) :
      Follows (converseTurn (server.counted reseat) ops again) (converseTurn server ops again')
        nfs := by
    intro result next ran
    rcases converseTurn_inv ran with ⟨results, ended, rfl⟩ | ⟨failure, mid, ended, ran⟩
    · obtain ⟨after, counts, same, uncounted⟩ := follows_answered unnumbered _ _ ended
      exact ⟨after, converseTurn_ok counts, same, uncounted⟩
    · obtain ⟨after, counts, rfl, uncounted⟩ := follows_answered unnumbered _ _ ended
      rw [converseTurn_error counts]
      split at ran
      · rename_i transient
        rw [if_pos transient]
        obtain ⟨final, again, same, rest⟩ := follows failure.status after result next ran
        exact ⟨final, again, same, uncounted.trans rest⟩
      · rename_i lasting
        rw [if_neg lasting]
        cases ran
        exact ⟨after, rfl, rfl, uncounted⟩
  have throws (code : UInt32) (nfs : Nfs4 (SeqidState S)) :
      Follows (Prog.throw (.nfs4 code) : Prog (Nfs4 (SeqidState S)) ProtoError (Results ops))
        (Prog.throw (.nfs4 code)) nfs := by
    rintro result next ⟨⟩
    exact ⟨nfs, rfl, rfl, .refl nfs⟩
  suffices every : ∀ resends nfs, Follows (conversation (server.counted reseat) ops resends)
      (conversation server ops resends) nfs from every maxResends nfs
  intro resends
  induction resends with
  | zero => exact turn throws
  | succ resends ih => exact turn fun _ => ih

/-- A request with one seqid, which the server expects, and which the server inside does not put
off. -/
theorem converse_counted {first op : ArgOp} {ops : List ArgOp} {seqid : UInt32}
    (unnumbered : first.Unnumbered) (carries : op.openSeqid = some seqid)
    (others : ∀ other ∈ ops, other.Unnumbered)
    (expects : nfs.minor = 0 → ∀ last, nfs.rpc.last = some last → seqid = last.seqid + 1)
    (lasting : ∀ failure next,
      (answered server (first :: op :: ops)).run nfs.plain = some (.error failure, next) →
        ¬ (failure.status = nfs4errGrace ∨ failure.status = nfs4errDelay))
    {result : Except ProtoError (Results (first :: op :: ops))} {next : Nfs4 S}
    (ran : (converse server (first :: op :: ops)).run nfs.plain = some (result, next)) :
    ∃ last, (converse (server.counted reseat) (first :: op :: ops)).run nfs =
        some (result, nfs.sentTo ⟨next.rpc, nfs.minor, last⟩) ∧
      next = nfs.plain.sentTo next.rpc ∧
      (∀ results, result = .ok results → nfs.minor = 0 →
        ∀ remembered, last = some remembered → remembered.seqid = seqid) := by
  let remembers (outcome : Except Failure (Results (first :: op :: ops)))
      (last : Option (Remembered S)) : Prop :=
    ∀ results, outcome = .ok results → nfs.minor = 0 →
      ∀ remembered, last = some remembered → remembered.seqid = seqid
  have performs (state : SeqidState S) (outcome : Except Failure (Results (first :: op :: ops)))
      (next : S) (minor : state.minor = nfs.minor) (known : state.last = nfs.rpc.last)
      (performed : (server.perform (first :: op :: ops)).run state.inner = some (outcome, next)) :
      ∃ last, ((server.counted reseat).perform (first :: op :: ops)).run state =
        some (outcome, ⟨next, state.minor, last⟩) ∧ remembers outcome last := by
    have admits : state.Expects seqid := fun zero last there =>
      expects (minor ▸ zero) last (known ▸ there)
    obtain ⟨last, counts, remembered⟩ :=
      OpServer.perform_second unnumbered carries others admits performed
    exact ⟨last, counts, fun results same zero => remembered results same (minor ▸ zero)⟩
  have failed (failure : Failure) : remembers (.error failure) nfs.rpc.last :=
    fun _ same => by cases same
  have attempt (outcome : Except Failure (Results (first :: op :: ops))) (mid : Nfs4 S) :=
    @answered_counted S server reseat nfs _ remembers performs failed outcome mid
  rw [converse, maxResends, conversation] at ran ⊢
  rcases converseTurn_inv ran with ⟨results, ended, rfl⟩ | ⟨failure, mid, ended, ran⟩
  · obtain ⟨last, counts, same, remembered⟩ := attempt _ _ ended
    exact ⟨last, converse_of_ok counts, same, fun _ _ => remembered results rfl⟩
  · obtain ⟨last, counts, same, -⟩ := attempt _ _ ended
    have final := lasting failure mid ended
    rw [if_neg final] at ran
    cases ran
    refine ⟨last, ?_, same, fun _ absurd => by cases absurd⟩
    rw [converseTurn_error counts, if_neg final]
    rfl

/-- A method does what another does on the server inside, and when it succeeds the client is in
step. -/
def Counts {α : Type} (left : Prog (Nfs4 (SeqidState S)) ProtoError α)
    (right : Prog (Nfs4 S) ProtoError α) (nfs : Nfs4 (SeqidState S)) : Prop :=
  ∀ result next, right.run nfs.plain = some (result, next) → ∃ after,
    left.run nfs = some (result, after) ∧ after.plain = next ∧
      ∀ value, result = .ok value → after.InStep

/-- The client, when the last operation counted had its seqid and it goes on to the next. -/
theorem inStep_advanced {rpc : S} {last : Option (Remembered S)}
    (remembered : nfs.minor = 0 → ∀ known, last = some known → known.seqid = nfs.openSeqid) :
    (nfs.sentTo ⟨rpc, nfs.minor, last⟩).advanced.InStep :=
  fun zero known there => congrArg (· + 1) (remembered zero known there).symm

theorem Established.plain (established : nfs.Established) : nfs.plain.Established :=
  ⟨established.version, established.named⟩

theorem lasts_answered (lasting : server.Lasting) {nfs next : Nfs4 S} {ops : List ArgOp}
    (opens : ∀ op ∈ ops, op.Opens) {failure : Failure}
    (failed : (answered server ops).run nfs = some (.error failure, next)) : Lasts failure := by
  have leads : ∀ op ∈ nfs.leading, op.Opens := by
    intro op member
    unfold leading at member
    split at member
    · exact (List.not_mem_nil member).elim
    · obtain ⟨sessionid, -, rfl⟩ := List.mem_map.mp member
      trivial
  obtain ⟨⟨result, rpc⟩, ended, same⟩ := Option.map_eq_some_iff.mp failed
  cases same
  rcases Prog.bind_eq_some ended with ⟨other, led, same⟩ | ⟨results, mid, -, performed⟩
  · cases same
    exact OpServer.lasts_perform lasting leads led
  · exact OpServer.lasts_perform lasting opens performed

section Methods

variable {fh : NfsFh4}

/-- A request without seqids whose results are read. -/
theorem follows_request {α : Type} {ops : List ArgOp} {value : Results ops → α}
    {left : Prog (Nfs4 (SeqidState S)) ProtoError α} {right : Prog (Nfs4 S) ProtoError α}
    (counts : left.run nfs =
      (do
        let results ← converse (server.counted reseat) ops
        return value results).run nfs)
    (same : right.run nfs.plain =
      (do
        let results ← converse server ops
        return value results).run nfs.plain)
    (unnumbered : ∀ op ∈ ops, op.Unnumbered) : Follows left right nfs := by
  apply Prog.Mirrors.congr counts same
  exact (follows_converse unnumbered).bind Uncounted.trans fun results mid =>
    .pure (value results) (.refl mid)

/-- A request that cannot be sent. -/
theorem follows_unsent {α : Type} {error : ProtoError}
    {left : Prog (Nfs4 (SeqidState S)) ProtoError α} {right : Prog (Nfs4 S) ProtoError α}
    (unsent : left.run nfs = some (.error error, nfs))
    (same : right.run nfs.plain = some (.error error, nfs.plain)) :
    Follows left right nfs :=
  .congr unsent same (.throw error (.refl nfs))

/-- A request with the next seqid of the client. -/
theorem converse_own (lasting : server.Lasting) (inStep : nfs.InStep) {op : ArgOp} {ops : List ArgOp}
    (carries : op.openSeqid = some nfs.openSeqid) (others : ∀ other ∈ ops, other.Unnumbered)
    (opens : ∀ other ∈ .putfh fh :: op :: ops, other.Opens)
    {result : Except ProtoError (Results (.putfh fh :: op :: ops))} {next : Nfs4 S}
    (ran : (converse server (.putfh fh :: op :: ops)).run nfs.plain = some (result, next)) :
    ∃ after, (converse (server.counted reseat) (.putfh fh :: op :: ops)).run nfs =
        some (result, after) ∧ after.plain = next ∧
      ∀ results, result = .ok results → after.advanced.InStep := by
  have unnumbered : (ArgOp.putfh fh).Unnumbered := rfl
  obtain ⟨last, counts, same, remembered⟩ := @converse_counted S server reseat nfs _ op ops
    nfs.openSeqid unnumbered carries others inStep
    (fun failure next failed => lasts_answered lasting opens failed) result next ran
  exact ⟨_, counts, same.symm, fun results ok => inStep_advanced (remembered results ok)⟩

/-- The confirmation of an open file. -/
theorem confirming_counted (lasting : server.Lasting) (inStep : nfs.InStep) (stateid : Stateid4) :
    Counts (confirming (server.counted reseat) fh stateid) (confirming server fh stateid) nfs := by
  intro result next ran
  rw [confirming, Prog.bind_of_ok (rfl : Prog.get.run nfs.plain = _)] at ran
  rw [confirming, Prog.bind_of_ok (rfl : Prog.get.run nfs = _)]
  have own {result : Except ProtoError (Results [.putfh fh, .openConfirm stateid nfs.openSeqid])}
      {next : Nfs4 S} := @converse_own S server reseat nfs fh lasting inStep
    (.openConfirm stateid nfs.openSeqid) [] rfl (by simp) (by simp [ArgOp.Opens]) result next
  rcases Prog.bind_eq_some ran with ⟨error, failed, rfl⟩ | ⟨results, mid, confirmed, ran⟩
  · obtain ⟨after, counts, same, -⟩ := own failed
    exact ⟨after, Prog.bind_of_error counts, same, fun _ absurd => by cases absurd⟩
  · obtain ⟨after, counts, rfl, next⟩ := own confirmed
    cases ran
    exact ⟨after.advanced, Prog.bind_of_ok counts, rfl, fun _ _ => next results rfl⟩

/-- What follows an `OPEN` that succeeded. -/
theorem afterOpen_counted (lasting : server.Lasting) (advanced : nfs.advanced.InStep)
    (opened : OpenRes) (delegation : Option Delegation) :
    Counts (afterOpen (server.counted reseat) opened delegation fh)
      (afterOpen server opened delegation fh) nfs := by
  intro result next ran
  unfold afterOpen at ran ⊢
  by_cases granted : delegation.isSome
  · rw [if_pos granted] at ran ⊢
    cases ran
    exact ⟨nfs, rfl, rfl, fun _ absurd => by cases absurd⟩
  · rw [if_neg granted] at ran ⊢
    rw [Prog.bind_of_ok (advance_ok _)] at ran ⊢
    by_cases asks : opened.rflags &&& open4ResultConfirm ≠ 0
    · rw [if_pos asks] at ran ⊢
      exact confirming_counted lasting advanced _ _ _ ran
    · rw [if_neg asks] at ran ⊢
      cases ran
      exact ⟨nfs.advanced, rfl, rfl, fun _ _ => advanced⟩

/-- Opening a file. -/
theorem open_counted (lasting : server.Lasting) (inStep : nfs.InStep) (opening : Opening)
    (established : nfs.Established) (short : opening.dir.Short)
    (sized : Sized (Xdr.asBytes opening.name)) :
    Counts (Nfs4.open (server.counted reseat).transport opening.dir opening.name
        opening.shareAccess opening.create)
      (Nfs4.open server.transport opening.dir opening.name opening.shareAccess opening.create)
      nfs := by
  intro result next ran
  rw [open_eq opening established.plain short sized] at ran
  rw [open_eq opening established short sized]
  have own {result : Except ProtoError (Results (opening.ops nfs))} {next : Nfs4 S}
      (ran : (converse server (opening.ops nfs)).run nfs.plain = some (result, next)) :
      ∃ after, (converse (server.counted reseat) (opening.ops nfs)).run nfs = some (result, after) ∧
        after.plain = next ∧ ∀ results, result = .ok results → after.advanced.InStep :=
    converse_own lasting inStep rfl (by simp [ArgOp.Unnumbered, ArgOp.openSeqid])
      (by simp [ArgOp.Opens, Opening.op]) ran
  rcases Prog.bind_eq_some ran with ⟨error, failed, rfl⟩ | ⟨results, mid, opened, ran⟩
  · obtain ⟨after, counts, same, -⟩ := own failed
    exact ⟨after, Prog.bind_of_error counts, same, fun _ absurd => by cases absurd⟩
  · obtain ⟨after, counts, rfl, advanced⟩ := own opened
    rw [Prog.bind_of_ok counts]
    exact afterOpen_counted lasting (advanced results rfl) _ _ _ _ ran

/-- Closing a file. -/
theorem close_counted (lasting : server.Lasting) (inStep : nfs.InStep) (stateid : Stateid4)
    (established : nfs.Established) (short : fh.Short) :
    Counts (close (server.counted reseat).transport fh stateid) (close server.transport fh stateid)
      nfs := by
  intro result next ran
  rw [close_eq stateid established.plain short] at ran
  rw [close_eq stateid established short]
  have own {result : Except ProtoError (Results [.putfh fh, .close nfs.openSeqid stateid])}
      {next : Nfs4 S} := @converse_own S server reseat nfs fh lasting inStep
    (.close nfs.openSeqid stateid) [] rfl (by simp) (by simp [ArgOp.Opens]) result next
  rcases Prog.bind_eq_some ran with ⟨error, failed, rfl⟩ | ⟨results, mid, closed, ran⟩
  · obtain ⟨after, counts, same, -⟩ := own failed
    exact ⟨after, Prog.bind_of_error counts, same, fun _ absurd => by cases absurd⟩
  · obtain ⟨after, counts, rfl, next⟩ := own closed
    cases ran
    exact ⟨after.advanced, Prog.bind_of_ok counts, rfl, fun _ _ => next results rfl⟩

end Methods

end Nfs4

end LibNfs.Proto
