import LibNfs.Proto.OwnerWire

/-! # The seqids of a run

What `open`, `close` and `lock` send to the server of `LibNfs.Proto.OpenOwner`,
over whole runs. The client counts a seqid when a call succeeds, the server when
it has processed the operation; the two counts stay together as long as every
answer is one after which both or neither count (`Entry.Kept`). The first answer
of another kind leaves the client one behind, and the next operation it sends
repeats a seqid.
-/

namespace LibNfs.Proto

open Xdr (XdrError)

/-- Both sides count the seqid of the operation, or neither does. An `OPEN` is
counted by the client when there is no delegation and `GETFH` succeeds. -/
def Entry.Kept (entry : Entry) : Prop :=
  match entry.answer with
  | .unreached _ => True
  | .failed failure _ => failure.status ∈ uncounted
  | .succeeded _ opened =>
      entry.op = .open → opened.delegation = none ∧ opened.getfh.isOk = true

instance : DecidablePred Entry.Kept := fun entry =>
  match same : entry.answer with
  | .unreached _ => .isTrue (by simp [Entry.Kept, same])
  | .failed failure _ => decidable_of_iff (failure.status ∈ uncounted) (by simp [Entry.Kept, same])
  | .succeeded _ opened =>
      decidable_of_iff (entry.op = .open → opened.delegation = none ∧ opened.getfh.isOk = true)
        (by simp [Entry.Kept, same])

/-- An `Nfs4` of minor version 0 with the server. -/
abbrev OwnerWorld := Nfs4 OwnerServer

/-- Every operation so far was fresh and the counts are together. -/
structure Synced (nfs : OwnerWorld) : Prop where
  minor : nfs.minor = 0
  fresh : ∀ entry ∈ nfs.rpc.log, entry.Fresh
  kept : ∀ entry ∈ nfs.rpc.log, entry.Kept
  together : ∀ last ∈ nfs.rpc.last, nfs.openSeqid = last + 1

/-- The server has counted the seqid of its last operation, the client has not. -/
structure Ahead (entry : Entry) (nfs : OwnerWorld) : Prop where
  minor : nfs.minor = 0
  fresh : ∀ entry ∈ nfs.rpc.log, entry.Fresh
  newest : ∃ older, nfs.rpc.log = entry :: older ∧ ∀ entry ∈ older, entry.Kept
  counted : nfs.rpc.last = some nfs.openSeqid

/-- An operation repeated a seqid, after an answer that was not kept. -/
structure Lost (nfs : OwnerWorld) : Prop where
  minor : nfs.minor = 0
  stale : ∃ entry ∈ nfs.rpc.log, ¬ entry.Fresh
  broken : ∃ entry ∈ nfs.rpc.log.tail, ¬ entry.Kept

/-- The invariant between calls. -/
def Accounted (nfs : OwnerWorld) : Prop :=
  Synced nfs ∨ (∃ entry, Ahead entry nfs ∧ ¬ entry.Kept) ∨ Lost nfs

/-- In every accounted state, the operations were all fresh exactly when all
answers but the newest were kept. -/
theorem Accounted.fresh_iff {nfs : OwnerWorld} (accounted : Accounted nfs) :
    (∀ entry ∈ nfs.rpc.log, entry.Fresh) ↔ ∀ entry ∈ nfs.rpc.log.tail, entry.Kept := by
  rcases accounted with synced | ⟨entry, ahead, -⟩ | lost
  · exact ⟨fun _ entry member => synced.kept entry (List.mem_of_mem_tail member),
      fun _ => synced.fresh⟩
  · obtain ⟨older, log, kept⟩ := ahead.newest
    exact ⟨fun _ => by simpa [log] using kept, fun _ => ahead.fresh⟩
  · obtain ⟨one, member, stale⟩ := lost.stale
    obtain ⟨other, inside, broken⟩ := lost.broken
    exact ⟨fun fresh => absurd (fresh one member) stale,
      fun kept => absurd (kept other inside) broken⟩

/-- The count of the client moves on after an answer that was kept. -/
theorem Ahead.advance {entry : Entry} {nfs : OwnerWorld} (ahead : Ahead entry nfs)
    (kept : entry.Kept) : Synced { nfs with openSeqid := nfs.openSeqid + 1 } where
  minor := ahead.minor
  fresh := ahead.fresh
  kept := by
    obtain ⟨older, log, rest⟩ := ahead.newest
    intro one member
    rw [log] at member
    rcases List.mem_cons.mp member with rfl | old
    · exact kept
    · exact rest one old
  together last same := by
    rw [ahead.counted] at same
    cases same
    rfl

/-- A client that is lost stays so when it counts. -/
theorem Lost.advance {nfs : OwnerWorld} (lost : Lost nfs) :
    Lost { nfs with openSeqid := nfs.openSeqid + 1 } :=
  ⟨lost.minor, lost.stale, lost.broken⟩

/-- A client that is accounted for speaks v4.0. -/
theorem Accounted.minor {nfs : OwnerWorld} (accounted : Accounted nfs) : nfs.minor = 0 := by
  rcases accounted with synced | ⟨_, ahead, -⟩ | lost
  · exact synced.minor
  · exact ahead.minor
  · exact lost.minor

section Serving

variable {nfs : OwnerWorld} {op : SeqidOp} {args : Bytes}

/-- The state after the server has answered a request. -/
def served (nfs : OwnerWorld) (args : Bytes) : OwnerWorld :=
  { nfs with rpc := (nfs.rpc.serve args).2 }

/-- The entry that a request makes in the log. -/
def asked (nfs : OwnerWorld) (op : SeqidOp) : Entry :=
  ⟨nfs.rpc.last, op, nfs.openSeqid, nfs.rpc.choose nfs.rpc.turn⟩

theorem evaluate_log (server : OwnerServer) (entry : Entry) :
    (server.evaluate entry).2.log = server.log := by
  unfold OwnerServer.evaluate
  split
  · split <;> rfl
  · split <;> rfl

/-- A request is entered in the log. -/
theorem served_log (reads : readRequest args = .ok (op, nfs.openSeqid)) :
    (served nfs args).rpc.log = asked nfs op :: nfs.rpc.log := by
  simp only [served, OwnerServer.serve, reads]
  split
  · rfl
  · rw [evaluate_log]
    rfl

/-- A run that is lost stays lost. -/
theorem Lost.served (lost : Lost nfs) (reads : readRequest args = .ok (op, nfs.openSeqid)) :
    Lost (served nfs args) := by
  obtain ⟨one, member, stale⟩ := lost.stale
  obtain ⟨other, inside, broken⟩ := lost.broken
  refine ⟨lost.minor, ⟨one, ?_, stale⟩, ⟨other, ?_, broken⟩⟩
  · rw [served_log reads]
    exact List.mem_cons_of_mem _ member
  · rw [served_log reads]
    exact List.mem_of_mem_tail inside

/-- The client that is one behind repeats the seqid. -/
theorem Ahead.served {entry : Entry} (ahead : Ahead entry nfs) (broken : ¬ entry.Kept)
    (reads : readRequest args = .ok (op, nfs.openSeqid)) : Lost (served nfs args) := by
  obtain ⟨older, log, -⟩ := ahead.newest
  refine ⟨ahead.minor, ⟨asked nfs op, ?_, ?_⟩, ⟨entry, ?_, broken⟩⟩
  · rw [served_log reads]
    exact List.mem_cons_self
  · intro fresh
    have repeated : nfs.openSeqid = nfs.openSeqid + 1 := fresh _ ahead.counted
    simp at repeated
  · rw [served_log reads, log]
    exact List.mem_cons_self

/-- A fresh operation is executed. -/
theorem serve_of_fresh (reads : readRequest args = .ok (op, nfs.openSeqid))
    (fresh : (asked nfs op).Fresh) :
    (nfs.rpc.serve args).1 = ((asked nfs op).answer.res op).encode ∧
      (nfs.rpc.serve args).2.last =
        if (asked nfs op).answer.Counts then some nfs.openSeqid else nfs.rpc.last := by
  unfold asked at fresh ⊢
  simp only [OwnerServer.serve, reads]
  rcases choice : nfs.rpc.choose nfs.rpc.turn with failure | ⟨failure, data⟩ | ⟨stateid, opened⟩
  · simp [Answer.Counts]
  · rw [choice] at fresh
    simp only [OwnerServer.evaluate, fresh, ↓reduceIte]
    split <;> simp
  · rw [choice] at fresh
    simp [OwnerServer.evaluate, fresh, Answer.Counts]

/-- An answer that is not counted is a failure, and is kept. -/
theorem uncounted_answer {entry : Entry} (skipped : ¬ entry.answer.Counts) :
    entry.Kept ∧ (entry.answer.res entry.op).status ≠ nfs4Ok := by
  rcases choice : entry.answer with failure | ⟨failure, data⟩ | ⟨stateid, opened⟩
  · exact ⟨by simp [Entry.Kept, choice], failure.bad⟩
  · rw [choice] at skipped
    exact ⟨by simpa [Entry.Kept, choice, Answer.Counts] using skipped, failure.bad⟩
  · rw [choice] at skipped
    exact absurd trivial skipped

/-- The client reads the header of a reply of the server. -/
theorem parse_res (op : SeqidOp) (answer : Answer) :
    CompoundReader.parse (answer.res op).encode =
      if (answer.res op).status = nfs4Ok then .ok ⟨(answer.res op).results⟩
      else .error (.nfs4 (answer.res op).status) := by
  apply parse_encode
  have tag : (answer.res op).tag = "" := by
    cases answer with
    | unreached _ | failed _ _ => rfl
    | succeeded _ _ => cases op <;> rfl
  rw [tag]
  decide

/-- A fresh operation leaves the counts together when the server does not count
it, and the server ahead when it does. -/
theorem Synced.served (synced : Synced nfs) (reads : readRequest args = .ok (op, nfs.openSeqid)) :
    (nfs.rpc.serve args).1 = ((asked nfs op).answer.res op).encode ∧
      if (asked nfs op).answer.Counts then Ahead (asked nfs op) (served nfs args)
      else Synced (served nfs args) := by
  have log := served_log reads
  have fresh : (asked nfs op).Fresh := synced.together
  obtain ⟨reply, last⟩ := serve_of_fresh reads fresh
  have all : ∀ entry ∈ (Proto.served nfs args).rpc.log, entry.Fresh := by
    rw [log]
    exact List.forall_mem_cons.mpr ⟨fresh, synced.fresh⟩
  refine ⟨reply, ?_⟩
  split
  · rename_i counts
    rw [if_pos counts] at last
    exact ⟨synced.minor, all, ⟨_, log, synced.kept⟩, last⟩
  · rename_i skipped
    rw [if_neg skipped] at last
    refine ⟨synced.minor, all, ?_, fun before same => ?_⟩
    · rw [log]
      exact List.forall_mem_cons.mpr ⟨(uncounted_answer skipped).1, synced.kept⟩
    · exact synced.together before (last ▸ same)

end Serving

/-- The operation succeeded, and its results are still to be read. -/
structure Granted (op : SeqidOp) (reader : CompoundReader) (stateid : Stateid4) (opened : Opened)
    (nfs : OwnerWorld) : Prop where
  ahead : ∃ entry, Ahead entry nfs ∧ entry.op = op ∧ entry.answer = .succeeded stateid opened
  results : reader.buf = ((Answer.succeeded stateid opened).res op).results
  complete : ((Answer.succeeded stateid opened).res op).status = nfs4Ok

/-- What `run` leads to. -/
def Ran (op : SeqidOp) (seqid : UInt32) (result : Except ProtoError CompoundReader)
    (nfs : OwnerWorld) : Prop :=
  nfs.openSeqid = seqid ∧
    match result with
    | .ok reader => Lost nfs ∨ ∃ stateid opened, Granted op reader stateid opened nfs
    | .error _ => Accounted nfs

theorem Lost.ran {op : SeqidOp} {nfs : OwnerWorld} (lost : Lost nfs)
    (result : Except ProtoError CompoundReader) : Ran op nfs.openSeqid result nfs := by
  refine ⟨rfl, ?_⟩
  cases result with
  | ok reader => exact .inl lost
  | error error => exact .inr (.inr lost)

/-- An answer the server counts and the client takes for an error is not kept. -/
theorem not_kept_of_error {entry : Entry} (counts : entry.answer.Counts)
    (failed : (entry.answer.res entry.op).status ≠ nfs4Ok) : ¬ entry.Kept := by
  rcases choice : entry.answer with failure | ⟨failure, data⟩ | ⟨stateid, opened⟩
  · rw [choice] at counts
    exact counts.elim
  · rw [choice] at counts
    simp only [Entry.Kept, choice]
    exact counts
  · rw [choice] at failed
    simp only [Entry.Kept, choice]
    intro kept
    by_cases opens : entry.op = .open
    · obtain ⟨-, handle⟩ := kept opens
      rcases given : opened.getfh with failure | handle
      · simp [given, Except.isOk, Except.toBool] at handle
      · simp [Answer.res, opens, Opened.getfhRes, given] at failed
    · simp [Answer.res, opens] at failed

/-- An operation that counts and succeeds is one of these. -/
theorem succeeded_of_ok {entry : Entry} (counts : entry.answer.Counts)
    (ok : (entry.answer.res entry.op).status = nfs4Ok) :
    ∃ stateid opened, entry.answer = .succeeded stateid opened := by
  rcases choice : entry.answer with failure | ⟨failure, data⟩ | ⟨stateid, opened⟩
  · rw [choice] at counts
    exact counts.elim
  · rw [choice] at ok
    exact absurd ok failure.bad
  · exact ⟨stateid, opened, rfl⟩

/-- One request keeps the accounts. -/
theorem Accounted.served {nfs : OwnerWorld} {op : SeqidOp} {args : Bytes}
    (accounted : Accounted nfs) (reads : readRequest args = .ok (op, nfs.openSeqid)) :
    Ran op nfs.openSeqid (CompoundReader.parse (nfs.rpc.serve args).1) (served nfs args) := by
  rcases accounted with synced | ⟨entry, ahead, broken⟩ | lost
  · obtain ⟨reply, after⟩ := synced.served reads
    refine ⟨rfl, ?_⟩
    rw [reply, parse_res]
    by_cases counts : (asked nfs op).answer.Counts
    · rw [if_pos counts] at after
      by_cases ok : ((asked nfs op).answer.res op).status = nfs4Ok
      · obtain ⟨stateid, opened, answer⟩ := succeeded_of_ok counts ok
        rw [if_pos ok]
        rw [answer] at ok ⊢
        exact .inr ⟨stateid, opened, ⟨_, after, rfl, answer⟩, rfl, ok⟩
      · rw [if_neg ok]
        exact .inr (.inl ⟨_, after, not_kept_of_error counts ok⟩)
    · have failed : ((asked nfs op).answer.res op).status ≠ nfs4Ok := (uncounted_answer counts).2
      rw [if_neg counts] at after
      rw [if_neg failed]
      exact .inl after
  · exact (ahead.served broken reads).ran _
  · exact (lost.served reads).ran _

section Programs

variable {c : Compound} {op : SeqidOp} {seqid : UInt32}

/-- The client with the counts accounted for and this seqid next. -/
def Ready (seqid : UInt32) (nfs : OwnerWorld) : Prop :=
  Accounted nfs ∧ nfs.openSeqid = seqid

/-- An attempt with the seqid of the client. -/
theorem attempt_ran (carries : c.Carries op seqid) :
    (Nfs4.attempt OwnerServer.transport c).Meets (Ready seqid)
      (Prog.split (Ran op seqid) fun _ _ => False) := by
  rintro nfs final result ⟨accounted, rfl⟩ ended
  obtain ⟨args, built, reads⟩ := carries.readRequest
  have answered : (Nfs4.attempt OwnerServer.transport c).run nfs =
      some (.ok (CompoundReader.parse (nfs.rpc.serve args).1), served nfs args) := by
    simp [Nfs4.attempt, Nfs4.exchange, Nfs4.assemble, Nfs4.call, Prog.get, Prog.ofExcept,
      Prog.within, Prog.bind_apply, Prog.pure_apply, OwnerServer.transport, accounted.minor, built,
      served, Except.mapError]
  rw [answered] at ended
  cases ended
  exact accounted.served reads

/-- What an attempt comes to, by its result. -/
theorem attempt_split (carries : c.Carries op seqid) :
    (Nfs4.attempt OwnerServer.transport c).Meets (Ready seqid)
      (Prog.split (Ran op seqid) fun error => Ran op seqid (.error error)) :=
  (attempt_ran carries).weaken (fun _ ready => ready) fun result _ ran => by
    cases result with
    | ok result => exact ran
    | error error => exact ran.elim

/-- A client of minor version 0 has the results as they are. -/
theorem ownResults_ran {reader : CompoundReader} :
    (Nfs4.ownResults reader).Meets (Ran op seqid (.ok reader)) (Ran op seqid) := by
  apply Prog.Meets.get_bind
  rintro nfs state final result ⟨ran, rfl⟩ ended
  have minor : state.minor = 0 := by
    rcases ran.2 with lost | ⟨_, _, granted⟩
    · exact lost.minor
    · obtain ⟨_, ahead, -⟩ := granted.ahead
      exact ahead.minor
  rw [minor, if_neg (by decide)] at ended
  cases ended
  exact ran

/-- One turn of `run`, given what follows a resend. -/
theorem runTurn_ran (carries : c.Carries op seqid)
    {again : UInt32 → Prog OwnerWorld ProtoError CompoundReader}
    (resends : ∀ code, (again code).Meets (Ready seqid) (Ran op seqid)) :
    (Nfs4.runTurn OwnerServer.transport c again).Meets (Ready seqid) (Ran op seqid) := by
  refine .bind (Ran op seqid) (attempt_split carries) fun result => ?_
  split
  · exact ownResults_ran
  · split
    · exact (resends _).weaken (fun _ ran => ⟨ran.2, ran.1⟩) fun _ _ ran => ran
    · exact .throw fun _ ran => ran
  · exact .throw fun _ ran => ran

theorem attempts_ran (carries : c.Carries op seqid) (resends : Nat) :
    (Nfs4.attempts OwnerServer.transport c resends).Meets (Ready seqid) (Ran op seqid) := by
  induction resends with
  | zero => exact runTurn_ran carries fun _ => .throw fun _ ready => ⟨ready.2, ready.1⟩
  | succ resends ih => exact runTurn_ran carries fun _ => ih

/-- `run` keeps the accounts; when it succeeds, the results are those of the
operation. -/
theorem run_ran (carries : c.Carries op seqid) :
    (Nfs4.run OwnerServer.transport c).Meets (Ready seqid) (Ran op seqid) :=
  attempts_ran carries maxResends

/-- The next seqid may be counted. -/
def Countable (nfs : OwnerWorld) : Prop :=
  Lost nfs ∨ ∃ entry, Ahead entry nfs ∧ entry.Kept

/-- Counting puts a client that succeeded in order. -/
theorem advance_meets :
    (Nfs4.advance : Prog OwnerWorld ProtoError Unit).Meets Countable fun _ => Accounted := by
  refine .modify fun nfs countable => ?_
  rcases countable with lost | ⟨entry, ahead, kept⟩
  · exact .inr (.inr lost.advance)
  · exact .inl (ahead.advance kept)

/-- A request is built with the next seqid, or nothing is sent. -/
theorem build_meets {built : Except XdrError Compound}
    (carries : ∀ {c}, built = .ok c → c.Carries op seqid) :
    (Prog.ofExcept (liftXdr built) : Prog OwnerWorld ProtoError Compound).Meets (Ready seqid)
      (Prog.split (fun c nfs => c.Carries op seqid ∧ Ready seqid nfs) fun _ => Accounted) := by
  refine .ofExcept fun nfs ready => ?_
  cases built with
  | ok c => exact ⟨carries rfl, ready⟩
  | error error => exact ready.1

/-- Reading the results of a `COMPOUND` that ran. -/
theorem read_meets {α : Type} {read : ReadM α} {reader : CompoundReader}
    (reads : ∀ {stateid opened nfs}, Granted op reader stateid opened nfs →
      Prog.split (fun _ => Countable) (fun _ => Accounted) (read.run' reader) nfs) :
    (Prog.ofExcept (read.run' reader) : Prog OwnerWorld ProtoError α).Meets
      (Ran op seqid (.ok reader)) (Prog.split (fun _ => Countable) fun _ => Accounted) := by
  refine .ofExcept fun nfs ran => ?_
  rcases ran.2 with lost | ⟨stateid, opened, granted⟩
  · rcases read.run' reader with error | value
    · exact .inr (.inr lost)
    · exact .inl lost
  · exact reads granted

theorem run_split (carries : c.Carries op seqid) :
    (Nfs4.run OwnerServer.transport c).Meets (Ready seqid)
      (Prog.split (fun reader => Ran op seqid (.ok reader)) fun _ => Accounted) :=
  (run_ran carries).weaken (fun _ ready => ready) fun result _ ran => by
    cases result with
    | ok reader => exact ran
    | error error => exact ran.2

/-- The results of an operation that returns a stateid are read. -/
theorem read_stateid {reader : CompoundReader} {stateid : Stateid4} {opened : Opened}
    {nfs : OwnerWorld} (other : op ≠ .open) (granted : Granted op reader stateid opened nfs) :
    Prog.split (fun _ => Countable) (fun _ => Accounted)
      ((Nfs4.readStateid op.opcode).run' reader) nfs := by
  obtain ⟨⟨entry, ahead, rfl, answer⟩, results, -⟩ := granted
  obtain ⟨buf⟩ := reader
  simp only [Answer.res, other, ↓reduceIte] at results
  rw [results, Nfs4.readStateid_ok]
  refine .inr ⟨entry, ahead, ?_⟩
  simp only [Entry.Kept, answer]
  exact fun opens => absurd opens other

/-- The results of `OPEN` are read when there is no delegation. -/
theorem read_open {reader : CompoundReader} {stateid : Stateid4} {opened : Opened}
    {nfs : OwnerWorld} (granted : Granted .open reader stateid opened nfs) :
    Prog.split (fun _ => Countable) (fun _ => Accounted) (Nfs4.readOpen.run' reader) nfs := by
  obtain ⟨⟨entry, ahead, opens, answer⟩, results, complete⟩ := granted
  obtain ⟨buf⟩ := reader
  rcases given : opened.getfh with failure | handle
  · exact absurd (by simpa [Answer.res, Opened.getfhRes, given] using complete) failure.bad
  · simp only [Answer.res, ↓reduceIte, Opened.getfhRes, given] at results
    rw [results]
    rw [SeqidOp.opcode, Nfs4.readOpen_eq]
    split
    · rename_i undelegated
      refine .inr ⟨entry, ahead, ?_⟩
      simp only [Entry.Kept, answer]
      exact fun _ => ⟨undelegated, by rw [given]; rfl⟩
    · rename_i delegated
      refine .inr (.inl ⟨entry, ahead, ?_⟩)
      simp only [Entry.Kept, answer]
      exact fun kept => delegated (kept opens).1

/-- An operation that returns a stateid keeps the accounts. -/
theorem runStateful_meets (other : op ≠ .open) (carries : c.Carries op seqid) :
    (Nfs4.runStateful OwnerServer.transport op.opcode c).Meets (Ready seqid)
      fun _ => Accounted := by
  refine .bind _ (run_split carries) fun reader => ?_
  refine .bind _ (read_meets (read_stateid other)) fun stateid => ?_
  exact .bind _ advance_meets.byCases fun _ => .pure fun _ accounted => accounted

/-- A request of the next seqid is built and run, and its stateid used. -/
theorem ask_stateful (op : SeqidOp) {α : Type} {built : Except XdrError Compound}
    {use : Stateid4 → α} (other : op ≠ .open)
    (carries : ∀ {c}, built = .ok c → c.Carries op seqid) :
    (do
      let c ← Prog.ofExcept (liftXdr built)
      let stateid ← Nfs4.runStateful OwnerServer.transport op.opcode c
      return use stateid).Meets (Ready seqid) fun _ => Accounted := by
  refine .bind _ (build_meets carries) fun c => .assuming fun carried => ?_
  exact .bind _ (runStateful_meets other carried).byCases fun _ =>
    .pure fun _ accounted => accounted

end Programs

/-- A client that is accounted for is ready with its next seqid. -/
theorem ready_of_accounted {nfs : OwnerWorld} (state : OwnerWorld)
    (both : Accounted state ∧ state = nfs) : Ready nfs.openSeqid state := by
  obtain ⟨accounted, rfl⟩ := both
  exact ⟨accounted, rfl⟩

theorem close_meets (fh : NfsFh4) (stateid : Stateid4) :
    (Nfs4.close OwnerServer.transport fh stateid).Meets Accounted fun _ => Accounted := by
  apply Prog.Meets.get_bind
  intro nfs
  refine Prog.Meets.weaken ?_ ready_of_accounted fun _ _ accounted => accounted
  exact ask_stateful .close (by decide) (Compound.carries_of_asks Compound.asks_close)

/-- Naming a lock-owner keeps the client accounted for. -/
theorem freshLockOwner_meets :
    (Nfs4.freshLockOwner : Prog OwnerWorld ProtoError Bytes).Meets Accounted
      (Prog.split (fun _ => Accounted) fun _ => Accounted) := by
  refine .bind (fun _ => Accounted) (.modify fun nfs accounted => ?_) fun _ => ?_
  · rcases accounted with synced | ⟨entry, ahead, broken⟩ | lost
    · exact .inl ⟨synced.minor, synced.fresh, synced.kept, synced.together⟩
    · exact .inr (.inl ⟨entry, ⟨ahead.minor, ahead.fresh, ahead.newest, ahead.counted⟩, broken⟩)
    · exact .inr (.inr ⟨lost.minor, lost.stale, lost.broken⟩)
  · exact .get_bind fun nfs => .pure fun _ accounted => accounted.1

theorem lock_meets (fh : NfsFh4) (openStateid : Stateid4) (offset length : UInt64)
    (exclusive : Bool) :
    (Nfs4.lock OwnerServer.transport fh openStateid offset length exclusive).Meets Accounted
      fun _ => Accounted := by
  refine .bind _ freshLockOwner_meets fun lockOwner => .get_bind fun nfs => ?_
  refine Prog.Meets.weaken ?_ ready_of_accounted fun _ _ accounted => accounted
  exact ask_stateful .lock (by decide) (Compound.carries_of_asks Compound.asks_lockNew)

theorem open_meets (dir : NfsFh4) (name : String) (shareAccess : UInt32) (create : Bool) :
    (Nfs4.open OwnerServer.transport dir name shareAccess create).Meets Accounted
      fun _ => Accounted := by
  apply Prog.Meets.get_bind
  intro nfs
  refine Prog.Meets.weaken ?_ ready_of_accounted fun _ _ accounted => accounted
  refine .bind _ (build_meets (Compound.carries_of_asks Compound.asks_open_getfh)) fun c =>
    .assuming fun carries => ?_
  refine .bind _ (run_split carries) fun reader => ?_
  refine .bind _ (read_meets read_open) fun (stateid, rflags, fh) => ?_
  refine .bind _ advance_meets.byCases fun _ => ?_
  split
  · apply Prog.Meets.get_bind
    intro nfs
    refine Prog.Meets.weaken ?_ ready_of_accounted fun _ _ accounted => accounted
    exact ask_stateful .openConfirm (by decide)
      (Compound.carries_of_asks Compound.asks_openConfirm)
  · exact .pure fun _ accounted => accounted

/-- A call of the application. -/
inductive Request where
  | open (dir : NfsFh4) (name : String) (shareAccess : UInt32) (create : Bool)
  | close (fh : NfsFh4) (stateid : Stateid4)
  | lock (fh : NfsFh4) (openStateid : Stateid4) (offset length : UInt64) (exclusive : Bool)

/-- Makes a call and drops its result. -/
def Request.perform {τ : Type} (transport : Transport τ) : Request →
    Prog (Nfs4 τ) ProtoError Unit
  | .open dir name shareAccess create => do
      let _ ← Nfs4.open transport dir name shareAccess create
      return ()
  | .close fh stateid => Nfs4.close transport fh stateid
  | .lock fh openStateid offset length exclusive => do
      let _ ← Nfs4.lock transport fh openStateid offset length exclusive
      return ()

/-- Calls one after the other, whether they succeed or fail. -/
def performAll {τ : Type} (transport : Transport τ) : List Request → Prog (Nfs4 τ) ProtoError Unit
  | [] => return ()
  | request :: requests => do
      let _ ← Prog.outcome (request.perform transport)
      performAll transport requests

/-- The next call keeps the accounts. -/
theorem perform_meets (request : Request) :
    (request.perform OwnerServer.transport).Meets Accounted fun _ => Accounted := by
  have dropped : ∀ {α : Type} {body : Prog OwnerWorld ProtoError α},
      body.Meets Accounted (fun _ => Accounted) →
        (do let _ ← body; return ()).Meets Accounted fun _ => Accounted := by
    intro α body meets
    exact .bind _ meets.byCases fun _ => .pure fun _ accounted => accounted
  cases request with
  | «open» dir name shareAccess create => exact dropped (open_meets dir name shareAccess create)
  | close fh stateid => exact close_meets fh stateid
  | lock fh openStateid offset length exclusive =>
      exact dropped (lock_meets fh openStateid offset length exclusive)

/-- Requests keep the client accounted for. -/
theorem performAll_meets (requests : List Request) :
    (performAll OwnerServer.transport requests).Meets Accounted
      (Prog.split (fun _ => Accounted) fun _ _ => False) := by
  induction requests with
  | nil => exact .pure fun _ accounted => accounted
  | cons request requests ih =>
      exact .bind (fun _ => Accounted) (perform_meets request).outcome fun _ => ih

section Ends

variable {τ : Type} {transport : Transport τ}

/-- Every call of the transport ends. -/
def Transport.Answers (transport : Transport τ) : Prop :=
  ∀ prog vers proc args, (transport.call prog vers proc args).Ends

theorem OwnerServer.transport_answers : OwnerServer.transport.Answers := by
  intro prog vers proc args
  cases args with
  | error error => exact .throw _
  | ok request => exact fun server => ⟨_, _, rfl⟩

theorem assemble_ends (c : Compound) : (Nfs4.assemble c : Prog (Nfs4 τ) _ _).Ends := by
  refine .bind .get fun nfs => ?_
  split
  · exact .ofExcept _
  · split
    · exact .throw _
    · exact .bind (.modify _) fun _ => .ofExcept _

theorem runTurn_ends (answers : transport.Answers) (c : Compound)
    {again : UInt32 → Prog (Nfs4 τ) ProtoError CompoundReader} (resends : ∀ code, (again code).Ends) :
    (Nfs4.runTurn transport c again).Ends := by
  have attempted : (Nfs4.attempt transport c).Ends :=
    .bind (.bind (assemble_ends c) fun _ => .within (answers _ _ _ _)) fun _ => .pure _
  refine .bind attempted fun result => ?_
  split
  · refine .bind .get fun nfs => ?_
    split
    · exact .bind (.ofExcept _) fun _ => .pure _
    · exact .pure _
  · split
    · exact resends _
    · exact .throw _
  · exact .throw _

theorem attempts_ends (answers : transport.Answers) (c : Compound) (resends : Nat) :
    (Nfs4.attempts transport c resends).Ends := by
  induction resends with
  | zero => exact runTurn_ends answers c fun _ => .throw _
  | succ resends ih => exact runTurn_ends answers c fun _ => ih

theorem runStateful_ends (answers : transport.Answers) (opcode : UInt32) (c : Compound) :
    (Nfs4.runStateful transport opcode c).Ends :=
  .bind (attempts_ends answers c _) fun _ => .bind (.ofExcept _) fun _ =>
    .bind (.modify _) fun _ => .pure _

theorem perform_ends (answers : transport.Answers) (request : Request) :
    (request.perform transport).Ends := by
  cases request with
  | «open» dir name shareAccess create =>
      refine .bind (.bind .get fun nfs => .bind (.ofExcept _) fun c =>
        .bind (attempts_ends answers c _) fun _ => .bind (.ofExcept _) fun _ =>
          .bind (.modify _) fun _ => ?_) fun _ => .pure _
      split
      · exact .bind .get fun _ => .bind (.ofExcept _) fun _ =>
          .bind (runStateful_ends answers _ _) fun _ => .pure _
      · exact .pure _
  | close fh stateid =>
      exact .bind .get fun _ => .bind (.ofExcept _) fun _ =>
        .bind (runStateful_ends answers _ _) fun _ => .pure _
  | lock fh openStateid offset length exclusive =>
      exact .bind (.bind (.bind (.modify _) fun _ => .bind .get fun _ => .pure _) fun _ =>
        .bind .get fun _ => .bind (.ofExcept _) fun _ =>
          .bind (runStateful_ends answers _ _) fun _ => .pure _) fun _ => .pure _

theorem performAll_ends (answers : transport.Answers) (requests : List Request) :
    (performAll transport requests).Ends := by
  induction requests with
  | nil => exact .pure _
  | cons request requests ih => exact .bind (perform_ends answers request).outcome fun _ => ih

end Ends

/-- A run of a v4.0 client whose open-owner is new to the server ends, and every
operation in it carries the seqid after the last one processed exactly when every
answer but the newest was kept. -/
theorem fresh_iff_kept (choose : Nat → Answer) (requests : List Request) (client : OwnerWorld)
    (minor : client.minor = 0) (new : client.rpc = .new choose) :
    ∃ final, (performAll OwnerServer.transport requests).run client = some (.ok (), final) ∧
      ((∀ entry ∈ final.rpc.log, entry.Fresh) ↔ ∀ entry ∈ final.rpc.log.tail, entry.Kept) := by
  have start : Synced client := by
    refine ⟨minor, ?_, ?_, ?_⟩ <;> simp [new, OwnerServer.new]
  obtain ⟨result, final, ran⟩ := performAll_ends OwnerServer.transport_answers requests client
  have accounted := performAll_meets requests client final result (.inl start) ran
  cases result with
  | ok _ => exact ⟨final, ran, accounted.fresh_iff⟩
  | error error => exact accounted.elim

/-- A v4.0 client just connected, with the server. -/
def ownerWorld (choose : Nat → Answer) : OwnerWorld where
  rpc := .new choose
  minor := 0
  clientid := 7
  owner := [1, 2]
  openSeqid := 0
  lockCounter := 0
  sessionid := none
  seqId := 0

/-- Opens a file that is to be confirmed, and closes it. -/
def openThenClose : List Request :=
  [.open ⟨[1]⟩ "f" 1 false, .close ⟨[3]⟩ ⟨1, .replicate 12 0⟩]

/-- Every operation succeeds. -/
def granting (_ : Nat) : Answer :=
  .succeeded ⟨1, .replicate 12 0⟩
    { cinfo := ⟨true, 0, 0⟩
      rflags := open4ResultConfirm
      attrset := []
      attrsetFits := by decide
      delegation := none
      getfh := .ok ⟨⟨[3]⟩, by decide⟩ }

/-- Every operation fails with `NFS4ERR_NOENT`. -/
def denying (_ : Nat) : Answer :=
  .failed ⟨2, by decide⟩ []

/-- The seqid that the server had processed last and the one it was sent. -/
def Entry.seqids (entry : Entry) : Option UInt32 × UInt32 :=
  (entry.last, entry.seqid)

/-- Over a server that grants everything, an open and a close have fresh seqids. -/
theorem fresh_iff_kept_granting :
    ∃ final, (performAll OwnerServer.transport openThenClose).run (ownerWorld granting) =
      some (.ok (), final) ∧ ∀ entry ∈ final.rpc.log, entry.Fresh := by
  obtain ⟨final, ran, iff⟩ := fresh_iff_kept granting openThenClose (ownerWorld granting) rfl rfl
  have evaluated : ((performAll OwnerServer.transport openThenClose).run
      (ownerWorld granting)).map
        (fun ended => decide (∀ entry ∈ ended.2.rpc.log.tail, entry.Kept)) = some true := by
    decide +kernel
  rw [ran] at evaluated
  exact ⟨final, ran, iff.mpr (of_decide_eq_true (Option.some.inj evaluated))⟩

/-- After an `OPEN` that fails with `NFS4ERR_NOENT` the next operation carries the
same seqid. -/
theorem seqid_repeated_after_noent :
    ¬ ∀ (choose : Nat → Answer) (requests : List Request) (client : OwnerWorld),
      client.minor = 0 → client.rpc = .new choose →
        ∀ final result,
          (performAll OwnerServer.transport requests).run client = some (result, final) →
            ∀ entry ∈ final.rpc.log, entry.Fresh := by
  intro all
  have evaluated : ((performAll OwnerServer.transport openThenClose).run
      (ownerWorld denying)).map (fun ended => ended.2.rpc.log.map Entry.seqids) =
        some [(some 0, 0), (none, 0)] := by
    decide +kernel
  obtain ⟨⟨result, final⟩, ran, log⟩ := Option.map_eq_some_iff.mp evaluated
  have repeated : (some 0, 0) ∈ final.rpc.log.map Entry.seqids := by
    rw [log]
    exact List.mem_cons_self
  obtain ⟨entry, member, seqids⟩ := List.mem_map.mp repeated
  have fresh := all denying openThenClose (ownerWorld denying) rfl rfl final result ran entry member
  simp only [Entry.seqids, Prod.mk.injEq] at seqids
  have next := fresh 0 seqids.1
  rw [seqids.2] at next
  exact absurd next (by decide)

end LibNfs.Proto
