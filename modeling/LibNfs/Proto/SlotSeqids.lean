import LibNfs.Proto.Seqids
import LibNfs.Proto.Slot

/-! # The sequence numbers of a session

What the requests of a v4.1 client carry on the slot of `LibNfs.Proto.Slot`, over
whole runs. The client starts at `csr_sequence` and counts a number when it
assembles a request, the server starts at 0 and counts when it executes
`SEQUENCE`; each request carries the next number exactly as long as
`csr_sequence` is 1 and every request before it was executed.
-/

namespace LibNfs.Proto

open Coding Reading
open Xdr (XdrError XdrDecode XdrEncode beU32 beU64)

/-- The log of a session in which the client counts every request and the server
those it executes. -/
inductive Counted (sequence : UInt32) : List SlotEntry → UInt32 → Prop where
  | start : Counted sequence [] 0
  | request {older : List SlotEntry} (entry : SlotEntry)
      (before : Counted sequence older entry.last)
      (spent : entry.seqid = sequence + UInt32.ofNat older.length) :
      Counted sequence (entry :: older) entry.after

namespace Counted

variable {sequence last : UInt32} {log : List SlotEntry}

/-- When every request was executed, the server counts as many as there are. -/
theorem last_eq (counted : Counted sequence log last) (next : ∀ entry ∈ log, entry.Next)
    (consumed : ∀ entry ∈ log, entry.choice.Consumes) : last = UInt32.ofNat log.length := by
  induction counted with
  | start => rfl
  | request entry before spent ih =>
      have older := ih (fun one member => next one (List.mem_cons_of_mem _ member))
        fun one member => consumed one (List.mem_cons_of_mem _ member)
      have here : entry.Next ∧ entry.choice.Consumes :=
        ⟨next entry List.mem_cons_self, consumed entry List.mem_cons_self⟩
      rw [SlotEntry.after, if_pos here, older, List.length_cons, UInt32.ofNat_add]
      rfl

/-- When every older entry consumed its seqid, each had the next one. -/
theorem next_of_consumed (counted : Counted sequence log last) (one : sequence = 1)
    (consumed : ∀ entry ∈ log.tail, entry.choice.Consumes) : ∀ entry ∈ log, entry.Next := by
  induction counted with
  | start => exact fun entry member => (List.not_mem_nil member).elim
  | @request older entry before spent ih =>
      have next := ih fun one member => consumed one (List.mem_of_mem_tail member)
      have counted : entry.last = UInt32.ofNat older.length := before.last_eq next consumed
      refine List.forall_mem_cons.mpr ⟨?_, next⟩
      rw [SlotEntry.Next, spent, one, counted, UInt32.add_comm]

/-- When each entry had the next seqid, every older one consumed its own. -/
theorem consumed_of_next (counted : Counted sequence log last)
    (next : ∀ entry ∈ log, entry.Next) :
    (∀ entry ∈ log.tail, entry.choice.Consumes) ∧ (log ≠ [] → sequence = 1) := by
  induction counted with
  | start =>
      exact ⟨fun entry member => (List.not_mem_nil member).elim, fun absurd => (absurd rfl).elim⟩
  | @request older entry before spent ih =>
      obtain ⟨here, rest⟩ := List.forall_mem_cons.mp next
      obtain ⟨consumed, one⟩ := ih rest
      rw [SlotEntry.Next, spent] at here
      clear ih spent next
      generalize entry.last = counts at before here
      cases before with
      | start => exact ⟨consumed, fun _ => by simpa using here⟩
      | @request oldest previous earlier spentBefore =>
          refine ⟨List.forall_mem_cons.mpr ⟨?_, consumed⟩, fun _ => one (List.cons_ne_nil _ _)⟩
          -- a request that was not executed leaves its successor one ahead
          by_contra skipped
          have stays : previous.after = previous.last := if_neg fun both => skipped both.2
          have before := rest previous List.mem_cons_self
          rw [SlotEntry.Next, spentBefore] at before
          rw [stays, List.length_cons, UInt32.ofNat_add, ← UInt32.add_assoc, before] at here
          simp at here

/-- Every request carried the next number exactly when `csr_sequence` was 1 and every
request but the newest was executed. -/
theorem next_iff (counted : Counted sequence log last) :
    (∀ entry ∈ log, entry.Next) ↔
      (∀ entry ∈ log.tail, entry.choice.Consumes) ∧ (log ≠ [] → sequence = 1) := by
  refine ⟨counted.consumed_of_next, fun ⟨consumed, one⟩ => ?_⟩
  by_cases empty : log = []
  · subst empty
    exact fun entry member => (List.not_mem_nil member).elim
  · exact counted.next_of_consumed (one empty) consumed

end Counted

section Serving

variable {server : SlotServer} {request : Bytes} {opcode seqid : UInt32}

/-- A repeated reply changes nothing at the server. -/
theorem repeated_frame (server : SlotServer) (request : Bytes) (entry : SlotEntry) :
    (server.repeated request entry).2 = server := by
  unfold SlotServer.repeated
  split
  · rfl
  · split
    · rfl
    · split <;> rfl

/-- A request on the slot is entered in the log and counted when it is executed. -/
theorem serve_slot (reads : readFirst request = .ok (opcode, some seqid)) :
    ∃ entry : SlotEntry, entry.last = server.last ∧ entry.seqid = seqid ∧
      (server.serve request).2.log = entry :: server.log ∧
      (server.serve request).2.last = entry.after ∧
      (server.serve request).2.session = server.session := by
  refine ⟨⟨server.last, seqid, server.choose server.turn⟩, rfl, rfl, ?_⟩
  simp only [SlotServer.serve, reads, SlotServer.serveSlot, SlotEntry.after]
  cases choice : server.choose server.turn with
  | lost error => simp [Choice.Consumes]
  | refused failure =>
      simp only
      split <;> simp [Choice.Consumes, repeated_frame]
  | executed slot status count results reply =>
      simp only
      split
      · rename_i next
        simp [Choice.Consumes, next]
      · rename_i other
        simp [Choice.Consumes, other, repeated_frame]

/-- A request outside the session is not entered in the log. -/
theorem serve_raw (reads : readFirst request = .ok (opcode, none)) :
    (server.serve request).2.log = server.log ∧
      (server.serve request).2.session = server.session ∧
      (opcode ≠ opCreateSession → (server.serve request).2.last = server.last) := by
  simp only [SlotServer.serve, reads, SlotServer.serveRaw]
  cases choice : server.choose server.turn with
  | lost error => simp
  | refused failure => simp
  | executed slot status count results reply =>
      by_cases creates : opcode = opCreateSession <;> simp [creates]

/-- What becomes of `CREATE_SESSION`. -/
theorem serve_createSession (reads : readFirst request = .ok (opCreateSession, none)) :
    (∃ error, (server.serve request).1 = .error error) ∨
      (∃ failure : Failure,
        (server.serve request).1 = .ok (SlotServer.refusal opCreateSession failure.status)) ∨
      ((server.serve request).1 = .ok (CompoundRes.encode ⟨nfs4Ok, "", 1,
          resultHeader opCreateSession nfs4Ok ++ server.session.code⟩) ∧
        (server.serve request).2.last = 0) := by
  simp only [SlotServer.serve, reads, SlotServer.serveRaw]
  cases choice : server.choose server.turn with
  | lost error => exact .inl ⟨error, rfl⟩
  | refused failure => exact .inr (.inl ⟨failure, rfl⟩)
  | executed slot status count results reply =>
      cases reply with
      | error error => exact .inl ⟨error, rfl⟩
      | ok _ => exact .inr (.inr ⟨rfl, rfl⟩)

end Serving

/-- The client has counted every request of its session. -/
structure InSession (sequence : UInt32) (nfs : Nfs4 SlotServer) : Prop where
  minor : nfs.minor = 1
  counted : Counted sequence nfs.rpc.log nfs.rpc.last
  spent : nfs.seqId = sequence + UInt32.ofNat nfs.rpc.log.length

variable {sequence : UInt32}

/-- The server finds the number in a request of the session. -/
theorem readFirst_sequenced (minor : UInt32) (sessionid : Vector UInt8 16) (seqid : UInt32)
    (c : Compound) :
    ∃ args, Nfs4.sequenced minor sessionid seqid c = .ok args ∧
      readFirst args = .ok (opSequence, some seqid) := by
  have tag : XdrEncode.encode "" [] = .ok (textCode "") :=
    Xdr.Ty.writes (.sized .string) "" (by decide : Sized (Xdr.asBytes "")) trivial []
  have read := @Fattr4.reads_text "" (by decide)
  have session := reads_fixed sessionid
  refine ⟨textCode "" ++ (beU32 minor ++ (beU32 (c.nops + 1) ++ (beU32 opSequence ++
    (fixedCode sessionid ++ (beU32 seqid ++ (beU32 0 ++ (beU32 0 ++ (beU32 (Xdr.boolWord false) ++
      c.ops)))))))), ?_, ?_⟩
  · rw [Nfs4.sequenced, tag]
    simp [XdrEncode.encode, fixedCode, bind, Except.bind, pure, Except.pure]
  · simp [readFirst, read _, session _, bind, Except.bind, pure, Except.pure]

theorem exchange_keeps (c : Compound) :
    (Nfs4.exchange SlotServer.transport c).Keeps (InSession sequence) := by
  intro nfs final result inSession ended
  cases session : nfs.sessionid with
  | none =>
      simp [Nfs4.exchange, Nfs4.assemble, Prog.bind_apply, Prog.get, inSession.minor, session,
        Prog.throw] at ended
      exact ended.2 ▸ inSession
  | some sessionid =>
      obtain ⟨args, built, reads⟩ := readFirst_sequenced 1 sessionid nfs.seqId c
      simp [Nfs4.exchange, Nfs4.assemble, Nfs4.call, Prog.bind_apply, Prog.get, Prog.modify,
        Prog.ofExcept, Prog.within, inSession.minor, session, built, SlotServer.transport] at ended
      obtain ⟨-, rfl⟩ := ended
      obtain ⟨entry, last, seqid, log, after, -⟩ := @serve_slot nfs.rpc _ _ _ reads
      refine ⟨rfl, ?_, ?_⟩
      · simp only [log, after]
        exact .request entry (last ▸ inSession.counted) (seqid.trans inSession.spent)
      · simp only [log, List.length_cons, UInt32.ofNat_add, inSession.spent]
        rw [UInt32.add_assoc]
        rfl

/-- A property of programs that passes from the runs of a `COMPOUND` to what is put
together from them. -/
structure Compositional {τ : Type} (transport : Transport τ)
    (holds : {α : Type} → Prog (Nfs4 τ) ProtoError α → Prop) : Prop where
  pure : ∀ {α : Type} (value : α), holds (Pure.pure value : Prog (Nfs4 τ) ProtoError α)
  throw : ∀ {α : Type} (error : ProtoError), holds (Prog.throw error : Prog (Nfs4 τ) _ α)
  get : holds (Prog.get : Prog (Nfs4 τ) ProtoError (Nfs4 τ))
  ofExcept : ∀ {α : Type} (result : Except ProtoError α),
    holds (Prog.ofExcept result : Prog (Nfs4 τ) ProtoError α)
  bind : ∀ {α β : Type} {first : Prog (Nfs4 τ) ProtoError α} {next : α → Prog (Nfs4 τ) ProtoError β},
    holds first → (∀ value, holds (next value)) → holds (first >>= next)
  outcome : ∀ {α : Type} {body : Prog (Nfs4 τ) ProtoError α},
    holds body → holds (Prog.outcome body : Prog (Nfs4 τ) ProtoError (Except ProtoError α))
  advance : holds (Nfs4.advance : Prog (Nfs4 τ) ProtoError Unit)
  freshLockOwner : holds (Nfs4.freshLockOwner : Prog (Nfs4 τ) ProtoError Bytes)
  run : ∀ c, holds (Nfs4.run transport c)

namespace Compositional

variable {τ : Type} {transport : Transport τ}
  {holds : {α : Type} → Prog (Nfs4 τ) ProtoError α → Prop}

/-- Whatever is closed under composition holds of a request. -/
theorem request (closed : Compositional transport holds) {α : Type}
    (built : Except XdrError Compound) (read : ReadM α) :
    holds (Nfs4.request transport built read) :=
  closed.bind (closed.ofExcept _) fun _ => closed.bind (closed.run _) fun _ => closed.ofExcept _

/-- Whatever is closed under composition holds of a request that counts. -/
theorem runStateful (closed : Compositional transport holds) (opcode : UInt32) (c : Compound) :
    holds (Nfs4.runStateful transport opcode c) :=
  closed.bind (closed.run _) fun _ => closed.bind (closed.ofExcept _) fun _ =>
    closed.bind closed.advance fun _ => closed.pure _

/-- Whatever is closed under composition holds of an open. -/
theorem «open» (closed : Compositional transport holds) (opening : Nfs4.Opening) :
    holds (Nfs4.open transport opening.dir opening.name opening.shareAccess opening.create) := by
  refine closed.bind closed.get fun _ => closed.bind (closed.ofExcept _) fun _ =>
    closed.bind (closed.run _) fun _ => closed.bind (closed.ofExcept _) fun _ =>
      closed.bind closed.advance fun _ => ?_
  split
  · exact closed.bind closed.get fun _ => closed.bind (closed.ofExcept _) fun _ =>
      closed.bind (closed.runStateful _ _) fun _ => closed.pure _
  · exact closed.pure _

/-- Whatever is closed under composition holds of a test for a lock. -/
theorem testLock (closed : Compositional transport holds) (fh : NfsFh4) (offset length : UInt64)
    (exclusive : Bool) : holds (Nfs4.testLock transport fh offset length exclusive) := by
  refine closed.bind closed.freshLockOwner fun _ => closed.bind closed.get fun _ =>
    closed.bind (closed.ofExcept _) fun _ =>
      closed.bind (closed.outcome (closed.run _)) fun result => ?_
  cases result with
  | ok reader => exact closed.ofExcept _
  | error error =>
      by_cases denied : error = .nfs4 nfs4errDenied
      · simpa [denied] using closed.pure false
      · simpa [denied] using closed.throw error

/-- Every method is put together from runs of a `COMPOUND`. -/
theorem perform (closed : Compositional transport holds) (method : Method) :
    holds (method.perform transport) := by
  cases method with
  | renew => exact closed.bind closed.get fun _ => closed.request _ _
  | «open» opening => exact closed.open opening
  | close fh stateid =>
      exact closed.bind closed.get fun _ => closed.bind (closed.ofExcept _) fun _ =>
        closed.bind (closed.runStateful _ _) fun _ => closed.pure _
  | lock fh openStateid offset length exclusive =>
      exact closed.bind closed.freshLockOwner fun _ => closed.bind closed.get fun _ =>
        closed.bind (closed.ofExcept _) fun _ =>
          closed.bind (closed.runStateful _ _) fun _ => closed.pure _
  | testLock fh offset length exclusive => exact closed.testLock fh offset length exclusive
  | _ => exact closed.request _ _

end Compositional

theorem attempt_keeps (c : Compound) :
    (Nfs4.attempt SlotServer.transport c).Keeps (InSession sequence) :=
  .bind (exchange_keeps c) fun _ => .pure _

theorem ownResults_keeps (reader : CompoundReader) :
    (Nfs4.ownResults reader).Keeps (InSession sequence) := by
  refine .bind .get fun nfs => ?_
  split
  · exact .bind (.ofExcept _) fun _ => .pure _
  · exact .pure _

/-- A turn keeps the session when trying again does. -/
theorem runTurn_keeps (c : Compound)
    {again : UInt32 → Prog (Nfs4 SlotServer) ProtoError CompoundReader}
    (resends : ∀ code, (again code).Keeps (InSession sequence)) :
    (Nfs4.runTurn SlotServer.transport c again).Keeps (InSession sequence) := by
  refine .bind (attempt_keeps c) fun result => ?_
  split
  · exact ownResults_keeps _
  · split
    · exact resends _
    · exact .throw _
  · exact .throw _

/-- However often a request is sent again, each time is counted. -/
theorem attempts_keeps (c : Compound) (resends : Nat) :
    (Nfs4.attempts SlotServer.transport c resends).Keeps (InSession sequence) := by
  induction resends with
  | zero => exact runTurn_keeps c fun _ => .throw _
  | succ resends ih => exact runTurn_keeps c fun _ => ih

/-- Keeping the session is closed under composition. -/
theorem keeps_compositional :
    Compositional SlotServer.transport fun body => body.Keeps (InSession sequence) where
  pure := .pure
  throw := .throw
  get := .get
  ofExcept := .ofExcept
  bind := .bind
  outcome := .outcome
  advance := .modify fun _ inSession => ⟨inSession.minor, inSession.counted, inSession.spent⟩
  freshLockOwner :=
    .bind (.modify fun _ inSession => ⟨inSession.minor, inSession.counted, inSession.spent⟩)
      fun _ => .bind .get fun _ => .pure _
  run c := attempts_keeps c _

theorem ends_compositional {τ : Type} {transport : Transport τ} (answers : transport.Answers) :
    Compositional transport fun body => body.Ends where
  pure := .pure
  throw := .throw
  get := .get
  ofExcept := .ofExcept
  bind := .bind
  outcome := .outcome
  advance := .modify _
  freshLockOwner := .bind (.modify _) fun _ => .bind .get fun _ => .pure _
  run c := attempts_ends answers c _

section Handshake

variable {α : Type} {made : Except XdrError Compound} {opcode count : UInt32} {rest : Bytes}
  {read : ReadM α}

/-- What a request without `SEQUENCE` leads to. -/
theorem requestRaw_eq (nfs : Nfs4 SlotServer) (built : made = .ok ⟨beU32 opcode ++ rest, count⟩)
    (other : opcode ≠ opSequence) :
    ∃ args, readFirst args = .ok (opcode, none) ∧
      (Nfs4.requestRaw SlotServer.transport made read).run nfs =
        some ((nfs.rpc.serve args).1.mapError .rpc >>= fun reply =>
          CompoundReader.parse reply >>= fun reader => read.run' reader,
          { nfs with rpc := (nfs.rpc.serve args).2 }) := by
  have tag : Reads XdrDecode.decode "" (Xdr.Ty.code (.sized .string) "") :=
    Fattr4.reads_text (by decide)
  have first : readFirst (Xdr.Ty.code (.sized .string) "" ++ (beU32 nfs.minor ++ (beU32 count ++
      (beU32 opcode ++ rest)))) = .ok (opcode, none) := by
    simp [readFirst, tag _, other, bind, Except.bind, pure, Except.pure]
  have finished : Compound.finish ⟨beU32 opcode ++ rest, count⟩ nfs.minor =
      .ok (Xdr.Ty.code (.sized .string) "" ++ (beU32 nfs.minor ++ (beU32 count ++
        (beU32 opcode ++ rest)))) := Compound.finish_eq _ _
  generalize Xdr.Ty.code (.sized .string) "" ++ (beU32 nfs.minor ++ (beU32 count ++
    (beU32 opcode ++ rest))) = args at first finished
  refine ⟨args, first, ?_⟩
  simp only [built, Nfs4.requestRaw, Nfs4.runRaw, Nfs4.exchangeRaw, Nfs4.call, Prog.bind_apply,
    Prog.get, Prog.ofExcept, Prog.within, finished, SlotServer.transport, liftXdr_ok,
    Option.map_some]
  cases (nfs.rpc.serve args).1 with
  | error error => rfl
  | ok reply =>
      simp only [Except.mapError, bind, Except.bind]
      cases CompoundReader.parse reply <;> rfl

open CompoundReader (beginOp decode takes_decode takes_word takes_words takes_beginOp)

/-- The attributes of a channel are passed over. -/
theorem takes_skipChannelAttrs (attrs : ChannelAttrs) :
    Takes CompoundReader.mk skipChannelAttrs () attrs.code := by
  have unrolled : skipChannelAttrs = (do
      let _ : UInt32 ← decode
      let _ : UInt32 ← decode
      let _ : UInt32 ← decode
      let _ : UInt32 ← decode
      let _ : UInt32 ← decode
      let _ : UInt32 ← decode
      let _rdmaIrd : List UInt32 ← decode
      return ()) := by
    simp [skipChannelAttrs, List.range, List.range.loop]
  rw [unrolled]
  exact (takes_word attrs.headerpadSize).bind ((takes_word attrs.maxRequestSize).bind
    ((takes_word attrs.maxResponseSize).bind ((takes_word attrs.maxResponseSizeCached).bind
      ((takes_word attrs.maxOperations).bind ((takes_word attrs.maxRequests).bind
        ((takes_words attrs.rdmaIrd).ret fun _ => ()))))))

/-- What `CREATE_SESSION` returns is read. -/
theorem takes_createSession (res : SessionRes) :
    Takes CompoundReader.mk Nfs4.readCreateSession (res.sessionid, res.sequence)
      (resultHeader opCreateSession nfs4Ok ++ res.code) :=
  (takes_beginOp opCreateSession).bind ((takes_decode (reads_fixed res.sessionid)).bind
    ((takes_word res.sequence).bind ((takes_word res.flags).bind
      ((takes_skipChannelAttrs res.fore).bind ((takes_skipChannelAttrs res.back).ret
        fun _ => (res.sessionid, res.sequence))))))

/-- The client before it has a session. -/
structure Unopened (sequence : UInt32) (nfs : Nfs4 SlotServer) : Prop where
  minor : nfs.minor = 1
  unused : nfs.rpc.log = []
  sequence : nfs.rpc.session.sequence = sequence

/-- A request outside the session leaves the client as it was. -/
theorem Unopened.served {nfs : Nfs4 SlotServer} {args : Bytes} (unopened : Unopened sequence nfs)
    (reads : readFirst args = .ok (opcode, none)) :
    Unopened sequence { nfs with rpc := (nfs.rpc.serve args).2 } := by
  obtain ⟨log, session, -⟩ := @serve_raw nfs.rpc _ _ reads
  exact ⟨unopened.minor, log.trans unopened.unused,
    (congrArg SessionRes.sequence session).trans unopened.sequence⟩

/-- `EXCHANGE_ID` keeps the client without a session. -/
theorem exchangeId_keeps (verifier : Vector UInt8 8) (owner : Bytes) (sized : Sized owner) :
    (Nfs4.requestRaw SlotServer.transport (Compound.new.exchangeId verifier owner)
      Nfs4.readExchangeId).Keeps (Unopened sequence) := by
  intro nfs final result unopened ended
  have built : Compound.new.exchangeId verifier owner = .ok ⟨beU32 opExchangeId ++
      (fixedCode verifier ++ (dataCode owner ++ (beU32 0 ++ (beU32 0 ++ beU32 0)))), 1⟩ := by
    simp [Compound.exchangeId, Compound.new, sized, bind, Except.bind]
  obtain ⟨args, reads, ran⟩ := requestRaw_eq nfs built (by decide)
  rw [ran] at ended
  cases ended
  exact unopened.served reads

/-- The channel attributes of the client. -/
def channelCode : Bytes :=
  beU32 0 ++ (beU32 1048576 ++ (beU32 1048576 ++ (beU32 0 ++ (beU32 8 ++ (beU32 1 ++ beU32 0)))))

theorem createSession_built (clientid : UInt64) (createSeqid : UInt32) :
    Compound.new.createSession clientid createSeqid = .ok ⟨beU32 opCreateSession ++
      (beU64 clientid ++ (beU32 createSeqid ++ (beU32 0 ++ (channelCode ++ (channelCode ++
        (beU32 0 ++ (beU32 1 ++ beU32 0))))))), 1⟩ := by
  have channel (c : Compound) :
      c.append encodeChannelAttrs = .ok { c with ops := c.ops ++ channelCode } := by
    simp [Compound.append, encodeChannelAttrs, channelCode, XdrEncode.encode, bind, Except.bind,
      pure, Except.pure]
  simp [Compound.createSession, Compound.new, channel, bind, Except.bind]

/-- `CREATE_SESSION` starts the slot at 0 and tells the client `csr_sequence`. -/
theorem createSession_meets (clientid : UInt64) (createSeqid : UInt32) :
    (Nfs4.requestRaw SlotServer.transport (Compound.new.createSession clientid createSeqid)
      Nfs4.readCreateSession).Meets (Unopened sequence)
      (Prog.split (fun session nfs => Unopened sequence nfs ∧ nfs.rpc.last = 0 ∧
        session.2 = sequence) fun _ => Unopened sequence) := by
  intro nfs final result unopened ended
  obtain ⟨args, reads, ran⟩ :=
    requestRaw_eq nfs (createSession_built clientid createSeqid) (by decide)
  rw [ran] at ended
  cases ended
  have kept := unopened.served reads
  rcases @serve_createSession nfs.rpc _ reads with ⟨error, failed⟩ | ⟨failure, failed⟩ |
    ⟨reply, started⟩
  · rw [failed]
    exact kept
  · have parsed : CompoundReader.parse (SlotServer.refusal opCreateSession failure.status) =
        .error (.nfs4 failure.status) := by
      rw [SlotServer.refusal, parse_encode (by decide : (Xdr.asBytes "").length < 2 ^ 32),
        if_neg failure.bad]
    rw [failed]
    simp only [Except.mapError, bind, Except.bind, parsed]
    exact kept
  · have parsed : CompoundReader.parse (CompoundRes.encode ⟨nfs4Ok, "", 1,
        resultHeader opCreateSession nfs4Ok ++ nfs.rpc.session.code⟩) =
        .ok ⟨resultHeader opCreateSession nfs4Ok ++ nfs.rpc.session.code⟩ := by
      rw [parse_encode (by decide : (Xdr.asBytes "").length < 2 ^ 32), if_pos rfl]
    have read := (takes_createSession nfs.rpc.session).run'
    rw [reply]
    simp only [Except.mapError, bind, Except.bind, parsed, read]
    exact ⟨kept, started, unopened.sequence⟩

/-- The log of a run, however it ends, is that of a session. -/
def Logged (sequence : UInt32) (nfs : Nfs4 SlotServer) : Prop :=
  ∃ last, Counted sequence nfs.rpc.log last

/-- What the server logged before a session. -/
theorem Unopened.logged {nfs : Nfs4 SlotServer} (unopened : Unopened sequence nfs) :
    Logged sequence nfs :=
  ⟨0, unopened.unused ▸ .start⟩

theorem InSession.logged {nfs : Nfs4 SlotServer} (inSession : InSession sequence nfs) :
    Logged sequence nfs :=
  ⟨_, inSession.counted⟩

/-- The handshake ends in a session or fails. -/
theorem establishSession_meets (nanos : UInt64) :
    (Nfs4.establishSession SlotServer.transport nanos).Meets
      (fun nfs => Sized nfs.owner ∧ Unopened sequence nfs)
      (Prog.split (fun _ => InSession sequence) fun _ => Logged sequence) := by
  refine .get_bind fun start => ?_
  intro nfs final result before ended
  obtain ⟨⟨sized, unopened⟩, rfl⟩ := before
  refine Prog.Meets.bind (fun _ => Unopened sequence) ?_ (fun identity => ?_) nfs final result
    unopened ended
  · exact (exchangeId_keeps _ _ sized).byCases.onError fun _ _ unopened => unopened.logged
  refine .bind (fun _ => Unopened sequence) (.modify fun _ unopened =>
    ⟨unopened.minor, unopened.unused, unopened.sequence⟩) fun _ => ?_
  refine .bind (fun session nfs => Unopened sequence nfs ∧ nfs.rpc.last = 0 ∧
    session.2 = sequence) ?_ fun session => ?_
  · exact (createSession_meets _ _).onError fun _ _ unopened => unopened.logged
  refine .bind (fun _ => InSession sequence) (.modify ?_) fun _ => ?_
  · rintro nfs ⟨unopened, zero, told⟩
    refine ⟨unopened.minor, ?_, ?_⟩
    · simp only [unopened.unused, zero]
      exact .start
    · simp [unopened.unused, told]
  · exact (keeps_compositional.request _ _).byCases.onError fun _ _ inSession => inSession.logged

/-- `DESTROY_SESSION` keeps the log of the session in order. -/
theorem destroySession_keeps :
    (Nfs4.destroySession SlotServer.transport).Keeps (InSession sequence) := by
  refine .bind .get fun start => ?_
  split
  · exact .pure _
  · rename_i sessionid _
    refine .bind ?_ fun _ => .modify fun _ inSession =>
      ⟨inSession.minor, inSession.counted, inSession.spent⟩
    intro nfs final result inSession ended
    have built : Compound.new.destroySession sessionid =
        .ok ⟨beU32 opDestroySession ++ fixedCode sessionid, 1⟩ := by
      simp [Compound.destroySession, Compound.new, bind, Except.bind]
    obtain ⟨args, reads, ran⟩ := requestRaw_eq nfs built (by decide)
    rw [ran] at ended
    cases ended
    obtain ⟨log, -, last⟩ := @serve_raw nfs.rpc _ _ reads
    refine ⟨inSession.minor, ?_, ?_⟩
    · simp only [log, last (by decide)]
      exact inSession.counted
    · simp only [log]
      exact inSession.spent

end Handshake

/-- A call on a client with a session. -/
inductive SessionCall where
  | call (method : Method)
  | destroySession

/-- Makes a call and drops its result. -/
def SessionCall.perform {τ : Type} (transport : Transport τ) : SessionCall →
    Prog (Nfs4 τ) ProtoError Unit
  | .call method => do
      let _ ← method.perform transport
      return ()
  | .destroySession => Nfs4.destroySession transport

/-- Calls one after the other, whether they succeed or fail. -/
def performCalls {τ : Type} (transport : Transport τ) :
    List SessionCall → Prog (Nfs4 τ) ProtoError Unit
  | [] => return ()
  | call :: calls => do
      let _ ← Prog.outcome (call.perform transport)
      performCalls transport calls

/-- The handshake of a v4.1 client and the calls after it. -/
def sessionRun {τ : Type} (transport : Transport τ) (nanos : UInt64) (calls : List SessionCall) :
    Prog (Nfs4 τ) ProtoError Unit := do
  Nfs4.establishSession transport nanos
  performCalls transport calls

theorem performCalls_keeps (calls : List SessionCall) :
    (performCalls SlotServer.transport calls).Keeps (InSession sequence) := by
  induction calls with
  | nil => exact .pure _
  | cons call calls ih =>
      refine .bind (.outcome ?_) fun _ => ih
      cases call with
      | call method => exact .bind (keeps_compositional.perform method) fun _ => .pure _
      | destroySession => exact destroySession_keeps

theorem SlotServer.transport_answers : SlotServer.transport.Answers := by
  intro prog vers proc args
  cases args with
  | error error => exact .throw _
  | ok request => exact fun server => ⟨_, _, rfl⟩

section Ends

variable {τ : Type} {transport : Transport τ}

theorem requestRaw_ends (answers : transport.Answers) {α : Type}
    (built : Except XdrError Compound) (read : ReadM α) :
    (Nfs4.requestRaw transport built read).Ends :=
  .bind (.ofExcept _) fun _ => .bind (.bind (.bind .get fun _ => .bind (.ofExcept _) fun _ =>
    .within (answers _ _ _ _)) fun _ => .ofExcept _) fun _ => .ofExcept _

theorem establishSession_ends (answers : transport.Answers) (nanos : UInt64) :
    (Nfs4.establishSession transport nanos).Ends :=
  .bind .get fun _ => .bind (requestRaw_ends answers _ _) fun _ => .bind (.modify _) fun _ =>
    .bind (requestRaw_ends answers _ _) fun _ => .bind (.modify _) fun _ =>
      (ends_compositional answers).request _ _

theorem performCalls_ends (answers : transport.Answers) (calls : List SessionCall) :
    (performCalls transport calls).Ends := by
  induction calls with
  | nil => exact .pure _
  | cons call calls ih =>
      refine .bind (.outcome ?_) fun _ => ih
      cases call with
      | call method =>
          exact .bind ((ends_compositional answers).perform method) fun _ => .pure _
      | destroySession =>
          refine .bind .get fun _ => ?_
          split
          · exact .pure _
          · exact .bind (requestRaw_ends answers _ _) fun _ => .modify _

end Ends

/-- A server that no client has spoken to. -/
def SlotServer.new (choose : Nat → Choice) (exchange : ExchangeRes) (session : SessionRes) :
    SlotServer :=
  ⟨choose, exchange, session, 0, 0, none, []⟩

/-- A run of a v4.1 client ends, and every request of its session carries the number
after the last one executed exactly when every request but the newest was executed
and, if there is one, `csr_sequence` was 1. -/
theorem next_iff_executed (choose : Nat → Choice) (exchange : ExchangeRes) (session : SessionRes)
    (pid : UInt32) (nanos : UInt64) (calls : List SessionCall) :
    ∃ result final, (sessionRun SlotServer.transport nanos calls).run
        (Nfs4.fresh (.new choose exchange session) 1 (uniqueOwner pid nanos)) =
          some (result, final) ∧
      ((∀ entry ∈ final.rpc.log, entry.Next) ↔
        (∀ entry ∈ final.rpc.log.tail, entry.choice.Consumes) ∧
          (final.rpc.log ≠ [] → session.sequence = 1)) := by
  have ends : (sessionRun SlotServer.transport nanos calls).Ends :=
    .bind (establishSession_ends SlotServer.transport_answers nanos) fun _ =>
      performCalls_ends SlotServer.transport_answers calls
  have meets : (sessionRun SlotServer.transport nanos calls).Meets
      (fun nfs => Sized nfs.owner ∧ Unopened session.sequence nfs)
      fun _ => Logged session.sequence := by
    refine .bind (fun _ => InSession session.sequence) (establishSession_meets nanos) fun _ => ?_
    exact (performCalls_keeps calls).weaken (fun _ pre => pre) fun _ _ kept => kept.logged
  obtain ⟨result, final, ran⟩ :=
    ends (Nfs4.fresh (.new choose exchange session) 1 (uniqueOwner pid nanos))
  have sized : Sized (uniqueOwner pid nanos) :=
    Nat.lt_of_le_of_lt (length_uniqueOwner pid nanos) (by decide)
  obtain ⟨last, counted⟩ := meets _ final result ⟨sized, rfl, rfl, rfl⟩ ran
  exact ⟨result, final, ran, counted.next_iff⟩

/-- A session that starts with the number 1. -/
def sessionRes : SessionRes :=
  ⟨.replicate 16 0, 1, 0, ⟨0, 0, 0, 0, 0, 1, .empty⟩, ⟨0, 0, 0, 0, 0, 1, .empty⟩⟩

/-- The server is busy when the first request of the session arrives, and executes
everything else. -/
def busyOnce (turn : Nat) : Choice :=
  if turn = 2 then .refused ⟨nfs4errDelay, by decide⟩
  else .executed ⟨.replicate 16 0, 1, 0, 0, 0, 0⟩ nfs4Ok 2 (resultHeader opReclaimComplete nfs4Ok)
    (.ok ())

/-- The seqid before an entry and after it. -/
def SlotEntry.seqids (entry : SlotEntry) : UInt32 × UInt32 :=
  (entry.last, entry.seqid)

/-- After `NFS4ERR_DELAY` for `SEQUENCE` the request is sent again with the number
after the next one. -/
theorem seqid_skipped_after_delay :
    ¬ ∀ (choose : Nat → Choice) (exchange : ExchangeRes) (session : SessionRes) (pid : UInt32)
      (nanos : UInt64) (calls : List SessionCall) (result : Except ProtoError Unit)
      (final : Nfs4 SlotServer),
      (sessionRun SlotServer.transport nanos calls).run
          (Nfs4.fresh (.new choose exchange session) 1 (uniqueOwner pid nanos)) =
            some (result, final) →
        ∀ entry ∈ final.rpc.log, entry.Next := by
  intro all
  have evaluated : ((sessionRun SlotServer.transport 1 []).run
      (Nfs4.fresh (.new busyOnce ⟨1, 1, 0, 0, ⟨[], by decide⟩, ⟨[], by decide⟩⟩ sessionRes) 1
        (uniqueOwner 1 1))).map (fun ended => ended.2.rpc.log.head?.map SlotEntry.seqids) =
          some (some (0, 2)) := by
    decide +kernel
  obtain ⟨⟨result, final⟩, ran, head⟩ := Option.map_eq_some_iff.mp evaluated
  obtain ⟨entry, newest, seqids⟩ := Option.map_eq_some_iff.mp head
  have next := all _ _ _ _ _ _ result final ran entry (List.mem_of_head? newest)
  simp only [SlotEntry.seqids, Prod.mk.injEq] at seqids
  rw [SlotEntry.Next, seqids.1, seqids.2] at next
  exact absurd next (by decide)

end LibNfs.Proto
