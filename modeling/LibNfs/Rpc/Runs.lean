import LibNfs.Rpc.Provenance

/-! # Runs of calls

Since the calls of a run have distinct xids and every message received is the
reply of an execution, a value that a call returns was produced by executing the
message of that call. This holds as long as nothing is written on a connection
that a failed write or an oversized reply has left in the middle of a record; the
last section is a run in which it fails for the second reason.
-/

namespace LibNfs.Rpc

open Xdr (XdrError beU32 decodeU32)
open RecordMarking

variable {issued : List Bytes} {nextXid : UInt32} {client : RpcClient} {net : Network}

variable {α : Type} {decode : Bytes → Except XdrError (α × Bytes)} {xid : UInt32} {message : Bytes}

/-- The server executed the message, and the value is the decoding of the result. -/
def Produced (decode : Bytes → Except XdrError (α × Bytes)) (message : Bytes) (value : α)
    (net : Network) : Prop :=
  ∃ flavor verf result rest,
    ⟨message, .accepted flavor verf (.success result)⟩ ∈ net.executed ∧
      decode result = .ok (value, rest)

/-- The message is the only one issued under its xid. -/
def Unique (issued : List Bytes) (xid : UInt32) (message : Bytes) : Prop :=
  ∀ request ∈ issued, leadingXid request = xid → request = message

/-- A reply that ends an attempt is the reply to its message. -/
theorem produced_of_verdict (unique : Unique issued xid message) {reply : Bytes} {value : α}
    (honest : Honest issued nextXid client net) (replied : net.Replied reply)
    (decided : RpcClient.verdict decode xid reply = .ok (some value)) :
    Produced decode message value net := by
  obtain ⟨⟨request, answer⟩, member, rfl⟩ := replied
  obtain ⟨mine, wellFormed⟩ := honest.executed _ member
  simp only [RpcClient.verdict, Execution.message, parseReply_encode _ wellFormed, bind,
    Except.bind, pure, Except.pure] at decided
  split at decided
  · cases decided
  · rename_i own
    rcases outcome : answer.outcome with error | result
    · simp [outcome] at decided
    · rcases read : decode result with error | ⟨decoded, rest⟩
      · simp [outcome, read] at decided
      · simp only [outcome, read, liftXdr_ok, Except.ok.injEq, Option.some.injEq] at decided
        obtain ⟨flavor, verf, rfl⟩ := Reply.outcome_ok outcome
        obtain rfl := unique request mine (not_not.mp own)
        exact ⟨flavor, verf, result, rest, member, decided ▸ read⟩

/-- What an attempt or a call leads to. -/
def Answered (issued : List Bytes) (nextXid : UInt32)
    (decode : Bytes → Except XdrError (α × Bytes)) (message : Bytes) :
    Except RpcError α → World Schedule → Prop :=
  Prog.split
    (fun value world => On (Consistent issued nextXid) world ∧
      Produced decode message value world.env.net)
    fun _ => On (Consistent issued nextXid)

theorem attemptTurn_meets (guard : Network → Prop) [DecidablePred guard]
    (unique : Unique issued xid message) :
    (RpcClient.attemptTurn (network guard) decode xid).Meets (On (Listening issued nextXid))
      (Prog.again (On (Listening issued nextXid)) (Answered issued nextXid decode message)) := by
  refine .bind (fun reply => On (Received issued nextXid reply)) (recvMessage_meets guard)
    fun reply => .ofExcept fun world holds => ?_
  rcases decided : RpcClient.verdict decode xid reply with error | _ | value
  · exact holds.1.toConsistent
  · exact holds.1
  · exact ⟨holds.1.toConsistent, produced_of_verdict unique holds.1.honest holds.2 decided⟩

theorem attemptCall_meets (unique : Unique issued xid message) (mine : message ∈ issued) :
    (RpcClient.attemptCall (network Network.Sound) decode xid message).Meets
      (On (Consistent issued nextXid)) (Answered issued nextXid decode message) := by
  refine .bind (fun _ => On (Listening issued nextXid)) (send_meets mine) fun _ => ?_
  exact .loop (RpcClient.attemptTurn_decreases _ decode xid) (attemptTurn_meets _ unique)

theorem reconnect_meets (guard : Network → Prop) [DecidablePred guard] :
    (RpcClient.reconnect (network guard)).Meets (On (Consistent issued nextXid))
      (fun _ => On (Consistent issued nextXid)) := by
  refine .bind (fun result world =>
    (result = .ok () ∧ ∃ old, Honest issued nextXid world.client old ∧
        world.env.net = { old with arrived := old.requests, connection := .fresh }) ∨
      (∃ kind, result = .error kind) ∧ On (Consistent issued nextXid) world)
    (ask_network (fun _ _ _ _ consistent => consistent.serve) ?_) fun result => ?_
  · intro world net choice result consistent answered
    rcases Network.connect_cases answered with ⟨rfl, same⟩ | ⟨failed, same⟩
    · exact .inl ⟨rfl, net, consistent.honest, same⟩
    · refine .inr ⟨failed, ?_⟩
      rw [On, same]
      exact consistent
  · split
    · refine .throw fun world holds => ?_
      rcases holds with ⟨absurd, -⟩ | ⟨-, consistent⟩
      · cases absurd
      · exact consistent
    · refine RpcClient.update_meets fun world holds => ?_
      rcases holds with ⟨-, old, honest, same⟩ | ⟨⟨kind, absurd⟩, -⟩
      · refine ⟨⟨honest.next, ?_, ?_, ?_, ?_, ?_⟩, fun _ => ?_⟩ <;> simp only [same]
        · exact fun request member => honest.mem_issued member
        · exact ⟨[], [], rfl, fun _ member => absurd member List.not_mem_nil,
            by rw [parse_short (by decide)], fun _ => rfl⟩
        · exact honest.executed
        · exact ⟨[], fun _ member => absurd member List.not_mem_nil, rfl⟩
        · exact fun _ member => absurd member List.not_mem_nil
        · exact Tracks.fresh
      · cases absurd

theorem attempts_meets (unique : Unique issued xid message) (mine : message ∈ issued)
    (retries : Nat) :
    (RpcClient.attempts (network Network.Sound) decode xid message retries).Meets
      (On (Consistent issued nextXid)) (Answered issued nextXid decode message) := by
  have attempted : (Prog.outcome (RpcClient.attemptCall (network Network.Sound) decode xid
      message)).Meets (On (Consistent issued nextXid)) (Prog.split
        (Answered issued nextXid decode message)
        fun error => Answered issued nextXid decode message (.error error)) := by
    refine (attemptCall_meets unique mine).outcome.weaken (fun _ holds => holds) ?_
    rintro (error | result) world holds
    · cases holds
    · exact holds
  induction retries with
  | zero =>
      rw [RpcClient.attempts]
      refine .bind _ attempted fun result => ?_
      cases result with
      | ok value => exact .pure fun _ holds => holds
      | error error => exact .get_bind fun world => .throw fun _ holds => holds.1
  | succ retries ih =>
      rw [RpcClient.attempts]
      refine .bind _ attempted fun result => ?_
      cases result with
      | ok value => exact .pure fun _ holds => holds
      | error error =>
          refine .get_bind fun world => ?_
          simp only
          split
          · split
            · refine .bind (fun _ => On (Consistent issued nextXid)) ?_ fun _ => ih
              exact (reconnect_meets _).byCases.weaken (fun _ holds => holds.1)
                fun _ _ holds => holds
            · exact ih.weaken (fun _ holds => holds.1) fun _ _ holds => holds
          · exact .throw fun _ holds => holds.1

/-- A longer list of issued messages is no less consistent. -/
theorem Consistent.build (consistent : Consistent issued nextXid client net)
    (message : Option Bytes) :
    Consistent (issued ++ message.toList) (nextXid + 1)
      { client with nextXid := client.nextXid + 1 } net := by
  have honest := consistent.honest
  obtain ⟨frames, tail, written, sent, rest⟩ := honest.frames
  refine ⟨{ honest with
    next := by rw [honest.next]
    arrived := fun request member => List.mem_append_left _ (honest.arrived request member)
    frames := ⟨frames, tail, written, fun message member =>
      ⟨List.mem_append_left _ (sent message member).1, (sent message member).2⟩, rest⟩
    executed := fun execution member =>
      ⟨List.mem_append_left _ (honest.executed execution member).1,
        (honest.executed execution member).2⟩ }, consistent.readable⟩

/-- A call under a fresh xid: its message is issued, and a value it returns was
produced by executing it. -/
theorem call_spec {prog vers proc : UInt32} {args : Except XdrError Bytes}
    {world next : World Schedule} {result : Except RpcError α}
    (consistent : On (Consistent issued nextXid) world)
    (unused : ∀ request ∈ issued, leadingXid request ≠ nextXid)
    (ended : (RpcClient.call (network Network.Sound) decode prog vers proc args).run world =
      some (result, next)) :
    On (Consistent (issued ++ (world.client.callMessage prog vers proc args).toOption.toList)
        (nextXid + 1)) next ∧
      ∀ value, result = .ok value → ∃ message,
        world.client.callMessage prog vers proc args = .ok message ∧
          Produced decode message value next.env.net := by
  have before := consistent.honest.next
  have built := RpcClient.buildCall_apply prog vers proc args world
  rcases made : world.client.callMessage prog vers proc args with error | message
  · rw [made] at built
    rw [RpcClient.call, Prog.bind_of_error built] at ended
    cases ended
    exact ⟨consistent.build none, by rintro _ ⟨⟩⟩
  · rw [made] at built
    rw [RpcClient.call, Prog.bind_of_ok built] at ended
    have own := RpcClient.leadingXid_callMessage made
    have unique : Unique (issued ++ [message]) world.client.nextXid message := by
      intro request member same
      rcases List.mem_append.mp member with old | new
      · exact absurd (same.trans before) (unused request old)
      · exact List.mem_singleton.mp new
    have ready : On (Consistent (issued ++ [message]) (nextXid + 1))
        { world with client := { world.client with nextXid := world.client.nextXid + 1 } } :=
      consistent.build (some message)
    have answered := attempts_meets unique (List.mem_append_right _ List.mem_cons_self) _ _ next
      result ready ended
    rcases result with error | value
    · exact ⟨answered, by rintro _ ⟨⟩⟩
    · refine ⟨answered.1, ?_⟩
      rintro _ ⟨⟩
      exact ⟨message, rfl, answered.2⟩

/-- Runs of calls on one client, with the number of calls made and the messages
issued for them. A call that waits for ever ends the run. -/
inductive Run (guard : Network → Prop) [DecidablePred guard] :
    Nat → List Bytes → World Schedule → Prop where
  | connect (protocol : Protocol) (cred : Credentials) (seedXid : UInt32)
      (choices : List Choice) :
      Run guard 0 [] ⟨.connect protocol cred seedXid, ⟨.fresh, choices⟩⟩
  | fromStream (cred : Credentials) (seedXid : UInt32) (choices : List Choice) :
      Run guard 0 [] ⟨.fromStream cred seedXid, ⟨.fresh, choices⟩⟩
  | setCredentials {calls : Nat} {issued : List Bytes} {world : World Schedule}
      (cred : Credentials) :
      Run guard calls issued world →
      Run guard calls issued { world with client := { world.client with cred := cred } }
  | setAutoReconnect {calls : Nat} {issued : List Bytes} {world : World Schedule}
      (enabled : Bool) :
      Run guard calls issued world →
      Run guard calls issued
        { world with client := { world.client with autoReconnect := enabled } }
  | call {calls : Nat} {issued : List Bytes} {world next : World Schedule} {α : Type}
      {decode : Bytes → Except XdrError (α × Bytes)} {prog vers proc : UInt32}
      {args : Except XdrError Bytes} {result : Except RpcError α} :
      Run guard calls issued world →
      (RpcClient.call (network guard) decode prog vers proc args).run world =
        some (result, next) →
      Run guard (calls + 1)
        (issued ++ (world.client.callMessage prog vers proc args).toOption.toList) next

/-- The invariant of a run: the calls have taken consecutive xids, and the world is
consistent with the messages issued. -/
def Numbered (calls : Nat) (issued : List Bytes) (world : World Schedule) : Prop :=
  ∃ base : UInt32,
    (∀ request ∈ issued, ∃ index < calls, leadingXid request = base + UInt32.ofNat index) ∧
      On (Consistent issued (base + UInt32.ofNat calls)) world

/-- Fewer than 2^32 consecutive xids are distinct. -/
theorem xid_unused {calls : Nat} {base : UInt32} (few : calls < 2 ^ 32) {index : Nat}
    (earlier : index < calls) : base + UInt32.ofNat index ≠ base + UInt32.ofNat calls := by
  intro same
  have numbers := congrArg UInt32.toNat ((UInt32.add_right_inj base).mp same)
  rw [UInt32.toNat_ofNat_of_lt' (Nat.lt_trans earlier few), UInt32.toNat_ofNat_of_lt' few]
    at numbers
  omega

theorem xids_unused {calls : Nat} {base : UInt32}
    (numbers : ∀ request ∈ issued, ∃ index < calls,
      leadingXid request = base + UInt32.ofNat index)
    (few : calls < 2 ^ 32) :
    ∀ request ∈ issued, leadingXid request ≠ base + UInt32.ofNat calls := by
  intro request member same
  obtain ⟨index, earlier, number⟩ := numbers request member
  exact xid_unused few earlier (number.symm.trans same)

theorem consistent_fresh (client : RpcClient) (pending : client.pending = [])
    (reassembler : client.reassembler = .new) :
    Consistent [] client.nextXid client .fresh where
  honest := {
    next := rfl
    arrived := fun _ member => absurd member List.not_mem_nil
    frames := ⟨[], [], rfl, fun _ member => absurd member List.not_mem_nil,
      by rw [parse_short (by decide)], fun _ => rfl⟩
    executed := fun _ member => absurd member List.not_mem_nil
    stream := ⟨[], fun _ member => absurd member List.not_mem_nil, rfl⟩
    pending := by
      rw [pending]
      exact fun _ member => absurd member List.not_mem_nil }
  readable _ := by
    rw [reassembler]
    exact Tracks.fresh

theorem numbered_fresh {client : RpcClient} (pending : client.pending = [])
    (reassembler : client.reassembler = .new) (choices : List Choice) :
    Numbered 0 [] ⟨client, ⟨.fresh, choices⟩⟩ := by
  refine ⟨client.nextXid, fun _ member => absurd member List.not_mem_nil, ?_⟩
  have fresh := consistent_fresh client pending reassembler
  have same : client.nextXid + UInt32.ofNat 0 = client.nextXid := UInt32.add_zero _
  rw [same]
  exact fresh

/-- A call keeps the invariant of a run. -/
theorem Numbered.call {calls : Nat} {world next : World Schedule} {prog vers proc : UInt32}
    {args : Except XdrError Bytes} {result : Except RpcError α}
    (numbered : Numbered calls issued world) (few : calls < 2 ^ 32)
    (ended : (RpcClient.call (network Network.Sound) decode prog vers proc args).run world =
      some (result, next)) :
    Numbered (calls + 1)
      (issued ++ (world.client.callMessage prog vers proc args).toOption.toList) next := by
  obtain ⟨base, numbers, consistent⟩ := numbered
  have after := (call_spec consistent (xids_unused numbers few) ended).1
  refine ⟨base, fun request member => ?_, ?_⟩
  · rcases List.mem_append.mp member with old | new
    · obtain ⟨index, earlier, number⟩ := numbers request old
      exact ⟨index, Nat.lt_succ_of_lt earlier, number⟩
    · rcases made : world.client.callMessage prog vers proc args with error | message
      · rw [made] at new
        cases new
      · rw [made] at new
        obtain rfl := List.mem_singleton.mp new
        exact ⟨calls, Nat.lt_succ_self _,
          (RpcClient.leadingXid_callMessage made).trans consistent.honest.next⟩
  · have same : base + UInt32.ofNat calls + 1 = base + UInt32.ofNat (calls + 1) := by
      rw [UInt32.add_assoc, UInt32.ofNat_add]
      rfl
    rw [← same]
    exact after

/-- Every run whose writes are made on sound connections keeps the invariant. -/
theorem Run.numbered {calls : Nat} {world : World Schedule}
    (run : Run Network.Sound calls issued world) (few : calls ≤ 2 ^ 32) :
    Numbered calls issued world := by
  induction run with
  | connect protocol cred seedXid choices => exact numbered_fresh rfl rfl choices
  | fromStream cred seedXid choices => exact numbered_fresh rfl rfl choices
  | setCredentials cred _ ih =>
      obtain ⟨base, numbers, consistent⟩ := ih few
      have honest := consistent.honest
      exact ⟨base, numbers, { honest with }, consistent.readable⟩
  | setAutoReconnect enabled _ ih =>
      obtain ⟨base, numbers, consistent⟩ := ih few
      have honest := consistent.honest
      exact ⟨base, numbers, { honest with }, consistent.readable⟩
  | call _ ended ih => exact (ih (by omega)).call (by omega) ended

/-- In a run of fewer than 2^32 calls whose writes are all made on sound
connections, a value that a call returns is the decoding of a result produced by
executing the message of that call, which no earlier call has issued. -/
theorem value_of_own_execution {calls : Nat} {world next : World Schedule}
    {prog vers proc : UInt32} {args : Except XdrError Bytes} {value : α}
    (run : Run Network.Sound calls issued world) (few : calls < 2 ^ 32)
    (returned : (RpcClient.call (network Network.Sound) decode prog vers proc args).run world =
      some (.ok value, next)) :
    ∃ message, world.client.callMessage prog vers proc args = .ok message ∧
      message ∉ issued ∧ Produced decode message value next.env.net := by
  obtain ⟨base, numbers, consistent⟩ := run.numbered (Nat.le_of_lt few)
  have unused := xids_unused numbers few
  obtain ⟨message, made, produced⟩ := (call_spec consistent unused returned).2 value rfl
  refine ⟨message, made, fun earlier => unused message earlier ?_, produced⟩
  exact (RpcClient.leadingXid_callMessage made).trans consistent.honest.next

/-- The message of a call of a null procedure. -/
def nullMessage (xid : UInt32) : Bytes :=
  beU32 xid ++ beU32 msgCall ++ beU32 rpcVersion ++ List.replicate 28 0

/-- The call of the null procedure under an xid is answered with a number. -/
def answeredWith (xid value : UInt32) : Execution :=
  ⟨nullMessage xid, .accepted 0 [] (.success (beU32 value))⟩

/-- The choices of a run in which a first call is given up, and its reply arrives with that of the
second, which is cut into two fragments. -/
def lateChoices : List Choice :=
  let late := answeredWith 0 8
  let own := answeredWith 1 9
  let cut : Cut := ⟨[own.message.take 3], own.message.drop 3⟩
  [.done, .arrive .deadline, .done, .execute late, .respond late (frameCut late.message),
    .execute own, .respond own cut,
    .arrive (.data (encodeRecord (frameCut late.message) ++ encodeRecord cut))]

/-- After a call that timed out, the next one drops the late reply and returns the value of its
own. -/
theorem value_of_own_execution_stream :
    ∃ world next, (RpcClient.call (network Network.Sound) decodeU32 0 0 0 (.ok [])).run
        ⟨.connect .tcp .none 0, ⟨.fresh, lateChoices⟩⟩ = some (.error .timeout, world) ∧
      (RpcClient.call (network Network.Sound) decodeU32 0 0 0 (.ok [])).run world =
        some (.ok 9, next) ∧
      ∃ message, world.client.callMessage 0 0 0 (.ok []) = .ok message ∧
        message ∉ [nullMessage 0] ∧ Produced decodeU32 message 9 next.env.net := by
  have values : ((RpcClient.call (network Network.Sound) decodeU32 0 0 0 (.ok [])).run
      ⟨.connect .tcp .none 0, ⟨.fresh, lateChoices⟩⟩).bind (fun ended =>
        ((RpcClient.call (network Network.Sound) decodeU32 0 0 0 (.ok [])).run ended.2).map
          fun again => (ended.1, again.1)) = some (.error .timeout, .ok 9) := by
    decide +kernel
  obtain ⟨⟨first, world⟩, timedOut, ended⟩ := Option.bind_eq_some_iff.mp values
  obtain ⟨⟨second, next⟩, returned, same⟩ := Option.map_eq_some_iff.mp ended
  obtain ⟨rfl, rfl⟩ := Prod.mk.inj same
  have run : Run Network.Sound 1 [nullMessage 0] world :=
    .call (.connect .tcp .none 0 lateChoices) timedOut
  exact ⟨world, next, timedOut, returned, value_of_own_execution run (by decide) returned⟩

/-- Writes are made on any connection. -/
abbrev Anywhere (_ : Network) : Prop := True

/-- The reply to the second call that no execution has produced. The client makes
two calls under the xids 0 and 1, and the server answers the first with a result
of more than 16 MiB whose first bytes are a fragment with this reply. -/
def hiddenReply : Bytes :=
  Reply.encode 1 (.accepted 0 [] (.success (beU32 7)))

/-- The first bytes of the large result, read from the middle of the record: what
is left of a header, and a last fragment. -/
def hidingResult : Bytes :=
  0 :: ([128, 0, 0, 27] ++ hiddenReply.drop 1)

/-- The first call is executed, with padding after the hidden reply. -/
def largeExecution (pad : Bytes) : Execution :=
  ⟨nullMessage 0, .accepted 0 [] (.success (hidingResult ++ pad))⟩

/-- The large reply, up to the padding. -/
def largeFront : Bytes :=
  Reply.encode 0 (.accepted 0 [] (.success hidingResult))

def largeHeader : Bytes := [129, 0, 0, 56]

section Hidden

variable (pad : Bytes) (size : pad.length = defaultMaxRecord)

theorem largeExecution_message : (largeExecution pad).message = largeFront ++ pad := by
  have xid : leadingXid (nullMessage 0) = 0 := by decide
  simp [largeExecution, Execution.message, xid, Reply.encode, largeFront, Accepted.encode]

include size in
theorem encodeRecord_large :
    encodeRecord (frameCut (largeFront ++ pad)) = largeHeader ++ (largeFront ++ pad) := by
  have length : (largeFront ++ pad).length = 16777272 := by
    rw [List.length_append, size]
    decide
  rw [encodeRecord_frameCut, encodeFragment, length]
  rfl

/-- The network after the first message has been written. -/
def asked : Network :=
  ⟨[], ⟨largeHeader.take 0 ++ ([128, 0, 0, 40] ++ nullMessage 0), false, [], []⟩, []⟩

/-- The network after the server has answered it and the header has been read. -/
def refused : Network :=
  ⟨[], ⟨[128, 0, 0, 40] ++ nullMessage 0, false, largeHeader, largeFront ++ pad⟩,
    [largeExecution pad]⟩

def firstChoices (rest : List Choice) : List Choice :=
  .done :: .execute (largeExecution pad) ::
    .respond (largeExecution pad) (frameCut (largeFront ++ pad)) ::
    .arrive (.data largeHeader) :: rest

/-- The client after the first call. -/
def refusedClient : RpcClient :=
  { RpcClient.connect .tcp .none 0 with
    nextXid := 1
    reassembler := { RecordReassembler.new with lastFragment := true } }

include size in
theorem read_large (rest : List Choice) :
    (network Anywhere).read ⟨asked, (firstChoices pad rest).tail⟩ =
      some (.data largeHeader, ⟨refused pad, rest⟩) := by
  have received : nullMessage 0 ∈ asked.requests := by decide +kernel
  have executes : asked.serve (.execute (largeExecution pad)) =
      some { asked with executed := [largeExecution pad] } :=
    if_pos ⟨received, Nat.zero_le _⟩
  have short : (frameCut (largeFront ++ pad)).Short := by
    refine frameCut_short ?_
    rw [List.length_append, size]
    decide
  have responds : Network.serve { asked with executed := [largeExecution pad] }
      (.respond (largeExecution pad) (frameCut (largeFront ++ pad))) =
      some { asked with
        connection := { asked.connection with undelivered := largeHeader ++ (largeFront ++ pad) }
        executed := [largeExecution pad] } := by
    rw [← encodeRecord_large pad size]
    exact if_pos ⟨List.mem_cons_self, (largeExecution_message pad).symm, short⟩
  have delivers : Network.read { asked with
        connection := { asked.connection with undelivered := largeHeader ++ (largeFront ++ pad) }
        executed := [largeExecution pad] } (.arrive (.data largeHeader)) =
      some (.data largeHeader, refused pad) :=
    Network.read_of_prefix (by decide) (List.prefix_append _ _)
  exact (Network.settle_of_serve rfl executes).trans
    ((Network.settle_of_serve rfl responds).trans (Network.settle_of_answer delivers))

/-- The world between sending the first message and its reply. -/
def waiting (rest : List Choice) : World Schedule :=
  ⟨{ RpcClient.connect .tcp .none 0 with nextXid := 1 },
    ⟨asked, (firstChoices pad rest).tail⟩⟩

include size in
theorem recv_large (rest : List Choice) :
    (RpcClient.recvMessage (network Anywhere)).run (waiting pad rest) =
      some (.error .recordTooLarge, ⟨refusedClient, ⟨refused pad, rest⟩⟩) := by
  have oversized : (RecordReassembler.new.push largeHeader).nextRecord =
      (refusedClient.reassembler, .error .recordTooLarge) := by decide
  have turn : (RpcClient.streamTurn (network Anywhere)).run (waiting pad rest) =
      some (.error .recordTooLarge, ⟨refusedClient, ⟨refused pad, rest⟩⟩) := by
    rw [RpcClient.streamTurn_of_data (by decide) (read_large pad size rest)]
    refine Prog.bind_of_error ?_
    rw [RpcClient.drain_apply]
    simp only [waiting, RpcClient.connect, oversized]
    rfl
  exact RpcClient.recvMessage_of_turn rfl turn

/-- The first call fails: the reply to it is over the limit. -/
theorem first_call (rest : List Choice) (size : pad.length = defaultMaxRecord) :
    (RpcClient.call (network Anywhere) decodeU32 0 0 0 (.ok [])).run
        ⟨.connect .tcp .none 0, ⟨.fresh, firstChoices pad rest⟩⟩ =
      some (.error .recordTooLarge, ⟨refusedClient, ⟨refused pad, rest⟩⟩) := by
  have built : (RpcClient.connect .tcp .none 0).callMessage 0 0 0 (.ok []) =
      .ok (nullMessage 0) := by decide
  refine RpcClient.call_of_attempt built
    (RpcClient.attemptCall_of_error rfl (recv_large pad size rest)) ?_
  rintro _ ⟨⟩
  rfl

/-- The network after the second message has been written. -/
def askedAgain : Network :=
  { refused pad with
    connection := { (refused pad).connection with
      written := (refused pad).connection.written ++ ([128, 0, 0, 40] ++ nullMessage 1) } }

/-- The network after the payload of the large reply has been read. -/
def deceived : Network :=
  { askedAgain pad with
    connection := { (askedAgain pad).connection with
      delivered := largeHeader ++ largeFront
      undelivered := pad } }

/-- The second call returns the value of the hidden reply. -/
theorem second_call :
    ∃ client, (RpcClient.call (network Anywhere) decodeU32 0 0 0 (.ok [])).run
        ⟨refusedClient, ⟨refused pad, [.done, .arrive (.data largeFront)]⟩⟩ =
      some (.ok 7, ⟨client, ⟨deceived pad, []⟩⟩) := by
  have built : refusedClient.callMessage 0 0 0 (.ok []) = .ok (nullMessage 1) := by decide
  have delivers : (askedAgain pad).read (.arrive (.data largeFront)) =
      some (.data largeFront, deceived pad) :=
    Network.read_of_prefix (by decide) (List.prefix_append _ _)
  have record : (refusedClient.reassembler.push largeFront).nextRecord =
      (RecordReassembler.new, .ok (some hiddenReply)) := by decide
  have empty : RecordReassembler.new.nextRecord = (RecordReassembler.new, .ok none) := by decide
  have turn : (RpcClient.streamTurn (network Anywhere)).run
      ⟨{ refusedClient with nextXid := 2 }, ⟨askedAgain pad, [.arrive (.data largeFront)]⟩⟩ =
      some (.ok (some hiddenReply), ⟨{ refusedClient with
        nextXid := 2
        reassembler := .new }, ⟨deceived pad, []⟩⟩) := by
    rw [RpcClient.streamTurn_of_data (by decide) (Network.settle_of_answer delivers), Prog.bind_apply,
      RpcClient.drain_apply]
    simp only [record]
    rw [RpcClient.drain_apply]
    simp only [empty]
    rfl
  have decided : RpcClient.verdict decodeU32 1 hiddenReply = .ok (some 7) := by decide
  exact ⟨_, RpcClient.call_of_attempt built
    (RpcClient.attemptCall_of_reply rfl (RpcClient.recvMessage_of_turn rfl turn) decided)
    fun _ same => nomatch same⟩

end Hidden

/-- A client that goes on using a connection after an oversized reply takes the
bytes of that reply for the reply to its next call. -/
theorem hidden_reply_accepted :
    ¬ ∀ (calls : Nat) (issued : List Bytes) (world next : World Schedule) (value : UInt32),
      Run Anywhere calls issued world → calls < 2 ^ 32 →
      (RpcClient.call (network Anywhere) decodeU32 0 0 0 (.ok [])).run world =
        some (.ok value, next) →
      ∃ message, world.client.callMessage 0 0 0 (.ok []) = .ok message ∧
        message ∉ issued ∧ Produced decodeU32 message value next.env.net := by
  intro all
  obtain ⟨client, returned⟩ := second_call (List.replicate defaultMaxRecord 0)
  have run := Run.call (.connect .tcp .none 0 _) (first_call (List.replicate defaultMaxRecord 0)
    [.done, .arrive (.data largeFront)] List.length_replicate)
  obtain ⟨message, built, -, flavor, verf, result, rest, executed, -⟩ :=
    all _ _ _ _ _ run (by decide) returned
  have second : refusedClient.callMessage 0 0 0 (.ok []) = .ok (nullMessage 1) := by decide
  obtain rfl := Except.ok.inj (second.symm.trans built)
  have first := congrArg Execution.request (List.mem_singleton.mp executed)
  exact absurd first (show nullMessage 1 ≠ nullMessage 0 by decide)

end LibNfs.Rpc
