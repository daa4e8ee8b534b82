import LibNfs.Rpc.Network
import LibNfs.Rpc.Reassembly

/-! # Where results come from

The invariant of a client against the network and server of
`LibNfs.Rpc.Network`. It follows a reply wherever it can be: every request the
server may execute is the message of a call, and every message in the stream, in
the reassembler or in `pending` is the reply of an execution. Each step of the
server and each function of the client that sends or receives keeps it.
-/

namespace LibNfs.Rpc

open Xdr (XdrError)
open RecordMarking

/-- A message sent as one frame. -/
def frameCut (message : Bytes) : Cut :=
  ⟨[], message⟩

/-- The reassembler stands where the bytes delivered leave the reading of the
stream. -/
def Tracks (reassembler : RecordReassembler) (delivered : Bytes) : Prop :=
  ∃ read, ∀ rest, parse (some defaultMaxRecord) [] (delivered ++ rest) =
    (reassembler.push rest).resume.after read

/-- The requests the server can execute are messages of calls, and the messages
under way are replies of executions. -/
structure Honest (issued : List Bytes) (nextXid : UInt32) (client : RpcClient) (net : Network) :
    Prop where
  next : client.nextXid = nextXid
  arrived : ∀ request ∈ net.arrived, request ∈ issued
  frames : ∃ (frames : List Bytes) (tail : Bytes),
    net.connection.written = encodeRecords (frames.map frameCut) ++ tail ∧
      (∀ message ∈ frames, message ∈ issued ∧ message.length < 2 ^ 31) ∧
      (parse none [] tail).records = [] ∧
      (net.connection.torn = false → tail = [])
  executed : ∀ execution ∈ net.executed,
    execution.request ∈ issued ∧ execution.reply.WellFormed
  stream : ∃ cuts : List Cut, (∀ cut ∈ cuts, cut.Short ∧ net.Replied cut.record) ∧
    net.connection.delivered ++ net.connection.undelivered = encodeRecords cuts
  pending : ∀ message ∈ client.pending, net.Replied message

/-- The invariant between the steps of a run. -/
structure Consistent (issued : List Bytes) (nextXid : UInt32) (client : RpcClient)
    (net : Network) : Prop where
  honest : Honest issued nextXid client net
  readable : (parse (some defaultMaxRecord) [] net.connection.delivered).tooLarge = false →
    Tracks client.reassembler net.connection.delivered

/-- The invariant while an attempt waits for its reply. -/
structure Listening (issued : List Bytes) (nextXid : UInt32) (client : RpcClient)
    (net : Network) : Prop extends Consistent issued nextXid client net where
  tracks : client.socket ≠ .udp → Tracks client.reassembler net.connection.delivered

variable {issued : List Bytes} {nextXid : UInt32} {client : RpcClient} {net : Network}

theorem encodeRecords_append (first second : List Cut) :
    encodeRecords (first ++ second) = encodeRecords first ++ encodeRecords second := by
  simp [encodeRecords]

theorem frameCut_short {message : Bytes} (short : message.length < 2 ^ 31) :
    (frameCut message).Short :=
  ⟨fun _ member => absurd member List.not_mem_nil, short⟩

/-- The server can only receive messages of calls. -/
theorem Honest.mem_issued (honest : Honest issued nextXid client net) {request : Bytes}
    (received : request ∈ net.requests) : request ∈ issued := by
  rcases List.mem_append.mp received with early | late
  · exact honest.arrived request early
  · obtain ⟨frames, tail, written, sent, none, -⟩ := honest.frames
    have unlimited : ∀ cut ∈ frames.map frameCut, ¬ exceeds Option.none cut.record.length :=
      fun _ _ => not_exceeds_none _
    have short : ∀ cut ∈ frames.map frameCut, cut.Short := by
      intro cut member
      obtain ⟨message, inside, rfl⟩ := List.mem_map.mp member
      exact frameCut_short (sent message inside).2
    rw [written, parse_encodeRecords_append _ short unlimited, Parse.after, none,
      List.append_nil, List.map_map] at late
    obtain ⟨message, inside, rfl⟩ := List.mem_map.mp late
    exact (sent message inside).1

/-- A step of the server keeps the messages under way replies of executions. -/
theorem Honest.serve (honest : Honest issued nextXid client net) {choice : Choice}
    {after : Network} (served : net.serve choice = some after) :
    Honest issued nextXid client after := by
  cases choice with
  | execute execution =>
      simp only [Network.serve] at served
      split at served
      · rename_i legal
        cases served
        have more : ∀ {message}, net.Replied message →
            Network.Replied { net with executed := execution :: net.executed } message :=
          fun ⟨old, member, same⟩ => ⟨old, List.mem_cons_of_mem _ member, same⟩
        obtain ⟨cuts, sent, whole⟩ := honest.stream
        refine { honest with
          executed := ?_
          stream := ⟨cuts, fun cut member => ⟨(sent cut member).1, more (sent cut member).2⟩, whole⟩
          pending := fun message member => more (honest.pending message member) }
        intro other member
        rcases List.mem_cons.mp member with rfl | old
        · exact ⟨honest.mem_issued legal.1, legal.2⟩
        · exact honest.executed other old
      · cases served
  | respond execution cut =>
      simp only [Network.serve] at served
      split at served
      · rename_i legal
        cases served
        obtain ⟨cuts, sent, whole⟩ := honest.stream
        refine { honest with stream := ⟨cuts ++ [cut], ?_, ?_⟩ }
        · intro other member
          rcases List.mem_append.mp member with old | new
          · exact sent other old
          · obtain rfl := List.mem_singleton.mp new
            exact ⟨legal.2.2, execution, legal.1, legal.2.1⟩
        · rw [encodeRecords_append, ← whole]
          simp [encodeRecords]
      · cases served
  | done => cases served
  | failed written kind => cases served
  | arrive arrival => cases served

theorem serve_delivered {choice : Choice} {after : Network}
    (served : net.serve choice = some after) :
    after.connection.delivered = net.connection.delivered := by
  cases choice <;> simp only [Network.serve] at served
  · split at served <;> cases served
    rfl
  · split at served <;> cases served
    rfl
  all_goals cases served

theorem Consistent.serve (consistent : Consistent issued nextXid client net) {choice : Choice}
    {after : Network} (served : net.serve choice = some after) :
    Consistent issued nextXid client after where
  honest := consistent.honest.serve served
  readable := by
    rw [serve_delivered served]
    exact consistent.readable

theorem Listening.serve (listening : Listening issued nextXid client net) {choice : Choice}
    {after : Network} (served : net.serve choice = some after) :
    Listening issued nextXid client after where
  toConsistent := listening.toConsistent.serve served
  tracks := by
    rw [serve_delivered served]
    exact listening.tracks

/-- A property of the client and the network, of a world. -/
def On (keeps : RpcClient → Network → Prop) (world : World Schedule) : Prop :=
  keeps world.client world.env.net

/-- The rule of a system call: the server moves, then the answer is given. -/
theorem ask_network {α : Type} {answer : Network → Choice → Option (α × Network)}
    {keeps : RpcClient → Network → Prop} {post : Except RpcError α → World Schedule → Prop}
    (served : ∀ client net choice after, keeps client net → net.serve choice = some after →
      keeps client after)
    (given : ∀ world net choice value, keeps world.client net →
      answer net choice = some (value, world.env.net) → post (.ok value) world) :
    (RpcClient.ask fun schedule => Network.settle answer schedule.choices schedule.net).Meets
      (On keeps) post := by
  refine RpcClient.ask_meets fun world value env holds answered => ?_
  obtain ⟨mid, choice, kept, moved⟩ := Network.settle_spec
    (fun net choice after => served world.client net choice after) answered holds
  exact given { world with env := env } mid choice value kept moved

/-- A reassembler that stands in the stream, with more bytes. -/
theorem Tracks.push {reassembler : RecordReassembler} {delivered : Bytes}
    (tracks : Tracks reassembler delivered) (bytes : Bytes) :
    Tracks (reassembler.push bytes) (delivered ++ bytes) := by
  obtain ⟨read, splits⟩ := tracks
  refine ⟨read, fun rest => ?_⟩
  rw [List.append_assoc, splits, RecordReassembler.push_push]

theorem Tracks.fresh : Tracks .new [] :=
  ⟨[], fun _ => rfl⟩

/-- What a call of `next_record` gives out of bytes the server has sent. -/
theorem Tracks.nextRecord {reassembler next : RecordReassembler} {delivered : Bytes}
    {result : Except RpcError (Option Bytes)} (tracks : Tracks reassembler delivered)
    (answered : reassembler.nextRecord = (next, result)) :
    match result with
    | .ok none => Tracks next delivered
    | .ok (some record) => Tracks next delivered ∧
        record ∈ (parse (some defaultMaxRecord) [] delivered).records
    | .error _ => (parse (some defaultMaxRecord) [] delivered).tooLarge = true := by
  obtain ⟨read, splits⟩ := tracks
  have answers := reassembler.nextRecord_answers
  have now := splits []
  rw [List.append_nil, RecordReassembler.push_nil] at now
  rw [answered] at answers
  rcases result with error | _ | record
  · have stuck := answers.2 []
    rw [RecordReassembler.push_nil] at stuck
    rw [now, stuck]
    rfl
  · exact ⟨read, fun rest => by rw [splits, answers.1]⟩
  · refine ⟨⟨read ++ [record], fun rest => ?_⟩, ?_⟩
    · rw [splits, answers rest]
      simp [Parse.after, Parse.cons]
    · have first := answers []
      rw [RecordReassembler.push_nil, RecordReassembler.push_nil] at first
      rw [now, first]
      simp [Parse.after, Parse.cons]

/-- A record in the bytes delivered is the reply of an execution. -/
theorem Honest.replied (honest : Honest issued nextXid client net) {record : Bytes}
    (read : record ∈ (parse (some defaultMaxRecord) [] net.connection.delivered).records) :
    net.Replied record := by
  obtain ⟨cuts, sent, whole⟩ := honest.stream
  have unlimited := (records_prefix_unlimited _ _ _).subset read
  have all := (records_prefix_append none [] net.connection.delivered
    net.connection.undelivered).subset unlimited
  rw [whole, parse_encodeRecords cuts (fun cut member => (sent cut member).1)
    (fun _ _ => not_exceeds_none _)] at all
  obtain ⟨cut, member, rfl⟩ := List.mem_map.mp all
  exact (sent cut member).2

/-- The state of a stream client while it drains its reassembler. -/
structure Draining (issued : List Bytes) (nextXid : UInt32) (client : RpcClient)
    (net : Network) : Prop where
  honest : Honest issued nextXid client net
  tracks : Tracks client.reassembler net.connection.delivered

theorem Draining.listening (draining : Draining issued nextXid client net) :
    Listening issued nextXid client net where
  honest := draining.honest
  readable _ := draining.tracks
  tracks _ := draining.tracks

theorem drain_meets :
    (RpcClient.drain).Meets (On (Draining issued nextXid))
      (Prog.split (fun _ => On (Draining issued nextXid))
        fun _ => On (Consistent issued nextXid)) := by
  refine .loop RpcClient.drainTurn_decreases fun world next result holds ended => ?_
  have honest := holds.honest
  rw [RpcClient.drainTurn_apply] at ended
  rcases answer : world.client.reassembler.nextRecord with ⟨after, error | _ | record⟩ <;>
    rw [answer] at ended <;> cases ended <;> have read := holds.tracks.nextRecord answer
  · refine ⟨{ honest with }, fun fits => ?_⟩
    exact absurd (read.symm.trans fits) (by decide)
  · exact ⟨{ honest with }, read⟩
  · refine ⟨{ honest with pending := fun message member => ?_ }, read.1⟩
    rcases List.mem_append.mp member with old | new
    · exact honest.pending message old
    · obtain rfl := List.mem_singleton.mp new
      exact honest.replied read.2

/-- What a received message satisfies, besides the invariant. -/
def Received (issued : List Bytes) (nextXid : UInt32) (message : Bytes) (client : RpcClient)
    (net : Network) : Prop :=
  Listening issued nextXid client net ∧ net.Replied message

/-- What a step of the receiving loop leads to. -/
def Incoming (issued : List Bytes) (nextXid : UInt32) :
    Except RpcError (Option Bytes) → World Schedule → Prop :=
  Prog.again (On (Listening issued nextXid))
    (Prog.split (fun message => On (Received issued nextXid message))
      fun _ => On (Consistent issued nextXid))

theorem popPending_meets :
    (RpcClient.popPending).Meets (On (Listening issued nextXid))
      (Incoming issued nextXid) := by
  intro world next result holds ended
  rw [RpcClient.popPending_apply] at ended
  rcases queue : world.client.pending with _ | ⟨message, rest⟩ <;>
    rw [queue] at ended <;> cases ended
  · exact holds
  · have honest := holds.honest
    refine ⟨⟨⟨{ honest with pending := fun other member => ?_ }, holds.readable⟩, holds.tracks⟩, ?_⟩
    · exact honest.pending other (queue ▸ List.mem_cons_of_mem _ member)
    · exact honest.pending message (queue ▸ List.mem_cons_self)

theorem readFailed_meets (kind : IoErrorKind) :
    (RpcClient.readFailed kind).Meets (On (Listening issued nextXid))
      (Incoming issued nextXid) := by
  unfold RpcClient.readFailed
  split
  · exact .throw fun _ holds => holds.toConsistent
  · split
    · exact .pure fun _ holds => holds
    · exact .throw fun _ holds => holds.toConsistent

/-- The bytes a read delivers, before they are pushed. -/
def Delivered (issued : List Bytes) (nextXid : UInt32) (bytes : Bytes) (client : RpcClient)
    (net : Network) : Prop :=
  Honest issued nextXid client net ∧ ∃ before, Tracks client.reassembler before ∧
    net.connection.delivered = before ++ bytes

theorem Draining.serve (draining : Draining issued nextXid client net) {choice : Choice}
    {after : Network} (served : net.serve choice = some after) :
    Draining issued nextXid client after where
  honest := draining.honest.serve served
  tracks := by
    rw [serve_delivered served]
    exact draining.tracks

theorem Draining.read (draining : Draining issued nextXid client net) {choice : Choice}
    {arrival : Arrival} {after : Network} (answered : net.read choice = some (arrival, after)) :
    (∀ bytes, arrival = .data bytes → Delivered issued nextXid bytes client after) ∧
      ((∀ bytes, arrival ≠ .data bytes) → Draining issued nextXid client after) := by
  have honest := draining.honest
  rcases Network.read_cases answered with ⟨bytes, rfl, -, ⟨rest, more⟩, rfl⟩ | ⟨other, rfl⟩
  · refine ⟨?_, fun other => absurd rfl (other bytes)⟩
    rintro _ ⟨⟩
    obtain ⟨cuts, sent, whole⟩ := honest.stream
    refine ⟨{ honest with stream := ⟨cuts, sent, ?_⟩ }, net.connection.delivered,
      draining.tracks, rfl⟩
    simp only
    rw [← whole, ← more, List.drop_left, List.append_assoc]
  · exact ⟨fun bytes same => absurd same (other bytes), fun _ => draining⟩

theorem streamTurn_meets (guard : Network → Prop) [DecidablePred guard] :
    (RpcClient.streamTurn (network guard)).Meets (On (Draining issued nextXid))
      (Incoming issued nextXid) := by
  refine .bind (fun arrival world =>
    (∀ bytes, arrival = .data bytes → On (Delivered issued nextXid bytes) world) ∧
      ((∀ bytes, arrival ≠ .data bytes) → On (Draining issued nextXid) world))
    (ask_network (fun _ _ _ _ draining => draining.serve)
      fun _ _ _ _ draining => draining.read) fun arrival => ?_
  split
  · exact .throw fun _ holds => (holds.2 nofun).listening.toConsistent
  · refine .throw fun world holds => ?_
    obtain ⟨honest, before, tracks, whole⟩ := holds.1 [] rfl
    refine ⟨honest, fun _ => ?_⟩
    rw [whole, List.append_nil]
    exact tracks
  · rename_i byte bytes
    refine .bind (fun _ => On (Draining issued nextXid))
      (RpcClient.update_meets fun world holds => ?_) fun _ =>
        .bind (fun _ => On (Draining issued nextXid)) drain_meets fun _ =>
          popPending_meets.weaken (fun _ holds => holds.listening) fun _ _ holds => holds
    obtain ⟨honest, before, tracks, whole⟩ := holds.1 (byte :: bytes) rfl
    exact ⟨{ honest with }, whole ▸ tracks.push _⟩
  · exact (readFailed_meets _).weaken (fun _ holds => (holds.2 nofun).listening)
      fun _ _ holds => holds

theorem datagramTurn_meets (guard : Network → Prop) [DecidablePred guard] :
    (RpcClient.datagramTurn (network guard)).Meets (On (Listening issued nextXid))
      (Incoming issued nextXid) := by
  refine .bind (fun arrival world => On (Listening issued nextXid) world ∧
    ∀ bytes, arrival = .data bytes →
      bytes.length < datagramLimit ∧ world.env.net.Replied bytes)
    (ask_network (fun _ _ _ _ listening => listening.serve) ?_) fun arrival => ?_
  · intro world net choice arrival listening answered
    obtain ⟨same, replied⟩ := Network.recv_cases answered
    rw [← same] at listening replied
    exact ⟨listening, replied⟩
  · split
    · exact .throw fun _ holds => holds.1.toConsistent
    · rename_i bytes
      refine .pure fun world holds => ?_
      obtain ⟨short, replied⟩ := holds.2 bytes rfl
      rw [List.take_of_length_le (Nat.le_of_lt short)]
      exact ⟨holds.1, replied⟩
    · exact (readFailed_meets _).weaken (fun _ holds => holds.1) fun _ _ holds => holds

theorem recvTurn_meets (guard : Network → Prop) [DecidablePred guard] :
    (RpcClient.recvTurn (network guard)).Meets (On (Listening issued nextXid))
      (Incoming issued nextXid) := by
  refine .get_bind fun world => ?_
  split
  · rename_i socket
    refine (streamTurn_meets guard).weaken ?_ fun _ _ holds => holds
    rintro _ ⟨holds, rfl⟩
    exact ⟨holds.honest, holds.tracks (by rw [socket]; decide)⟩
  · exact (datagramTurn_meets guard).weaken (fun _ both => both.1) fun _ _ holds => holds
  · rename_i socket
    refine (streamTurn_meets guard).weaken ?_ fun _ _ holds => holds
    rintro _ ⟨holds, rfl⟩
    exact ⟨holds.honest, holds.tracks (by rw [socket]; decide)⟩

/-- Every message received is the reply of an execution. -/
theorem recvMessage_meets (guard : Network → Prop) [DecidablePred guard] :
    (RpcClient.recvMessage (network guard)).Meets (On (Listening issued nextXid))
      (Prog.split (fun message => On (Received issued nextXid message))
        fun _ => On (Consistent issued nextXid)) := by
  refine .bind (fun message => Incoming issued nextXid (.ok message)) ?_ fun message => ?_
  · exact popPending_meets.byCases
  · cases message with
    | some message => exact .pure fun _ holds => holds
    | none =>
        exact .loop (RpcClient.recvTurn_decreases _) (recvTurn_meets guard)

theorem encodeRecord_frameCut (message : Bytes) :
    encodeRecord (frameCut message) = encodeFragment true message := by
  simp [encodeRecord, frameCut]

/-- A write, whole or not, leaves only messages of calls in the connection. -/
theorem Honest.write (honest : Honest issued nextXid client net) (sound : net.Sound)
    {message : Bytes} (mine : message ∈ issued) (short : message.length < 2 ^ 31) (count : Nat) :
    Honest issued nextXid client { net with
      connection := { net.connection with
        written := net.connection.written ++ (encodeRecord (frameCut message)).take count
        torn := net.connection.torn ||
          (0 < count && count < (encodeRecord (frameCut message)).length) } } := by
  obtain ⟨frames, tail, written, sent, -, intact⟩ := honest.frames
  rw [intact sound.1, List.append_nil] at written
  have size : (encodeRecord (frameCut message)).length = message.length + 4 := by
    rw [encodeRecord_frameCut, encodeFragment, List.length_append, Xdr.length_beU32, Nat.add_comm]
  by_cases whole : (encodeRecord (frameCut message)).length ≤ count
  · refine { honest with frames := ⟨frames ++ [message], [], ?_, ?_, ?_, fun _ => rfl⟩ }
    · simp only
      rw [List.take_of_length_le whole, written, List.map_append, encodeRecords_append,
        List.append_nil]
      simp [encodeRecords]
    · intro other member
      rcases List.mem_append.mp member with old | new
      · exact sent other old
      · obtain rfl := List.mem_singleton.mp new
        exact ⟨mine, short⟩
    · rw [parse_short (by decide)]
  · refine { honest with frames := ⟨frames, (encodeRecord (frameCut message)).take count, ?_,
      sent, ?_, fun intact => ?_⟩ }
    · simp only
      rw [written]
    · rw [encodeRecord_frameCut]
      exact records_of_torn_fragment short (by omega)
    · simp only [sound.1, Bool.false_or, Bool.and_eq_false_iff, decide_eq_false_iff_not] at intact
      have none : count = 0 := by omega
      rw [none, List.take_zero]

/-- A frame is written where the connection is sound, so the client that waits
for its reply follows the stream. -/
theorem writeFrame_meets {message : Bytes} (mine : message ∈ issued) :
    (RpcClient.writeFrame (network Network.Sound) message).Meets (On (Consistent issued nextXid))
      (Prog.split (fun _ => On (Listening issued nextXid))
        fun _ => On (Consistent issued nextXid)) := by
  refine .bind (fun framed world => (message.length < 2 ^ 31 ∧
    framed = encodeRecord (frameCut message)) ∧ On (Consistent issued nextXid) world)
    (.ofExcept fun world holds => ?_) fun framed => ?_
  · rcases done : frame message with error | framed
    · exact holds
    · exact ⟨frame_inv done, holds⟩
  · refine .assuming fun ⟨short, framing⟩ => ?_
    refine .bind (fun _ => On (Listening issued nextXid))
      (ask_network (fun _ _ _ _ consistent => consistent.serve) ?_) fun result => ?_
    · intro world net choice result consistent answered
      obtain ⟨sound, count, same⟩ := Network.write_cases answered
      have tracks := consistent.readable sound.2
      have honest := consistent.honest.write sound mine short count
      rw [← framing, ← same] at honest
      have delivered : world.env.net.connection.delivered = net.connection.delivered := by
        rw [same]
      rw [← delivered] at tracks
      exact Draining.listening ⟨honest, tracks⟩
    · split
      · exact .pure fun _ holds => holds
      · exact .throw fun _ holds => holds.toConsistent

theorem askSend_meets {message : Bytes} (mine : message ∈ issued) :
    (RpcClient.ask ((network Network.Sound).send message)).Meets
      (On fun client net => client.socket = .udp ∧ Consistent issued nextXid client net)
      (Prog.split (fun _ => On (Listening issued nextXid))
        fun _ => On (Consistent issued nextXid)) := by
  refine ask_network (fun _ _ _ _ holds served => ⟨holds.1, holds.2.serve served⟩) ?_
  rintro world net choice result ⟨socket, consistent⟩ answered
  have stays : ∀ client, client.socket = .udp → Consistent issued nextXid client world.env.net →
      Listening issued nextXid client world.env.net :=
    fun _ udp consistent => ⟨consistent, fun other => absurd udp other⟩
  refine stays world.client socket ?_
  rcases Network.send_cases answered with sent | same
  · have honest := consistent.honest
    rw [sent]
    refine ⟨{ honest with arrived := fun request member => ?_ }, consistent.readable⟩
    rcases List.mem_append.mp member with old | new
    · exact honest.arrived request old
    · exact List.mem_singleton.mp new ▸ mine
  · rw [same]
    exact consistent

/-- A message is sent as part of the call it belongs to. -/
theorem send_meets {message : Bytes} (mine : message ∈ issued) :
    (RpcClient.send (network Network.Sound) message).Meets (On (Consistent issued nextXid))
      (Prog.split (fun _ => On (Listening issued nextXid))
        fun _ => On (Consistent issued nextXid)) := by
  refine .get_bind fun world => ?_
  split
  · exact (writeFrame_meets mine).weaken (fun _ both => both.1) fun _ _ holds => holds
  · rename_i socket
    refine .bind (fun _ => On (Listening issued nextXid)) ?_ fun result => ?_
    · refine (askSend_meets mine).weaken ?_ fun _ _ holds => holds
      rintro _ ⟨holds, rfl⟩
      exact ⟨socket, holds⟩
    · split
      · exact .pure fun _ holds => holds
      · exact .throw fun _ holds => holds.toConsistent
  · exact (writeFrame_meets mine).weaken (fun _ both => both.1) fun _ _ holds => holds

end LibNfs.Rpc
