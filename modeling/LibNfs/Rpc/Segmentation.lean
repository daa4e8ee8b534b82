import LibNfs.Rpc.Matching
import LibNfs.Rpc.Reassembly

/-! # Segmentation of the incoming stream

An attempt over a stream whose bytes come cut into segments, one for each read.
`settled` is what an attempt knows once it has drained the bytes read so far; its
outcome is the first one that a read boundary settles (`attemptOutcome_feed`).
`recv_message` drains a whole segment before it hands out a record, and gives up
the records of that segment when one of them is oversized. The outcome therefore
depends on the segmentation exactly when one read can take in both the end of
the deciding reply and the header of an oversized record (`Straddles`).
-/

namespace LibNfs.Rpc.RpcClient

open Xdr (XdrError beU32)
open RecordMarking (Parse)

variable {α : Type}

/-- What one read of a stream returns: some bytes, and no more than the buffer
of the read holds. -/
structure Segment where
  bytes : Bytes
  nonempty : bytes ≠ []
  short : bytes.length ≤ readLimit

/-- The bytes of a list of segments. -/
def joined (segments : List Segment) : Bytes :=
  (segments.map Segment.bytes).flatten

@[simp] theorem joined_nil : joined [] = [] := rfl

/-- The bytes of the first segment come first. -/
@[simp] theorem joined_cons (segment : Segment) (segments : List Segment) :
    joined (segment :: segments) = segment.bytes ++ joined segments := rfl

@[simp] theorem joined_append (first second : List Segment) :
    joined (first ++ second) = joined first ++ joined second := by
  simp only [joined, List.map_append, List.flatten_append]

/-- What is still to be read: the segments, and whether the server closes the
connection after them or stays silent. -/
structure Feed where
  segments : List Segment
  closes : Bool

/-- One read of a feed. -/
def Feed.read : Feed → Option (Arrival × Feed)
  | ⟨segment :: segments, closes⟩ => some (.data segment.bytes, ⟨segments, closes⟩)
  | ⟨[], true⟩ => some (.data [], ⟨[], false⟩)
  | ⟨[], false⟩ => none

/-- Number of reads a feed answers. -/
def Feed.reads (feed : Feed) : Nat :=
  feed.segments.length + feed.closes.toNat

theorem Feed.reads_lt {feed next : Feed} {arrival : Arrival}
    (answered : feed.read = some (arrival, next)) : next.reads < feed.reads := by
  obtain ⟨_ | ⟨segment, segments⟩, closes⟩ := feed
  · cases closes with
    | false => cases answered
    | true =>
        cases answered
        decide
  · cases answered
    simp only [reads, List.length_cons]
    omega

theorem Feed.read_short {feed next : Feed} {bytes : Bytes}
    (answered : feed.read = some (.data bytes, next)) : bytes.length ≤ readLimit := by
  obtain ⟨_ | ⟨segment, segments⟩, closes⟩ := feed
  · cases closes with
    | false => cases answered
    | true =>
        cases answered
        exact Nat.zero_le _
  · cases answered
    exact segment.short

/-- Every write succeeds, and the reads return the segments of a feed. -/
def feed : Env Feed where
  write _ feed := some (.ok (), feed)
  send _ feed := some (.ok (), feed)
  read := Feed.read
  recv _ := none
  connect _ := none
  budget := Feed.reads
  read_lt := Feed.reads_lt
  recv_lt absurd := nomatch absurd
  read_le := Feed.read_short

/-- What draining does: it fails at an oversized record, or moves the records
held to `pending` and keeps what later bytes will make. -/
theorem drain_of_resume {ω : Type} (world : World ω) :
    (world.client.reassembler.resume.tooLarge = true ∧
      (∀ rest, (world.client.reassembler.push rest).resume = world.client.reassembler.resume) ∧
      ∃ next, (drain).run world = some (.error .recordTooLarge, next)) ∨
    world.client.reassembler.resume.tooLarge = false ∧ ∃ after,
      (∀ rest, (world.client.reassembler.push rest).resume =
        (after.push rest).resume.after world.client.reassembler.resume.records) ∧
      (drain).run world = some (.ok (), { world with
        client := { world.client with
          reassembler := after
          pending := world.client.pending ++ world.client.reassembler.resume.records } }) := by
  induction size : world.client.reassembler.measure using Nat.strongRecOn
    generalizing world with
  | ind size ih =>
      have answers := world.client.reassembler.nextRecord_answers
      have sheds := world.client.reassembler.nextRecord_sheds
      rw [drain_apply]
      rcases answer : world.client.reassembler.nextRecord with ⟨after, error | _ | record⟩ <;>
        rw [answer] at answers sheds
      · obtain ⟨rfl, large⟩ := answers
        have now := large []
        rw [RecordReassembler.push_nil] at now
        exact .inl ⟨by rw [now], fun rest => by rw [large, now], _, rfl⟩
      · obtain ⟨same, empty⟩ := answers
        refine .inr ⟨by rw [empty], after, fun rest => ?_, ?_⟩
        · rw [same, empty]
          rfl
        · rw [empty, List.append_nil]
      · -- the rest is drained from the reassembler that `next_record` leaves
        have now := answers []
        rw [RecordReassembler.push_nil, RecordReassembler.push_nil] at now
        rcases ih after.measure (size ▸ sheds.2 record rfl) { world with
            client := { world.client with
              reassembler := after
              pending := world.client.pending ++ [record] } } rfl with
          ⟨large, same, next, failed⟩ | ⟨fits, final, later, drained⟩
        · refine .inl ⟨by rw [now]; exact large, fun rest => ?_, next, failed⟩
          rw [answers, now, same]
        · refine .inr ⟨by rw [now]; exact fits, final, fun rest => ?_, ?_⟩
          · rw [answers, now, later]
            rfl
          · refine drained.trans ?_
            rw [now]
            simp only [Parse.cons, List.append_assoc, List.singleton_append]

/-- More bytes leave an oversized record where it is, and extend any other
reading. -/
theorem resume_push (r : RecordReassembler) :
    (r.resume.tooLarge = true ∧ ∀ rest, (r.push rest).resume = r.resume) ∨
      r.resume.tooLarge = false ∧
        ∀ rest, ∃ more, (r.push rest).resume.records = r.resume.records ++ more := by
  rcases drain_of_resume (⟨{ RpcClient.connect .tcp .none 0 with reassembler := r }, ()⟩ :
    World Unit) with ⟨large, same, -⟩ | ⟨fits, after, later, -⟩
  · exact .inl ⟨large, same⟩
  · exact .inr ⟨fits, fun rest => ⟨_, by rw [later]; rfl⟩⟩

section Settled

variable (decode : Bytes → Except XdrError (α × Bytes)) (xid : UInt32)

/-- What an attempt knows once it has drained the bytes read so far. -/
def settled (r : RecordReassembler) (taken : Bytes) : Option (Except RpcError α) :=
  if (r.push taken).resume.tooLarge then
    some (.error .recordTooLarge)
  else
    scan decode xid (r.push taken).resume.records

/-- The bytes read so far hold the deciding message, and no oversized record. -/
def Decides (r : RecordReassembler) (taken : Bytes) (outcome : Except RpcError α) : Prop :=
  (r.push taken).resume.tooLarge = false ∧
    scan decode xid (r.push taken).resume.records = some outcome

/-- What the end of the stream gives: a closed connection, or a wait. -/
def atEnd (closes : Bool) : Option (Except RpcError α) :=
  if closes then some (.error .connectionClosed) else none

/-- The first outcome that a read boundary settles. -/
def firstSettled (r : RecordReassembler) (closes : Bool) (taken : Bytes) :
    List Segment → Option (Except RpcError α)
  | [] => atEnd closes
  | segment :: segments =>
      (settled decode xid r (taken ++ segment.bytes)).orElse fun _ =>
        firstSettled r closes (taken ++ segment.bytes) segments

variable {decode xid} {r : RecordReassembler} {taken : Bytes} {outcome : Except RpcError α}

theorem settled_of_tooLarge (large : (r.push taken).resume.tooLarge = true) :
    settled decode xid r taken = some (.error .recordTooLarge) := by
  rw [settled, if_pos large]

theorem settled_of_fits (fits : (r.push taken).resume.tooLarge = false) :
    settled decode xid r taken = scan decode xid (r.push taken).resume.records := by
  rw [settled, if_neg (by rw [fits]; exact Bool.false_ne_true)]

theorem Decides.settled (decides : Decides decode xid r taken outcome) :
    settled decode xid r taken = some outcome := by
  rw [settled_of_fits decides.1, decides.2]

/-- An oversized record stays in the way. -/
theorem tooLarge_append (large : (r.push taken).resume.tooLarge = true) (rest : Bytes) :
    (r.push (taken ++ rest)).resume.tooLarge = true := by
  rw [← RecordReassembler.push_push]
  rcases resume_push (r.push taken) with ⟨-, same⟩ | ⟨fits, -⟩
  · rw [same, large]
  · rw [fits] at large
    cases large

/-- A stream within the limit has its starts within it. -/
theorem fits_of_append {rest : Bytes}
    (fits : (r.push (taken ++ rest)).resume.tooLarge = false) :
    (r.push taken).resume.tooLarge = false := by
  by_contra large
  rw [tooLarge_append (by simpa using large)] at fits
  cases fits

/-- A record that decides does so whatever follows. -/
theorem scan_append_of_some {front : List Bytes}
    (decided : scan decode xid front = some outcome) (more : List Bytes) :
    scan decode xid (front ++ more) = some outcome := by
  induction front with
  | nil => cases decided
  | cons message front ih =>
      rcases kind : verdict decode xid message with error | _ | value <;>
        simp only [scan, kind, List.cons_append] at decided ⊢
      · exact decided
      · exact ih decided
      · exact decided

/-- A message that decides keeps deciding, as long as no oversized record comes. -/
theorem Decides.append (decides : Decides decode xid r taken outcome) {rest : Bytes}
    (fits : (r.push (taken ++ rest)).resume.tooLarge = false) :
    Decides decode xid r (taken ++ rest) outcome := by
  refine ⟨fits, ?_⟩
  rw [← RecordReassembler.push_push]
  rcases resume_push (r.push taken) with ⟨large, -⟩ | ⟨-, longer⟩
  · rw [decides.1] at large
    cases large
  · obtain ⟨more, grown⟩ := longer rest
    rw [grown]
    exact scan_append_of_some decides.2 more

/-- What is settled stays settled, up to an oversized record. -/
theorem settled_append_ne_none (known : settled decode xid r taken ≠ none) (rest : Bytes) :
    settled decode xid r (taken ++ rest) ≠ none := by
  by_cases large : (r.push (taken ++ rest)).resume.tooLarge = true
  · rw [settled_of_tooLarge large]
    exact Option.some_ne_none _
  · have fits : (r.push (taken ++ rest)).resume.tooLarge = false := by simpa using large
    rw [settled_of_fits (fits_of_append fits)] at known
    obtain ⟨outcome, decided⟩ := Option.ne_none_iff_exists'.mp known
    have decides : Decides decode xid r taken outcome := ⟨fits_of_append fits, decided⟩
    rw [(decides.append fits).settled]
    exact Option.some_ne_none _

end Settled

/-- Neither the parsing of a message nor its outcome is an oversized record. -/
def Spares (parsed : Except RpcError (Except RpcError Bytes)) : Prop :=
  parsed ≠ .error .recordTooLarge ∧ parsed ≠ .ok (.error .recordTooLarge)

/-- What is read does not tell of a large record. -/
theorem spares_liftXdr_bind {β : Type} (read : Except XdrError β)
    {next : β → Except RpcError (Except RpcError Bytes)} (rest : ∀ value, Spares (next value)) :
    Spares (liftXdr read >>= next) := by
  cases read with
  | ok value => exact rest value
  | error error => simp [Spares, bind, Except.bind]

theorem spares_parseAccepted (body : Bytes) : Spares (parseAccepted body) := by
  refine spares_liftXdr_bind _ fun value => ?_
  obtain ⟨stat, body⟩ := value
  simp only
  split_ifs
  · simp [Spares, pure, Except.pure]
  · simp [Spares, pure, Except.pure]
  · exact spares_liftXdr_bind _ fun _ => spares_liftXdr_bind _ fun _ => by
      simp [Spares, pure, Except.pure]
  · simp [Spares, pure, Except.pure]
  · simp [Spares, pure, Except.pure]
  · simp [Spares, pure, Except.pure]
  · simp [Spares, pure, Except.pure]

theorem spares_parseDenied (body : Bytes) : Spares (parseDenied body) := by
  refine spares_liftXdr_bind _ fun value => ?_
  obtain ⟨stat, body⟩ := value
  simp only
  split_ifs
  · exact spares_liftXdr_bind _ fun _ => spares_liftXdr_bind _ fun _ => by
      simp [Spares, pure, Except.pure]
  · exact spares_liftXdr_bind _ fun _ => by
      simp [Spares, pure, Except.pure]
  · simp [Spares, pure, Except.pure]

theorem spares_parseReplyBody (body : Bytes) : Spares (parseReplyBody body) := by
  refine spares_liftXdr_bind _ fun value => ?_
  obtain ⟨kind, body⟩ := value
  simp only
  split_ifs
  · simp [Spares]
  · refine spares_liftXdr_bind _ fun value => ?_
    obtain ⟨stat, body⟩ := value
    simp only
    split_ifs
    · exact spares_liftXdr_bind _ fun _ => spares_liftXdr_bind _ fun _ => spares_parseAccepted _
    · exact spares_parseDenied _
    · simp [Spares]

/-- No message makes an attempt report an oversized record. -/
theorem verdict_ne_recordTooLarge (decode : Bytes → Except XdrError (α × Bytes)) (xid : UInt32)
    (message : Bytes) : verdict decode xid message ≠ .error .recordTooLarge := by
  rcases word : Xdr.decodeU32 message with error | ⟨replyXid, body⟩
  · simp [verdict, parseReply, word, bind, Except.bind]
  · have spares := spares_parseReplyBody body
    rcases parsed : parseReplyBody body with error | error | result <;>
      rw [parsed] at spares
    · simpa [verdict, parseReply, word, parsed, bind, Except.bind] using spares.1
    · by_cases own : replyXid = xid
      · simpa [verdict, parseReply, word, parsed, own, bind, Except.bind, pure, Except.pure]
          using spares.2
      · simp [verdict, parseReply, word, parsed, own, bind, Except.bind, pure, Except.pure]
    · by_cases own : replyXid = xid
      · rcases value : decode result with error | value <;>
          simp [verdict, parseReply, word, parsed, own, value, bind, Except.bind, pure, Except.pure]
      · simp [verdict, parseReply, word, parsed, own, bind, Except.bind, pure, Except.pure]

/-- Looking through the records does not tell of a large one. -/
theorem scan_ne_recordTooLarge (decode : Bytes → Except XdrError (α × Bytes)) (xid : UInt32)
    (messages : List Bytes) : scan decode xid messages ≠ some (.error .recordTooLarge) := by
  induction messages with
  | nil => simp [scan]
  | cons message messages ih =>
      have never := verdict_ne_recordTooLarge decode xid message
      rcases decided : verdict decode xid message with error | _ | value
      · rw [decided] at never
        simpa [scan, decided] using never
      · simpa only [scan, decided] using ih
      · simp [scan, decided]

section Outcome

variable (decode : Bytes → Except XdrError (α × Bytes)) (xid : UInt32)

theorem recvTurn_of_stream {ω : Type} {env : Env ω} {world : World ω}
    (stream : world.client.socket ≠ .udp) :
    (recvTurn env).run world = (streamTurn env).run world := by
  rw [recvTurn, Prog.bind_of_ok (show (Prog.get).run world = some (.ok world, world) from rfl)]
  cases kind : world.client.socket with
  | tcp => rfl
  | udp => exact absurd kind stream
  | stream => rfl

/-- A turn that yields no message leaves the receiving loop to the next one. -/
theorem recvMessage_of_silent {ω : Type} {env : Env ω} {world next : World ω}
    (empty : world.client.pending = []) (empty' : next.client.pending = [])
    (turn : (recvTurn env).run world = some (.ok none, next)) :
    (recvMessage env).run world = (recvMessage env).run next := by
  have popped : ∀ state : World ω, state.client.pending = [] →
      (recvMessage env).run state =
        (Prog.loop (recvTurn env) fun world => env.budget world.env).run state := by
    intro state none
    have pop : (popPending).run state = some (.ok Option.none, state) := by
      rw [popPending_apply, none]
    rw [recvMessage, Prog.bind_of_ok pop]
  rw [popped world empty, popped next empty', Prog.loop_eq (recvTurn_decreases env), turn]

/-- The pending messages are the first ones received. -/
theorem delivers_pending {ω : Type} (env : Env ω) (world : World ω) :
    Delivers env world world.client.pending
      { world with client := { world.client with pending := [] } } := by
  obtain ⟨client, state⟩ := world
  obtain ⟨protocol, cred, socket, reassembler, pending, nextXid, autoReconnect⟩ := client
  induction pending with
  | nil => exact .nil _
  | cons message pending ih => exact .cons rfl ih

/-- The waiting loop, as its outcome. -/
def waitOutcome {ω : Type} (env : Env ω) (world : World ω) : Option (Except RpcError α) :=
  ((Prog.loop (attemptTurn env decode xid) (supply env)).run world).map (·.1)

/-- Waits that receive the same come to the same. -/
theorem waitOutcome_of_recvMessage {ω : Type} {env : Env ω} {world next : World ω}
    (same : (recvMessage env).run world = (recvMessage env).run next) :
    waitOutcome decode xid env world = waitOutcome decode xid env next := by
  have turn : (attemptTurn env decode xid).run world = (attemptTurn env decode xid).run next := by
    rw [attemptTurn, Prog.bind_apply, Prog.bind_apply, same]
  rw [waitOutcome, waitOutcome, Prog.loop_eq (attemptTurn_decreases env decode xid),
    Prog.loop_eq (attemptTurn_decreases env decode xid), turn]

theorem waitOutcome_of_error {ω : Type} {env : Env ω} {world next : World ω} {error : RpcError}
    (failed : (recvMessage env).run world = some (.error error, next)) :
    waitOutcome decode xid env world = some (.error error) := by
  have turn : (attemptTurn env decode xid).run world = some (.error error, next) :=
    Prog.bind_of_error failed
  rw [waitOutcome, Prog.loop_eq (attemptTurn_decreases env decode xid), turn]
  rfl

/-- After a segment in which nothing is oversized, the outcome is that of its
records, or of what comes after it. -/
theorem waitOutcome_of_drained {ω : Type} {env : Env ω} {world next : World ω}
    {records : List Bytes} (empty : world.client.pending = [])
    (stream : world.client.socket ≠ .udp) (pending : next.client.pending = records)
    (turn : (streamTurn env).run world = (popPending).run next) :
    waitOutcome decode xid env world =
      (scan decode xid records).orElse fun _ => waitOutcome decode xid env
        { next with client := { next.client with pending := [] } } := by
  rw [← recvTurn_of_stream stream, popPending_apply, pending] at turn
  cases records with
  | nil =>
      have same : { next with client := { next.client with pending := [] } } = next := by
        obtain ⟨client, state⟩ := next
        obtain ⟨protocol, cred, socket, reassembler, queue, nextXid, autoReconnect⟩ := client
        cases pending
        rfl
      rw [same]
      exact waitOutcome_of_recvMessage decode xid (recvMessage_of_silent empty pending turn)
  | cons message rest =>
      have received : (recvMessage env).run world = some (.ok message,
          { next with client := { next.client with pending := rest } }) :=
        @recvMessage_of_turn _ _ _ _ (.ok message) empty turn
      exact wait_of_delivers decode xid (.cons received (delivers_pending env _))

/-- The waiting loop over a feed ends with the first outcome a read boundary
settles. -/
theorem waitOutcome_feed {r : RecordReassembler} {closes : Bool} {taken : Bytes}
    (segments : List Segment) (client : RpcClient) (stream : client.socket ≠ .udp)
    (empty : client.pending = [])
    (stands : ∀ rest, settled decode xid r (taken ++ rest) =
      settled decode xid client.reassembler rest) :
    waitOutcome decode xid feed ⟨client, segments, closes⟩ =
      firstSettled decode xid r closes taken segments := by
  induction segments generalizing client taken with
  | nil =>
      cases closes with
      | true =>
          have turn : (recvTurn feed).run ⟨client, [], true⟩ =
              some (.error .connectionClosed, ⟨client, [], false⟩) := by
            rw [recvTurn_of_stream stream]
            rfl
          exact waitOutcome_of_error decode xid (@recvMessage_of_turn _ _ _ _ (.error _) empty turn)
      | false =>
          have turn : (recvTurn feed).run ⟨client, [], false⟩ = none := by
            rw [recvTurn_of_stream stream]
            rfl
          have popped : (popPending).run (⟨client, [], false⟩ : World Feed) =
              some (.ok none, ⟨client, [], false⟩) := by
            rw [popPending_apply, empty]
          have waiting : (attemptTurn feed decode xid).run ⟨client, [], false⟩ = none := by
            refine Prog.bind_of_waiting ?_
            rw [recvMessage, Prog.bind_of_ok popped]
            simp only
            rw [Prog.loop_eq (recvTurn_decreases feed), turn]
          rw [waitOutcome, Prog.loop_eq (attemptTurn_decreases feed decode xid), waiting]
          rfl
  | cons segment segments ih =>
      have read := @streamTurn_of_data _ feed ⟨client, segment :: segments, closes⟩ segment.bytes
        ⟨segments, closes⟩ segment.nonempty rfl
      simp only [firstSettled]
      rw [stands]
      rcases drain_of_resume (⟨{ client with
          reassembler := client.reassembler.push segment.bytes }, segments, closes⟩ :
          World Feed) with ⟨large, -, next, failed⟩ | ⟨fits, after, later, drained⟩
      · rw [settled_of_tooLarge large]
        rw [Prog.bind_of_error failed, ← recvTurn_of_stream stream] at read
        exact waitOutcome_of_error decode xid (@recvMessage_of_turn _ _ _ _ (.error _) empty read)
      · rw [settled_of_fits fits]
        rw [Prog.bind_of_ok drained] at read
        simp only [empty, List.nil_append] at read
        rw [waitOutcome_of_drained decode xid empty stream rfl read]
        rcases decided : scan decode xid (client.reassembler.push segment.bytes).resume.records
          with _ | outcome
        · refine ih _ stream rfl fun rest => ?_
          rw [List.append_assoc, stands]
          have grown := later rest
          simp only [RecordReassembler.push_push] at grown
          simp only [settled, grown, Parse.after, scan_append_of_none decode xid decided]
        · rfl

/-- A message that is short enough is framed. -/
theorem frame_of_short {message : Bytes} (short : message.length ≤ lengthMask.toNat) :
    ∃ framed, frame message = .ok framed :=
  ⟨_, by rw [frame, if_neg (Nat.not_lt.mpr short)]⟩

/-- The outcome of an attempt over a feed: that of the messages already pending,
or the first that a read boundary settles. -/
theorem attemptOutcome_feed {message framed : Bytes} {client : RpcClient}
    (stream : client.socket ≠ .udp) (sent : frame message = .ok framed)
    (segments : List Segment) (closes : Bool) :
    attemptOutcome feed decode xid message ⟨client, segments, closes⟩ =
      (scan decode xid client.pending).orElse fun _ =>
        firstSettled decode xid client.reassembler closes [] segments := by
  have written : (writeFrame feed message).run ⟨client, segments, closes⟩ =
      some (.ok (), ⟨client, segments, closes⟩) := by
    rw [writeFrame, Prog.bind_of_ok (show (Prog.ofExcept (frame message)).run _ =
      some (.ok framed, _) by rw [Prog.ofExcept, sent])]
    rfl
  have done : (send feed message).run ⟨client, segments, closes⟩ =
      some (.ok (), ⟨client, segments, closes⟩) := by
    rw [send, Prog.bind_of_ok (show (Prog.get).run _ = some (.ok _, _) from rfl)]
    cases kind : client.socket with
    | tcp => simpa [kind] using written
    | udp => exact absurd kind stream
    | stream => simpa [kind] using written
  rw [attemptOutcome, attemptCall, Prog.bind_of_ok done,
    wait_of_delivers decode xid (delivers_pending feed _)]
  congr 1
  funext _
  exact waitOutcome_feed decode xid segments { client with pending := [] } stream rfl fun _ => rfl

/-- A message that cannot be framed is not sent. -/
theorem attemptOutcome_of_unframed {message : Bytes} {client : RpcClient}
    (stream : client.socket ≠ .udp) (refused : frame message = .error .recordTooLarge)
    (feeding : Feed) :
    attemptOutcome feed decode xid message ⟨client, feeding⟩ =
      some (.error .recordTooLarge) := by
  have failed : (writeFrame feed message).run ⟨client, feeding⟩ =
      some (.error .recordTooLarge, ⟨client, feeding⟩) :=
    Prog.bind_of_error (by rw [Prog.ofExcept, refused])
  have done : (send feed message).run ⟨client, feeding⟩ =
      some (.error .recordTooLarge, ⟨client, feeding⟩) := by
    rw [send, Prog.bind_of_ok (show (Prog.get).run _ = some (.ok _, _) from rfl)]
    cases kind : client.socket with
    | tcp => simpa [kind] using failed
    | udp => exact absurd kind stream
    | stream => simpa [kind] using failed
  rw [attemptOutcome, attemptCall, Prog.bind_of_error done]
  rfl

/-- The outcome of the attempt is the same for every segmentation of the stream. -/
def SegmentationFree (message : Bytes) (client : RpcClient) (closes : Bool) (stream : Bytes) :
    Prop :=
  ∀ first second : List Segment, joined first = stream → joined second = stream →
    attemptOutcome feed decode xid message ⟨client, first, closes⟩ =
      attemptOutcome feed decode xid message ⟨client, second, closes⟩

/-- A read that starts before the deciding reply is complete can take in the rest
of that reply and, after it, the header of an oversized record. -/
def Straddles (r : RecordReassembler) (stream : Bytes) : Prop :=
  ∃ front reply rest back outcome, stream = front ++ (reply ++ rest) ++ back ∧
    reply ≠ [] ∧ (reply ++ rest).length ≤ readLimit ∧
    (front = [] ∨ settled decode xid r front = none) ∧
    Decides decode xid r (front ++ reply) outcome ∧
    (r.push (front ++ (reply ++ rest))).resume.tooLarge = true

/-- The attempt sends its message, no pending message decides it, and a read can
take in its reply together with the header of an oversized record. -/
structure Exposed (message : Bytes) (client : RpcClient) (stream : Bytes) : Prop where
  framed : message.length ≤ lengthMask.toNat
  waiting : scan decode xid client.pending = none
  straddles : Straddles decode xid client.reassembler stream

variable {decode xid} {r : RecordReassembler} {closes : Bool}

/-- Without a straddling read the deciding reply is handed out. -/
theorem firstSettled_of_decides {taken reply rest : Bytes} {outcome : Except RpcError α}
    (segments : List Segment) (cut : joined segments = reply ++ rest) (some : reply ≠ [])
    (before : taken = [] ∨ settled decode xid r taken = none)
    (decides : Decides decode xid r (taken ++ reply) outcome)
    (clear : ¬ Straddles decode xid r (taken ++ joined segments)) :
    firstSettled decode xid r closes taken segments = .some outcome := by
  induction segments generalizing taken reply with
  | nil =>
      rw [joined_nil] at cut
      exact absurd (List.append_eq_nil_iff.mp cut.symm).1 some
  | cons segment segments ih =>
      rw [joined_cons] at cut clear
      rw [firstSettled]
      rcases List.append_eq_append_iff.mp cut with ⟨more, rfl, later⟩ | ⟨extra, same, rfl⟩
      · rw [← List.append_assoc] at decides
        rw [settled_of_fits (fits_of_append decides.1)]
        rcases early : scan decode xid (r.push (taken ++ segment.bytes)).resume.records
          with _ | value
        · -- the reply goes on in the next segments
          have undecided : settled decode xid r (taken ++ segment.bytes) = none := by
            rw [settled_of_fits (fits_of_append decides.1), early]
          have more_some : more ≠ [] := by
            rintro rfl
            have decided := decides.2
            rw [List.append_nil, early] at decided
            cases decided
          exact ih later more_some (.inr undecided) decides (by rwa [List.append_assoc])
        · have kept := Decides.append ⟨fits_of_append decides.1, early⟩ decides.1
          rw [← decides.2, kept.2]
          rfl
      · by_cases large : (r.push (taken ++ segment.bytes)).resume.tooLarge = true
        · refine absurd ⟨taken, reply, extra, joined segments, outcome, ?_, some, ?_, before,
            decides, ?_⟩ clear
          · rw [← same, List.append_assoc]
          · rw [← same]
            exact segment.short
          · rw [← same]
            exact large
        · rw [same, ← List.append_assoc] at large
          have kept := decides.append (by simpa using large)
          rw [same, ← List.append_assoc, kept.settled]
          rfl

/-- When no read boundary can find a decision, only the whole stream counts. -/
theorem firstSettled_of_undecided {taken : Bytes} (segments : List Segment)
    (undecided : ∀ front rest outcome, front ≠ [] → joined segments = front ++ rest →
      ¬ Decides decode xid r (taken ++ front) outcome) :
    firstSettled decode xid r closes taken segments =
      if joined segments ≠ [] ∧ (r.push (taken ++ joined segments)).resume.tooLarge = true then
        some (.error .recordTooLarge)
      else
        atEnd closes := by
  induction segments generalizing taken with
  | nil => rw [firstSettled, if_neg (fun both => both.1 joined_nil)]
  | cons segment segments ih =>
      have present : segment.bytes ++ joined segments ≠ [] := fun empty =>
        segment.nonempty (List.append_eq_nil_iff.mp empty).1
      rw [firstSettled, joined_cons, ← List.append_assoc]
      by_cases large : (r.push (taken ++ segment.bytes)).resume.tooLarge = true
      · rw [settled_of_tooLarge large, if_pos ⟨present, tooLarge_append large _⟩]
        rfl
      · have fits : (r.push (taken ++ segment.bytes)).resume.tooLarge = false := by
          simpa using large
        rw [settled_of_fits fits]
        rcases decided : scan decode xid (r.push (taken ++ segment.bytes)).resume.records
          with _ | outcome
        · have rest := @ih (taken ++ segment.bytes) fun front rest outcome some same decides =>
            undecided (segment.bytes ++ front) rest outcome
              (fun empty => some (List.append_eq_nil_iff.mp empty).2)
              (by rw [joined_cons, same, List.append_assoc])
              (by rwa [← List.append_assoc])
          refine rest.trans ?_
          by_cases last : joined segments = []
          · rw [if_neg (fun both => both.1 last), last, List.append_nil, List.append_nil,
              if_neg (fun both => large both.2)]
          · simp only [ne_eq, last, not_false_eq_true, true_and, present]
        · exact absurd ⟨fits, decided⟩
            (undecided segment.bytes (joined segments) outcome segment.nonempty (joined_cons _ _))

/-- Without a straddling read every segmentation gives the same outcome. -/
theorem firstSettled_eq_of_clear {first second : List Segment}
    (same : joined first = joined second) (clear : ¬ Straddles decode xid r (joined first)) :
    firstSettled decode xid r closes [] first = firstSettled decode xid r closes [] second := by
  by_cases decided : ∃ front rest outcome, front ≠ [] ∧ joined first = front ++ rest ∧
      Decides decode xid r front outcome
  · obtain ⟨front, rest, outcome, some, cut, decides⟩ := decided
    rw [firstSettled_of_decides first cut some (.inl rfl) decides clear,
      firstSettled_of_decides second (same ▸ cut) some (.inl rfl) decides (same ▸ clear)]
  · have never : ∀ front rest outcome, front ≠ [] → joined first = front ++ rest →
        ¬ Decides decode xid r ([] ++ front) outcome :=
      fun front rest outcome some cut decides => decided ⟨front, rest, outcome, some, cut, decides⟩
    rw [firstSettled_of_undecided first never, firstSettled_of_undecided second (same ▸ never),
      same]

/-- The segmentation into single bytes. -/
def bytewise (bytes : Bytes) : List Segment :=
  bytes.map fun byte => ⟨[byte], List.cons_ne_nil _ _, Nat.succ_le_of_lt (by decide)⟩

/-- The bytes that come one at a time are all the bytes. -/
theorem joined_bytewise (bytes : Bytes) : joined (bytewise bytes) = bytes := by
  induction bytes with
  | nil => rfl
  | cons byte bytes ih =>
      change [byte] ++ joined (bytewise bytes) = byte :: bytes
      rw [ih, List.singleton_append]

/-- Bytes that settle nothing are read one by one. -/
theorem firstSettled_bytewise {taken front : Bytes} (segments : List Segment)
    (before : front = [] ∨ settled decode xid r (taken ++ front) = none) :
    firstSettled decode xid r closes taken (bytewise front ++ segments) =
      firstSettled decode xid r closes (taken ++ front) segments := by
  induction front generalizing taken with
  | nil => rw [List.append_nil]; rfl
  | cons byte front ih =>
      have silent : settled decode xid r (taken ++ byte :: front) = none :=
        before.resolve_left (List.cons_ne_nil _ _)
      rw [← List.singleton_append, ← List.append_assoc] at silent
      have first : settled decode xid r (taken ++ [byte]) = none := by
        by_contra known
        exact settled_append_ne_none known front silent
      have later := @ih (taken ++ [byte]) (.inr silent)
      rw [List.append_assoc, List.singleton_append] at later
      rw [← later]
      change (settled decode xid r (taken ++ [byte])).orElse _ = _
      rw [first]
      rfl

/-- A straddling read makes the outcome depend on the segmentation. -/
theorem not_segmentationFree_of_exposed {message : Bytes} {client : RpcClient} {stream : Bytes}
    (socket : client.socket ≠ .udp) (exposed : Exposed decode xid message client stream) :
    ¬ SegmentationFree decode xid message client closes stream := by
  intro free
  obtain ⟨framed, sent⟩ := frame_of_short exposed.framed
  obtain ⟨front, reply, rest, back, outcome, rfl, some, short, before, decides, large⟩ :=
    exposed.straddles
  have whole : reply ++ rest ≠ [] := fun empty => some (List.append_eq_nil_iff.mp empty).1
  have replyShort : reply.length ≤ readLimit := by
    rw [List.length_append] at short
    omega
  -- one read with the oversized header, against one that stops at the end of the reply
  have same := free (bytewise front ++ ⟨reply ++ rest, whole, short⟩ :: bytewise back)
    (bytewise front ++ ⟨reply, some, replyShort⟩ :: bytewise (rest ++ back))
    (by simp only [joined_append, joined_cons, joined_bytewise, List.append_assoc])
    (by simp only [joined_append, joined_cons, joined_bytewise, List.append_assoc])
  rw [attemptOutcome_feed decode xid socket sent, attemptOutcome_feed decode xid socket sent,
    exposed.waiting] at same
  have lost : firstSettled decode xid client.reassembler closes []
      (bytewise front ++ ⟨reply ++ rest, whole, short⟩ :: bytewise back) =
        .some (.error .recordTooLarge) := by
    rw [firstSettled_bytewise _ before, firstSettled, List.nil_append, settled_of_tooLarge large]
    rfl
  have kept : firstSettled decode xid client.reassembler closes []
      (bytewise front ++ ⟨reply, some, replyShort⟩ :: bytewise (rest ++ back)) =
        .some outcome := by
    rw [firstSettled_bytewise _ before, firstSettled, List.nil_append, decides.settled]
    rfl
  have equal : Option.some (Except.error RpcError.recordTooLarge) = Option.some outcome := by
    rw [← lost, ← kept]
    exact same
  exact scan_ne_recordTooLarge decode xid _ (decides.2.trans equal.symm)

/-- The outcome of an attempt on a stream is the same for every segmentation
exactly when no read can take in both the end of the deciding reply and the header
of an oversized record after it. -/
theorem segmentationFree_iff (decode : Bytes → Except XdrError (α × Bytes)) (xid : UInt32)
    (message : Bytes) (client : RpcClient) (socket : client.socket ≠ .udp) (closes : Bool)
    (stream : Bytes) :
    SegmentationFree decode xid message client closes stream ↔
      ¬ Exposed decode xid message client stream := by
  refine ⟨fun free exposed => not_segmentationFree_of_exposed socket exposed free,
    fun clear first second firstCut secondCut => ?_⟩
  by_cases long : message.length > lengthMask.toNat
  · have refused : frame message = .error .recordTooLarge := by rw [frame, if_pos long]
    rw [attemptOutcome_of_unframed decode xid socket refused,
      attemptOutcome_of_unframed decode xid socket refused]
  · obtain ⟨framed, sent⟩ := frame_of_short (Nat.not_lt.mp long)
    rw [attemptOutcome_feed decode xid socket sent, attemptOutcome_feed decode xid socket sent]
    rcases waiting : scan decode xid client.pending with _ | outcome
    · have free : ¬ Straddles decode xid client.reassembler (joined first) := by
        rw [firstCut]
        exact fun straddles => clear ⟨Nat.not_lt.mp long, waiting, straddles⟩
      exact firstSettled_eq_of_clear (firstCut.trans secondCut.symm) free
    · rfl

/-- A stream within the limit straddles nothing. -/
theorem not_straddles_of_fits {stream : Bytes}
    (fits : (r.push stream).resume.tooLarge = false) : ¬ Straddles decode xid r stream := by
  rintro ⟨front, reply, rest, back, outcome, rfl, -, -, -, -, large⟩
  rw [fits_of_append fits] at large
  cases large

end Outcome

/-- A reply to the call with xid 5, as its server sends it. -/
def reply5 : Bytes :=
  Reply.encode 5 (.accepted 0 [] (.success (beU32 9)))

/-- A record, and whatever follows it, as a fresh reassembler reads them. -/
theorem resume_record (record rest : Bytes) (short : record.length ≤ defaultMaxRecord) :
    (RecordReassembler.new.push (RecordMarking.encodeRecord ⟨[], record⟩ ++ rest)).resume =
      (RecordMarking.parse (some defaultMaxRecord) [] rest).cons record :=
  RecordMarking.parse_encodeRecord ⟨[], record⟩ [] rest
    ⟨by simp, Nat.lt_of_le_of_lt short (by decide)⟩
    fun above => Nat.not_lt.mpr short (RecordReassembler.exceeds_some.mp above)

theorem resume_reply5 :
    (RecordReassembler.new.push (RecordMarking.encodeRecord ⟨[], reply5⟩)).resume =
      ⟨[reply5], false⟩ := by
  have read := resume_record reply5 [] (by decide)
  rwa [List.append_nil, RecordMarking.parse_short (by decide)] at read

/-- The reply alone, in any segments, with the connection closed after it. -/
theorem segmentationFree_reply5 :
    SegmentationFree Xdr.decodeU32 5 [] (connect .tcp .none 5) true
      (RecordMarking.encodeRecord ⟨[], reply5⟩) :=
  (segmentationFree_iff Xdr.decodeU32 5 [] (connect .tcp .none 5) (by decide) true _).mpr
    fun exposed =>
      not_straddles_of_fits (congrArg Parse.tooLarge resume_reply5) exposed.straddles

/-- A reply followed by the header of a record one byte over the limit: read
together they give an error, read apart the value of the reply. -/
theorem reply_lost_before_oversized :
    ¬ ∀ stream, SegmentationFree Xdr.decodeU32 5 [] (connect .tcp .none 5) false stream := by
  intro all
  have header : RecordMarking.parse (some defaultMaxRecord) [] [129, 0, 0, 1] = ⟨[], true⟩ := by
    rw [RecordMarking.parse]
    decide
  refine not_segmentationFree_of_exposed (by decide) ⟨by decide, rfl, ?_⟩
    (all (RecordMarking.encodeRecord ⟨[], reply5⟩ ++ [129, 0, 0, 1]))
  refine ⟨[], RecordMarking.encodeRecord ⟨[], reply5⟩, [129, 0, 0, 1], [], .ok 9, ?_, by decide,
    by decide, .inl rfl, ⟨?_, ?_⟩, ?_⟩
  · rw [List.nil_append, List.append_nil]
  · exact congrArg Parse.tooLarge resume_reply5
  · change scan Xdr.decodeU32 5 (RecordReassembler.new.push _).resume.records = _
    rw [List.nil_append, resume_reply5]
    decide
  · exact (congrArg Parse.tooLarge (resume_record reply5 _ (by decide))).trans
      (congrArg Parse.tooLarge header)

end LibNfs.Rpc.RpcClient
