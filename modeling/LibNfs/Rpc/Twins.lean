import LibNfs.Rpc.Frames

/-! # The two clients agree

The asynchronous client is the synchronous one written again. The two differ when a timer
cancels a write, when a read over TCP meets the deadline, and in the kinds of errors that
they take for a deadline. Where the environment does none of this, no user can tell the
clients apart: `Dialogue` is any use of a client, whose next call may depend on the results
of those before.
-/

namespace LibNfs.Rpc

open Xdr (XdrError beU32)

/-- Changes the credentials of the calls to come. -/
def RpcClient.setCredentials {ω : Type} (cred : Credentials) : Prog (World ω) RpcError Unit :=
  RpcClient.update fun client => { client with cred := cred }

/-- A use of a client: it ends, changes the credentials, or calls a procedure and goes on with
the result. -/
inductive Dialogue (β : Type) where
  | ends (value : β)
  | authenticate (cred : Credentials) (next : Dialogue β)
  | call (request : Request) (next : Except RpcError request.α → Dialogue β)

/-- Makes the calls of a dialogue, each chosen by the results of those before it. -/
def Dialogue.run {ω β : Type} (perform : (request : Request) → Prog (World ω) RpcError request.α) :
    Dialogue β → Prog (World ω) RpcError β
  | .ends value => return value
  | .authenticate cred next => do
      RpcClient.setCredentials cred
      next.run perform
  | .call request next => do
      let result ← Prog.outcome (perform request)
      (next result).run perform

/-- An environment in which the clients cannot be told apart. The timer cancels no write, over
TCP no read meets the deadline, and no read fails as one that is interrupted or that met it. -/
structure Patient {ω : Type} (protocol : Protocol) (env : AsyncEnv ω) : Prop where
  expires : ∀ bytes state, env.expires bytes state = some (none, state)
  reads : ∀ {state kind next}, env.read state = some (.failed kind, next) →
    isTimeout kind = false ∧ kind ≠ .interrupted
  receives : ∀ {state kind next}, env.recv state = some (.failed kind, next) →
    isTimeout kind = false ∧ kind ≠ .interrupted
  inTime : protocol = .tcp → ∀ state next, env.read state ≠ some (.deadline, next)

/-- A client as `connect` makes it and as its calls leave it. -/
structure Standing {ω : Type} (protocol : Protocol) (world : World ω) : Prop where
  speaks : world.client.protocol = protocol
  socket : world.client.socket = openSocket protocol
  renews : world.client.autoReconnect = true

/-- An error after which both clients do the same. -/
def Shared (protocol : Protocol) (error : RpcError) : Prop :=
  protocol = .tcp → error ≠ .timeout

namespace Twins

variable {ω α : Type} {protocol : Protocol} {env : AsyncEnv ω}

/-- A read that neither timed out nor was interrupted fails with its error. -/
theorem readFailed_eq {kind : IoErrorKind} (plain : isTimeout kind = false ∧ kind ≠ .interrupted) :
    (RpcClient.readFailed kind : Prog (World ω) RpcError _) = Prog.throw (.io kind) := by
  simp only [RpcClient.readFailed, plain.1, Bool.false_eq_true, ↓reduceIte, plain.2]

/-- The answer of a question, and what the question was asked of. -/
theorem answer_of_ask {β : Type} {question : ω → Option (β × ω)} {answer : β}
    {world next : World ω}
    (asked : (RpcClient.ask question).run world = some (.ok answer, next)) :
    question world.env = some (answer, next.env) := by
  obtain ⟨⟨answer', mid⟩, given, same⟩ := Option.map_eq_some_iff.mp asked
  cases same
  obtain ⟨⟨answer', after⟩, answered, same⟩ := Option.map_eq_some_iff.mp given
  cases same
  exact answered

/-- One read of a stream is the same in both clients. -/
theorem streamTurn_eq (patient : Patient protocol env) :
    AsyncRpcClient.streamTurn env = RpcClient.streamTurn env.toEnv := by
  refine Prog.ext fun world => Prog.bind_congr rfl fun arrival mid asked => ?_
  rcases arrival with _ | ⟨_ | ⟨byte, bytes⟩⟩ | kind
  · rfl
  · rfl
  · rfl
  · simp only [readFailed_eq (patient.reads (answer_of_ask asked))]

/-- One datagram is the same in both clients. -/
theorem datagramTurn_eq (patient : Patient protocol env) :
    AsyncRpcClient.datagramTurn env = RpcClient.datagramTurn env.toEnv := by
  refine Prog.ext fun world => Prog.bind_congr rfl fun arrival mid asked => ?_
  rcases arrival with _ | bytes | kind
  · rfl
  · rfl
  · simp only [readFailed_eq (patient.receives (answer_of_ask asked))]

/-- One turn of receiving is the same in both clients. -/
theorem recvTurn_eq (patient : Patient protocol env) :
    AsyncRpcClient.recvTurn env = RpcClient.recvTurn env.toEnv := by
  refine Prog.ext fun world => Prog.bind_congr rfl fun value mid _ => ?_
  simp only [streamTurn_eq patient, datagramTurn_eq patient]
  rcases value.client.socket <;> rfl

/-- Receiving a message is the same in both clients. -/
theorem recvMessage_eq (patient : Patient protocol env) :
    AsyncRpcClient.recvMessage env = RpcClient.recvMessage env.toEnv := by
  unfold AsyncRpcClient.recvMessage
  rw [recvTurn_eq patient]
  rfl

/-- One turn of an exchange is the same in both clients. -/
theorem exchangeTurn_eq (patient : Patient protocol env)
    (decode : Bytes → Except XdrError (α × Bytes)) (xid : UInt32) :
    AsyncRpcClient.exchangeTurn env decode xid = RpcClient.attemptTurn env.toEnv decode xid := by
  unfold AsyncRpcClient.exchangeTurn
  rw [recvMessage_eq patient]
  rfl

/-- A write that no timer cancels is the write of the synchronous client. -/
theorem uncancelled {β : Type} (patient : Patient protocol env) (bytes : Bytes)
    (after : Option Nat → Prog (World ω) RpcError β) (world : World ω) :
    (RpcClient.ask (env.expires bytes) >>= after).run world = (after none).run world := by
  have asked : (RpcClient.ask (env.expires bytes)).run world = some (.ok none, world) := by
    rw [RpcClient.ask_of_answer (patient.expires bytes world.env)]
  exact Prog.bind_of_ok asked

/-- Sending is the same in both clients. -/
theorem send_eq (patient : Patient protocol env) (message : Bytes) :
    AsyncRpcClient.send env message = RpcClient.send env.toEnv message := by
  have frames : (do
      let framed ← Prog.ofExcept (frame message)
      AsyncRpcClient.writeAll env framed) = RpcClient.writeFrame env.toEnv message :=
    Prog.ext fun world => Prog.bind_congr rfl fun framed mid _ => uncancelled patient framed _ mid
  refine Prog.ext fun world => Prog.bind_congr rfl fun value mid _ => ?_
  rcases value.client.socket
  · exact congrArg (·.run mid) frames
  · exact uncancelled patient message _ mid
  · exact congrArg (·.run mid) frames

/-- An exchange is the same in both clients. -/
theorem exchange_eq (patient : Patient protocol env)
    (decode : Bytes → Except XdrError (α × Bytes)) (xid : UInt32) (message : Bytes) :
    AsyncRpcClient.exchange env decode xid message =
      RpcClient.attemptCall env.toEnv decode xid message := by
  simp only [AsyncRpcClient.exchange, RpcClient.attemptCall, send_eq patient,
    exchangeTurn_eq patient]

/-- A result that is not a timeout, and what holds of its value. -/
def Punctual {β : Type} (ok : β → Prop) : Except RpcError β → Prop
  | .ok value => ok value
  | .error error => error ≠ .timeout

/-- A sequence does not time out when its parts do not. -/
theorem Punctual.bind {β γ : Type} {ok : β → Prop} {ok' : γ → Prop} {first : Except RpcError β}
    {next : β → Except RpcError γ} (begins : Punctual ok first)
    (follows : ∀ value, ok value → Punctual ok' (next value)) :
    Punctual ok' (first >>= next) := by
  rcases first with error | value
  · exact begins
  · exact follows value begins

theorem Punctual.read {β γ : Type} {ok : γ → Prop} (read : Except XdrError β)
    {next : β → Except RpcError γ} (follows : ∀ value, Punctual ok (next value)) :
    Punctual ok (liftXdr read >>= next) := by
  rcases read with error | value
  · exact RpcError.noConfusion
  · exact follows value

/-- A reply that parses, with an outcome that is no timeout. -/
abbrev Answers (parsed : Except RpcError (Except RpcError Bytes)) : Prop :=
  Punctual (Punctual fun _ => True) parsed

/-- An outcome that is an error other than a timeout. -/
theorem answers_error {error : RpcError} (other : error ≠ .timeout) : Answers (.ok (.error error)) :=
  other

/-- The body of an accepted reply does not time out. -/
theorem answers_parseAccepted (body : Bytes) : Answers (parseAccepted body) := by
  refine .read _ fun value => ?_
  obtain ⟨stat, body⟩ := value
  simp only
  split_ifs
  · exact trivial
  · exact answers_error RpcError.noConfusion
  · exact .read _ fun _ => .read _ fun _ => answers_error RpcError.noConfusion
  · exact answers_error RpcError.noConfusion
  · exact answers_error RpcError.noConfusion
  · exact answers_error RpcError.noConfusion
  · exact answers_error RpcError.noConfusion

/-- The body of a denied reply does not time out. -/
theorem answers_parseDenied (body : Bytes) : Answers (parseDenied body) := by
  refine .read _ fun value => ?_
  obtain ⟨stat, body⟩ := value
  simp only
  split_ifs
  · exact .read _ fun _ => .read _ fun _ => answers_error RpcError.noConfusion
  · exact .read _ fun _ => answers_error RpcError.noConfusion
  · exact answers_error RpcError.noConfusion

/-- The body of a reply does not time out. -/
theorem answers_parseReplyBody (body : Bytes) : Answers (parseReplyBody body) := by
  refine .read _ fun value => ?_
  obtain ⟨kind, body⟩ := value
  simp only
  split_ifs
  · exact RpcError.noConfusion
  · refine .read _ fun value => ?_
    obtain ⟨stat, body⟩ := value
    simp only
    split_ifs
    · exact .read _ fun _ => .read _ fun _ => answers_parseAccepted _
    · exact answers_parseDenied _
    · exact RpcError.noConfusion

/-- No message makes an attempt report a timeout. -/
theorem punctual_verdict (decode : Bytes → Except XdrError (α × Bytes)) (xid : UInt32)
    (message : Bytes) : Punctual (fun _ => True) (RpcClient.verdict decode xid message) := by
  have parsed : Punctual (fun reply => Punctual (fun _ => True) reply.2) (parseReply message) :=
    .read _ fun _ => .bind (answers_parseReplyBody _) fun _ outcome => outcome
  refine .bind parsed fun reply outcome => ?_
  obtain ⟨replyXid, result⟩ := reply
  simp only
  split_ifs
  · exact trivial
  · exact .bind outcome fun body _ => .read _ fun _ => trivial

/-- Taking a record does not time out. -/
theorem punctual_nextRecord (reassembler : RecordReassembler) :
    Punctual (fun _ => True) reassembler.nextRecord.2 := by
  refine @Loop.run_induct _ _ _ _ (fun _ _ => RecordReassembler.turn_decreases) _
    (fun _ out => Punctual (fun _ => True) out.2) (fun state next result stopped => ?_)
    (fun _ _ _ _ rest => rest) reassembler
  unfold RecordReassembler.turn at stopped
  split at stopped
  · split at stopped
    · cases stopped
      exact trivial
    · simp only at stopped
      split at stopped
      · cases stopped
        exact RpcError.noConfusion
      · cases stopped
  · split at stopped <;> cases stopped
    exact trivial
  · split at stopped <;> cases stopped
    exact trivial

/-- Framing a message does not time out. -/
theorem punctual_frame (message : Bytes) : Punctual (fun _ => True) (frame message) := by
  unfold frame
  split_ifs
  · exact RpcError.noConfusion
  · exact trivial

/-- A program leaves a client standing, and fails with errors after which both clients do the
same. -/
def Steady {β : Type} (protocol : Protocol) (body : Prog (World ω) RpcError β) : Prop :=
  body.Meets (Standing protocol) (Prog.split (fun _ => Standing protocol)
    fun error world => Standing protocol world ∧ Shared protocol error)

namespace Steady

/-- A sequence is steady when its parts are. -/
theorem bind {β γ : Type} {first : Prog (World ω) RpcError β}
    {next : β → Prog (World ω) RpcError γ} (begins : Steady protocol first)
    (follows : ∀ value, Steady protocol (next value)) : Steady protocol (first >>= next) :=
  Prog.Meets.bind (fun _ => Standing protocol) begins follows

theorem pure {β : Type} (value : β) : Steady protocol (Pure.pure value : Prog (World ω) _ _) :=
  Prog.Meets.pure fun _ standing => standing

/-- An error that both clients treat alike is steady. -/
theorem throw {β : Type} {error : RpcError} (shared : Shared protocol error) :
    Steady protocol (Prog.throw error : Prog (World ω) _ β) :=
  Prog.Meets.throw fun _ standing => ⟨standing, shared⟩

theorem ofExcept {β : Type} {ok : β → Prop} {result : Except RpcError β}
    (punctual : Punctual ok result) :
    Steady protocol (Prog.ofExcept result : Prog (World ω) _ _) := by
  refine Prog.Meets.ofExcept fun world standing => ?_
  rcases result with error | value
  · exact ⟨standing, fun _ => punctual⟩
  · exact standing

theorem get : Steady protocol (Prog.get : Prog (World ω) RpcError _) := by
  intro world next result standing ended
  cases ended
  exact standing

theorem ask {β : Type} (question : ω → Option (β × ω)) :
    Steady protocol (RpcClient.ask question) :=
  RpcClient.ask_meets fun _ _ _ standing _ => ⟨standing.speaks, standing.socket, standing.renews⟩

/-- A change that keeps the protocol and the socket is steady. -/
theorem update {change : RpcClient → RpcClient}
    (speaks : ∀ client, (change client).protocol = client.protocol)
    (socket : ∀ client, (change client).socket = client.socket)
    (renews : ∀ client, (change client).autoReconnect = client.autoReconnect) :
    Steady protocol (RpcClient.update change : Prog (World ω) _ _) :=
  RpcClient.update_meets fun world standing =>
    ⟨(speaks world.client).trans standing.speaks, (socket world.client).trans standing.socket,
      (renews world.client).trans standing.renews⟩

/-- A loop is steady when its turns are. -/
theorem loop {β : Type} {turn : Prog (World ω) RpcError (Option β)} {measure : World ω → Nat}
    (decreases : ∀ state next : World ω, turn.run state = some (.ok none, next) →
      measure next < measure state)
    (turns : Steady protocol turn) : Steady protocol (Prog.loop turn measure) := by
  refine Prog.Meets.loop decreases (turns.weaken (fun _ standing => standing) ?_)
  rintro (error | _ | value) world holds
  · exact holds
  · exact holds
  · exact holds

/-- Taking a datagram that is waiting is steady. -/
theorem popPending : Steady protocol (RpcClient.popPending : Prog (World ω) _ _) := by
  refine bind get fun world => ?_
  split
  · exact pure _
  · exact bind (update (fun _ => rfl) (fun _ => rfl) fun _ => rfl) fun _ => pure _

/-- Emptying the reassembler is steady. -/
theorem drain : Steady protocol (RpcClient.drain : Prog (World ω) _ _) := by
  refine loop RpcClient.drainTurn_decreases (bind get fun world => ?_)
  refine bind (update (fun _ => rfl) (fun _ => rfl) fun _ => rfl) fun _ => ?_
  refine bind (ofExcept (punctual_nextRecord _)) fun record => ?_
  split
  · exact pure _
  · exact bind (update (fun _ => rfl) (fun _ => rfl) fun _ => rfl) fun _ => pure _

/-- A read that fails for good is steady. -/
theorem readFailed {kind : IoErrorKind} (plain : isTimeout kind = false ∧ kind ≠ .interrupted) :
    Steady protocol (RpcClient.readFailed kind : Prog (World ω) _ _) := by
  rw [readFailed_eq plain]
  exact throw fun _ => RpcError.noConfusion

section Exchange

variable (patient : Patient protocol env)
include patient

/-- A read over TCP brings bytes, or fails with an error that no deadline explains. -/
theorem streamTurn (stream : protocol = .tcp) : Steady protocol (RpcClient.streamTurn env.toEnv) := by
  refine Prog.Meets.bind (fun arrival world => Standing protocol world ∧
      ∃ state, env.read state = some (arrival, world.env))
    (RpcClient.ask_meets fun world arrival next standing asked =>
      ⟨⟨standing.speaks, standing.socket, standing.renews⟩, world.env, asked⟩) fun arrival => ?_
  rintro world next result ⟨standing, state, answered⟩ ended
  rcases arrival with _ | ⟨_ | ⟨byte, bytes⟩⟩ | kind
  · exact absurd answered (patient.inTime stream state _)
  · exact throw (fun _ => RpcError.noConfusion) world next result standing ended
  · have steady : Steady protocol (do
        RpcClient.update fun client =>
          { client with reassembler := client.reassembler.push (byte :: bytes) }
        RpcClient.drain
        RpcClient.popPending : Prog (World ω) RpcError _) :=
      bind (update (fun _ => rfl) (fun _ => rfl) fun _ => rfl) fun _ =>
        bind drain fun _ => popPending
    exact steady world next result standing ended
  · exact readFailed (patient.reads answered) world next result standing ended

omit patient in
theorem datagramTurn (datagrams : protocol = .udp) :
    Steady protocol (RpcClient.datagramTurn env.toEnv) := by
  have shared : ∀ error, Shared protocol error := fun _ stream => by
    rw [datagrams] at stream
    cases stream
  refine bind (ask _) fun arrival => ?_
  rcases arrival with _ | bytes | kind
  · exact throw (shared _)
  · exact pure _
  · simp only [RpcClient.readFailed]
    split_ifs
    · exact throw (shared _)
    · exact pure _
    · exact throw (shared _)

theorem recvTurn : Steady protocol (RpcClient.recvTurn env.toEnv) := by
  refine Prog.Meets.get_bind fun world => ?_
  rintro state next result ⟨standing, rfl⟩ ended
  have socket := standing.socket
  cases spoken : protocol with
  | tcp =>
      rw [spoken] at socket
      rw [show state.client.socket = .tcp from socket] at ended
      exact spoken ▸ streamTurn patient spoken state next result standing ended
  | udp =>
      rw [spoken] at socket
      rw [show state.client.socket = .udp from socket] at ended
      exact spoken ▸ datagramTurn spoken state next result standing ended

theorem recvMessage : Steady protocol (RpcClient.recvMessage env.toEnv) := by
  refine bind popPending fun popped => ?_
  split
  · exact pure _
  · exact loop (RpcClient.recvTurn_decreases _) (recvTurn patient)

theorem attemptTurn (decode : Bytes → Except XdrError (α × Bytes)) (xid : UInt32) :
    Steady protocol (RpcClient.attemptTurn env.toEnv decode xid) :=
  bind (recvMessage patient) fun message => ofExcept (punctual_verdict decode xid message)

omit patient in
theorem writeFrame (message : Bytes) : Steady protocol (RpcClient.writeFrame env.toEnv message) := by
  refine bind (ofExcept (punctual_frame message)) fun framed => bind (ask _) fun written => ?_
  split
  · exact pure _
  · exact throw fun _ => RpcError.noConfusion

omit patient in
theorem send (message : Bytes) : Steady protocol (RpcClient.send env.toEnv message) := by
  refine bind get fun world => ?_
  split
  · exact writeFrame message
  · refine bind (ask _) fun sent => ?_
    split
    · exact pure _
    · exact throw fun _ => RpcError.noConfusion
  · exact writeFrame message

theorem attemptCall (decode : Bytes → Except XdrError (α × Bytes)) (xid : UInt32)
    (message : Bytes) : Steady protocol (RpcClient.attemptCall env.toEnv decode xid message) :=
  bind (send message) fun _ =>
    loop (RpcClient.attemptTurn_decreases _ decode xid) (attemptTurn patient decode xid)

end Exchange

theorem reconnect : Steady protocol (RpcClient.reconnect env.toEnv) := by
  refine bind (ask _) fun connected => ?_
  split
  · exact throw fun _ => RpcError.noConfusion
  · exact RpcClient.update_meets fun world standing =>
      ⟨standing.speaks, congrArg openSocket standing.speaks, standing.renews⟩

end Steady

section Attempts

variable {attempt : Prog (World ω) RpcError α} {renew : Prog (World ω) RpcError Unit}
  {retries retries' : RpcClient → RpcError → Bool}

/-- What is known of a client once an attempt has ended. -/
def Attempted (protocol : Protocol) (outcome : Except RpcError α) (world : World ω) : Prop :=
  Standing protocol world ∧ ∀ error, outcome = .error error → Shared protocol error

/-- The outcome of a steady attempt leaves the client standing. -/
theorem Steady.outcome (attempts : Steady protocol attempt) :
    (Prog.outcome attempt : Prog (World ω) RpcError (Except RpcError α)).Meets (Standing protocol)
      (Prog.split (Attempted protocol)
        fun error world => Standing protocol world ∧ Shared protocol error) := by
  refine (Prog.Meets.outcome attempts).weaken (fun _ standing => standing) ?_
  rintro (error | error | value) world holds
  · exact holds.elim
  · exact ⟨holds.1, fun _ same => Except.error.inj same ▸ holds.2⟩
  · refine ⟨holds, fun _ same => ?_⟩
    cases same

/-- Two retry loops over one attempt run alike where they retry the same errors. -/
theorem attemptsWith_alike (attempts : Steady protocol attempt) (renews : Steady protocol renew)
    (alike : ∀ client error, client.protocol = protocol → client.autoReconnect = true →
      Shared protocol error → retries client error = retries' client error)
    (left : Nat) {world : World ω} (standing : Standing protocol world) :
    (attemptsWith attempt renew retries left).run world =
      (attemptsWith attempt renew retries' left).run world := by
  induction left generalizing world with
  | zero =>
      rw [attemptsWith, attemptsWith]
  | succ left ih =>
      rw [attemptsWith, attemptsWith]
      refine Prog.bind_congr rfl fun outcome mid attempted => ?_
      have after := attempts.outcome world mid _ standing attempted
      rcases outcome with error | value
      · have same := alike mid.client error after.1.speaks after.1.renews (after.2 _ rfl)
        refine Prog.bind_congr rfl fun value now same' => ?_
        cases same'
        simp only [same]
        split
        · split
          · refine Prog.bind_congr rfl fun _ next renewed => ?_
            exact ih (renews mid next _ after.1 renewed)
          · exact ih after.1
        · rfl
      · rfl

end Attempts

/-- Both clients try again after the same errors. -/
theorem isRetryable_eq (client : RpcClient) (error : RpcError) (speaks : client.protocol = protocol)
    (renews : client.autoReconnect = true) (shared : Shared protocol error) :
    AsyncRpcClient.isRetryable error = client.isRetryable error := by
  cases error <;> simp only [AsyncRpcClient.isRetryable, RpcClient.isRetryable, renews]
  cases protocol with
  | tcp => exact absurd rfl (shared rfl)
  | udp => simp only [speaks, decide_true]

/-- Building a call leaves the client standing. -/
theorem buildCall_standing (prog vers proc : UInt32) (args : Except XdrError Bytes) :
    (RpcClient.buildCall prog vers proc args : Prog (World ω) RpcError _).Meets (Standing protocol)
      (fun _ => Standing protocol) := by
  intro world next result standing ended
  rw [RpcClient.buildCall_apply] at ended
  cases ended
  exact ⟨standing.speaks, standing.socket, standing.renews⟩

/-- A call leaves the client standing, and both clients make it alike. -/
theorem perform_alike (patient : Patient protocol env) (request : Request) {world : World ω}
    (standing : Standing protocol world) :
    (request.performAsync env).run world = (request.perform env.toEnv).run world := by
  refine Prog.bind_congr rfl fun built mid made => ?_
  obtain ⟨xid, message⟩ := built
  have after := buildCall_standing _ _ _ _ world mid _ standing made
  simp only [attemptsAsync_eq, attempts_eq, exchange_eq patient]
  exact attemptsWith_alike (Steady.attemptCall patient _ _ _) Steady.reconnect
    isRetryable_eq _ after

end Twins

variable {ω β : Type} {protocol : Protocol} {env : AsyncEnv ω}

/-- A peer that takes every message, and sends these pieces. -/
def answering : AsyncEnv (List Bytes) where
  write _ pieces := some (.ok (), pieces)
  send _ pieces := some (.ok (), pieces)
  read
    | piece :: pieces => some (.data (piece.take readLimit), pieces)
    | [] => none
  recv
    | piece :: pieces => some (.data piece, pieces)
    | [] => none
  connect pieces := some (.ok (), pieces)
  budget := List.length
  read_lt answered := by
    split at answered <;> cases answered
    exact Nat.lt_succ_self _
  recv_lt answered := by
    split at answered <;> cases answered
    exact Nat.lt_succ_self _
  read_le answered := by
    split at answered <;> cases answered
    exact List.length_take_le _ _
  expires _ pieces := some (none, pieces)

end LibNfs.Rpc
