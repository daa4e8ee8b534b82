import LibNfs.Lib.Prog
import LibNfs.Rpc.Message

/-! # The synchronous RPC client

`RpcClient` over an environment that answers its system calls. The environment
decides what a write, a read or a connection attempt gives and when the deadline
of a call has passed; time itself is not modelled. Address and timeout are only
handed to the environment and are left out.
-/

namespace LibNfs.Rpc

open Xdr (XdrError)

/-- The protocol that a client speaks. -/
inductive Protocol where
  | tcp
  | udp
  deriving DecidableEq, Repr

/-- The socket of a client: a stream, one that was given to it, or datagrams. -/
inductive Socket where
  | tcp
  | udp
  | stream
  deriving DecidableEq, Repr

/-- What a turn of the receiving loop meets: the deadline has passed, a read
returned bytes, or it failed. -/
inductive Arrival where
  | deadline
  | data (bytes : Bytes)
  | failed (kind : IoErrorKind)
  deriving DecidableEq, Repr

/-- Size of the buffer of a stream read. -/
def readLimit : Nat := 16384

/-- Size of the buffer of a datagram read. -/
def datagramLimit : Nat := 65536

/-- The answers of the operating system and the network, out of a state that
answers a bounded number of reads. A failed `write_all` tells how many bytes
were written before the failure. -/
structure Env (ω : Type) where
  write : Bytes → ω → Option (Except (Nat × IoErrorKind) Unit × ω)
  send : Bytes → ω → Option (Except IoErrorKind Unit × ω)
  read : ω → Option (Arrival × ω)
  recv : ω → Option (Arrival × ω)
  connect : ω → Option (Except IoErrorKind Unit × ω)
  budget : ω → Nat
  read_lt : ∀ {arrival state next}, read state = some (arrival, next) → budget next < budget state
  recv_lt : ∀ {arrival state next}, recv state = some (arrival, next) → budget next < budget state
  read_le : ∀ {bytes state next}, read state = some (.data bytes, next) → bytes.length ≤ readLimit

/-- The state of a client. -/
structure RpcClient where
  protocol : Protocol
  cred : Credentials
  socket : Socket
  reassembler : RecordReassembler
  pending : List Bytes
  nextXid : UInt32
  autoReconnect : Bool

/-- A client and its environment. -/
structure World (ω : Type) where
  client : RpcClient
  env : ω

/-- Number of attempts of a call, the first one included. -/
def maxAttempts : Nat := 3

/-- An error of a read or a write that stands for a timeout. -/
def isTimeout (kind : IoErrorKind) : Bool :=
  kind = .wouldBlock ∨ kind = .timedOut

/-- The socket that `open_socket` gives for a protocol. -/
def openSocket : Protocol → Socket
  | .tcp => .tcp
  | .udp => .udp

namespace RpcClient

/-- A client just connected, with the xid its clock seeded. -/
def connect (protocol : Protocol) (cred : Credentials) (seedXid : UInt32) : RpcClient where
  protocol := protocol
  cred := cred
  socket := openSocket protocol
  reassembler := .new
  pending := []
  nextXid := seedXid
  autoReconnect := true

/-- A client over a stream already established, such as a TLS session. -/
def fromStream (cred : Credentials) (seedXid : UInt32) : RpcClient where
  protocol := .tcp
  cred := cred
  socket := .stream
  reassembler := .new
  pending := []
  nextXid := seedXid
  autoReconnect := false

/-- Errors after which a call is tried again. -/
def isRetryable (client : RpcClient) (error : RpcError) : Bool :=
  match error with
  | .timeout => client.protocol = .udp
  | .io _ | .connectionClosed => client.autoReconnect
  | _ => false

variable {ω : Type}

/-- Waits for an answer of the environment. -/
def ask {α : Type} (question : ω → Option (α × ω)) : Prog (World ω) RpcError α :=
  Prog.await fun world =>
    (question world.env).map fun (answer, env) => (answer, { world with env := env })

/-- Changes the client. -/
def update (change : RpcClient → RpcClient) : Prog (World ω) RpcError Unit :=
  Prog.modify fun world => { world with client := change world.client }

/-- The message of a call, under the next xid. -/
def buildCall (prog vers proc : UInt32) (args : Except XdrError Bytes) :
    Prog (World ω) RpcError (UInt32 × Bytes) := do
  let world ← Prog.get
  let xid := world.client.nextXid
  update fun client => { client with nextXid := client.nextXid + 1 }
  let header ← Prog.ofExcept (encodeCall xid prog vers proc world.client.cred [])
  let code ← Prog.ofExcept (liftXdr args)
  return (xid, header ++ code)

/-- The message `build_call` makes for a call. -/
def callMessage (client : RpcClient) (prog vers proc : UInt32) (args : Except XdrError Bytes) :
    Except RpcError Bytes := do
  let header ← encodeCall client.nextXid prog vers proc client.cred []
  let code ← liftXdr args
  return header ++ code

/-- `write_all` and `flush` of a framed message. -/
def writeFrame (env : Env ω) (message : Bytes) : Prog (World ω) RpcError Unit := do
  let framed ← Prog.ofExcept (frame message)
  match ← ask (env.write framed) with
  | .ok () => return ()
  | .error (_, kind) => Prog.throw (.io kind)

/-- Sends a message as a frame, or as a datagram. -/
def send (env : Env ω) (message : Bytes) : Prog (World ω) RpcError Unit := do
  let world ← Prog.get
  match world.client.socket with
  | .tcp => writeFrame env message
  | .udp =>
      match ← ask (env.send message) with
      | .ok () => return ()
      | .error kind => Prog.throw (.io kind)
  | .stream => writeFrame env message

/-- `pending.pop_front()`. -/
def popPending : Prog (World ω) RpcError (Option Bytes) := do
  let world ← Prog.get
  match world.client.pending with
  | [] => return none
  | message :: rest =>
      update fun client => { client with pending := rest }
      return some message

/-- One turn of the loop that moves complete records to `pending`. -/
def drainTurn : Prog (World ω) RpcError (Option Unit) := do
  let world ← Prog.get
  let answer := world.client.reassembler.nextRecord
  update fun client => { client with reassembler := answer.1 }
  match ← Prog.ofExcept answer.2 with
  | none => return some ()
  | some record =>
      update fun client => { client with pending := client.pending ++ [record] }
      return none

/-- Moves the complete records of the reassembler to `pending`. -/
def drain : Prog (World ω) RpcError Unit :=
  Prog.loop drainTurn fun world => world.client.reassembler.measure

/-- What a failed read does: it times out, is tried again, or fails. -/
def readFailed (kind : IoErrorKind) : Prog (World ω) RpcError (Option Bytes) :=
  if isTimeout kind then
    Prog.throw .timeout
  else if kind = .interrupted then
    return none
  else
    Prog.throw (.io kind)

/-- One turn of the receiving loop on a stream. -/
def streamTurn (env : Env ω) : Prog (World ω) RpcError (Option Bytes) := do
  match ← ask env.read with
  | .deadline => Prog.throw .timeout
  | .data [] => Prog.throw .connectionClosed
  | .data (byte :: bytes) =>
      update fun client =>
        { client with reassembler := client.reassembler.push (byte :: bytes) }
      drain
      popPending
  | .failed kind => readFailed kind

/-- One turn of the receiving loop on a datagram socket. -/
def datagramTurn (env : Env ω) : Prog (World ω) RpcError (Option Bytes) := do
  match ← ask env.recv with
  | .deadline => Prog.throw .timeout
  | .data bytes => return some (bytes.take datagramLimit)
  | .failed kind => readFailed kind

/-- One turn of the receiving loop. -/
def recvTurn (env : Env ω) : Prog (World ω) RpcError (Option Bytes) := do
  let world ← Prog.get
  match world.client.socket with
  | .tcp => streamTurn env
  | .udp => datagramTurn env
  | .stream => streamTurn env

/-- The next message: a pending one, or the next to arrive. -/
def recvMessage (env : Env ω) : Prog (World ω) RpcError Bytes := do
  match ← popPending with
  | some message => return message
  | none => Prog.loop (recvTurn env) fun world => env.budget world.env

/-- Bound on the messages still to be received: those pending, and those that
the bytes held and the reads to come can make. -/
def supply (env : Env ω) (world : World ω) : Nat :=
  world.client.pending.length + world.client.reassembler.measure +
    (2 * readLimit + 1) * env.budget world.env

section Calls

variable {α : Type} (env : Env ω) (decode : Bytes → Except XdrError (α × Bytes))

/-- What the waiting loop makes of a message: a reply with another xid is
dropped, the one with the xid of the call ends the loop. -/
def verdict (xid : UInt32) (reply : Bytes) : Except RpcError (Option α) := do
  let (replyXid, result) ← parseReply reply
  if replyXid ≠ xid then
    return none
  else
    let body ← result
    let (value, _) ← liftXdr (decode body)
    return some value

/-- One turn of the waiting loop. -/
def attemptTurn (xid : UInt32) : Prog (World ω) RpcError (Option α) := do
  let reply ← recvMessage env
  Prog.ofExcept (verdict decode xid reply)

/-- Sends the message and waits for its reply. -/
def attemptCall (xid : UInt32) (message : Bytes) : Prog (World ω) RpcError α := do
  send env message
  Prog.loop (attemptTurn env decode xid) (supply env)

/-- A new connection, with nothing left of the old one. -/
def reconnect : Prog (World ω) RpcError Unit := do
  match ← ask env.connect with
  | .error kind => Prog.throw (.io kind)
  | .ok () =>
      update fun client =>
        { client with
          socket := openSocket client.protocol
          reassembler := .new
          pending := [] }

/-- The attempts of a call: one, and `retries` more at most. -/
def attempts (xid : UInt32) (message : Bytes) (retries : Nat) : Prog (World ω) RpcError α := do
  match ← Prog.outcome (attemptCall env decode xid message) with
  | .ok value => return value
  | .error error =>
      let world ← Prog.get
      match retries with
      | 0 => Prog.throw error
      | retries + 1 =>
          if world.client.isRetryable error then
            -- UDP sends the message again; TCP on a new connection
            if world.client.protocol = .tcp then
              reconnect env
            attempts xid message retries
          else
            Prog.throw error

/-- Calls a procedure and decodes its result. -/
def call (prog vers proc : UInt32) (args : Except XdrError Bytes) :
    Prog (World ω) RpcError α := do
  let (xid, message) ← buildCall prog vers proc args
  attempts env decode xid message (maxAttempts - 1)

end Calls

theorem ask_meets {α : Type} {question : ω → Option (α × ω)} {pre : World ω → Prop}
    {post : Except RpcError α → World ω → Prop}
    (holds : ∀ world answer env, pre world → question world.env = some (answer, env) →
      post (.ok answer) { world with env := env }) :
    (ask question).Meets pre post := by
  refine Prog.Meets.await fun world next answer before answered => ?_
  obtain ⟨⟨answer', env⟩, asked, same⟩ := Option.map_eq_some_iff.mp answered
  cases same
  exact holds world answer env before asked

theorem update_meets {change : RpcClient → RpcClient} {pre : World ω → Prop}
    {post : Except RpcError Unit → World ω → Prop}
    (holds : ∀ world, pre world →
      post (.ok ()) { world with client := change world.client }) :
    (update change).Meets pre post :=
  Prog.Meets.modify holds

theorem buildCall_apply (prog vers proc : UInt32) (args : Except XdrError Bytes)
    (world : World ω) :
    (buildCall prog vers proc args).run world =
      some ((world.client.callMessage prog vers proc args).map (world.client.nextXid, ·),
        { world with client := { world.client with nextXid := world.client.nextXid + 1 } }) := by
  rcases header : encodeCall world.client.nextXid prog vers proc world.client.cred [] with
    error | header
  · simp [buildCall, callMessage, Prog.get, update, Prog.modify, Prog.ofExcept, header, bind,
      Except.bind, Except.map]
  · rcases code : liftXdr args with error | code <;>
      simp [buildCall, callMessage, Prog.get, update, Prog.modify, Prog.ofExcept, header, code,
        bind, Except.bind, Except.map, pure, Except.pure]

/-- The message of a call starts with its xid. -/
theorem leadingXid_callMessage {client : RpcClient} {prog vers proc : UInt32}
    {args : Except XdrError Bytes} {message : Bytes}
    (built : client.callMessage prog vers proc args = .ok message) :
    leadingXid message = client.nextXid := by
  rcases header : encodeCall client.nextXid prog vers proc client.cred [] with error | header
  · simp [callMessage, header, bind, Except.bind] at built
  · rcases code : liftXdr args with error | code
    · simp [callMessage, header, code, bind, Except.bind] at built
    · simp only [callMessage, header, code, bind, Except.bind, pure, Except.pure,
        Except.ok.injEq] at built
      obtain ⟨rest, rfl⟩ := encodeCall_xid header
      rw [← built, List.append_assoc, leadingXid_append]

theorem drainTurn_apply (world : World ω) :
    (drainTurn).run world =
      match world.client.reassembler.nextRecord with
      | (after, .error error) =>
          some (.error error, { world with client := { world.client with reassembler := after } })
      | (after, .ok none) =>
          some (.ok (some ()), { world with client := { world.client with reassembler := after } })
      | (after, .ok (some record)) =>
          some (.ok none, { world with
            client := { world.client with
              reassembler := after
              pending := world.client.pending ++ [record] } }) := by
  rcases answer : world.client.reassembler.nextRecord with ⟨after, error | _ | record⟩ <;>
    simp only [drainTurn, Prog.get, update, Prog.modify, Prog.ofExcept, Prog.bind_apply, answer,
      Prog.pure_apply]

theorem popPending_apply (world : World ω) :
    (popPending).run world =
      match world.client.pending with
      | [] => some (.ok none, world)
      | message :: rest =>
          some (.ok (some message),
            { world with client := { world.client with pending := rest } }) := by
  rcases queue : world.client.pending with _ | ⟨message, rest⟩ <;>
    simp only [popPending, Prog.get, update, Prog.modify, Prog.bind_apply, queue, Prog.pure_apply]

theorem drainTurn_decreases (world next : World ω)
    (silent : (drainTurn).run world = some (.ok none, next)) :
    next.client.reassembler.measure < world.client.reassembler.measure := by
  have sheds := world.client.reassembler.nextRecord_sheds
  rw [drainTurn_apply] at silent
  rcases answer : world.client.reassembler.nextRecord with ⟨after, error | _ | record⟩ <;>
    rw [answer] at silent sheds <;> cases silent
  exact sheds.2 record rfl

section Supply

variable (env : Env ω)

/-- What only gets easier with fewer messages to come. -/
def Lasting (keeps : World ω → Prop) : Prop :=
  ∀ world next, keeps world → next.env = world.env → supply env next ≤ supply env world → keeps next

/-- Draining adds no messages to those the bytes held can make. -/
theorem drain_keeps {keeps : World ω → Prop} (lasting : Lasting env keeps) :
    (drain).Meets keeps (fun _ => keeps) := by
  refine Prog.Meets.loop drainTurn_decreases ?_
  intro world next result holds ended
  have sheds := world.client.reassembler.nextRecord_sheds
  rw [drainTurn_apply] at ended
  rcases answer : world.client.reassembler.nextRecord with ⟨after, error | _ | record⟩ <;>
    rw [answer] at ended sheds <;> cases ended <;> refine lasting _ _ holds rfl ?_
  · have less := sheds.1
    simp only [supply] at less ⊢
    omega
  · have less := sheds.1
    simp only [supply] at less ⊢
    omega
  · have less := sheds.2 record rfl
    simp only [supply, List.length_append, List.length_singleton] at less ⊢
    omega

theorem popPending_keeps {keeps : World ω → Prop} (lasting : Lasting env keeps) :
    (popPending).Meets keeps (fun _ => keeps) := by
  intro world next result holds ended
  rw [popPending_apply] at ended
  rcases queue : world.client.pending with _ | ⟨message, rest⟩ <;>
    rw [queue] at ended <;> cases ended
  · exact holds
  · refine lasting _ _ holds rfl ?_
    simp only [supply, queue, List.length_cons]
    omega

/-- Fewer messages and fewer reads are left than given. -/
def Below (messages reads : Nat) (world : World ω) : Prop :=
  supply env world < messages ∧ env.budget world.env < reads

theorem lasting_below (messages reads : Nat) : Lasting env (Below env messages reads) :=
  fun _ _ holds same fewer => ⟨Nat.lt_of_le_of_lt fewer holds.1, same ▸ holds.2⟩

theorem readFailed_keeps {keeps : World ω → Prop} (kind : IoErrorKind) :
    (readFailed kind).Meets keeps (fun _ => keeps) := by
  unfold readFailed
  split
  · exact .throw fun _ holds => holds
  · split
    · exact .pure fun _ holds => holds
    · exact .throw fun _ holds => holds

/-- A read leaves room for the messages its bytes can make. -/
theorem supply_of_read {world : World ω} {rest : ω}
    (fewer : env.budget rest < env.budget world.env) :
    supply env { world with env := rest } + (2 * readLimit + 1) ≤ supply env world := by
  have less : (2 * readLimit + 1) * env.budget rest + (2 * readLimit + 1) ≤
      (2 * readLimit + 1) * env.budget world.env := by
    rw [← Nat.mul_succ]
    exact Nat.mul_le_mul_left _ fewer
  simp only [supply]
  omega

theorem below_of_read {messages reads : Nat} {world : World ω} {rest : ω}
    (holds : supply env world ≤ messages ∧ env.budget world.env ≤ reads)
    (fewer : env.budget rest < env.budget world.env) :
    Below env messages reads { world with env := rest } := by
  have room := supply_of_read env fewer
  exact ⟨by omega, Nat.lt_of_lt_of_le fewer holds.2⟩

/-- A turn of the receiving loop spends a read. -/
theorem streamTurn_spends (messages reads : Nat) :
    (streamTurn env).Meets
      (fun world => supply env world ≤ messages ∧ env.budget world.env ≤ reads)
      (fun _ => Below env messages reads) := by
  refine .bind (fun arrival world => Below env messages reads world ∧
    ∀ bytes, arrival = .data bytes → supply env world + 2 * bytes.length < messages)
    (ask_meets fun world arrival rest holds asked => ?_) fun arrival => ?_
  · have fewer := env.read_lt asked
    refine ⟨below_of_read env holds fewer, ?_⟩
    rintro bytes rfl
    have short := env.read_le asked
    have room := supply_of_read env fewer
    omega
  · split
    · exact .throw fun _ holds => holds.1
    · exact .throw fun _ holds => holds.1
    · rename_i byte bytes
      refine .bind (fun _ => Below env messages reads) (update_meets fun world holds => ?_)
        fun _ => .bind _ (drain_keeps env (lasting_below env messages reads)).byCases
          fun _ => popPending_keeps env (lasting_below env messages reads)
      have room := holds.2 _ rfl
      refine ⟨?_, holds.1.2⟩
      simp only [supply, RecordReassembler.measure_push] at room ⊢
      omega
    · exact (readFailed_keeps _).weaken (fun _ holds => holds.1) fun _ _ holds => holds

theorem datagramTurn_spends (messages reads : Nat) :
    (datagramTurn env).Meets
      (fun world => supply env world ≤ messages ∧ env.budget world.env ≤ reads)
      (fun _ => Below env messages reads) := by
  refine .bind (fun _ => Below env messages reads)
    (ask_meets fun world arrival rest holds asked => below_of_read env holds (env.recv_lt asked))
    fun arrival => ?_
  split
  · exact .throw fun _ holds => holds
  · exact .pure fun _ holds => holds
  · exact readFailed_keeps _

theorem recvTurn_spends (messages reads : Nat) :
    (recvTurn env).Meets
      (fun world => supply env world ≤ messages ∧ env.budget world.env ≤ reads)
      (fun _ => Below env messages reads) := by
  refine .get_bind fun world => ?_
  split
  · exact (streamTurn_spends env messages reads).weaken (fun _ both => both.1) fun _ _ less => less
  · exact (datagramTurn_spends env messages reads).weaken (fun _ both => both.1)
      fun _ _ less => less
  · exact (streamTurn_spends env messages reads).weaken (fun _ both => both.1) fun _ _ less => less

/-- A silent turn of receiving leaves fewer reads. -/
theorem recvTurn_decreases (world next : World ω)
    (silent : (recvTurn env).run world = some (.ok none, next)) :
    env.budget next.env < env.budget world.env :=
  (recvTurn_spends env _ _ world next _ ⟨Nat.le_refl _, Nat.le_refl _⟩ silent).2

/-- A message received is one fewer to receive. -/
theorem recvMessage_spends {world next : World ω} {message : Bytes}
    (received : (recvMessage env).run world = some (.ok message, next)) :
    supply env next < supply env world := by
  rcases queue : world.client.pending with _ | ⟨front, rest⟩
  · have popped : (popPending).run world = some (.ok none, world) := by
      rw [popPending_apply, queue]
    rw [recvMessage, Prog.bind_of_ok popped] at received
    have loop : (Prog.loop (recvTurn env) fun world => env.budget world.env).Meets
        (fun state => supply env state ≤ supply env world)
        (fun result state => ∀ message, result = .ok message →
          supply env state < supply env world) := by
      refine .loop (recvTurn_decreases env) fun state after result holds ended => ?_
      have less := recvTurn_spends env _ _ state after result ⟨holds, Nat.le_refl _⟩ ended
      rcases result with error | _ | message
      · exact fun _ same => nomatch same
      · exact Nat.le_of_lt less.1
      · exact fun _ _ => less.1
    exact loop world next _ (Nat.le_refl _) received message rfl
  · have popped : (popPending).run world =
        some (.ok (some front), { world with client := { world.client with pending := rest } }) := by
      rw [popPending_apply, queue]
    rw [recvMessage, Prog.bind_of_ok popped, Prog.pure_apply] at received
    cases received
    simp only [supply, queue, List.length_cons]
    omega

variable {α : Type} (decode : Bytes → Except XdrError (α × Bytes))

/-- A silent turn of an attempt leaves less to read. -/
theorem attemptTurn_decreases (xid : UInt32) (world next : World ω)
    (silent : (attemptTurn env decode xid).run world = some (.ok none, next)) :
    supply env next < supply env world := by
  rcases Prog.bind_eq_some silent with ⟨error, -, same⟩ | ⟨message, mid, received, rest⟩
  · cases same
  · simp only [Prog.ofExcept, Option.some.injEq, Prod.mk.injEq] at rest
    obtain ⟨-, rfl⟩ := rest
    exact recvMessage_spends env received

end Supply

section Steps

variable {env : Env ω} {world sent next : World ω}

theorem ask_of_answer {α : Type} {question : ω → Option (α × ω)} {answer : α} {rest : ω}
    (answered : question world.env = some (answer, rest)) :
    (ask question).run world = some (.ok answer, { world with env := rest }) := by
  simp only [ask, Prog.await, answered, Option.map_some]

/-- The draining loop: its first call of `next_record`, and the rest of it. -/
theorem drain_apply :
    (drain).run world =
      match world.client.reassembler.nextRecord with
      | (after, .error error) =>
          some (.error error, { world with client := { world.client with reassembler := after } })
      | (after, .ok none) =>
          some (.ok (), { world with client := { world.client with reassembler := after } })
      | (after, .ok (some record)) =>
          (drain).run { world with
            client := { world.client with
              reassembler := after
              pending := world.client.pending ++ [record] } } := by
  rw [drain, Prog.loop_eq drainTurn_decreases, drainTurn_apply]
  rcases world.client.reassembler.nextRecord with ⟨after, error | _ | record⟩ <;> rfl

/-- A stream read that brings bytes. -/
theorem streamTurn_of_data {bytes : Bytes} {rest : ω} (some : bytes ≠ [])
    (answered : env.read world.env = .some (.data bytes, rest)) :
    (streamTurn env).run world =
      (drain >>= fun _ => popPending).run
        ⟨{ world.client with reassembler := world.client.reassembler.push bytes }, rest⟩ := by
  cases bytes with
  | nil => exact absurd rfl some
  | cons byte bytes =>
      rw [streamTurn, Prog.bind_of_ok (ask_of_answer answered)]
      rfl

/-- With nothing pending, the next message is the one a turn of the loop gives. -/
theorem recvMessage_of_turn {result : Except RpcError Bytes} (empty : world.client.pending = [])
    (turn : (recvTurn env).run world = some (result.map some, next)) :
    (recvMessage env).run world = some (result, next) := by
  have popped : (popPending).run world = some (.ok none, world) := by
    rw [popPending_apply, empty]
  rw [recvMessage, Prog.bind_of_ok popped]
  simp only
  rw [Prog.loop_eq (recvTurn_decreases env), turn]
  cases result <;> rfl

variable {α : Type} {decode : Bytes → Except XdrError (α × Bytes)} {xid : UInt32}
  {message : Bytes}

/-- An attempt that gets no message fails with the error of `recv_message`. -/
theorem attemptCall_of_error {error : RpcError}
    (done : (send env message).run world = some (.ok (), sent))
    (failed : (recvMessage env).run sent = some (.error error, next)) :
    (attemptCall env decode xid message).run world = some (.error error, next) := by
  have turn : (attemptTurn env decode xid).run sent = some (.error error, next) :=
    Prog.bind_of_error failed
  rw [attemptCall, Prog.bind_of_ok done, Prog.loop_eq (attemptTurn_decreases env decode xid), turn]

/-- An attempt whose first message decides returns what it decodes to. -/
theorem attemptCall_of_reply {reply : Bytes} {value : α}
    (done : (send env message).run world = some (.ok (), sent))
    (received : (recvMessage env).run sent = some (.ok reply, next))
    (decided : verdict decode xid reply = .ok (some value)) :
    (attemptCall env decode xid message).run world = some (.ok value, next) := by
  have turn : (attemptTurn env decode xid).run sent = some (.ok (some value), next) := by
    rw [attemptTurn, Prog.bind_of_ok received, decided]
    rfl
  rw [attemptCall, Prog.bind_of_ok done, Prog.loop_eq (attemptTurn_decreases env decode xid), turn]

/-- A call whose first attempt returns a value, or an error that is not tried
again, ends with it. -/
theorem call_of_attempt {prog vers proc : UInt32} {args : Except XdrError Bytes}
    {result : Except RpcError α}
    (built : world.client.callMessage prog vers proc args = .ok message)
    (attempted : (attemptCall env decode world.client.nextXid message).run
      { world with client := { world.client with nextXid := world.client.nextXid + 1 } } =
        some (result, next))
    (final : ∀ error, result = .error error → next.client.isRetryable error = false) :
    (call env decode prog vers proc args).run world = some (result, next) := by
  have made := buildCall_apply prog vers proc args world
  rw [built] at made
  have observed : (Prog.outcome (attemptCall env decode world.client.nextXid message) :
      Prog (World ω) RpcError (Except RpcError α)).run
      { world with client := { world.client with nextXid := world.client.nextXid + 1 } } =
        some (.ok result, next) := by
    simp only [Prog.outcome, attempted, Option.map_some]
  rw [call, Prog.bind_of_ok made]
  simp only [maxAttempts]
  rw [attempts, Prog.bind_of_ok observed]
  cases result with
  | ok value => rfl
  | error error => simp [Prog.get, Prog.throw, Prog.bind_apply, final error rfl]

end Steps

end RpcClient

end LibNfs.Rpc
