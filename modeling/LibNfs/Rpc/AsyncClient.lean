import LibNfs.Rpc.Client

/-! # The asynchronous RPC client

`AsyncRpcClient` has the fields of `RpcClient` but for `auto_reconnect`, which
nothing here reads, and its build, drain and matching code is the same text. It
differs in how an exchange ends: a timer cancels it wherever it waits, in the
middle of a `write_all` included, a read error is never tried again, and a call
that timed out is.
-/

namespace LibNfs.Rpc

open Xdr (XdrError)

/-- The answers of the operating system, the network and the timer of a call. A
read or a receive that meets the deadline is cancelled by the timer; `expires`
tells of a write whether the timer cancels it, and after how many bytes. -/
structure AsyncEnv (ω : Type) extends Env ω where
  expires : Bytes → ω → Option (Option Nat × ω)

namespace AsyncRpcClient

open RpcClient (ask update buildCall popPending drain verdict supply reconnect)

/-- An asynchronous client just connected. -/
def connect (protocol : Protocol) (cred : Credentials) (seedXid : UInt32) : RpcClient :=
  RpcClient.connect protocol cred seedXid

def isRetryable : RpcError → Bool
  | .io _ | .connectionClosed | .timeout => true
  | _ => false

section Exchange

variable {ω α : Type} (env : AsyncEnv ω) (decode : Bytes → Except XdrError (α × Bytes))

/-- `write_all` and `flush` of bytes, unless the timer cancels them. -/
def writeAll (framed : Bytes) : Prog (World ω) RpcError Unit := do
  match ← ask (env.expires framed) with
  | some _ => Prog.throw .timeout
  | none =>
      match ← ask (env.write framed) with
      | .ok () => return ()
      | .error (_, kind) => Prog.throw (.io kind)

/-- Sends a datagram, unless the timer cancels it. -/
def sendDatagram (message : Bytes) : Prog (World ω) RpcError Unit := do
  match ← ask (env.expires message) with
  | some _ => Prog.throw .timeout
  | none =>
      match ← ask (env.send message) with
      | .ok () => return ()
      | .error kind => Prog.throw (.io kind)

def send (message : Bytes) : Prog (World ω) RpcError Unit := do
  let world ← Prog.get
  match world.client.socket with
  | .udp => sendDatagram env message
  | _ =>
      let framed ← Prog.ofExcept (frame message)
      writeAll env framed

/-- One turn of the receiving loop on a stream. -/
def streamTurn : Prog (World ω) RpcError (Option Bytes) := do
  match ← ask env.read with
  | .deadline => Prog.throw .timeout
  | .failed kind => Prog.throw (.io kind)
  | .data [] => Prog.throw .connectionClosed
  | .data (byte :: bytes) =>
      update fun client =>
        { client with reassembler := client.reassembler.push (byte :: bytes) }
      drain
      popPending

/-- One turn of the receiving loop on a datagram socket. -/
def datagramTurn : Prog (World ω) RpcError (Option Bytes) := do
  match ← ask env.recv with
  | .deadline => Prog.throw .timeout
  | .failed kind => Prog.throw (.io kind)
  | .data bytes => return some (bytes.take datagramLimit)

def recvTurn : Prog (World ω) RpcError (Option Bytes) := do
  let world ← Prog.get
  match world.client.socket with
  | .udp => datagramTurn env
  | _ => streamTurn env

/-- The next message: a pending one, or the next to arrive. -/
def recvMessage : Prog (World ω) RpcError Bytes := do
  match ← popPending with
  | some message => return message
  | none => Prog.loop (recvTurn env) fun world => env.budget world.env

/-- One turn of the waiting loop. -/
def exchangeTurn (xid : UInt32) : Prog (World ω) RpcError (Option α) := do
  let reply ← recvMessage env
  Prog.ofExcept (verdict decode xid reply)

/-- Sends the message and waits for its reply, for as long as the timer allows. -/
def exchange (xid : UInt32) (message : Bytes) : Prog (World ω) RpcError α := do
  send env message
  Prog.loop (exchangeTurn env decode xid) (supply env.toEnv)

/-- The attempts of a call: one, and `retries` more at most. -/
def attempts (xid : UInt32) (message : Bytes) (retries : Nat) : Prog (World ω) RpcError α := do
  match ← Prog.outcome (exchange env decode xid message) with
  | .ok value => return value
  | .error error =>
      let world ← Prog.get
      match retries with
      | 0 => Prog.throw error
      | retries + 1 =>
          if isRetryable error then
            if world.client.protocol = .tcp then
              reconnect env.toEnv
            attempts xid message retries
          else
            Prog.throw error

/-- Calls a procedure and decodes its result. -/
def call (prog vers proc : UInt32) (args : Except XdrError Bytes) :
    Prog (World ω) RpcError α := do
  let (xid, message) ← buildCall prog vers proc args
  attempts env decode xid message (maxAttempts - 1)

end Exchange

section Supply

open RpcClient (ask_meets update_meets Below below_of_read lasting_below drain_keeps
  popPending_keeps supply_of_read popPending_apply)

variable {ω α : Type} (env : AsyncEnv ω) (decode : Bytes → Except XdrError (α × Bytes))

/-- A turn of the receiving loop spends a read. -/
theorem streamTurn_spends (messages reads : Nat) :
    (streamTurn env).Meets
      (fun world => supply env.toEnv world ≤ messages ∧ env.budget world.env ≤ reads)
      (fun _ => Below env.toEnv messages reads) := by
  refine .bind (fun arrival world => Below env.toEnv messages reads world ∧
    ∀ bytes, arrival = .data bytes → supply env.toEnv world + 2 * bytes.length < messages)
    (ask_meets fun world arrival rest holds asked => ?_) fun arrival => ?_
  · have fewer := env.read_lt asked
    refine ⟨below_of_read env.toEnv holds fewer, ?_⟩
    rintro bytes rfl
    have short := env.read_le asked
    have room := supply_of_read env.toEnv fewer
    omega
  · split
    · exact .throw fun _ holds => holds.1
    · exact .throw fun _ holds => holds.1
    · exact .throw fun _ holds => holds.1
    · rename_i byte bytes
      refine .bind (fun _ => Below env.toEnv messages reads) (update_meets fun world holds => ?_)
        fun _ => .bind _ (drain_keeps env.toEnv (lasting_below env.toEnv messages reads)).byCases
          fun _ => popPending_keeps env.toEnv (lasting_below env.toEnv messages reads)
      have room := holds.2 _ rfl
      refine ⟨?_, holds.1.2⟩
      simp only [supply, RecordReassembler.measure_push] at room ⊢
      omega

theorem datagramTurn_spends (messages reads : Nat) :
    (datagramTurn env).Meets
      (fun world => supply env.toEnv world ≤ messages ∧ env.budget world.env ≤ reads)
      (fun _ => Below env.toEnv messages reads) := by
  refine .bind (fun _ => Below env.toEnv messages reads)
    (ask_meets fun world arrival rest holds asked =>
      below_of_read env.toEnv holds (env.recv_lt asked)) fun arrival => ?_
  split
  · exact .throw fun _ holds => holds
  · exact .throw fun _ holds => holds
  · exact .pure fun _ holds => holds

theorem recvTurn_spends (messages reads : Nat) :
    (recvTurn env).Meets
      (fun world => supply env.toEnv world ≤ messages ∧ env.budget world.env ≤ reads)
      (fun _ => Below env.toEnv messages reads) := by
  refine .get_bind fun world => ?_
  split
  · exact (datagramTurn_spends env messages reads).weaken (fun _ both => both.1)
      fun _ _ less => less
  · exact (streamTurn_spends env messages reads).weaken (fun _ both => both.1) fun _ _ less => less

theorem recvTurn_decreases (world next : World ω)
    (silent : (recvTurn env).run world = some (.ok none, next)) :
    env.budget next.env < env.budget world.env :=
  (recvTurn_spends env _ _ world next _ ⟨Nat.le_refl _, Nat.le_refl _⟩ silent).2

/-- A message received is one fewer to receive. -/
theorem recvMessage_spends {world next : World ω} {message : Bytes}
    (received : (recvMessage env).run world = some (.ok message, next)) :
    supply env.toEnv next < supply env.toEnv world := by
  rcases queue : world.client.pending with _ | ⟨front, rest⟩
  · have popped : (popPending).run world = some (.ok none, world) := by
      rw [popPending_apply, queue]
    rw [recvMessage, Prog.bind_of_ok popped] at received
    have loop : (Prog.loop (recvTurn env) fun world => env.budget world.env).Meets
        (fun state => supply env.toEnv state ≤ supply env.toEnv world)
        (fun result state => ∀ message, result = .ok message →
          supply env.toEnv state < supply env.toEnv world) := by
      refine .loop (recvTurn_decreases env) fun state after result holds ended => ?_
      have less := recvTurn_spends env _ _ state after result ⟨holds, Nat.le_refl _⟩ ended
      rcases result with error | _ | message
      · rintro _ ⟨⟩
      · exact Nat.le_of_lt less.1
      · exact fun _ _ => less.1
    exact loop world next _ (Nat.le_refl _) received message rfl
  · have popped : (popPending).run world =
        some (.ok (some front), { world with client := { world.client with pending := rest } }) := by
      rw [popPending_apply, queue]
    rw [recvMessage, Prog.bind_of_ok popped, Prog.pure_apply] at received
    cases received
    simp only [supply, queue, List.length_cons]
    omega

theorem exchangeTurn_decreases (xid : UInt32) (world next : World ω)
    (silent : (exchangeTurn env decode xid).run world = some (.ok none, next)) :
    supply env.toEnv next < supply env.toEnv world := by
  rcases Prog.bind_eq_some silent with ⟨error, -, same⟩ | ⟨message, mid, received, rest⟩
  · cases same
  · simp only [Prog.ofExcept, Option.some.injEq, Prod.mk.injEq] at rest
    obtain ⟨-, rfl⟩ := rest
    exact recvMessage_spends env received

end Supply

end AsyncRpcClient

end LibNfs.Rpc
