import LibNfs.Rpc.Client

/-! # Calls over an established stream

A client made by `from_stream` keeps its stream: no call reconnects it or sends a
datagram. What its writes and reads keep is therefore kept by its calls.
-/

namespace LibNfs.Rpc

open Xdr (XdrError)

/-- The client is bound to a stream that was established for it. -/
structure RpcClient.OverStream (client : RpcClient) : Prop where
  protocol : client.protocol = .tcp
  socket : client.socket = .stream
  steady : client.autoReconnect = false

/-- A client made over a stream has no transport to connect again. -/
theorem RpcClient.overStream_fromStream (cred : Credentials) (seedXid : UInt32) :
    (fromStream cred seedXid).OverStream :=
  ⟨rfl, rfl, rfl⟩

/-- A client over a stream, in an environment with an invariant. -/
def Along {ω : Type} (invariant : ω → Prop) (world : World ω) : Prop :=
  world.client.OverStream ∧ invariant world.env

namespace RpcClient

variable {ω : Type} {env : Env ω} {invariant : ω → Prop}

/-- No timeout, closed connection or failed write is tried again. -/
theorem OverStream.not_retryable {client : RpcClient} (bound : client.OverStream)
    (error : RpcError) : client.isRetryable error = false := by
  unfold isRetryable
  split
  · rw [bound.protocol]
    rfl
  · exact bound.steady
  · exact bound.steady
  · rfl

/-- A question to the environment keeps the invariant that its answers keep. -/
theorem keeps_ask {α : Type} {question : ω → Option (α × ω)}
    (keeps : ∀ state answer next, invariant state → question state = some (answer, next) →
      invariant next) : (ask question).Keeps (Along invariant) :=
  ask_meets fun world answer next along answered =>
    ⟨along.1, keeps world.env answer next along.2 answered⟩

/-- A change that leaves the client bound keeps the invariant. -/
theorem keeps_update {change : RpcClient → RpcClient}
    (binds : ∀ client, client.OverStream → (change client).OverStream) :
    (update change : Prog (World ω) RpcError Unit).Keeps (Along invariant) :=
  update_meets fun world along => ⟨binds world.client along.1, along.2⟩

/-- Taking a message that came early keeps the invariant. -/
theorem keeps_popPending : (popPending : Prog (World ω) RpcError _).Keeps (Along invariant) := by
  refine Prog.Keeps.bind Prog.Keeps.get fun world => ?_
  split
  · exact Prog.Keeps.pure _
  · exact Prog.Keeps.bind (keeps_update fun _ bound => ⟨bound.1, bound.2, bound.3⟩) fun _ =>
      Prog.Keeps.pure _

/-- Dropping the messages that came early keeps the invariant. -/
theorem keeps_drain : (drain : Prog (World ω) RpcError Unit).Keeps (Along invariant) := by
  refine Prog.Keeps.loop drainTurn_decreases (Prog.Keeps.bind Prog.Keeps.get fun world => ?_)
  refine Prog.Keeps.bind (keeps_update fun _ bound => ⟨bound.1, bound.2, bound.3⟩) fun _ =>
    Prog.Keeps.bind (Prog.Keeps.ofExcept _) fun record => ?_
  split
  · exact Prog.Keeps.pure _
  · exact Prog.Keeps.bind (keeps_update fun _ bound => ⟨bound.1, bound.2, bound.3⟩) fun _ =>
      Prog.Keeps.pure _

section Reading

variable (reads : ∀ state answer next, invariant state → env.read state = some (answer, next) →
  invariant next)

include reads

theorem keeps_streamTurn : (streamTurn env).Keeps (Along invariant) := by
  refine Prog.Keeps.bind (keeps_ask reads) fun arrival => ?_
  split
  · exact Prog.Keeps.throw _
  · exact Prog.Keeps.throw _
  · exact Prog.Keeps.bind (keeps_update fun _ bound => ⟨bound.1, bound.2, bound.3⟩) fun _ =>
      Prog.Keeps.bind keeps_drain fun _ => keeps_popPending
  · exact readFailed_keeps _

/-- The receiving loop reads the stream and not a datagram socket. -/
theorem keeps_recvMessage : (recvMessage env).Keeps (Along invariant) := by
  refine Prog.Keeps.bind keeps_popPending fun message => ?_
  split
  · exact Prog.Keeps.pure _
  · refine Prog.Keeps.loop (recvTurn_decreases env) ?_
    refine Prog.Meets.get_bind fun world => ?_
    intro state final result along ended
    obtain ⟨along, rfl⟩ := along
    rw [along.1.socket] at ended
    exact keeps_streamTurn reads state final result along ended

end Reading

section Calls

variable {α : Type} (decode : Bytes → Except XdrError (α × Bytes))
  (reads : ∀ state answer next, invariant state → env.read state = some (answer, next) →
    invariant next)
  (writes : ∀ data state answer next, invariant state →
    env.write data state = some (answer, next) → invariant next)

include writes in
theorem keeps_send (message : Bytes) : (send env message).Keeps (Along invariant) := by
  have written : (writeFrame env message).Keeps (Along invariant) := by
    refine Prog.Keeps.bind (Prog.Keeps.ofExcept _) fun framed =>
      Prog.Keeps.bind (keeps_ask (writes framed)) fun answer => ?_
    split
    · exact Prog.Keeps.pure _
    · exact Prog.Keeps.throw _
  refine Prog.Meets.get_bind fun world => ?_
  intro state final result along ended
  obtain ⟨along, rfl⟩ := along
  rw [along.1.socket] at ended
  exact written state final result along ended

include reads writes

theorem keeps_attemptCall (xid : UInt32) (message : Bytes) :
    (attemptCall env decode xid message).Keeps (Along invariant) := by
  refine Prog.Keeps.bind (keeps_send writes message) fun _ => ?_
  refine Prog.Keeps.loop (attemptTurn_decreases env decode xid) ?_
  exact Prog.Keeps.bind (keeps_recvMessage reads) fun reply => Prog.Keeps.ofExcept _

/-- The first attempt is the last one. -/
theorem keeps_attempts (xid : UInt32) (message : Bytes) (retries : Nat) :
    (attempts env decode xid message retries).Keeps (Along invariant) := by
  have attempted : (Prog.outcome (attemptCall env decode xid message) :
      Prog (World ω) RpcError _).Keeps (Along invariant) :=
    (keeps_attemptCall decode reads writes xid message).outcome
  cases retries with
  | zero =>
      rw [attempts]
      refine Prog.Keeps.bind attempted fun outcome => ?_
      split
      · exact Prog.Keeps.pure _
      · exact Prog.Keeps.bind Prog.Keeps.get fun _ => Prog.Keeps.throw _
  | succ retries =>
      rw [attempts]
      refine Prog.Keeps.bind attempted fun outcome => ?_
      split
      · exact Prog.Keeps.pure _
      · refine Prog.Meets.get_bind fun world => ?_
        intro state final result along ended
        obtain ⟨along, rfl⟩ := along
        simp only [along.1.not_retryable, Bool.false_eq_true, ↓reduceIte] at ended
        cases ended
        exact along

/-- A call over a stream keeps what reads and writes keep. -/
theorem keeps_call (prog vers proc : UInt32) (args : Except XdrError Bytes) :
    (call env decode prog vers proc args).Keeps (Along invariant) := by
  refine Prog.Keeps.bind ?_ fun built => keeps_attempts decode reads writes _ _ _
  intro world final result along ended
  rw [buildCall_apply] at ended
  cases ended
  exact ⟨⟨along.1.1, along.1.2, along.1.3⟩, along.2⟩

end Calls

end RpcClient

end LibNfs.Rpc
