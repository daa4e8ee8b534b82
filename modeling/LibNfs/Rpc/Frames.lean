import LibNfs.Rpc.AsyncClient
import LibNfs.Rpc.Reassembly

/-! # Frames on a connection

What the clients put on their connections, write by write, over any environment.
A connection is well framed when it carries complete frames and then at most one
incomplete frame with nothing after it. Within a call both clients give up a
connection on which a write stopped inside a frame before they write again, but a
call that ends there leaves it to the next call; a run is well framed exactly when
no call writes on a connection that an earlier call left in that state
(`framed_iff_unspoilt`).
-/

namespace LibNfs.Rpc

open Xdr (XdrError)

/-- A frame given to `write_all`, and how many of its bytes were written. -/
structure Piece where
  frame : Bytes
  count : Nat
  deriving DecidableEq, Repr

namespace Piece

/-- The bytes of a piece that were written. -/
def bytes (piece : Piece) : Bytes :=
  piece.frame.take piece.count

/-- All of the frame was written. -/
def Whole (piece : Piece) : Prop :=
  piece.frame.length ≤ piece.count

instance (piece : Piece) : Decidable piece.Whole :=
  inferInstanceAs (Decidable (_ ≤ _))

/-- The write stopped inside the frame. -/
def Torn (piece : Piece) : Prop :=
  piece.bytes ≠ [] ∧ ¬ piece.Whole

instance (piece : Piece) : Decidable piece.Torn :=
  inferInstanceAs (Decidable (_ ∧ _))

end Piece

/-- The pieces that put something on the connection. -/
def written (pieces : List Piece) : List Piece :=
  pieces.filter fun piece => piece.bytes ≠ []

/-- Complete frames, followed by at most one incomplete frame. -/
def WellFramed (pieces : List Piece) : Prop :=
  ∃ frames rest, written pieces = frames ++ rest ∧ (∀ piece ∈ frames, piece.Whole) ∧
    rest.length ≤ 1

/-- Some write on the connection stopped inside its frame. -/
def Broken (pieces : List Piece) : Prop :=
  ∃ piece ∈ pieces, piece.Torn

instance (pieces : List Piece) : Decidable (Broken pieces) :=
  inferInstanceAs (Decidable (∃ piece ∈ pieces, _))

theorem written_snoc (pieces : List Piece) (piece : Piece) :
    written (pieces ++ [piece]) =
      if piece.bytes = [] then written pieces else written pieces ++ [piece] := by
  by_cases empty : piece.bytes = [] <;> simp [written, List.filter_append, empty]

/-- A stream is broken when a piece that is not whole was written to it. -/
theorem broken_iff (pieces : List Piece) :
    Broken pieces ↔ ∃ piece ∈ written pieces, ¬ piece.Whole := by
  constructor
  · rintro ⟨piece, member, some, part⟩
    exact ⟨piece, List.mem_filter.mpr ⟨member, by simpa using some⟩, part⟩
  · rintro ⟨piece, member, part⟩
    obtain ⟨member, some⟩ := List.mem_filter.mp member
    exact ⟨piece, member, by simpa using some, part⟩

/-- Every piece but the last one written is whole. -/
theorem wellFramed_iff (pieces : List Piece) :
    WellFramed pieces ↔ ∀ piece ∈ (written pieces).dropLast, piece.Whole := by
  constructor
  · rintro ⟨frames, rest, split, whole, short⟩ piece member
    apply whole
    rw [split] at member
    cases rest with
    | nil =>
        rw [List.append_nil] at member
        exact List.dropLast_subset _ member
    | cons last rest =>
        obtain rfl : rest = [] := by
          rw [← List.length_eq_zero_iff]
          rw [List.length_cons] at short
          omega
        rwa [List.dropLast_concat] at member
  · intro whole
    by_cases empty : written pieces = []
    · exact ⟨[], [], empty, by simp, Nat.zero_le _⟩
    · exact ⟨(written pieces).dropLast, [(written pieces).getLast empty],
        (List.dropLast_append_getLast empty).symm, whole, Nat.le_refl _⟩

instance (pieces : List Piece) : Decidable (WellFramed pieces) :=
  decidable_of_iff _ (wellFramed_iff pieces).symm

/-- A stream that nothing was written to is well framed. -/
theorem wellFramed_nil : WellFramed [] :=
  ⟨[], [], rfl, by simp, Nat.zero_le _⟩

/-- One more write keeps a connection well framed when it writes nothing or no
earlier write stopped inside its frame. -/
theorem wellFramed_snoc (pieces : List Piece) (piece : Piece) :
    WellFramed (pieces ++ [piece]) ↔
      WellFramed pieces ∧ (piece.bytes = [] ∨ ¬ Broken pieces) := by
  rw [wellFramed_iff, wellFramed_iff, written_snoc]
  by_cases empty : piece.bytes = []
  · simp [empty]
  · rw [if_neg empty, List.dropLast_concat, broken_iff]
    constructor
    · intro whole
      refine ⟨fun piece member => whole piece (List.dropLast_subset _ member), .inr ?_⟩
      rintro ⟨piece, member, part⟩
      exact part (whole piece member)
    · rintro ⟨-, nothing | unbroken⟩ piece member
      · exact absurd nothing empty
      · by_contra part
        exact unbroken ⟨piece, member, part⟩

/-- The writes on the connections of a client, the current one apart. -/
structure Log where
  closed : List (List Piece)
  current : List Piece

namespace Log

/-- The log of a new connection. -/
def fresh : Log :=
  ⟨[], []⟩

/-- A write on the current connection. -/
def write (log : Log) (frame : Bytes) (count : Nat) : Log :=
  { log with current := log.current ++ [⟨frame, count⟩] }

/-- A new connection. -/
def reconnect (log : Log) : Log :=
  ⟨log.current :: log.closed, []⟩

/-- Every connection carries complete frames and at most one incomplete frame at
its end. -/
def WellFramed (log : Log) : Prop :=
  ∀ pieces ∈ log.current :: log.closed, Rpc.WellFramed pieces

theorem wellFramed_fresh : fresh.WellFramed := by
  intro pieces member
  obtain rfl := List.mem_singleton.mp member
  exact wellFramed_nil

/-- A reconnection leaves the streams before it as they were. -/
theorem wellFramed_reconnect (log : Log) : log.reconnect.WellFramed ↔ log.WellFramed := by
  simp only [WellFramed, reconnect, List.forall_mem_cons, wellFramed_nil, true_and]

/-- A write keeps the streams well framed unless it puts bytes behind a torn frame. -/
theorem wellFramed_write (log : Log) (frame : Bytes) (count : Nat) :
    (log.write frame count).WellFramed ↔
      log.WellFramed ∧ (frame.take count = [] ∨ ¬ Broken log.current) := by
  simp only [WellFramed, write, List.forall_mem_cons, wellFramed_snoc, Piece.bytes]
  tauto

end Log

/-- An environment with the log of what was written. -/
structure Logged (ω : Type) where
  state : ω
  log : Log

/-- Number of bytes that a `write_all` puts on the connection. -/
def countOf (data : Bytes) : Except (Nat × IoErrorKind) Unit → Nat
  | .ok () => data.length
  | .error (count, _) => count

/-- Any environment, with its writes and connections logged. -/
def logged {ω : Type} (env : Env ω) : Env (Logged ω) where
  write data world := (env.write data world.state).map fun (result, state) =>
    (result, ⟨state, world.log.write data (countOf data result)⟩)
  send data world := (env.send data world.state).map fun (result, state) =>
    (result, ⟨state, world.log⟩)
  read world := (env.read world.state).map fun (result, state) => (result, ⟨state, world.log⟩)
  recv world := (env.recv world.state).map fun (result, state) => (result, ⟨state, world.log⟩)
  connect world := (env.connect world.state).map fun (result, state) =>
    (result, ⟨state, if result.isOk then world.log.reconnect else world.log⟩)
  budget world := env.budget world.state
  read_lt answered := by
    obtain ⟨⟨arrival, state⟩, given, same⟩ := Option.map_eq_some_iff.mp answered
    cases same
    exact env.read_lt given
  recv_lt answered := by
    obtain ⟨⟨arrival, state⟩, given, same⟩ := Option.map_eq_some_iff.mp answered
    cases same
    exact env.recv_lt given
  read_le answered := by
    obtain ⟨⟨arrival, state⟩, given, same⟩ := Option.map_eq_some_iff.mp answered
    cases same
    exact env.read_le given

/-- Any environment of an asynchronous client, with its writes and connections
logged, cancelled writes included. -/
def loggedAsync {ω : Type} (env : AsyncEnv ω) : AsyncEnv (Logged ω) where
  toEnv := logged env.toEnv
  expires data world := (env.expires data world.state).map fun (cancelled, state) =>
    (cancelled, ⟨state, match cancelled with
      | some count => world.log.write data count
      | none => world.log⟩)

section Receiving

open RpcClient

variable {ω : Type} {keeps : Log → Prop}

/-- A client over a stream, with a fact about what has been written. -/
structure Streams (keeps : Log → Prop) (world : World (Logged ω)) : Prop where
  tcp : world.client.protocol = .tcp
  stream : world.client.socket ≠ .udp
  kept : keeps world.env.log

theorem Streams.drain :
    (drain).Meets (fun world : World (Logged ω) => Streams keeps world) (fun _ => Streams keeps) := by
  refine Prog.Meets.loop drainTurn_decreases ?_
  intro world next result holds ended
  rw [drainTurn_apply] at ended
  rcases answer : world.client.reassembler.nextRecord with ⟨after, error | _ | record⟩ <;>
    rw [answer] at ended <;> cases ended <;> exact ⟨holds.tcp, holds.stream, holds.kept⟩

theorem Streams.popPending :
    (popPending).Meets (fun world : World (Logged ω) => Streams keeps world)
      (fun _ => Streams keeps) := by
  intro world next result holds ended
  rw [popPending_apply] at ended
  rcases queue : world.client.pending with _ | ⟨message, rest⟩ <;>
    rw [queue] at ended <;> cases ended <;> exact ⟨holds.tcp, holds.stream, holds.kept⟩

/-- What a stream read brings is drained and handed out. -/
theorem Streams.arrived (bytes : Bytes) :
    (@update (Logged ω) (fun client =>
        { client with reassembler := client.reassembler.push bytes }) >>= fun _ =>
      RpcClient.drain >>= fun _ => RpcClient.popPending).Meets (Streams keeps)
        (fun _ => Streams keeps) :=
  .bind (fun _ => Streams keeps)
    (update_meets fun _ holds => ⟨holds.tcp, holds.stream, holds.kept⟩) fun _ =>
      .bind _ drain.byCases fun _ => popPending

/-- A read leaves what has been written as it is. -/
theorem Streams.read (env : Env ω) :
    (ask (logged env).read).Meets (Streams keeps)
      (Prog.split (fun _ => Streams keeps) fun _ => Streams keeps) :=
  ask_meets fun world arrival next holds asked => by
    obtain ⟨⟨_, _⟩, -, same⟩ := Option.map_eq_some_iff.mp asked
    cases same
    exact ⟨holds.tcp, holds.stream, holds.kept⟩

/-- The receiving loop of a stream, given its turns. -/
theorem Streams.loop {α : Type} {turn : Prog (World (Logged ω)) RpcError (Option α)}
    {measure : World (Logged ω) → Nat}
    (decreases : ∀ state next, turn.run state = some (.ok none, next) →
      measure next < measure state)
    (turns : turn.Meets (Streams keeps) (fun _ => Streams keeps)) :
    (Prog.loop turn measure).Meets (Streams keeps) (fun _ => Streams keeps) := by
  refine .loop decreases (turns.weaken (fun _ holds => holds) ?_)
  rintro (error | _ | value) state holds <;> exact holds

variable (env : Env ω)

theorem Streams.recvTurn :
    (RpcClient.recvTurn (logged env)).Meets (Streams keeps) (fun _ => Streams keeps) := by
  have stream : (streamTurn (logged env)).Meets (Streams keeps) (fun _ => Streams keeps) := by
    refine .bind _ (read env) fun arrival => ?_
    split
    · exact .throw fun _ holds => holds
    · exact .throw fun _ holds => holds
    · exact arrived _
    · exact readFailed_keeps _
  refine .get_bind fun world => ?_
  split
  · exact stream.weaken (fun _ both => both.1) fun _ _ holds => holds
  · rename_i datagram
    rintro state final result ⟨holds, rfl⟩ ended
    exact absurd datagram holds.stream
  · exact stream.weaken (fun _ both => both.1) fun _ _ holds => holds

variable {α : Type} (decode : Bytes → Except XdrError (α × Bytes)) (xid : UInt32)

/-- Waiting for a reply writes nothing. -/
theorem Streams.wait :
    (Prog.loop (attemptTurn (logged env) decode xid) (supply (logged env))).Meets (Streams keeps)
      (fun _ => Streams keeps) := by
  refine loop (attemptTurn_decreases _ decode xid) ?_
  refine .bind (fun _ => Streams keeps) ?_ fun _ => .ofExcept fun _ holds => holds
  refine .bind _ popPending.byCases fun popped => ?_
  split
  · exact .pure fun _ holds => holds
  · exact (loop (recvTurn_decreases _) (recvTurn env)).byCases

end Receiving

section AsyncReceiving

open RpcClient (supply)
open AsyncRpcClient

variable {ω α : Type} {keeps : Log → Prop} (env : AsyncEnv ω)
  (decode : Bytes → Except XdrError (α × Bytes)) (xid : UInt32)

/-- Receiving with the asynchronous client writes nothing. -/
theorem Streams.recvTurnAsync :
    (AsyncRpcClient.recvTurn (loggedAsync env)).Meets (Streams keeps) (fun _ => Streams keeps) := by
  refine .get_bind fun world => ?_
  split
  · rename_i datagram
    rintro state final result ⟨holds, rfl⟩ ended
    exact absurd datagram holds.stream
  · refine .bind (fun _ => Streams keeps)
      ((read env.toEnv).weaken (fun _ both => both.1) fun _ _ holds => holds) fun arrival => ?_
    split
    · exact .throw fun _ holds => holds
    · exact .throw fun _ holds => holds
    · exact .throw fun _ holds => holds
    · exact arrived _

/-- Waiting with the asynchronous client writes nothing. -/
theorem Streams.waitAsync :
    (Prog.loop (exchangeTurn (loggedAsync env) decode xid)
      (supply (loggedAsync env).toEnv)).Meets (Streams keeps) (fun _ => Streams keeps) := by
  refine loop (exchangeTurn_decreases _ decode xid) ?_
  refine .bind (fun _ => Streams keeps) ?_ fun _ => .ofExcept fun _ holds => holds
  refine .bind _ popPending.byCases fun popped => ?_
  split
  · exact .pure fun _ holds => holds
  · exact (loop (recvTurn_decreases _) (recvTurnAsync env)).byCases

end AsyncReceiving

section Sending

variable {ω : Type}

/-- Number of bytes of a frame that a write of the synchronous client would put on
the connection. -/
def reach (env : Env ω) (framed : Bytes) (state : ω) : Nat :=
  match env.write framed state with
  | some (result, _) => countOf framed result
  | none => 0

/-- Number of bytes of a frame that a write of the asynchronous client would put
on the connection. -/
def reachAsync (env : AsyncEnv ω) (framed : Bytes) (state : ω) : Nat :=
  match env.expires framed state with
  | some (some count, _) => count
  | some (none, state) => reach env.toEnv framed state
  | none => 0

/-- What holds after the frame of a message, if it has one, has been written. -/
def Ready (reach : Bytes → ω → Nat) (keeps : Log → Prop) (message : Bytes)
    (world : World (Logged ω)) : Prop :=
  Streams (fun log =>
    (∀ error, frame message = .error error → keeps log) ∧
      ∀ framed, frame message = .ok framed →
        keeps (log.write framed (reach framed world.env.state))) world

variable {keeps : Log → Prop}

theorem write_meets (env : Env ω) (framed : Bytes) :
    (RpcClient.ask ((logged env).write framed)).Meets
      (fun world => Streams (fun log => keeps (log.write framed (reach env framed world.env.state)))
        world)
      (Prog.split (fun _ => Streams keeps) fun _ => Streams keeps) :=
  RpcClient.ask_meets fun world result next holds asked => by
    obtain ⟨⟨result', state⟩, given, same⟩ := Option.map_eq_some_iff.mp asked
    cases same
    refine ⟨holds.tcp, holds.stream, ?_⟩
    have kept := holds.kept
    simp only [reach, given] at kept
    exact kept

/-- Sending writes the frame of the message, as far as the environment takes it. -/
theorem send_ready (env : Env ω) (message : Bytes) :
    (RpcClient.send (logged env) message).Meets (Ready (reach env) keeps message)
      (fun _ => Streams keeps) := by
  have framing : (RpcClient.writeFrame (logged env) message).Meets
      (Ready (reach env) keeps message) (fun _ => Streams keeps) := by
    refine .bind (fun framed world => Streams
      (fun log => keeps (log.write framed (reach env framed world.env.state))) world) ?_
      fun framed => ?_
    · refine .ofExcept fun world holds => ?_
      rcases made : frame message with error | framed
      · exact ⟨holds.tcp, holds.stream, holds.kept.1 error made⟩
      · exact ⟨holds.tcp, holds.stream, holds.kept.2 framed made⟩
    · refine .bind _ (write_meets env framed) fun result => ?_
      split
      · exact .pure fun _ holds => holds
      · exact .throw fun _ holds => holds
  refine .get_bind fun world => ?_
  split
  · exact framing.weaken (fun _ both => both.1) fun _ _ holds => holds
  · rename_i datagram
    rintro state final result ⟨holds, rfl⟩ ended
    exact absurd datagram holds.stream
  · exact framing.weaken (fun _ both => both.1) fun _ _ holds => holds

/-- What holds when the timer has cancelled the write, and when it has not. -/
def Timed (env : AsyncEnv ω) (keeps : Log → Prop) (framed : Bytes) :
    Option Nat → World (Logged ω) → Prop
  | some _, world => Streams keeps world
  | none, world =>
      Streams (fun log => keeps (log.write framed (reach env.toEnv framed world.env.state))) world

/-- Sending with the asynchronous client, from a stream that is ready. -/
theorem sendAsync_ready (env : AsyncEnv ω) (message : Bytes) :
    (AsyncRpcClient.send (loggedAsync env) message).Meets (Ready (reachAsync env) keeps message)
      (fun _ => Streams keeps) := by
  refine .get_bind fun world => ?_
  split
  · rename_i datagram
    rintro state final result ⟨holds, rfl⟩ ended
    exact absurd datagram holds.stream
  · refine .bind (fun framed world => Streams
      (fun log => keeps (log.write framed (reachAsync env framed world.env.state))) world) ?_
      fun framed => ?_
    · refine .ofExcept fun world both => ?_
      obtain ⟨holds, -⟩ := both
      rcases made : frame message with error | framed
      · exact ⟨holds.tcp, holds.stream, holds.kept.1 error made⟩
      · exact ⟨holds.tcp, holds.stream, holds.kept.2 framed made⟩
    · refine .bind (Timed env keeps framed)
        (RpcClient.ask_meets fun world cancelled next holds asked => ?_) fun cancelled => ?_
      · obtain ⟨⟨cancelled', state⟩, given, same⟩ := Option.map_eq_some_iff.mp asked
        cases same
        have kept := holds.kept
        rcases cancelled with _ | count
        · simp only [reachAsync, given] at kept
          exact ⟨holds.tcp, holds.stream, kept⟩
        · simp only [reachAsync, given] at kept
          exact ⟨holds.tcp, holds.stream, kept⟩
      · rcases cancelled with _ | count
        · refine .bind _ (write_meets env.toEnv framed) fun result => ?_
          split
          · exact .pure fun _ holds => holds
          · exact .throw fun _ holds => holds
        · exact .throw fun _ holds => holds

end Sending

section Attempts

variable {ω α : Type}

/-- The retry loop that both clients have: an attempt that fails with an error the
client retries is made again, over TCP on a new connection. -/
def attemptsWith (attempt : Prog (World ω) RpcError α) (renew : Prog (World ω) RpcError Unit)
    (retries : RpcClient → RpcError → Bool) (left : Nat) : Prog (World ω) RpcError α := do
  match ← Prog.outcome attempt with
  | .ok value => return value
  | .error error =>
      let world ← Prog.get
      match left with
      | 0 => Prog.throw error
      | left + 1 =>
          if retries world.client error then
            if world.client.protocol = .tcp then
              renew
            attemptsWith attempt renew retries left
          else
            Prog.throw error

/-- The attempts of the blocking client, one written out. -/
theorem attempts_eq (env : Env ω) (decode : Bytes → Except XdrError (α × Bytes)) (xid : UInt32)
    (message : Bytes) (left : Nat) :
    RpcClient.attempts env decode xid message left =
      attemptsWith (RpcClient.attemptCall env decode xid message) (RpcClient.reconnect env)
        RpcClient.isRetryable left := by
  induction left with
  | zero =>
      unfold RpcClient.attempts attemptsWith
      rfl
  | succ left ih =>
      unfold RpcClient.attempts attemptsWith
      dsimp only
      generalize RpcClient.attempts env decode xid message left = rest at ih ⊢
      subst ih
      rfl

/-- The attempts of the asynchronous client, one written out. -/
theorem attemptsAsync_eq (env : AsyncEnv ω) (decode : Bytes → Except XdrError (α × Bytes))
    (xid : UInt32) (message : Bytes) (left : Nat) :
    AsyncRpcClient.attempts env decode xid message left =
      attemptsWith (AsyncRpcClient.exchange env decode xid message)
        (RpcClient.reconnect env.toEnv) (fun _ => AsyncRpcClient.isRetryable) left := by
  induction left with
  | zero =>
      unfold AsyncRpcClient.attempts attemptsWith
      rfl
  | succ left ih =>
      unfold AsyncRpcClient.attempts attemptsWith
      dsimp only
      generalize AsyncRpcClient.attempts env decode xid message left = rest at ih ⊢
      subst ih
      rfl

variable {keeps : Log → Prop}

/-- Facts that a new connection keeps, and the first write on it too. -/
structure Renewable (keeps : Log → Prop) : Prop where
  reconnect : ∀ log, keeps log → keeps log.reconnect
  first : ∀ log framed count, keeps log → keeps (log.reconnect.write framed count)

/-- What holds when a new connection has been made, and when it has not. -/
def Renewed (keeps : Log → Prop) : Except IoErrorKind Unit → World (Logged ω) → Prop
  | .ok (), world => Streams (fun log => ∃ before, keeps before ∧ log = before.reconnect) world
  | .error _, world => Streams keeps world

theorem reconnect_ready (env : Env ω) (renewable : Renewable keeps)
    (reach : Bytes → ω → Nat) (message : Bytes) :
    (RpcClient.reconnect (logged env)).Meets (Streams keeps)
      (Prog.split (fun _ => Ready reach keeps message) fun _ => Streams keeps) := by
  refine .bind (Renewed keeps)
    (RpcClient.ask_meets fun world result next holds asked => ?_) fun result => ?_
  · obtain ⟨⟨result', state⟩, given, same⟩ := Option.map_eq_some_iff.mp asked
    cases same
    rcases result with kind | ⟨⟩
    · exact ⟨holds.tcp, holds.stream, holds.kept⟩
    · exact ⟨holds.tcp, holds.stream, _, holds.kept, rfl⟩
  · rcases result with kind | ⟨⟩
    · exact .throw fun _ holds => holds
    · refine RpcClient.update_meets fun world holds => ?_
      obtain ⟨before, kept, same⟩ := holds.kept
      refine ⟨holds.tcp, ?_, ?_⟩
      · change openSocket world.client.protocol ≠ .udp
        rw [holds.tcp]
        decide
      · change (∀ error, _ → keeps world.env.log) ∧ _
        rw [same]
        exact ⟨fun _ _ => renewable.reconnect before kept,
          fun framed _ => renewable.first before framed _ kept⟩

/-- Attempts keep what the first write keeps. -/
theorem attemptsWith_meets {attempt : Prog (World (Logged ω)) RpcError α}
    {renew : Prog (World (Logged ω)) RpcError Unit} {retries : RpcClient → RpcError → Bool}
    {ready : World (Logged ω) → Prop}
    (attempts : attempt.Meets ready (fun _ => Streams keeps))
    (renews : renew.Meets (Streams keeps) (Prog.split (fun _ => ready) fun _ => Streams keeps))
    (left : Nat) :
    (attemptsWith attempt renew retries left).Meets ready (fun _ => Streams keeps) := by
  have begins : (Prog.outcome attempt : Prog _ RpcError _).Meets ready
      (Prog.split (fun _ => Streams keeps) fun _ => Streams keeps) := by
    refine attempts.outcome.weaken (fun _ holds => holds) ?_
    rintro (error | outcome) state holds
    · exact holds.elim
    · exact holds
  induction left with
  | zero =>
      rw [attemptsWith]
      refine .bind (fun _ => Streams keeps) begins fun outcome => ?_
      split
      · exact .pure fun _ holds => holds
      · exact .get_bind fun _ => .throw fun _ both => both.1
  | succ left ih =>
      rw [attemptsWith]
      refine .bind (fun _ => Streams keeps) begins fun outcome => ?_
      split
      · exact .pure fun _ holds => holds
      · refine .get_bind fun world => ?_
        simp only
        split
        · split
          · exact .bind (fun _ => ready)
              (renews.weaken (fun _ both => both.1) fun _ _ holds => holds) fun _ => ih
          · rename_i other
            rintro state final result ⟨holds, rfl⟩ ended
            exact absurd holds.tcp other
        · exact .throw fun _ both => both.1

end Attempts

/-- A call that is asked of a client. -/
structure Request where
  α : Type
  decode : Bytes → Except XdrError (α × Bytes)
  prog : UInt32
  vers : UInt32
  proc : UInt32
  args : Except XdrError Bytes

section Calls

variable {ω : Type} {keeps : Log → Prop}

/-- The message of a call, if it can be encoded. -/
def Request.message (request : Request) (world : World ω) : Except RpcError Bytes :=
  world.client.callMessage request.prog request.vers request.proc request.args

/-- A request to the blocking client. -/
def Request.perform (env : Env ω) (request : Request) : Prog (World ω) RpcError request.α :=
  RpcClient.call env request.decode request.prog request.vers request.proc request.args

/-- A request to the asynchronous client. -/
def Request.performAsync (env : AsyncEnv ω) (request : Request) :
    Prog (World ω) RpcError request.α :=
  AsyncRpcClient.call env request.decode request.prog request.vers request.proc request.args

/-- What holds after the first write of a call, if it makes one. -/
def CallReady (reach : Bytes → ω → Nat) (keeps : Log → Prop) (request : Request)
    (world : World (Logged ω)) : Prop :=
  Streams (fun log => ∀ error, request.message world = .error error → keeps log) world ∧
    ∀ message, request.message world = .ok message → Ready reach keeps message world

theorem buildCall_ready (reach : Bytes → ω → Nat) (request : Request) :
    (RpcClient.buildCall request.prog request.vers request.proc request.args).Meets
      (CallReady reach keeps request)
      (Prog.split (fun built => Ready reach keeps built.2) fun _ => Streams keeps) := by
  intro world next result holds ended
  rw [RpcClient.buildCall_apply] at ended
  obtain ⟨rfl, rfl⟩ := Prod.mk.inj (Option.some.inj ended)
  rcases made : world.client.callMessage request.prog request.vers request.proc request.args
    with error | message
  · exact ⟨holds.1.tcp, holds.1.stream, holds.1.kept error made⟩
  · have ready := holds.2 message made
    exact ⟨ready.tcp, ready.stream, ready.kept⟩

/-- A request to the blocking client keeps what it was ready for. -/
theorem perform_meets (env : Env ω) (renewable : Renewable keeps) (request : Request) :
    (request.perform (logged env)).Meets (CallReady (reach env) keeps request)
      (fun _ => Streams keeps) := by
  refine .bind _ (buildCall_ready (reach env) request) fun built => ?_
  obtain ⟨xid, message⟩ := built
  simp only [attempts_eq]
  refine attemptsWith_meets ?_ (reconnect_ready env renewable _ _) _
  exact .bind _ (send_ready env message).byCases fun _ => Streams.wait env request.decode xid

/-- A request to the asynchronous client keeps what it was ready for. -/
theorem performAsync_meets (env : AsyncEnv ω) (renewable : Renewable keeps) (request : Request) :
    (request.performAsync (loggedAsync env)).Meets (CallReady (reachAsync env) keeps request)
      (fun _ => Streams keeps) := by
  refine .bind _ (buildCall_ready (reachAsync env) request) fun built => ?_
  obtain ⟨xid, message⟩ := built
  simp only [attemptsAsync_eq]
  refine attemptsWith_meets ?_ (reconnect_ready env.toEnv renewable _ _) _
  exact .bind _ (sendAsync_ready env message).byCases
    fun _ => Streams.waitAsync env request.decode xid

/-- A call writes on a connection on which an earlier write stopped inside its
frame. -/
def Overwrites (reach : Bytes → ω → Nat) (request : Request) (world : World (Logged ω)) : Prop :=
  Broken world.env.log.current ∧ ∃ message framed, request.message world = .ok message ∧
    frame message = .ok framed ∧ framed.take (reach framed world.env.state) ≠ []

theorem renewable_wellFramed : Renewable Log.WellFramed where
  reconnect log holds := (Log.wellFramed_reconnect log).mpr holds
  first log framed count holds := by
    refine (Log.wellFramed_write _ framed count).mpr
      ⟨(Log.wellFramed_reconnect log).mpr holds, .inr ?_⟩
    rintro ⟨piece, member, -⟩
    exact absurd member List.not_mem_nil

theorem renewable_ill : Renewable fun log => ¬ log.WellFramed where
  reconnect log ill holds := ill ((Log.wellFramed_reconnect log).mp holds)
  first log framed count ill holds :=
    ill ((Log.wellFramed_reconnect log).mp ((Log.wellFramed_write _ framed count).mp holds).1)

variable {reach : Bytes → ω → Nat} {request : Request} {world : World (Logged ω)}

/-- A request that overwrites nothing keeps the streams well framed. -/
theorem callReady_of_clean (holds : Streams Log.WellFramed world)
    (clean : ¬ Overwrites reach request world) :
    CallReady reach Log.WellFramed request world := by
  refine ⟨⟨holds.tcp, holds.stream, fun _ _ => holds.kept⟩, fun message made =>
    ⟨holds.tcp, holds.stream, fun _ _ => holds.kept, fun framed sent => ?_⟩⟩
  refine (Log.wellFramed_write _ framed _).mpr ⟨holds.kept, ?_⟩
  by_cases nothing : framed.take (reach framed world.env.state) = []
  · exact .inl nothing
  · exact .inr fun broken => clean ⟨broken, message, framed, made, sent, nothing⟩

theorem callReady_of_overwrites (holds : Streams Log.WellFramed world)
    (spoils : Overwrites reach request world) :
    CallReady reach (fun log => ¬ log.WellFramed) request world := by
  obtain ⟨broken, message, framed, made, sent, some⟩ := spoils
  refine ⟨⟨holds.tcp, holds.stream, fun error failed => ?_⟩, fun other made' =>
    ⟨holds.tcp, holds.stream, fun error failed => ?_, fun framed' sent' framedWell => ?_⟩⟩
  · rw [made] at failed
    cases failed
  · rw [made] at made'
    cases made'
    rw [sent] at failed
    cases failed
  · rw [made] at made'
    cases made'
    rw [sent] at sent'
    cases sent'
    rcases ((Log.wellFramed_write _ framed _).mp framedWell).2 with nothing | whole
    · exact some nothing
    · exact whole broken

theorem callReady_of_ill (holds : Streams (fun log => ¬ log.WellFramed) world) :
    CallReady reach (fun log => ¬ log.WellFramed) request world :=
  ⟨⟨holds.tcp, holds.stream, fun _ _ => holds.kept⟩, fun _ _ =>
    ⟨holds.tcp, holds.stream, fun _ _ => holds.kept, fun framed _ well =>
      holds.kept ((Log.wellFramed_write _ framed _).mp well).1⟩⟩

/-- Runs of calls on one client, with each call and the world it was made in. The
settings of the client may change between calls. -/
inductive CallRun (perform : (request : Request) → Prog (World (Logged ω)) RpcError request.α)
    (start : World (Logged ω)) : List (Request × World (Logged ω)) → World (Logged ω) → Prop where
  | start : CallRun perform start [] start
  | setCredentials {steps : List (Request × World (Logged ω))} {world : World (Logged ω)}
      (cred : Credentials) :
      CallRun perform start steps world →
      CallRun perform start steps { world with client := { world.client with cred := cred } }
  | setAutoReconnect {steps : List (Request × World (Logged ω))} {world : World (Logged ω)}
      (enabled : Bool) :
      CallRun perform start steps world →
      CallRun perform start steps
        { world with client := { world.client with autoReconnect := enabled } }
  | call {steps : List (Request × World (Logged ω))} {world next : World (Logged ω)}
      {request : Request} {result : Except RpcError request.α} :
      CallRun perform start steps world →
      (perform request).run world = some (result, next) →
      CallRun perform start (steps ++ [(request, world)]) next

/-- Over a run the connections stay well framed exactly as long as no call writes
on a broken one. -/
theorem CallRun.wellFramed_iff
    {perform : (request : Request) → Prog (World (Logged ω)) RpcError request.α}
    {start final : World (Logged ω)} {steps : List (Request × World (Logged ω))}
    (performs : ∀ keeps, Renewable keeps → ∀ request,
      (perform request).Meets (CallReady reach keeps request) fun _ => Streams keeps)
    (fresh : Streams Log.WellFramed start) (run : CallRun perform start steps final) :
    ((∀ step ∈ steps, ¬ Overwrites reach step.1 step.2) ∧ Streams Log.WellFramed final) ∨
      (∃ step ∈ steps, Overwrites reach step.1 step.2) ∧
        Streams (fun log => ¬ log.WellFramed) final := by
  induction run with
  | start => exact .inl ⟨by simp, fresh⟩
  | setCredentials cred _ ih =>
      rcases ih with ⟨clean, holds⟩ | ⟨spoils, holds⟩
      · exact .inl ⟨clean, holds.tcp, holds.stream, holds.kept⟩
      · exact .inr ⟨spoils, holds.tcp, holds.stream, holds.kept⟩
  | setAutoReconnect enabled _ ih =>
      rcases ih with ⟨clean, holds⟩ | ⟨spoils, holds⟩
      · exact .inl ⟨clean, holds.tcp, holds.stream, holds.kept⟩
      · exact .inr ⟨spoils, holds.tcp, holds.stream, holds.kept⟩
  | @call steps world next request result _ ended ih =>
      rcases ih with ⟨clean, holds⟩ | ⟨⟨step, member, spoils⟩, holds⟩
      · by_cases spoils : Overwrites reach request world
        · exact .inr ⟨⟨(request, world), by simp, spoils⟩,
            performs _ renewable_ill request _ _ _ (callReady_of_overwrites holds spoils) ended⟩
        · refine .inl ⟨fun step member => ?_, performs _ renewable_wellFramed request _ _ _
            (callReady_of_clean holds spoils) ended⟩
          rcases List.mem_append.mp member with old | new
          · exact clean step old
          · obtain rfl := List.mem_singleton.mp new
            exact spoils
      · exact .inr ⟨⟨step, List.mem_append_left _ member, spoils⟩,
          performs _ renewable_ill request _ _ _ (callReady_of_ill holds) ended⟩

end Calls

/-- A synchronous client over TCP or over a stream, just made. -/
inductive Opened : RpcClient → Prop where
  | connect (cred : Credentials) (seedXid : UInt32) : Opened (.connect .tcp cred seedXid)
  | fromStream (cred : Credentials) (seedXid : UInt32) : Opened (.fromStream cred seedXid)

/-- A client that has just connected has well-framed streams. -/
theorem Opened.streams {ω : Type} {client : RpcClient} (opened : Opened client) (state : ω) :
    Streams Log.WellFramed ⟨client, state, .fresh⟩ := by
  cases opened with
  | connect cred seedXid =>
      exact ⟨rfl, show Socket.tcp ≠ Socket.udp by decide, Log.wellFramed_fresh⟩
  | fromStream cred seedXid =>
      exact ⟨rfl, show Socket.stream ≠ Socket.udp by decide, Log.wellFramed_fresh⟩

/-- In every run of calls on either client, over every environment, all
connections carry complete frames and at most one incomplete frame at their end
exactly when no call writes on a connection that a write of an earlier call left
inside a frame. -/
theorem framed_iff_unspoilt {ω : Type} (env : AsyncEnv ω) (state : ω) :
    (∀ client steps final, Opened client →
      CallRun (Request.perform (logged env.toEnv)) ⟨client, state, .fresh⟩ steps final →
        (final.env.log.WellFramed ↔
          ∀ step ∈ steps, ¬ Overwrites (reach env.toEnv) step.1 step.2)) ∧
    ∀ cred seedXid steps final,
      CallRun (Request.performAsync (loggedAsync env))
          ⟨AsyncRpcClient.connect .tcp cred seedXid, state, .fresh⟩ steps final →
        (final.env.log.WellFramed ↔
          ∀ step ∈ steps, ¬ Overwrites (reachAsync env) step.1 step.2) := by
  constructor
  · intro client steps final opened run
    rcases run.wellFramed_iff (fun _ => perform_meets env.toEnv) (opened.streams state) with
      ⟨clean, holds⟩ | ⟨⟨step, member, spoils⟩, holds⟩
    · exact ⟨fun _ => clean, fun _ => holds.kept⟩
    · exact ⟨fun framed => absurd framed holds.kept,
        fun clean => absurd spoils (clean step member)⟩
  · intro cred seedXid steps final run
    rcases run.wellFramed_iff (fun _ => performAsync_meets env)
        ((Opened.connect cred seedXid).streams state) with
      ⟨clean, holds⟩ | ⟨⟨step, member, spoils⟩, holds⟩
    · exact ⟨fun _ => clean, fun _ => holds.kept⟩
    · exact ⟨fun framed => absurd framed holds.kept,
        fun clean => absurd spoils (clean step member)⟩

/-- One answer of the operating system or of the timer. -/
inductive Event where
  | wrote (result : Except (Nat × IoErrorKind) Unit)
  | expired (count : Nat)
  | connected (result : Except IoErrorKind Unit)
  | deadline

/-- Events in a fixed order, with nothing to read before the deadline. -/
def scripted : AsyncEnv (List Event) where
  write
    | _, .wrote result :: events => some (result, events)
    | _, _ => none
  send _ _ := none
  read
    | .deadline :: events => some (.deadline, events)
    | _ => none
  recv _ := none
  connect
    | .connected result :: events => some (result, events)
    | _ => none
  budget := List.length
  read_lt answered := by
    split at answered <;> cases answered
    exact Nat.lt_succ_self _
  recv_lt absurd := nomatch absurd
  read_le answered := by
    split at answered <;> cases answered
  expires
    | _, .expired count :: events => some (some count, events)
    | _, events => some (none, events)

/-- A call of a null procedure. -/
def nullRequest : Request :=
  ⟨Unit, fun body => .ok ((), body), 100003, 3, 0, .ok []⟩

/-- A write that fails after ten bytes. -/
def tearing : Event :=
  .wrote (.error (10, .other 0))

/-- A write that fails inside the frame is made again on a new connection by both
clients. -/
theorem framed_iff_unspoilt_retried :
    (∃ final, CallRun (Request.perform (logged scripted.toEnv))
        ⟨.connect .tcp .none 0, [tearing, .connected (.ok ()), .wrote (.ok ()), .deadline],
          .fresh⟩ [(nullRequest, ⟨.connect .tcp .none 0,
            [tearing, .connected (.ok ()), .wrote (.ok ()), .deadline], .fresh⟩)] final ∧
      final.env.log.closed ≠ [] ∧ final.env.log.WellFramed) ∧
    ∃ final, CallRun (Request.performAsync (loggedAsync scripted))
        ⟨AsyncRpcClient.connect .tcp .none 0, [.expired 10, .connected (.ok ()), .wrote (.ok ()),
          .deadline, .connected (.error .timedOut)], .fresh⟩ [(nullRequest,
            ⟨AsyncRpcClient.connect .tcp .none 0, [.expired 10, .connected (.ok ()),
              .wrote (.ok ()), .deadline, .connected (.error .timedOut)], .fresh⟩)] final ∧
      final.env.log.closed ≠ [] ∧ final.env.log.WellFramed := by
  constructor
  · have evaluated : ((nullRequest.perform (logged scripted.toEnv)).run
        ⟨.connect .tcp .none 0, [tearing, .connected (.ok ()), .wrote (.ok ()), .deadline],
          .fresh⟩).map (fun ended => ended.2.env.log.closed.length) = some 1 := by
      decide +kernel
    obtain ⟨⟨result, final⟩, ended, closed⟩ := Option.map_eq_some_iff.mp evaluated
    have run := CallRun.call (@CallRun.start _ (Request.perform (logged scripted.toEnv)) _) ended
    refine ⟨final, run, fun none => ?_, ((framed_iff_unspoilt scripted _).1 _ _ final
      (.connect _ _) run).mpr fun step member spoils => ?_⟩
    · rw [none] at closed
      cases closed
    · obtain rfl := List.mem_singleton.mp member
      exact absurd spoils.1 (by decide)
  · have evaluated : ((nullRequest.performAsync (loggedAsync scripted)).run
        ⟨AsyncRpcClient.connect .tcp .none 0, [.expired 10, .connected (.ok ()), .wrote (.ok ()),
          .deadline, .connected (.error .timedOut)], .fresh⟩).map
            (fun ended => ended.2.env.log.closed.length) = some 1 := by
      decide +kernel
    obtain ⟨⟨result, final⟩, ended, closed⟩ := Option.map_eq_some_iff.mp evaluated
    have run := CallRun.call (@CallRun.start _ (Request.performAsync (loggedAsync scripted)) _) ended
    refine ⟨final, run, fun none => ?_, ((framed_iff_unspoilt scripted _).2 _ _ _ final
      run).mpr fun step member spoils => ?_⟩
    · rw [none] at closed
      cases closed
    · obtain rfl := List.mem_singleton.mp member
      exact absurd spoils.1 (by decide)

/-- Two calls, one after the other, whatever becomes of them. -/
def twice {ω : Type} (perform : (request : Request) → Prog (World (Logged ω)) RpcError request.α) :
    Prog (World (Logged ω)) RpcError (Except RpcError Unit) := do
  let _ ← (Prog.outcome (perform nullRequest) : Prog _ RpcError (Except RpcError Unit))
  Prog.outcome (perform nullRequest)

/-- Two calls are a run, and what it leaves on the connection can be evaluated. -/
theorem twice_run {ω : Type}
    {perform : (request : Request) → Prog (World (Logged ω)) RpcError request.α}
    {start : World (Logged ω)}
    (evaluated : ((twice perform).run start).map (fun ended =>
      decide (WellFramed ended.2.env.log.current)) = some false) :
    ∃ steps final, CallRun perform start steps final ∧ ¬ final.env.log.WellFramed := by
  obtain ⟨⟨result, final⟩, ended, ill⟩ := Option.map_eq_some_iff.mp evaluated
  rcases Prog.bind_eq_some ended with ⟨error, failed, -⟩ | ⟨first, mid, begun, rest⟩
  · obtain ⟨inner, absurd, -⟩ := Prog.outcome_eq_some failed
    cases absurd
  · obtain ⟨_, -, first⟩ := Prog.outcome_eq_some begun
    obtain ⟨_, -, second⟩ := Prog.outcome_eq_some rest
    refine ⟨_, final, .call (.call .start first) second, fun framed => ?_⟩
    exact of_decide_eq_false ill (framed final.env.log.current List.mem_cons_self)

/-- A stream client whose write fails inside the frame keeps the stream, and so
does an asynchronous client whose third exchange is cancelled inside the frame:
the next call writes its frame after the torn one. -/
theorem torn_connection_written_again :
    (¬ ∀ client state steps final, Opened client →
      CallRun (Request.perform (logged scripted.toEnv)) ⟨client, state, .fresh⟩ steps final →
        final.env.log.WellFramed) ∧
    ¬ ∀ cred seedXid state steps final,
      CallRun (Request.performAsync (loggedAsync scripted))
          ⟨AsyncRpcClient.connect .tcp cred seedXid, state, .fresh⟩ steps final →
        final.env.log.WellFramed := by
  constructor
  · intro all
    have evaluated : ((twice (Request.perform (logged scripted.toEnv))).run
        ⟨.fromStream .none 0, [tearing, .wrote (.ok ()), .deadline], .fresh⟩).map (fun ended =>
          decide (WellFramed ended.2.env.log.current)) =
            some false := by
      decide +kernel
    obtain ⟨steps, final, run, ill⟩ := twice_run evaluated
    exact ill (all _ _ steps final (.fromStream _ _) run)
  · intro all
    have evaluated : ((twice (Request.performAsync (loggedAsync scripted))).run
        ⟨AsyncRpcClient.connect .tcp .none 0, [.expired 10, .connected (.ok ()), .expired 10,
          .connected (.ok ()), .expired 10, .wrote (.ok ()), .deadline,
          .connected (.error .timedOut)], .fresh⟩).map (fun ended =>
            decide (WellFramed ended.2.env.log.current)) =
              some false := by
      decide +kernel
    obtain ⟨steps, final, run, ill⟩ := twice_run evaluated
    exact ill (all _ _ _ steps final run)

end LibNfs.Rpc
