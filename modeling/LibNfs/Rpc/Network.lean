import LibNfs.Rpc.Client
import LibNfs.Rpc.RecordMarking

/-! # A client, a network and a server

The environment of an `RpcClient` whose peer is a server that sends well-formed
replies to requests it has received and executed, and nothing else. What happens
is decided by a list of choices: the server executes a request or puts a reply on
the connection, a write succeeds or fails partway, a read delivers some of the
bytes sent, a datagram arrives late, twice or never, a connection is made or
refused. Every list of choices is a run, so a theorem about all of them is about
every interleaving.
-/

namespace LibNfs.Rpc

open RecordMarking

/-- A request the server has executed, and its reply. -/
structure Execution where
  request : Bytes
  reply : Reply
  deriving DecidableEq, Repr

/-- The reply of an execution on the wire: it carries the xid of the request. -/
def Execution.message (execution : Execution) : Bytes :=
  execution.reply.encode (leadingXid execution.request)

/-- A stream connection: the bytes written by the client, whether a write stopped
inside a frame, and the bytes sent by the server that have and have not been
read. -/
structure Connection where
  written : Bytes
  torn : Bool
  delivered : Bytes
  undelivered : Bytes

def Connection.fresh : Connection :=
  ⟨[], false, [], []⟩

/-- The state of the network and of the server: the requests that arrived as
datagrams or on earlier connections, the current connection, and what has been
executed. -/
structure Network where
  arrived : List Bytes
  connection : Connection
  executed : List Execution

namespace Network

def fresh : Network :=
  ⟨[], .fresh, []⟩

/-- The requests the server can have received. -/
def requests (net : Network) : List Bytes :=
  net.arrived ++ (parse none [] net.connection.written).records

/-- A message is the reply of an execution. -/
def Replied (net : Network) (message : Bytes) : Prop :=
  ∃ execution ∈ net.executed, message = execution.message

instance (net : Network) (message : Bytes) : Decidable (net.Replied message) :=
  inferInstanceAs (Decidable (∃ execution ∈ net.executed, _))

/-- The connection is fit for another call: no write stopped inside a frame, and
the bytes read do not reach into a record over the limit of the reassembler. -/
def Sound (net : Network) : Prop :=
  net.connection.torn = false ∧
    (parse (some defaultMaxRecord) [] net.connection.delivered).tooLarge = false

instance : DecidablePred Sound :=
  fun _ => inferInstanceAs (Decidable (_ ∧ _))

end Network

/-- What happens next. -/
inductive Choice where
  | execute (execution : Execution)
  | respond (execution : Execution) (cut : Cut)
  | done
  | failed (written : Nat) (kind : IoErrorKind)
  | arrive (arrival : Arrival)

/-- The network with the choices still to come. -/
structure Schedule where
  net : Network
  choices : List Choice

namespace Network

/-- A step of the server. -/
def serve (net : Network) : Choice → Option Network
  | .execute execution =>
      if execution.request ∈ net.requests ∧ execution.reply.WellFormed then
        some { net with executed := execution :: net.executed }
      else
        none
  | .respond execution cut =>
      if execution ∈ net.executed ∧ cut.record = execution.message ∧ cut.Short then
        some { net with
          connection := { net.connection with
            undelivered := net.connection.undelivered ++ encodeRecord cut } }
      else
        none
  | _ => none

/-- The answer to a system call: the server moves until it is given. -/
def settle {α : Type} (answer : Network → Choice → Option (α × Network)) :
    List Choice → Network → Option (α × Schedule)
  | [], _ => none
  | choice :: choices, net =>
      match answer net choice with
      | some (value, net) => some (value, ⟨net, choices⟩)
      | none =>
          match net.serve choice with
          | some net => settle answer choices net
          | none => none

section Answers

variable (guard : Network → Prop) [DecidablePred guard]

/-- A write on the connection, made only where the guard allows it. -/
def write (data : Bytes) (net : Network) :
    Choice → Option (Except (Nat × IoErrorKind) Unit × Network)
  | .done =>
      if guard net then
        some (.ok (), { net with
          connection := { net.connection with written := net.connection.written ++ data } })
      else
        none
  | .failed written kind =>
      if guard net then
        some (.error (written, kind), { net with
          connection := { net.connection with
            written := net.connection.written ++ data.take written
            torn := net.connection.torn || (0 < written && written < data.length) } })
      else
        none
  | _ => none

/-- A datagram that is sent may arrive, at any time and any number of times. -/
def send (datagram : Bytes) (net : Network) : Choice → Option (Except IoErrorKind Unit × Network)
  | .done => some (.ok (), { net with arrived := net.arrived ++ [datagram] })
  | .failed _ kind => some (.error kind, net)
  | _ => none

/-- A read delivers some of the bytes the server has sent on the connection; no
bytes at all mean that it was closed. -/
def read (net : Network) : Choice → Option (Arrival × Network)
  | .arrive (.data bytes) =>
      if bytes.length ≤ readLimit ∧ bytes <+: net.connection.undelivered then
        some (.data bytes, { net with
          connection := { net.connection with
            delivered := net.connection.delivered ++ bytes
            undelivered := net.connection.undelivered.drop bytes.length } })
      else
        none
  | .arrive arrival => some (arrival, net)
  | _ => none

/-- A datagram that arrives is the reply of an execution. -/
def recv (net : Network) : Choice → Option (Arrival × Network)
  | .arrive (.data bytes) =>
      if bytes.length < datagramLimit ∧ net.Replied bytes then
        some (.data bytes, net)
      else
        none
  | .arrive arrival => some (arrival, net)
  | _ => none

/-- A new connection; the server keeps what it received on the old one. -/
def connect (net : Network) : Choice → Option (Except IoErrorKind Unit × Network)
  | .done => some (.ok (), { net with arrived := net.requests, connection := .fresh })
  | .failed _ kind => some (.error kind, net)
  | _ => none

end Answers

theorem settle_of_serve {α : Type} {answer : Network → Choice → Option (α × Network)}
    {choice : Choice} {choices : List Choice} {net after : Network}
    (busy : answer net choice = none) (served : net.serve choice = some after) :
    settle answer (choice :: choices) net = settle answer choices after := by
  simp only [settle, busy, served]

theorem settle_of_answer {α : Type} {answer : Network → Choice → Option (α × Network)}
    {choice : Choice} {choices : List Choice} {net after : Network} {value : α}
    (given : answer net choice = some (value, after)) :
    settle answer (choice :: choices) net = some (value, ⟨after, choices⟩) := by
  simp only [settle, given]

theorem settle_shortens {α : Type} {answer : Network → Choice → Option (α × Network)}
    {choices : List Choice} {net : Network} {value : α} {next : Schedule}
    (answered : settle answer choices net = some (value, next)) :
    next.choices.length < choices.length := by
  induction choices generalizing net with
  | nil => cases answered
  | cons choice choices ih =>
      simp only [settle] at answered
      split at answered
      · cases answered
        exact Nat.lt_succ_self _
      · split at answered
        · exact Nat.lt_trans (ih answered) (Nat.lt_succ_self _)
        · cases answered

/-- What every step of the server keeps holds when the answer is given. -/
theorem settle_spec {α : Type} {answer : Network → Choice → Option (α × Network)}
    {choices : List Choice} {net : Network} {value : α} {next : Schedule}
    {keeps : Network → Prop}
    (served : ∀ net choice after, keeps net → net.serve choice = some after → keeps after)
    (answered : settle answer choices net = some (value, next)) (holds : keeps net) :
    ∃ mid choice, keeps mid ∧ answer mid choice = some (value, next.net) := by
  induction choices generalizing net with
  | nil => cases answered
  | cons choice choices ih =>
      simp only [settle] at answered
      split at answered
      · rename_i given
        cases answered
        exact ⟨net, choice, holds, given⟩
      · split at answered
        · rename_i after step
          exact ih answered (served net choice after holds step)
        · cases answered

/-- A write puts all of the data on the connection, or fails after some of it. -/
theorem write_cases {guard : Network → Prop} [DecidablePred guard] {data : Bytes}
    {net after : Network} {choice : Choice} {result : Except (Nat × IoErrorKind) Unit}
    (answered : net.write guard data choice = some (result, after)) :
    guard net ∧ ∃ count, after = { net with
      connection := { net.connection with
        written := net.connection.written ++ data.take count
        torn := net.connection.torn || (0 < count && count < data.length) } } := by
  rcases choice with _ | _ | _ | ⟨written, kind⟩ | _ <;>
    simp only [write, reduceCtorEq] at answered
  · split at answered
    · rename_i allowed
      cases answered
      exact ⟨allowed, data.length, by simp⟩
    · cases answered
  · split at answered
    · rename_i allowed
      cases answered
      exact ⟨allowed, written, rfl⟩
    · cases answered

/-- A datagram is sent, or nothing is. -/
theorem send_cases {datagram : Bytes} {net after : Network} {choice : Choice}
    {result : Except IoErrorKind Unit}
    (answered : net.send datagram choice = some (result, after)) :
    after = { net with arrived := net.arrived ++ [datagram] } ∨ after = net := by
  rcases choice with _ | _ | _ | _ | _ <;> simp only [send, reduceCtorEq] at answered <;>
    cases answered
  · exact .inl rfl
  · exact .inr rfl

/-- A connection is replaced, or kept. -/
theorem connect_cases {net after : Network} {choice : Choice} {result : Except IoErrorKind Unit}
    (answered : net.connect choice = some (result, after)) :
    result = .ok () ∧ after = { net with arrived := net.requests, connection := .fresh } ∨
      (∃ kind, result = .error kind) ∧ after = net := by
  rcases choice with _ | _ | _ | _ | _ <;> simp only [connect, reduceCtorEq] at answered <;>
    cases answered
  · exact .inl ⟨rfl, rfl⟩
  · exact .inr ⟨⟨_, rfl⟩, rfl⟩

/-- What a read can do: deliver bytes of the stream, or leave it as it is. -/
theorem read_cases {net after : Network} {choice : Choice} {arrival : Arrival}
    (answered : net.read choice = some (arrival, after)) :
    (∃ bytes, arrival = .data bytes ∧ bytes.length ≤ readLimit ∧
        bytes <+: net.connection.undelivered ∧
        after = { net with
          connection := { net.connection with
            delivered := net.connection.delivered ++ bytes
            undelivered := net.connection.undelivered.drop bytes.length } }) ∨
      (∀ bytes, arrival ≠ .data bytes) ∧ after = net := by
  rcases choice with _ | _ | _ | _ | _ | bytes | kind <;> simp only [read, reduceCtorEq] at answered
  · cases answered
    exact .inr ⟨fun _ same => (nomatch same), rfl⟩
  · split at answered
    · rename_i legal
      cases answered
      exact .inl ⟨bytes, rfl, legal.1, legal.2, rfl⟩
    · cases answered
  · cases answered
    exact .inr ⟨fun _ same => (nomatch same), rfl⟩

theorem read_of_prefix {net : Network} {bytes : Bytes} (short : bytes.length ≤ readLimit)
    (sent : bytes <+: net.connection.undelivered) :
    net.read (.arrive (.data bytes)) = some (.data bytes, { net with
      connection := { net.connection with
        delivered := net.connection.delivered ++ bytes
        undelivered := net.connection.undelivered.drop bytes.length } }) :=
  if_pos ⟨short, sent⟩

/-- What a datagram read can do: deliver a reply, or nothing. -/
theorem recv_cases {net after : Network} {choice : Choice} {arrival : Arrival}
    (answered : net.recv choice = some (arrival, after)) :
    after = net ∧ ∀ bytes, arrival = .data bytes →
      bytes.length < datagramLimit ∧ net.Replied bytes := by
  rcases choice with _ | _ | _ | _ | _ | bytes | kind <;> simp only [recv, reduceCtorEq] at answered
  · cases answered
    exact ⟨rfl, fun _ same => (nomatch same)⟩
  · split at answered
    · rename_i legal
      cases answered
      refine ⟨rfl, fun _ same => ?_⟩
      cases same
      exact legal
    · cases answered
  · cases answered
    exact ⟨rfl, fun _ same => (nomatch same)⟩

end Network

/-- The network as the environment of a client, with a guard on its writes. -/
def network (guard : Network → Prop) [DecidablePred guard] : Env Schedule where
  write data schedule := Network.settle (Network.write guard data) schedule.choices schedule.net
  send datagram schedule := Network.settle (Network.send datagram) schedule.choices schedule.net
  read schedule := Network.settle Network.read schedule.choices schedule.net
  recv schedule := Network.settle Network.recv schedule.choices schedule.net
  connect schedule := Network.settle Network.connect schedule.choices schedule.net
  budget schedule := schedule.choices.length
  read_lt := Network.settle_shortens
  recv_lt := Network.settle_shortens
  read_le answered := by
    obtain ⟨mid, choice, -, given⟩ := @Network.settle_spec _ _ _ _ _ _ (fun _ => True)
      (fun _ _ _ _ _ => trivial) answered trivial
    rcases Network.read_cases given with ⟨_, same, limited, -⟩ | ⟨other, -⟩
    · cases same
      exact limited
    · exact absurd rfl (other _)

end LibNfs.Rpc
