import LibNfs.Rpc.Client

/-! # Matching replies to calls

The outcome of an attempt as a function of the messages it receives, pending
ones included (`attemptCall_outcome`). The documented rule is that a reply with
another xid is ignored; `attempt_call` parses the whole message before it looks
at the xid, so the rule holds exactly as long as the messages it should ignore
parse.
-/

namespace LibNfs.Rpc

open Xdr (XdrError beU32)

namespace RpcClient

variable {ω : Type} {α : Type}

/-- Successive calls of `recv_message` give these messages. -/
inductive Delivers (env : Env ω) : World ω → List Bytes → World ω → Prop where
  | nil (world : World ω) : Delivers env world [] world
  | cons {world mid final : World ω} {message : Bytes} {messages : List Bytes} :
      (recvMessage env).run world = some (.ok message, mid) →
      Delivers env mid messages final →
      Delivers env world (message :: messages) final

/-- No further message arrives: `recv_message` fails, or is still waiting. -/
def Ends (env : Env ω) (world : World ω) : Option RpcError → Prop
  | none => (recvMessage env).run world = none
  | some error => ∃ next, (recvMessage env).run world = some (.error error, next)

/-- The messages an attempt receives once it has sent its own, and how they end. -/
def Receives (env : Env ω) (message : Bytes) (world : World ω) (messages : List Bytes)
    (ending : Option RpcError) : Prop :=
  ∃ sent final, (send env message).run world = some (.ok (), sent) ∧
    Delivers env sent messages final ∧ Ends env final ending

/-- The outcome of an attempt; `none` while it waits. -/
def attemptOutcome (env : Env ω) (decode : Bytes → Except XdrError (α × Bytes)) (xid : UInt32)
    (message : Bytes) (world : World ω) : Option (Except RpcError α) :=
  ((attemptCall env decode xid message).run world).map (·.1)

section Scan

variable (decode : Bytes → Except XdrError (α × Bytes)) (xid : UInt32)

/-- The first message that is not dropped decides. -/
def scan : List Bytes → Option (Except RpcError α)
  | [] => none
  | message :: messages =>
      match verdict decode xid message with
      | .error error => some (.error error)
      | .ok (some value) => some (.ok value)
      | .ok none => scan messages

/-- The waiting loop goes through the messages until one decides. -/
theorem wait_of_delivers {env : Env ω} {world final : World ω} {messages : List Bytes}
    (delivers : Delivers env world messages final) :
    ((Prog.loop (attemptTurn env decode xid) (supply env)).run world).map (·.1) =
      (scan decode xid messages).orElse fun _ =>
        ((Prog.loop (attemptTurn env decode xid) (supply env)).run final).map (·.1) := by
  induction delivers with
  | nil world => rfl
  | @cons world mid final message messages received _ ih =>
      have turn : (attemptTurn env decode xid).run world =
          some (verdict decode xid message, mid) :=
        Prog.bind_of_ok received
      rw [Prog.loop_eq (attemptTurn_decreases env decode xid), turn]
      rcases decided : verdict decode xid message with error | _ | value
      · simp only [scan, decided, Option.map_some]
        rfl
      · simp only [scan, decided]
        exact ih
      · simp only [scan, decided, Option.map_some]
        rfl

theorem attemptCall_outcome {env : Env ω} {message : Bytes} {world : World ω}
    {messages : List Bytes} {ending : Option RpcError}
    (receives : Receives env message world messages ending) :
    attemptOutcome env decode xid message world =
      (scan decode xid messages).orElse fun _ => ending.map .error := by
  obtain ⟨sent, final, done, delivers, ends⟩ := receives
  rw [attemptOutcome, attemptCall, Prog.bind_of_ok done, wait_of_delivers decode xid delivers]
  congr 1
  funext _
  rw [Prog.loop_eq (attemptTurn_decreases env decode xid)]
  cases ending with
  | none =>
      have turn : (attemptTurn env decode xid).run final = none := Prog.bind_of_waiting ends
      rw [turn]
      rfl
  | some error =>
      obtain ⟨next, failed⟩ := ends
      have turn : (attemptTurn env decode xid).run final = some (.error error, next) :=
        Prog.bind_of_error failed
      rw [turn]
      rfl

/-- A message is dropped exactly when it parses as a reply to another call. -/
theorem verdict_eq_none_iff (message : Bytes) :
    verdict decode xid message = .ok none ↔
      leadingXid message ≠ xid ∧ ∃ reply, parseReply message = .ok reply := by
  rcases parsed : parseReply message with error | ⟨replyXid, result⟩
  · simp [verdict, parsed, bind, Except.bind]
  · rw [leadingXid_of_parsed parsed]
    by_cases own : replyXid = xid
    · rcases result with error | body
      · simp [verdict, parsed, own, bind, Except.bind]
      · rcases value : decode body with error | value <;>
          simp [verdict, parsed, own, value, bind, Except.bind, pure, Except.pure]
    · simp [verdict, parsed, own, bind, Except.bind, pure, Except.pure]

theorem scan_append_of_none {front : List Bytes} (waiting : scan decode xid front = none)
    (messages : List Bytes) : scan decode xid (front ++ messages) = scan decode xid messages := by
  induction front with
  | nil => rfl
  | cons message front ih =>
      rcases decided : verdict decode xid message with error | _ | value <;>
        simp only [scan, decided, List.cons_append, reduceCtorEq] at waiting ⊢
      exact ih waiting

/-- An attempt is still waiting exactly when it has dropped every message. -/
theorem scan_eq_none_iff (messages : List Bytes) :
    scan decode xid messages = none ↔
      ∀ message ∈ messages, verdict decode xid message = .ok none := by
  induction messages with
  | nil => simp [scan]
  | cons message messages ih =>
      rcases decided : verdict decode xid message with error | _ | value <;>
        simp [scan, decided, ih]

/-- Every foreign message ahead of the first own one parses as a reply. -/
def ForeignParses (messages : List Bytes) : Prop :=
  ∀ before foreign after, messages = before ++ foreign :: after →
    leadingXid foreign ≠ xid → (∀ message ∈ before, leadingXid message ≠ xid) →
      ∃ reply, parseReply foreign = .ok reply

/-- Foreign messages are ignored: without them the outcome of the attempt is the
same, and none of them ends an attempt that is waiting. -/
structure IgnoresForeign (messages : List Bytes) : Prop where
  same : ∀ {ω ω' : Type} (env : Env ω) (env' : Env ω') (call : Bytes) (world : World ω)
    (world' : World ω') (ending : Option RpcError),
    Receives env call world messages ending →
    Receives env' call world' (messages.filter (leadingXid · = xid)) ending →
      attemptOutcome env decode xid call world = attemptOutcome env' decode xid call world'
  inert : ∀ {ω ω' : Type} (env : Env ω) (env' : Env ω') (call : Bytes) (world : World ω)
    (world' : World ω') (before : List Bytes) (foreign : Bytes) (after : List Bytes),
    messages = before ++ foreign :: after → leadingXid foreign ≠ xid →
    Receives env call world before none →
    attemptOutcome env decode xid call world = none →
    Receives env' call world' (before ++ [foreign]) none →
      attemptOutcome env' decode xid call world' = none

theorem scan_filter_of_foreignParses {messages : List Bytes}
    (parses : ForeignParses xid messages) :
    scan decode xid (messages.filter (leadingXid · = xid)) = scan decode xid messages := by
  induction messages with
  | nil => rfl
  | cons message messages ih =>
      by_cases own : leadingXid message = xid
      · rw [List.filter_cons_of_pos (by simpa using own)]
        rcases decided : verdict decode xid message with error | _ | value
        · simp only [scan, decided]
        · exact absurd own ((verdict_eq_none_iff decode xid message).mp decided).1
        · simp only [scan, decided]
      · obtain dropped : verdict decode xid message = .ok none :=
          (verdict_eq_none_iff decode xid message).mpr
            ⟨own, parses [] message messages rfl own (by simp)⟩
        rw [List.filter_cons_of_neg (by simpa using own), scan, dropped]
        refine ih fun before foreign after split other earlier => ?_
        refine parses (message :: before) foreign after (by rw [split]; rfl) other ?_
        simpa [own] using earlier

/-- While the foreign messages parse, they are ignored. -/
theorem ignoresForeign_of_parses {messages : List Bytes} (parses : ForeignParses xid messages) :
    IgnoresForeign decode xid messages where
  same env env' call world world' ending all own := by
    rw [attemptCall_outcome decode xid all, attemptCall_outcome decode xid own,
      scan_filter_of_foreignParses decode xid parses]
  inert env env' call world world' before foreign after split other waits waiting more := by
    rw [attemptCall_outcome decode xid waits] at waiting
    rw [attemptCall_outcome decode xid more]
    have dropped : scan decode xid before = none := by
      simpa using waiting
    have earlier : ∀ message ∈ before, leadingXid message ≠ xid := fun message member =>
      ((verdict_eq_none_iff decode xid message).mp
        ((scan_eq_none_iff decode xid before).mp dropped message member)).1
    have last : verdict decode xid foreign = .ok none :=
      (verdict_eq_none_iff decode xid foreign).mpr
        ⟨other, parses before foreign after split other earlier⟩
    rw [scan_append_of_none decode xid dropped, scan, last]
    rfl

/-- Every message is sent and none arrives. -/
def silent : Env Unit where
  write _ _ := some (.ok (), ())
  send _ _ := some (.ok (), ())
  read _ := none
  recv _ := none
  connect _ := none
  budget _ := 0
  read_lt absurd := nomatch absurd
  recv_lt absurd := nomatch absurd
  read_le absurd := nomatch absurd

/-- A client that has only the messages earlier calls left pending. -/
def queued (messages : List Bytes) : World Unit where
  client := { RpcClient.connect .udp .none 0 with pending := messages }
  env := ()

theorem receives_queued (call : Bytes) (messages : List Bytes) :
    Receives silent call (queued messages) messages none := by
  refine ⟨queued messages, queued [], rfl, ?_, rfl⟩
  induction messages with
  | nil => exact .nil _
  | cons message messages ih => exact .cons rfl ih

/-- Foreign messages that are ignored parse. -/
theorem parses_of_ignoresForeign {messages : List Bytes}
    (ignores : IgnoresForeign decode xid messages) : ForeignParses xid messages := by
  intro before foreign after split other earlier
  induction size : before.length using Nat.strongRecOn generalizing before foreign after with
  | ind size ih =>
      -- the messages before it parse too, so the attempt is waiting when it comes
      have dropped : scan decode xid before = none := by
        refine (scan_eq_none_iff decode xid before).mpr fun message member => ?_
        obtain ⟨front, back, rfl⟩ := List.append_of_mem member
        refine (verdict_eq_none_iff decode xid message).mpr ⟨earlier message member, ?_⟩
        refine ih front.length (by rw [← size, List.length_append]; simp) front message
          (back ++ foreign :: after) ?_ (earlier message member) ?_ rfl
        · rw [split, List.append_assoc, List.cons_append]
        · exact fun one inside => earlier one (List.mem_append_left _ inside)
      have waiting : attemptOutcome silent decode xid [] (queued before) = none := by
        rw [attemptCall_outcome decode xid (receives_queued [] before), dropped]
        rfl
      have still := ignores.inert silent silent [] (queued before) (queued (before ++ [foreign]))
        before foreign after split other (receives_queued _ _) waiting (receives_queued _ _)
      rw [attemptCall_outcome decode xid (receives_queued [] _),
        scan_append_of_none decode xid dropped] at still
      have last : scan decode xid [foreign] = none := by
        simpa using still
      exact ((verdict_eq_none_iff decode xid foreign).mp
        ((scan_eq_none_iff decode xid [foreign]).mp last foreign List.mem_cons_self)).2

/-- Foreign messages are ignored exactly when those ahead of the first own one
parse as replies. -/
theorem ignoresForeign_iff (messages : List Bytes) :
    IgnoresForeign decode xid messages ↔ ForeignParses xid messages :=
  ⟨parses_of_ignoresForeign decode xid, ignoresForeign_of_parses decode xid⟩

end Scan

/-- A call of another program, under a foreign xid, ahead of the reply to the
call with xid 5: the attempt fails instead of returning the reply. -/
theorem foreign_call_not_ignored :
    ¬ ∀ messages : List Bytes, (∀ message ∈ messages, 4 ≤ message.length) →
      IgnoresForeign Xdr.decodeU32 5 messages := by
  intro all
  have parses := parses_of_ignoresForeign _ _ (all
    [beU32 7 ++ beU32 msgCall, Reply.encode 5 (.accepted 0 [] (.success (beU32 9)))] (by decide))
  obtain ⟨reply, parsed⟩ := parses [] _ _ rfl (by decide) (by simp)
  have malformed : parseReply (beU32 7 ++ beU32 msgCall) = .error .malformedReply := by decide
  rw [malformed] at parsed
  cases parsed

end RpcClient

end LibNfs.Rpc
