import LibNfs.Proto.Results
import LibNfs.Proto.Session

/-! # A server of NFSv4 operations

A server that executes the operations of a request one after the other, each with
a result of its type or a failure, which ends the request. On the wire it reads
requests by the grammar and writes replies by it. For the client of the protocol
that server is a function from operations to results: `converse` is what a request
comes to, and `run` and `request` do what `converse` does.
-/

namespace LibNfs.Proto

open Coding Reading
open Xdr (XdrError XdrEncode XdrDecode beU32 beU64)

/-- What a server may add to the result of an operation: a delegation, to `OPEN`. -/
def ArgOp.Extra : ArgOp → Type
  | .open .. => Option Delegation
  | .access .. | .close .. | .commit .. | .create .. | .getattr .. | .getfh | .link .. | .lock ..
  | .lockt .. | .locku .. | .lookup .. | .openConfirm .. | .putfh .. | .putrootfh | .read ..
  | .readdir .. | .readlink | .remove .. | .rename .. | .renew .. | .savefh | .setattr ..
  | .write .. | .sequence .. => Unit

/-- Nothing is added. -/
def ArgOp.noExtra : (op : ArgOp) → op.Extra
  | .open .. => (none : Option Delegation)
  | .access .. | .close .. | .commit .. | .create .. | .getattr .. | .getfh | .link .. | .lock ..
  | .lockt .. | .locku .. | .lookup .. | .openConfirm .. | .putfh .. | .putrootfh | .read ..
  | .readdir .. | .readlink | .remove .. | .rename .. | .renew .. | .savefh | .setattr ..
  | .write .. | .sequence .. => ()

/-- An operation that succeeded. -/
structure Success (op : ArgOp) where
  result : op.Result
  extra : op.Extra

/-- `open_delegation4`. -/
def delegationCode : Option Delegation → Bytes
  | none => beU32 0
  | some delegation => beU32 delegation.kind ++ delegation.data

/-- The result of an operation on the wire. -/
def Success.code : {op : ArgOp} → Success op → Bytes
  | .open .., ⟨(opened : OpenRes), delegation⟩ =>
      resultHeader opOpen nfs4Ok ++ (opened.stateid.code ++ (opened.cinfo.code ++
        (beU32 opened.rflags ++ (bitmapCode opened.attrset.1 ++ delegationCode delegation))))
  | op, ⟨result, _⟩ => op.res result

/-- The results of some operations. -/
def Results : List ArgOp → Type
  | [] => Unit
  | op :: ops => Success op × Results ops

def Results.code : {ops : List ArgOp} → Results ops → Bytes
  | [], _ => []
  | _ :: _, (first, others) => first.code ++ Results.code others

namespace Results

variable {op : ArgOp} {ops : List ArgOp}

def first (results : Results (op :: ops)) : Success op :=
  Prod.fst results

def rest (results : Results (op :: ops)) : Results ops :=
  Prod.snd results

/-- What the operation after the first one returned. -/
def second {other : ArgOp} (results : Results (op :: other :: ops)) : Success other :=
  results.rest.first

@[simp] theorem code_nil (results : Results []) : results.code = [] := rfl

@[simp] theorem code_cons (results : Results (op :: ops)) :
    results.code = results.first.code ++ results.rest.code := rfl

end Results

/-- A request that failed: the status of the operation it failed at, and the
results up to that one. -/
structure Refused where
  failure : Failure
  count : Nat
  results : Bytes

/-- The request failed after an operation that succeeded. -/
def Refused.after {op : ArgOp} (first : Success op) (refused : Refused) : Refused :=
  ⟨refused.failure, refused.count + 1, first.code ++ refused.results⟩

/-- `NFS4ERR_NOTSUPP`. -/
def notSupported : Failure :=
  ⟨10004, by decide⟩

/-- A server of operations: what it makes of a request as a whole, and of each
operation. -/
structure OpServer (S : Type) where
  receive : CompoundArgs → S → S
  exec : (op : ArgOp) → Prog S Failure (Success op)

namespace OpServer

variable {S : Type} (server : OpServer S)

/-- Executes an operation of a request. -/
def execOp (op : ArgOp) : Prog S Refused (Success op) :=
  Prog.within id (fun next _ => next)
    (fun failure => ⟨failure, 1, resultHeader op.opnum failure.status⟩) (server.exec op)

/-- Executes operations up to the first that fails. -/
def execAll : (ops : List ArgOp) → Prog S Refused (Results ops)
  | [] => return ()
  | op :: ops => do
      let first ← server.execOp op
      let others ← Prog.within id (fun next _ => next) (Refused.after first) (execAll ops)
      return (first, others)

def reply (args : CompoundArgs) : Except Refused (Results args.ops) → CompoundRes
  | .ok results => ⟨nfs4Ok, args.tag, UInt32.ofNat args.ops.length, results.code⟩
  | .error refused =>
      ⟨refused.failure.status, args.tag, UInt32.ofNat refused.count, refused.results⟩

/-- Reads a request and answers it. -/
def serve (request : Bytes) : Prog S Rpc.RpcError Bytes :=
  match CompoundArgs.parse request with
  | .error _ => Prog.throw .garbageArgs
  | .ok args => do
      Prog.modify (server.receive args)
      let outcome ← Prog.outcome (server.execAll args.ops)
      return (reply args outcome).encode

/-- The server as a transport that delivers its replies intact. -/
def transport : Transport S where
  call prog vers proc args :=
    match args with
    | .error error => Prog.throw (.xdr error)
    | .ok request =>
        if prog = program ∧ vers = version4 ∧ proc = compoundProc then
          server.serve request
        else
          Prog.throw .procUnavail

/-- What some operations come to, whatever stands on the wire. -/
def perform : (ops : List ArgOp) → Prog S Failure (Results ops)
  | [] => return ()
  | op :: ops => do
      let first ← server.exec op
      let others ← perform ops
      return (first, others)

theorem execAll_eq (ops : List ArgOp) (state : S) :
    (server.perform ops).run state = ((server.execAll ops).run state).map
      fun (outcome, next) => (outcome.mapError Refused.failure, next) := by
  induction ops generalizing state with
  | nil => rfl
  | cons op ops ih =>
      simp only [perform, execAll, execOp, Prog.bind_apply, Prog.within, id_eq]
      rcases (server.exec op).run state with _ | ⟨failure | first, mid⟩
      · rfl
      · rfl
      · simp only [Option.map_some, Except.mapError, ih]
        rcases (server.execAll ops).run mid with _ | ⟨refused | others, next⟩ <;> rfl

/-- Operations one after the other; the first that fails ends the request. -/
theorem perform_cons_ok {op : ArgOp} {ops : List ArgOp} {state mid final : S} {first : Success op}
    {others : Results ops} (begun : (server.exec op).run state = some (.ok first, mid))
    (rest : (server.perform ops).run mid = some (.ok others, final)) :
    (server.perform (op :: ops)).run state = some (.ok (first, others), final) :=
  (Prog.bind_of_ok begun).trans (Prog.bind_of_ok rest)

theorem perform_cons_error {op : ArgOp} {ops : List ArgOp} {state mid final : S}
    {first : Success op} {failure : Failure}
    (begun : (server.exec op).run state = some (.ok first, mid))
    (rest : (server.perform ops).run mid = some (.error failure, final)) :
    (server.perform (op :: ops)).run state = some (.error failure, final) :=
  (Prog.bind_of_ok begun).trans (Prog.bind_of_error rest)

theorem perform_fails {op : ArgOp} {ops : List ArgOp} {state final : S} {failure : Failure}
    (failed : (server.exec op).run state = some (.error failure, final)) :
    (server.perform (op :: ops)).run state = some (.error failure, final) :=
  Prog.bind_of_error failed

/-- A server that executes the operations of a request and nothing else, in every
session. -/
structure Attends (server : OpServer S) : Prop where
  receive : ∀ args state, server.receive args state = state
  sequence : ∀ sessionid seqid slotid highest cache state, ∃ success,
    (server.exec (.sequence sessionid seqid slotid highest cache)).run state =
      some (.ok success, state)

theorem perform_nil_bind (ops : List ArgOp) (state : S) :
    (do
      let _ ← server.perform []
      server.perform ops).run state = (server.perform ops).run state := rfl

theorem perform_single_bind (op : ArgOp) (ops : List ArgOp) (state : S) :
    (do
      let _ ← server.perform [op]
      server.perform ops).run state =
      (do
        let _ ← server.exec op
        server.perform ops).run state := by
  rw [Prog.bind_apply, perform, Prog.bind_apply, Prog.bind_apply]
  rcases (server.exec op).run state with _ | ⟨failure | first, mid⟩ <;> rfl

end OpServer

namespace Nfs4

section Sending

variable {τ : Type}

/-- A client after its handshake. -/
structure Established (nfs : Nfs4 τ) : Prop where
  version : nfs.minor = 0 ∨ nfs.minor = 1 ∧ nfs.sessionid.isSome
  named : ∃ pid nanos, nfs.owner = uniqueOwner pid nanos

/-- The operations that stand first in a request: none in v4.0, `SEQUENCE` in v4.1. -/
def leading (nfs : Nfs4 τ) : List ArgOp :=
  if nfs.minor = 0 then []
  else nfs.sessionid.toList.map fun sessionid => .sequence sessionid nfs.seqId 0 0 false

/-- The request for some operations. -/
def intends (nfs : Nfs4 τ) (ops : List ArgOp) : CompoundArgs :=
  ⟨"", nfs.minor, nfs.leading ++ ops⟩

/-- The number of the next request on the slot. -/
def nextSeqId (nfs : Nfs4 τ) : UInt32 :=
  if nfs.minor = 0 then nfs.seqId else nfs.seqId + 1

/-- The client after a request that left the transport in some state. -/
def sentTo (nfs : Nfs4 τ) (rpc : τ) : Nfs4 τ :=
  { nfs with rpc := rpc, seqId := nfs.nextSeqId }

theorem Established.sentTo {nfs : Nfs4 τ} (established : nfs.Established) (rpc : τ) :
    (nfs.sentTo rpc).Established :=
  ⟨established.version, established.named⟩

end Sending

section Conversing

variable {S : Type} (server : OpServer S)

/-- One attempt of a request. -/
def answered (ops : List ArgOp) : Prog (Nfs4 S) Failure (Results ops) :=
  ⟨fun nfs =>
    ((do
      let _ ← server.perform nfs.leading
      server.perform ops).run (server.receive (nfs.intends ops) nfs.rpc)).map
      fun (outcome, rpc) => (outcome, nfs.sentTo rpc)⟩

/-- One turn of the attempts; `again` is what follows a transient failure. -/
def converseTurn (ops : List ArgOp) (again : UInt32 → Prog (Nfs4 S) ProtoError (Results ops)) :
    Prog (Nfs4 S) ProtoError (Results ops) := do
  match ← Prog.outcome (answered server ops) with
  | .ok results => return results
  | .error failure =>
      if failure.status = nfs4errGrace ∨ failure.status = nfs4errDelay then
        again failure.status
      else
        Prog.throw (.nfs4 failure.status)

/-- The attempts of a request: one, and `resends` more at most. -/
def conversation (ops : List ArgOp) : Nat → Prog (Nfs4 S) ProtoError (Results ops)
  | 0 => converseTurn server ops fun code => Prog.throw (.nfs4 code)
  | resends + 1 => converseTurn server ops fun _ => conversation ops resends

/-- What a request for some operations comes to. -/
def converse (ops : List ArgOp) : Prog (Nfs4 S) ProtoError (Results ops) :=
  conversation server ops maxResends

end Conversing

variable {S : Type} {server : OpServer S} {nfs : Nfs4 S} {c : Compound} {ops : List ArgOp}

open CompoundReader

/-- What the client assembles is read by the server as what it intends. -/
theorem assemble_ok (established : nfs.Established) (holds : c.Holds ops)
    (small : ops.length + 1 < 2 ^ 32) :
    ∃ args, (assemble c : Prog (Nfs4 S) ProtoError Bytes).run nfs =
        some (.ok args, { nfs with seqId := nfs.nextSeqId }) ∧
      CompoundArgs.parse args = .ok (nfs.intends ops) := by
  rcases established.version with zero | ⟨one, session⟩
  · obtain ⟨args, built, parsed⟩ := holds.parse (Nat.lt_of_succ_lt small) 0
    refine ⟨args, ?_, ?_⟩
    · simp only [assemble, Prog.get, Prog.ofExcept, Prog.bind_apply, zero, built, ↓reduceIte,
        liftXdr_ok, nextSeqId]
      rw [← zero]
    · simpa [intends, leading, zero] using parsed
  · obtain ⟨sessionid, given⟩ := Option.isSome_iff_exists.mp session
    obtain ⟨args, built, parsed⟩ := holds.parse_sequenced small 1 sessionid nfs.seqId
    refine ⟨args, ?_, ?_⟩
    · simp [assemble, Prog.get, Prog.ofExcept, Prog.modify, Prog.bind_apply, one, given, built,
        nextSeqId]
    · simpa [intends, leading, one, given] using parsed

/-- What an attempt makes of the outcome of its operations. -/
def readerOf {ops : List ArgOp} : Except Refused (Results ops) → Except ProtoError CompoundReader
  | .ok results => .ok ⟨results.code⟩
  | .error refused => .error (.nfs4 refused.failure.status)

theorem parse_reply {args : CompoundArgs} (tag : args.tag = "")
    (outcome : Except Refused (Results args.ops)) :
    CompoundReader.parse (OpServer.reply args outcome).encode = readerOf outcome := by
  have empty : (Xdr.asBytes args.tag).length < 2 ^ 32 := by
    rw [tag]
    decide
  cases outcome with
  | ok results => exact parse_encode empty
  | error refused =>
      rw [@parse_encode (OpServer.reply args (.error refused)) empty]
      exact if_neg refused.failure.bad

/-- An attempt reaches the server, which executes the operations it was built from. -/
theorem attempt_eq {lead : List ArgOp} (leads : nfs.leading = lead) (established : nfs.Established)
    (holds : c.Holds ops) (small : ops.length + 1 < 2 ^ 32) :
    (attempt server.transport c).run nfs =
      ((server.execAll (lead ++ ops)).run (server.receive (nfs.intends ops) nfs.rpc)).map
        fun (outcome, rpc) => (.ok (readerOf outcome), nfs.sentTo rpc) := by
  subst leads
  obtain ⟨args, assembled, parsed⟩ := assemble_ok established holds small
  have delivered := @parse_reply (nfs.intends ops) rfl
  simp only [attempt, exchange, Prog.bind_apply, assembled, call, Prog.within, OpServer.transport,
    and_self, ↓reduceIte, OpServer.serve, parsed, Prog.modify, Prog.outcome]
  change _ = Option.map _ ((server.execAll (nfs.intends ops).ops).run _)
  rcases (server.execAll (nfs.intends ops).ops).run (server.receive (nfs.intends ops) nfs.rpc) with
    _ | ⟨outcome, rpc⟩
  · rfl
  · simp only [Prog.pure_apply, Option.map_some, Except.mapError, delivered]
    rfl

theorem answered_eq {lead : List ArgOp} (leads : nfs.leading = lead) :
    (answered server ops).run nfs =
      ((do
        let _ ← server.perform lead
        server.perform ops).run (server.receive (nfs.intends ops) nfs.rpc)).map
        fun (outcome, rpc) => (outcome, nfs.sentTo rpc) := by
  subst leads
  rfl

/-- What an attempt comes to, given what the server made of its operations: they are
left to be read, once those that lead the request have been. -/
def Delivered (attempted : Option (Except ProtoError (Except ProtoError CompoundReader) × Nfs4 S)) :
    Option (Except Failure (Results ops) × Nfs4 S) → Prop
  | none => attempted = none
  | some (.error failure, next) => attempted = some (.ok (.error (.nfs4 failure.status)), next)
  | some (.ok results, next) =>
      ∃ reader, attempted = some (.ok (.ok reader), next) ∧
        (ownResults reader).run next = some (.ok ⟨results.code⟩, next)

theorem attempt_delivered (established : nfs.Established) (holds : c.Holds ops)
    (small : ops.length + 1 < 2 ^ 32) :
    Delivered ((attempt server.transport c).run nfs) ((answered server ops).run nfs) := by
  rcases established.version with zero | ⟨one, session⟩
  · have leads : nfs.leading = [] := by simp [leading, zero]
    rw [attempt_eq leads established holds small, answered_eq leads, OpServer.perform_nil_bind,
      OpServer.execAll_eq]
    simp only [List.nil_append]
    rcases (server.execAll ops).run (server.receive (nfs.intends ops) nfs.rpc) with
      _ | ⟨refused | results, rpc⟩
    · rfl
    · rfl
    · refine ⟨_, rfl, ?_⟩
      simp [ownResults, Prog.get, Prog.bind_apply, Prog.pure_apply, sentTo, zero]
  · obtain ⟨sessionid, given⟩ := Option.isSome_iff_exists.mp session
    have leads : nfs.leading = [.sequence sessionid nfs.seqId 0 0 false] := by
      simp [leading, one, given]
    rw [attempt_eq leads established holds small, answered_eq leads, OpServer.perform_single_bind]
    simp only [Prog.bind_apply, OpServer.execAll_eq, List.cons_append, List.nil_append,
      OpServer.execAll, OpServer.execOp, Prog.within, id_eq]
    rcases (server.exec (.sequence sessionid nfs.seqId 0 0 false)).run
      (server.receive (nfs.intends ops) nfs.rpc) with _ | ⟨failure | slot, mid⟩
    · rfl
    · rfl
    · simp only [Option.map_some, Except.mapError]
      rcases (server.execAll ops).run mid with _ | ⟨refused | results, rpc⟩
      · rfl
      · rfl
      · refine ⟨_, rfl, ?_⟩
        have skipped := takes_skipSequence slot.result sessionid nfs.seqId results.code
        have read : (skipSequence.run ⟨slot.code ++ results.code⟩ : Except ProtoError _) =
            .ok ((), ⟨results.code⟩) := skipped
        have later : (1 : UInt32) ≥ 1 := UInt32.le_refl 1
        simp only [ownResults, Prog.get, Prog.bind_apply, sentTo, one, later, ↓reduceIte]
        simp only [Results.code, read, Prog.ofExcept, Prog.pure_apply]

theorem Established.answered {outcome : Except Failure (Results ops)} {next : Nfs4 S}
    (established : nfs.Established)
    (ended : (Nfs4.answered server ops).run nfs = some (outcome, next)) : next.Established := by
  obtain ⟨⟨inner, rpc⟩, -, same⟩ := Option.map_eq_some_iff.mp ended
  cases same
  exact established.sentTo rpc

/-- A program whose value is what is left to be read of the results. -/
def unread (body : Prog (Nfs4 S) ProtoError (Results ops)) :
    Prog (Nfs4 S) ProtoError CompoundReader := do
  let results ← body
  return ⟨results.code⟩

theorem runTurn_eq {again : UInt32 → Prog (Nfs4 S) ProtoError CompoundReader}
    {again' : UInt32 → Prog (Nfs4 S) ProtoError (Results ops)} (holds : c.Holds ops)
    (small : ops.length + 1 < 2 ^ 32)
    (same : ∀ code (next : Nfs4 S), next.Established →
      (again code).run next = (unread (again' code)).run next)
    (established : nfs.Established) :
    (runTurn server.transport c again).run nfs =
      (unread (converseTurn server ops again')).run nfs := by
  have delivered := @attempt_delivered S server nfs c ops established holds small
  simp only [runTurn, unread, converseTurn, Prog.bind_apply, Prog.outcome]
  rcases ended : (answered server ops).run nfs with _ | ⟨failure | results, next⟩
  · rw [ended] at delivered
    rw [show (attempt server.transport c).run nfs = none from delivered]
    rfl
  · rw [ended] at delivered
    rw [show (attempt server.transport c).run nfs = _ from delivered]
    simp only [Option.map_some]
    split
    · exact same failure.status next (established.answered ended)
    · rfl
  · rw [ended] at delivered
    obtain ⟨reader, attempted, rest⟩ := delivered
    rw [attempted]
    exact rest

/-- Running a request is conversing with the server. -/
theorem run_eq (holds : c.Holds ops) (small : ops.length + 1 < 2 ^ 32)
    (established : nfs.Established) :
    (run server.transport c).run nfs = (unread (converse server ops)).run nfs := by
  suffices every : ∀ resends (next : Nfs4 S), next.Established →
      (attempts server.transport c resends).run next =
        (unread (conversation server ops resends)).run next from
    every maxResends nfs established
  intro resends
  induction resends with
  | zero => exact fun next => runTurn_eq holds small fun _ _ _ => rfl
  | succ resends ih => exact fun next => runTurn_eq holds small fun _ => ih

/-- A request that is built from some operations and read as `value` says. -/
theorem request_eq {α : Type} {built : Except XdrError Compound} {read : ReadM α}
    {value : Results ops → Except ProtoError α} (builds : Compound.Builds built ops)
    (small : ops.length + 1 < 2 ^ 32)
    (reads : ∀ results : Results ops, read.run' ⟨results.code⟩ = value results)
    (established : nfs.Established) :
    (request server.transport built read).run nfs =
      (do
        let results ← converse server ops
        Prog.ofExcept (value results)).run nfs := by
  obtain ⟨c, rfl, holds⟩ := builds
  rw [request, Prog.bind_of_ok rfl, Prog.bind_apply, run_eq holds small established, unread,
    Prog.bind_apply, Prog.bind_apply]
  rcases (converse server ops).run nfs with _ | ⟨error | results, next⟩
  · rfl
  · rfl
  · exact congrArg (fun outcome => some (outcome, next)) (reads results)

/-- An attempt on a server that attends is the execution of its operations. -/
theorem answered_run (attends : server.Attends) (established : nfs.Established) :
    (answered server ops).run nfs =
      ((server.perform ops).run nfs.rpc).map fun (outcome, rpc) => (outcome, nfs.sentTo rpc) := by
  rcases established.version with zero | ⟨one, session⟩
  · have leads : nfs.leading = [] := by simp [leading, zero]
    rw [answered_eq leads, OpServer.perform_nil_bind, attends.receive]
  · obtain ⟨sessionid, given⟩ := Option.isSome_iff_exists.mp session
    have leads : nfs.leading = [.sequence sessionid nfs.seqId 0 0 false] := by
      simp [leading, one, given]
    obtain ⟨success, led⟩ := attends.sequence sessionid nfs.seqId 0 0 false nfs.rpc
    rw [answered_eq leads, OpServer.perform_single_bind, attends.receive, Prog.bind_of_ok led]

theorem answered_of_attends (attends : server.Attends) (established : nfs.Established)
    {outcome : Except Failure (Results ops)} {rpc : S}
    (performed : (server.perform ops).run nfs.rpc = some (outcome, rpc)) :
    (answered server ops).run nfs = some (outcome, nfs.sentTo rpc) := by
  rw [answered_run attends established, performed]
  rfl

/-- A request whose first attempt succeeds. -/
theorem converse_of_ok {results : Results ops} {next : Nfs4 S}
    (ended : (answered server ops).run nfs = some (.ok results, next)) :
    (converse server ops).run nfs = some (.ok results, next) := by
  rw [converse, maxResends, conversation, converseTurn, Prog.bind_apply, Prog.outcome]
  simp only [ended, Option.map_some]
  rfl

/-- A request of two operations that succeed on a server that attends. -/
theorem converse_pair (attends : server.Attends) (established : nfs.Established)
    {first second : ArgOp} {mid final : S} {one : Success first} {two : Success second}
    (begun : (server.exec first).run nfs.rpc = some (.ok one, mid))
    (ended : (server.exec second).run mid = some (.ok two, final)) :
    (converse server [first, second]).run nfs = some (.ok (one, two, ()), nfs.sentTo final) :=
  converse_of_ok (answered_of_attends attends established
    (server.perform_cons_ok begun (server.perform_cons_ok ended rfl)))

/-- A request that fails as often as it is tried. -/
theorem converse_fails (attends : server.Attends) {holds : S → Prop} {failure : Failure}
    (failing : ∀ state, holds state → ∃ next,
      (server.perform ops).run state = some (.error failure, next) ∧ holds next)
    (established : nfs.Established) (before : holds nfs.rpc) :
    ∃ next, (converse server ops).run nfs = some (.error (.nfs4 failure.status), next) ∧
      next.Established ∧ holds next.rpc := by
  suffices every : ∀ resends (nfs : Nfs4 S), nfs.Established → holds nfs.rpc → ∃ next,
      (conversation server ops resends).run nfs = some (.error (.nfs4 failure.status), next) ∧
        next.Established ∧ holds next.rpc from
    every maxResends nfs established before
  intro resends
  induction resends with
  | zero =>
      intro nfs established before
      obtain ⟨rpc, performed, after⟩ := failing nfs.rpc before
      have ended := answered_of_attends attends established performed
      refine ⟨nfs.sentTo rpc, ?_, established.sentTo rpc, after⟩
      rw [conversation, converseTurn, Prog.bind_of_ok (Prog.outcome_of ended)]
      dsimp only
      split <;> rfl
  | succ resends ih =>
      intro nfs established before
      obtain ⟨rpc, performed, after⟩ := failing nfs.rpc before
      have ended := answered_of_attends attends established performed
      rw [conversation, converseTurn, Prog.bind_of_ok (Prog.outcome_of ended)]
      dsimp only
      split
      · exact ih (nfs.sentTo rpc) (established.sentTo rpc) after
      · exact ⟨nfs.sentTo rpc, rfl, established.sentTo rpc, after⟩

/-- The rule for requests: a failed attempt keeps the invariant. -/
theorem meets_converse {invariant : Nfs4 S → Prop} {ok : Results ops → Nfs4 S → Prop}
    {failed : ProtoError → Nfs4 S → Prop}
    (attempted : (answered server ops).Meets invariant (Prog.split ok fun _ => invariant))
    (given : ∀ error state, invariant state → failed error state) :
    (converse server ops).Meets invariant (Prog.split ok failed) := by
  have turns (again : UInt32 → Prog (Nfs4 S) ProtoError (Results ops))
      (follows : ∀ code, (again code).Meets invariant (Prog.split ok failed)) :
      (converseTurn server ops again).Meets invariant (Prog.split ok failed) := by
    refine Prog.Meets.bind (Prog.split ok fun _ => invariant)
      (Prog.Meets.weaken attempted.outcome (fun _ holds => holds) ?_) ?_
    · rintro (error | outcome) state holds
      · exact holds.elim
      · exact holds
    · rintro (failure | results)
      · dsimp only
        split
        · exact follows _
        · exact Prog.Meets.throw fun state holds => given _ state holds
      · exact Prog.Meets.pure fun state holds => holds
  suffices every : ∀ resends, (conversation server ops resends).Meets invariant
      (Prog.split ok failed) from every maxResends
  intro resends
  induction resends with
  | zero => exact turns _ fun _ => Prog.Meets.throw fun state holds => given _ state holds
  | succ resends ih => exact turns _ fun _ => ih

theorem Established.converse {outcome : Except ProtoError (Results ops)} {next : Nfs4 S}
    (established : nfs.Established)
    (ended : (Nfs4.converse server ops).run nfs = some (outcome, next)) : next.Established := by
  have keeps : (Nfs4.answered server ops).Keeps Established :=
    fun state final result holds ended => Established.answered holds ended
  have after :=
    meets_converse keeps.byCases (fun _ _ holds => holds) nfs next outcome established ended
  cases outcome with
  | ok results => exact after
  | error error => exact after

end Nfs4

end LibNfs.Proto
