import LibNfs.Proto.Nfs4
import LibNfs.Rpc.Matching

/-! # The way of a reply to `CompoundReader::parse`

A `COMPOUND4res` is the whole result body of an RPC reply. `run` and `run_raw`
ask the RPC client for a `Bytes`, which it decodes as a variable-length opaque:
the status of the reply is taken for a length. `exchange_of_answer` follows a
body through the layers, past dropped messages and failed attempts.
-/

namespace LibNfs

open Xdr (XdrError XdrDecode decodeOpaque)

namespace Rpc.RpcClient

variable {ω α : Type} {env : Env ω} {decode : Bytes → Except XdrError (α × Bytes)}

/-- A call, with a number of retries left, receives `body` as the result of an
accepted reply with its own xid: after messages it drops, or in a later attempt. -/
inductive Answered (env : Env ω) (decode : Bytes → Except XdrError (α × Bytes)) (xid : UInt32)
    (message body : Bytes) : Nat → World ω → World ω → Prop where
  | reply {world sent final : World ω} {retries : Nat} (dropped : List Bytes) (flavor : UInt32)
      (verf : Bytes) :
      (send env message).run world = some (.ok (), sent) →
      (∀ other ∈ dropped, leadingXid other ≠ xid ∧ ∃ reply, parseReply other = .ok reply) →
      (Reply.accepted flavor verf (.success body)).WellFormed →
      Delivers env sent (dropped ++ [(Reply.accepted flavor verf (.success body)).encode xid])
        final →
      Answered env decode xid message body retries world final
  | again {world mid next final : World ω} {retries : Nat} {error : RpcError} :
      (attemptCall env decode xid message).run world = some (.error error, mid) →
      mid.client.isRetryable error = true →
      (if mid.client.protocol = .tcp then (reconnect env).run mid = some (.ok (), next)
        else next = mid) →
      Answered env decode xid message body retries next final →
      Answered env decode xid message body (retries + 1) world final

/-- What the client makes of the body of a reply. -/
def received (decode : Bytes → Except XdrError (α × Bytes)) (body : Bytes) : Except RpcError α :=
  liftXdr (decode body) |>.map (·.1)

theorem verdict_of_body (decode : Bytes → Except XdrError (α × Bytes)) (xid : UInt32)
    {flavor : UInt32} {verf body : Bytes}
    (wellFormed : (Reply.accepted flavor verf (.success body)).WellFormed) :
    verdict decode xid ((Reply.accepted flavor verf (.success body)).encode xid) =
      (received decode body).map some := by
  rw [verdict, parseReply_encode xid wellFormed]
  rcases value : decode body with error | ⟨value, rest⟩ <;>
    simp [received, value, Reply.outcome, Accepted.outcome, bind, Except.bind, pure, Except.pure,
      Except.map]

theorem wait_of_reply {xid : UInt32} {message : Bytes} {result : Except RpcError α}
    {dropped : List Bytes} {world final : World ω}
    (others : ∀ other ∈ dropped, leadingXid other ≠ xid ∧ ∃ reply, parseReply other = .ok reply)
    (decided : verdict decode xid message = result.map some)
    (delivers : Delivers env world (dropped ++ [message]) final) :
    (Prog.loop (attemptTurn env decode xid) (supply env)).run world = some (result, final) := by
  induction dropped generalizing world with
  | nil =>
      obtain ⟨⟩ | ⟨arrived, ⟨⟩⟩ := delivers
      have turn : (attemptTurn env decode xid).run world = some (result.map some, final) := by
        rw [← decided]
        exact Prog.bind_of_ok arrived
      rw [Prog.loop_eq (attemptTurn_decreases env decode xid), turn]
      cases result <;> rfl
  | cons other dropped ih =>
      obtain ⟨⟩ | @⟨_, mid, _, _, _, arrived, rest⟩ := delivers
      have skipped : verdict decode xid other = .ok none :=
        (verdict_eq_none_iff decode xid other).mpr (others other List.mem_cons_self)
      have turn : (attemptTurn env decode xid).run world = some (.ok none, mid) := by
        rw [← skipped]
        exact Prog.bind_of_ok arrived
      rw [Prog.loop_eq (attemptTurn_decreases env decode xid), turn]
      exact ih (fun one member => others one (List.mem_cons_of_mem _ member)) rest

/-- A call that is answered ends with what its body decodes to. -/
theorem attempts_of_answer {xid : UInt32} {message body : Bytes} {retries : Nat}
    {world final : World ω} (answered : Answered env decode xid message body retries world final) :
    (attempts env decode xid message retries).run world =
      some (received decode body, final) := by
  induction answered with
  | @reply world sent final retries dropped flavor verf done others wellFormed delivers =>
      have waited := wait_of_reply others (verdict_of_body decode xid wellFormed) delivers
      have observed : (Prog.outcome (attemptCall env decode xid message) :
          Prog (World ω) RpcError (Except RpcError α)).run world =
            some (.ok (received decode body), final) := by
        simp only [Prog.outcome, attemptCall, Prog.bind_of_ok done, waited, Option.map_some]
      rw [attempts.eq_def, Prog.bind_of_ok observed]
      rcases value : decode body with error | ⟨value, rest⟩
      · -- a decoding error is never tried again
        cases retries <;>
          simp [received, value, Except.map, Prog.get, Prog.throw, Prog.bind_apply, isRetryable]
      · simp only [received, value, liftXdr_ok, Except.map]
        rfl
  | @again world mid next final retries error failed retryable connected _ ih =>
      have observed : (Prog.outcome (attemptCall env decode xid message) :
          Prog (World ω) RpcError (Except RpcError α)).run world = some (.ok (.error error), mid) := by
        simp only [Prog.outcome, failed, Option.map_some]
      rw [attempts, Prog.bind_of_ok observed, ← ih]
      by_cases stream : mid.client.protocol = .tcp
      · rw [if_pos stream] at connected
        simp [Prog.get, Prog.bind_apply, retryable, stream, connected]
      · rw [if_neg stream] at connected
        subst connected
        simp [Prog.get, Prog.bind_apply, retryable, stream]

/-- The call of a procedure is answered with `body`. -/
def CallAnswered (env : Env ω) (decode : Bytes → Except XdrError (α × Bytes))
    (prog vers proc : UInt32) (args : Except XdrError Bytes) (body : Bytes)
    (world final : World ω) : Prop :=
  ∃ message, world.client.callMessage prog vers proc args = .ok message ∧
    Answered env decode world.client.nextXid message body (maxAttempts - 1)
      { world with client := { world.client with nextXid := world.client.nextXid + 1 } } final

theorem call_of_answer {prog vers proc : UInt32} {args : Except XdrError Bytes} {body : Bytes}
    {world final : World ω}
    (answered : CallAnswered env decode prog vers proc args body world final) :
    (call env decode prog vers proc args).run world = some (received decode body, final) := by
  obtain ⟨message, built, answered⟩ := answered
  have made := buildCall_apply prog vers proc args world
  rw [built] at made
  rw [call, Prog.bind_of_ok made]
  exact attempts_of_answer answered

end Rpc.RpcClient

namespace Proto

open Rpc (World Env)
open Rpc.RpcClient (CallAnswered Answered received call_of_answer)

variable {ω : Type} {env : Env ω}

/-- The RPC call of an `Nfs4` is answered with `body`. -/
def BodyReceived (env : Env ω) (args body : Bytes) (world final : World ω) : Prop :=
  CallAnswered env (XdrDecode.decode : Bytes → Except XdrError (Bytes × Bytes)) program version4
    compoundProc (.ok args) body world final

/-- What the layers below make of the body of a reply. -/
def handed (body : Bytes) : Except ProtoError Bytes :=
  (received (decodeOpaque usizeMax) body).mapError .rpc

namespace Nfs4

theorem call_of_body {args body : Bytes} {nfs : Nfs4 (World ω)} {final : World ω}
    (answered : BodyReceived env args body nfs.rpc final) :
    (call (rpcTransport env) args).run nfs =
      some (handed body, { nfs with rpc := final }) := by
  have called : ((rpcTransport env).call program version4 compoundProc (.ok args)).run nfs.rpc =
      some (received (decodeOpaque usizeMax) body, final) := call_of_answer answered
  simp only [call, Prog.within, called, Option.map_some]
  rfl

/-- The bytes an attempt of `run` parses. -/
theorem exchange_of_body {c : Compound} {args body : Bytes} {nfs mid : Nfs4 (World ω)}
    {final : World ω} (assembled : (assemble c).run nfs = some (.ok args, mid))
    (answered : BodyReceived env args body mid.rpc final) :
    (exchange (rpcTransport env) c).run nfs = some (handed body, { mid with rpc := final }) := by
  rw [exchange, Prog.bind_of_ok assembled]
  exact call_of_body answered

/-- The bytes `run_raw` parses. -/
theorem exchangeRaw_of_body {c : Compound} {args body : Bytes} {nfs : Nfs4 (World ω)}
    {final : World ω} (built : c.finish nfs.minor = .ok args)
    (answered : BodyReceived env args body nfs.rpc final) :
    (exchangeRaw (rpcTransport env) c).run nfs =
      some (handed body, { nfs with rpc := final }) := by
  have started : (exchangeRaw (rpcTransport env) c).run nfs =
      (call (rpcTransport env) args).run nfs := by
    simp [exchangeRaw, Prog.get, Prog.bind_apply, Prog.ofExcept, built]
  rw [started]
  exact call_of_body answered

end Nfs4

/-- The bytes handed over are shorter than the reply. -/
theorem length_of_handed {body data : Bytes} (ok : handed body = .ok data) :
    data.length + 4 ≤ body.length := by
  rcases read : decodeOpaque usizeMax body with error | ⟨value, rest⟩
  · simp [handed, received, read, Except.map, Except.mapError] at ok
  · obtain ⟨pad, -, -, -, rfl⟩ := Xdr.decodeOpaque_inv read
    simp only [handed, received, read, Rpc.liftXdr_ok, Except.map, Except.mapError,
      Except.ok.injEq] at ok
    subst ok
    rw [List.length_append, Xdr.length_opaqueCode]
    omega

/-- `NFS4_OK` is the length of an empty opaque. -/
theorem handed_of_ok {res : CompoundRes} (ok : res.status = nfs4Ok) :
    handed res.encode = .ok [] := by
  have empty := @Xdr.reads_opaque [] [] usizeMax (Nat.zero_le _) (Nat.two_pow_pos 32) rfl
    (Xdr.Ty.code (.sized .string) res.tag ++ (Xdr.beU32 res.count ++ res.results))
  have shape : res.encode = Xdr.opaqueCode [] [] ++
      (Xdr.Ty.code (.sized .string) res.tag ++ (Xdr.beU32 res.count ++ res.results)) := by
    simp only [CompoundRes.encode, ok, Xdr.opaqueCode, List.append_nil, List.length_nil]
    rfl
  rw [handed, received, shape, empty]
  rfl

/-- A reply reaches `CompoundReader::parse`: the bytes given to it are the reply,
`NFS4_OK` leaves the results to be read, and another status is the error. -/
structure Reaches (res : CompoundRes) (given : Option (Except ProtoError Bytes))
    (parsed : Option (Except ProtoError CompoundReader)) : Prop where
  whole : given = some (.ok res.encode)
  ok : res.status = nfs4Ok → parsed = some (.ok ⟨res.results⟩)
  failed : res.status ≠ nfs4Ok → parsed = some (.error (.nfs4 res.status))

/-- The reply to `run_raw` reaches the parser. -/
def RawReaches (env : Env ω) (c : Compound) (nfs : Nfs4 (World ω)) (res : CompoundRes) : Prop :=
  Reaches res (((Nfs4.exchangeRaw (rpcTransport env) c).run nfs).map (·.1))
    (((Nfs4.runRaw (rpcTransport env) c).run nfs).map (·.1))

/-- The reply to an attempt of `run` that starts in `nfs` reaches the parser. -/
def AttemptReaches (env : Env ω) (c : Compound) (nfs : Nfs4 (World ω)) (res : CompoundRes) :
    Prop :=
  Reaches res (((Nfs4.exchange (rpcTransport env) c).run nfs).map (·.1))
    (((Nfs4.attempt (rpcTransport env) c).run nfs).map fun ended => ended.1.bind id)

theorem not_reaches_of_handed {res : CompoundRes} {given : Option (Except ProtoError Bytes)}
    {parsed : Option (Except ProtoError CompoundReader)}
    (arrived : given = some (handed res.encode)) : ¬ Reaches res given parsed := by
  intro reaches
  have same : handed res.encode = .ok res.encode :=
    Option.some.inj (arrived.symm.trans reaches.whole)
  have shorter := length_of_handed same
  omega

/-- No reply reaches the parser, neither of `run_raw` nor of any attempt of `run`. -/
theorem reply_never_reaches_parse (env : Env ω) (c : Compound) (nfs : Nfs4 (World ω))
    (res : CompoundRes) (args : Bytes) (final : World ω) :
    (c.finish nfs.minor = .ok args → BodyReceived env args res.encode nfs.rpc final →
      ¬ RawReaches env c nfs res) ∧
    ∀ mid, (Nfs4.assemble c).run nfs = some (.ok args, mid) →
      BodyReceived env args res.encode mid.rpc final → ¬ AttemptReaches env c nfs res := by
  constructor
  · intro built answered
    apply not_reaches_of_handed
    rw [Nfs4.exchangeRaw_of_body built answered]
    rfl
  · intro mid assembled answered
    apply not_reaches_of_handed
    rw [Nfs4.exchange_of_body assembled answered]
    rfl

/-- A successful reply makes `run_raw` fail with an XDR error. -/
theorem runRaw_of_ok {c : Compound} {nfs : Nfs4 (World ω)} {res : CompoundRes} {args : Bytes}
    {final : World ω} (ok : res.status = nfs4Ok) (built : c.finish nfs.minor = .ok args)
    (answered : BodyReceived env args res.encode nfs.rpc final) :
    (Nfs4.runRaw (rpcTransport env) c).run nfs =
      some (.error (.xdr (.truncated 4 0)), { nfs with rpc := final }) := by
  have given := Nfs4.exchangeRaw_of_body built answered
  rw [handed_of_ok ok] at given
  rw [Nfs4.runRaw, Prog.bind_of_ok given]
  rfl

/-- A v4.0 client whose RPC client already holds the reply to its next call. -/
def expecting (res : CompoundRes) : Nfs4 (World Unit) where
  rpc := Rpc.RpcClient.queued [(Rpc.Reply.accepted 0 [] (.success res.encode)).encode 0]
  minor := 0
  clientid := 0
  owner := []
  openSeqid := 0
  lockCounter := 0
  sessionid := none
  seqId := 0

/-- The reply to a `COMPOUND` of no operations. -/
def emptyRes : CompoundRes :=
  ⟨nfs4Ok, "", 0, []⟩

theorem expecting_receives (res : CompoundRes) (args : Bytes) :
    BodyReceived Rpc.RpcClient.silent args res.encode (expecting res).rpc
      { Rpc.RpcClient.queued [] with
        client := { (Rpc.RpcClient.queued []).client with nextXid := 1 } } := by
  refine ⟨_, rfl, .reply [] 0 [] rfl ?_ ?_ (.cons rfl (.nil _))⟩
  · exact fun _ member => absurd member List.not_mem_nil
  · exact Nat.zero_le _

/-- The reply to a `PUTFH` of a stale handle. -/
def staleRes : CompoundRes :=
  ⟨70, "mount", 1, Xdr.beU32 opPutfh ++ Xdr.beU32 70⟩

/-- A reply with a tag, a failure and the header of a result. -/
theorem reply_never_reaches_parse_stale :
    ∃ c, Compound.new.putfh ⟨[1]⟩ = .ok c ∧
      ¬ RawReaches Rpc.RpcClient.silent c (expecting staleRes) staleRes ∧
        ¬ AttemptReaches Rpc.RpcClient.silent c (expecting staleRes) staleRes := by
  obtain ⟨c, made⟩ : ∃ c, Compound.new.putfh ⟨[1]⟩ = .ok c := ⟨_, rfl⟩
  obtain ⟨args, built⟩ : ∃ args, c.finish 0 = .ok args := by
    cases made
    exact ⟨_, rfl⟩
  have assembled : (Nfs4.assemble c).run (expecting staleRes) =
      some (.ok args, expecting staleRes) := by
    have zero : (expecting staleRes).minor = 0 := rfl
    rw [Nfs4.assemble, Prog.bind_of_ok (rfl : Prog.get.run (expecting staleRes) = _), if_pos zero,
      built]
    rfl
  exact ⟨c, made, (reply_never_reaches_parse _ _ _ _ _ _).1 built (expecting_receives _ _),
    (reply_never_reaches_parse _ _ _ _ _ _).2 _ assembled (expecting_receives staleRes args)⟩

/-- The reply to a `COMPOUND` of no operations, twelve zero bytes, makes
`run_raw` fail instead of leaving an empty list of results. -/
theorem empty_reply_not_parsed :
    ¬ ∀ (c : Compound) (nfs : Nfs4 (World Unit)) (res : CompoundRes) (args : Bytes)
      (final : World Unit), (Xdr.asBytes res.tag).length < 2 ^ 32 →
        c.finish nfs.minor = .ok args →
          BodyReceived Rpc.RpcClient.silent args res.encode nfs.rpc final →
            RawReaches Rpc.RpcClient.silent c nfs res := by
  intro all
  have built : Compound.new.finish (expecting emptyRes).minor = .ok (List.replicate 12 0) := rfl
  have answered := expecting_receives emptyRes (List.replicate 12 0)
  have reaches := all Compound.new (expecting emptyRes) emptyRes _ _ (by decide) built answered
  have parsed := reaches.ok rfl
  rw [runRaw_of_ok rfl built answered] at parsed
  cases parsed

end Proto

end LibNfs
