import LibNfs.Rpc.Message

/-! # Replies on the wire

Every reply of RFC 5531 is parsed into its xid and its outcome, an accepted one with a
status beyond those of the grammar included. Only an accepted reply that succeeded has
a result: the bytes after its status.
-/

namespace LibNfs.Rpc

open Xdr (XdrError decodeU32 decodeOpaque beU32)

/-- An accepted reply, from its xid to the end of its verifier, which has some padding. -/
def acceptedCode (xid flavor : UInt32) (verf pad : Bytes) : Bytes :=
  beU32 xid ++ (beU32 msgReply ++ (beU32 msgAccepted ++ (beU32 flavor ++ Xdr.opaqueCode verf pad)))

/-- A reply: one of the grammar, or an accepted one with another status. -/
inductive AnyReply where
  | known (reply : Reply)
  | unknown (flavor : UInt32) (verf : Bytes) (stat : UInt32) (beyond : systemErr < stat)

namespace AnyReply

/-- The verifier of the reply, if it has one, respects its limit. -/
def WellFormed : AnyReply → Prop
  | known reply => reply.WellFormed
  | unknown _ verf _ _ => verf.length ≤ maxAuthBody

def encode (xid : UInt32) : AnyReply → Bytes
  | known reply => reply.encode xid
  | unknown flavor verf stat _ =>
      acceptedCode xid flavor verf (List.replicate (Xdr.padding verf.length) 0) ++ beU32 stat

def outcome : AnyReply → Except RpcError Bytes
  | known reply => reply.outcome
  | unknown _ _ stat _ => .error (.unknownAcceptStat stat)

end AnyReply

theorem parseAccepted_unknown {stat : UInt32} (beyond : systemErr < stat) :
    parseAccepted (beU32 stat) = .ok (.error (.unknownAcceptStat stat)) := by
  have apart (other : UInt32) (le : other ≤ systemErr) : stat ≠ other :=
    fun same => absurd beyond (by rw [same]; exact UInt32.not_lt.mpr le)
  simp [parseAccepted, bind, Except.bind, pure, Except.pure, apart success (by decide),
    apart progUnavail (by decide), apart progMismatch (by decide), apart procUnavail (by decide),
    apart garbageArgs (by decide), apart systemErr (by decide)]

/-- The verifier of an accepted reply is read and dropped. -/
theorem parseReply_acceptedCode {verf pad : Bytes} (within : verf.length ≤ maxAuthBody)
    (aligned : pad.length = Xdr.padding verf.length) (xid flavor : UInt32) (rest : Bytes) :
    parseReply (acceptedCode xid flavor verf pad ++ rest) = (parseAccepted rest).map (xid, ·) := by
  have small : verf.length < 2 ^ 32 := Nat.lt_of_le_of_lt within (by decide)
  have verifier := Xdr.reads_opaque maxAuthBody within small aligned rest
  simp only [parseReply, parseReplyBody, acceptedCode, List.append_assoc, Xdr.decodeU32_append,
    liftXdr_ok, bind, Except.bind, ne_eq, not_true_eq_false, ↓reduceIte, verifier]
  cases parseAccepted rest <;> rfl

theorem parseReply_anyReply (xid : UInt32) {reply : AnyReply} (wellFormed : reply.WellFormed) :
    parseReply (reply.encode xid) = .ok (xid, reply.outcome) := by
  cases reply with
  | known reply => exact parseReply_encode xid wellFormed
  | unknown flavor verf stat beyond =>
      rw [AnyReply.encode, parseReply_acceptedCode wellFormed List.length_replicate,
        parseAccepted_unknown beyond]
      rfl

/-- A mismatch has no result. -/
theorem mismatch_ne_ok {buf body : Bytes} {error : UInt32 → UInt32 → RpcError}
    (parsed : (do
      let first ← liftXdr (decodeU32 buf)
      let second ← liftXdr (decodeU32 first.2)
      return .error (error first.1 second.1) : Except RpcError (Except RpcError Bytes)) =
        .ok (.ok body)) : False := by
  obtain ⟨first, -, parsed⟩ := of_liftXdr_bind parsed
  obtain ⟨second, -, parsed⟩ := of_liftXdr_bind parsed
  cases parsed

theorem parseAccepted_inv {buf body : Bytes} (parsed : parseAccepted buf = .ok (.ok body)) :
    buf = beU32 success ++ body := by
  obtain ⟨⟨stat, rest⟩, read, parsed⟩ := of_liftXdr_bind parsed
  dsimp only at parsed
  by_cases succeeded : stat = success
  · rw [if_pos succeeded] at parsed
    cases parsed
    rw [← succeeded]
    exact Xdr.decodeU32_inv read
  · rw [if_neg succeeded] at parsed
    -- no other status has a result
    repeat' split at parsed
    all_goals first
      | cases parsed
      | exact (mismatch_ne_ok parsed).elim

theorem parseDenied_ne_ok {buf body : Bytes} (parsed : parseDenied buf = .ok (.ok body)) : False := by
  obtain ⟨⟨stat, rest⟩, -, parsed⟩ := of_liftXdr_bind parsed
  dsimp only at parsed
  split at parsed
  · exact mismatch_ne_ok parsed
  · split at parsed
    · obtain ⟨second, -, parsed⟩ := of_liftXdr_bind parsed
      cases parsed
    · cases parsed

theorem parseReply_inv {message body : Bytes} {xid : UInt32}
    (parsed : parseReply message = .ok (xid, .ok body)) :
    ∃ flavor verf pad, verf.length ≤ maxAuthBody ∧ pad.length = Xdr.padding verf.length ∧
      message = acceptedCode xid flavor verf pad ++ (beU32 success ++ body) := by
  obtain ⟨⟨first, afterXid⟩, readXid, parsed⟩ := of_liftXdr_bind parsed
  dsimp only at parsed
  rcases inner : parseReplyBody afterXid with error | outcome
  · rw [inner] at parsed
    cases parsed
  rw [inner] at parsed
  cases parsed
  obtain ⟨⟨kind, afterKind⟩, readKind, inner⟩ := of_liftXdr_bind inner
  dsimp only at inner
  by_cases isReply : kind = msgReply
  case neg =>
    rw [if_pos isReply] at inner
    cases inner
  rw [if_neg (not_not_intro isReply)] at inner
  obtain ⟨⟨stat, afterStat⟩, readStat, inner⟩ := of_liftXdr_bind inner
  dsimp only at inner
  by_cases accepted : stat = msgAccepted
  case neg =>
    rw [if_neg accepted] at inner
    split at inner
    · exact (parseDenied_ne_ok inner).elim
    · cases inner
  rw [if_pos accepted] at inner
  obtain ⟨⟨flavor, afterFlavor⟩, readFlavor, inner⟩ := of_liftXdr_bind inner
  dsimp only at inner
  obtain ⟨⟨verf, rest⟩, readVerf, inner⟩ := of_liftXdr_bind inner
  dsimp only at inner
  obtain ⟨pad, aligned, within, -, verifier⟩ := Xdr.decodeOpaque_inv readVerf
  refine ⟨flavor, verf, pad, within, aligned, ?_⟩
  have whole := Xdr.decodeU32_inv readXid
  rw [Xdr.decodeU32_inv readKind, Xdr.decodeU32_inv readStat, Xdr.decodeU32_inv readFlavor,
    verifier, isReply, accepted, parseAccepted_inv inner] at whole
  simp only [acceptedCode, List.append_assoc]
  exact whole

/-- A reply is parsed into its xid and its outcome; and a message that is parsed into a
result is, but for the padding of its verifier, the accepted reply with that result. -/
theorem parseReply_exact (xid : UInt32) (reply : AnyReply) (wellFormed : reply.WellFormed)
    (message body : Bytes) :
    parseReply (reply.encode xid) = .ok (xid, reply.outcome) ∧
      (parseReply message = .ok (xid, .ok body) → ∃ flavor verf pad,
        verf.length ≤ maxAuthBody ∧ pad.length = Xdr.padding verf.length ∧
          message = acceptedCode xid flavor verf pad ++ (beU32 success ++ body)) :=
  ⟨parseReply_anyReply xid wellFormed, parseReply_inv⟩

/-- A reply with a status of its own, and a message with a result of one word. -/
theorem parseReply_exact_unknown :
    parseReply ((AnyReply.unknown 0 [1] 9 (by decide)).encode 7) =
        .ok (7, .error (.unknownAcceptStat 9)) ∧
      ∃ flavor verf pad, verf.length ≤ maxAuthBody ∧ pad.length = Xdr.padding verf.length ∧
        beU32 7 ++ (beU32 1 ++ (beU32 0 ++ (beU32 0 ++ (beU32 0 ++ (beU32 0 ++ [5, 6, 7, 8]))))) =
          acceptedCode 7 flavor verf pad ++ (beU32 success ++ [5, 6, 7, 8]) := by
  obtain ⟨parsed, only⟩ := parseReply_exact 7 (.unknown 0 [1] 9 (by decide))
    (show 1 ≤ maxAuthBody by decide)
    (beU32 7 ++ (beU32 1 ++ (beU32 0 ++ (beU32 0 ++ (beU32 0 ++ (beU32 0 ++ [5, 6, 7, 8]))))))
    [5, 6, 7, 8]
  exact ⟨parsed, only (by decide +kernel)⟩

end LibNfs.Rpc
