import LibNfs.Rpc.Message
import LibNfs.Rpc.Reassembly

/-! # The STARTTLS probe

Before the TLS handshake the client sends a `NULL` call with an `AUTH_TLS` credential
and reads the reply with a record reader and a parser of its own. `OffersTls` is the
grammar of the records that this parser accepts, `Compliant` the reply that announces
RPC-with-TLS.
-/

namespace LibNfs.Rpc

open RecordMarking
open Xdr (XdrEncode beU32 decodeU32 decodeOpaque opaqueCode padding)

/-- The `AUTH_TLS` flavor. -/
def authTls : UInt32 := 7

/-- The xid of the probe, the letters `TTLS`. -/
def probeXid : UInt32 := 0x54544c53

/-- The message of the probe. -/
def probeCall (prog vers : UInt32) : Except RpcError Bytes := do
  let msg ← liftXdr (XdrEncode.encode probeXid [])
  let msg ← liftXdr (XdrEncode.encode msgCall msg)
  let msg ← liftXdr (XdrEncode.encode rpcVersion msg)
  let msg ← liftXdr (XdrEncode.encode prog msg)
  let msg ← liftXdr (XdrEncode.encode vers msg)
  -- `NULL`, then a credential and a verifier with empty bodies
  let msg ← liftXdr (XdrEncode.encode (0 : UInt32) msg)
  let msg ← liftXdr (XdrEncode.encode authTls msg)
  let msg ← liftXdr (XdrEncode.encode (0 : UInt32) msg)
  let msg ← liftXdr (XdrEncode.encode authNone msg)
  liftXdr (XdrEncode.encode (0 : UInt32) msg)

/-- `tls_err`: an error of kind `Other`. -/
def tlsErr : RpcError :=
  .io (.other 0)

/-- What the socket delivers: the bytes of the server and the error after the last one. -/
structure Inbound where
  bytes : Bytes
  ending : IoErrorKind

/-- `read_exact`. -/
def readExact (count : Nat) (received : Inbound) : Except RpcError (Bytes × Inbound) :=
  if received.bytes.length < count then
    .error (.io received.ending)
  else
    .ok (received.bytes.take count, { received with bytes := received.bytes.drop count })

/-- The checks of the probe on the reply. -/
def checkProbeReply (reply : Bytes) : Except RpcError Unit := do
  let (_xid, reply) ← liftXdr (decodeU32 reply)
  let (kind, reply) ← liftXdr (decodeU32 reply)
  if kind ≠ msgReply then
    .error .malformedReply
  else
    let (stat, reply) ← liftXdr (decodeU32 reply)
    if stat ≠ msgAccepted then
      .error .malformedReply
    else
      let (flavor, reply) ← liftXdr (decodeU32 reply)
      let (_body, _) ← liftXdr (decodeOpaque maxAuthBody reply)
      if flavor ≠ authTls then
        .error tlsErr
      else
        return ()

/-- Reads one fragment, whatever its last-fragment bit, as the reply. -/
def readProbeReply (received : Inbound) : Except RpcError Bytes := do
  let (header, received) ← readExact 4 received
  let len := (UInt32.ofNat (BigEndian.decode header) &&& lengthMask).toNat
  let (record, _) ← readExact len received
  return record

/-- What the probe writes. -/
def probeFrame (prog vers : UInt32) : Except RpcError Bytes := do
  let msg ← probeCall prog vers
  frame msg

/-- What the probe makes of what it reads. -/
def probeVerdict (received : Inbound) : Except RpcError Unit := do
  let reply ← readProbeReply received
  checkProbeReply reply

/-- `starttls_probe`, to a server that answers the framed message. -/
def starttlsProbe (prog vers : UInt32) (serve : Bytes → Inbound) : Except RpcError Unit := do
  let framed ← probeFrame prog vers
  probeVerdict (serve framed)

/-- The body of the verifier of a server with TLS: `STARTTLS`. -/
def starttls : Bytes :=
  [0x53, 0x54, 0x41, 0x52, 0x54, 0x54, 0x4c, 0x53]

/-- The reply of a server with TLS to the probe; a result may follow its `accept_stat`. -/
def Compliant (record : Bytes) : Prop :=
  ∃ result, record = Reply.encode probeXid (.accepted authNone starttls (.success result))

/-- A reply with any xid and an `AUTH_TLS` verifier, with anything after it. -/
def OffersTls (record : Bytes) : Prop :=
  ∃ (xid : UInt32) (body pad rest : Bytes), body.length ≤ maxAuthBody ∧
    pad.length = padding body.length ∧
    record = beU32 xid ++ (beU32 msgReply ++ (beU32 msgAccepted ++ (beU32 authTls ++
      (opaqueCode body pad ++ rest))))

theorem OffersTls.append {record : Bytes} (offers : OffersTls record) (more : Bytes) :
    OffersTls (record ++ more) := by
  obtain ⟨xid, body, pad, rest, within, aligned, rfl⟩ := offers
  exact ⟨xid, body, pad, rest ++ more, within, aligned, by simp only [List.append_assoc]⟩

/-- The checks pass on the grammar and on nothing else. -/
theorem checkProbeReply_ok_iff (reply : Bytes) :
    checkProbeReply reply = .ok () ↔ OffersTls reply := by
  constructor
  · intro checked
    obtain ⟨⟨xid, reply₁⟩, first, checked⟩ := of_liftXdr_bind checked
    obtain ⟨⟨kind, reply₂⟩, second, checked⟩ := of_liftXdr_bind checked
    dsimp only at checked
    by_cases isReply : kind = msgReply
    case neg =>
      rw [if_pos isReply] at checked
      cases checked
    rw [if_neg (not_not_intro isReply)] at checked
    obtain ⟨⟨stat, reply₃⟩, third, checked⟩ := of_liftXdr_bind checked
    dsimp only at checked
    by_cases isAccepted : stat = msgAccepted
    case neg =>
      rw [if_pos isAccepted] at checked
      cases checked
    rw [if_neg (not_not_intro isAccepted)] at checked
    obtain ⟨⟨flavor, reply₄⟩, fourth, checked⟩ := of_liftXdr_bind checked
    dsimp only at checked
    obtain ⟨⟨body, rest⟩, verifier, checked⟩ := of_liftXdr_bind checked
    by_cases isTls : flavor = authTls
    case neg =>
      rw [if_pos isTls] at checked
      cases checked
    obtain ⟨pad, aligned, within, -, shape⟩ := Xdr.decodeOpaque_inv verifier
    refine ⟨xid, body, pad, rest, within, aligned, ?_⟩
    rw [Xdr.decodeU32_inv first, Xdr.decodeU32_inv second, Xdr.decodeU32_inv third,
      Xdr.decodeU32_inv fourth, shape, isReply, isAccepted, isTls]
  · rintro ⟨xid, body, pad, rest, within, aligned, rfl⟩
    have small : body.length < 2 ^ 32 := by
      unfold maxAuthBody at within
      omega
    have verifier := @Xdr.reads_opaque body pad maxAuthBody within small aligned rest
    simp [checkProbeReply, verifier, bind, Except.bind, pure, Except.pure]

/-- The verifier of a server with TLS is not the one the probe asks for. -/
theorem checkProbeReply_compliant {record : Bytes} (compliant : Compliant record) :
    checkProbeReply record = .error tlsErr := by
  obtain ⟨result, rfl⟩ := compliant
  have within : starttls.length ≤ maxAuthBody := by decide
  have small : starttls.length < 2 ^ 32 := by decide
  have verifier := @Xdr.reads_opaque starttls (List.replicate (padding starttls.length) 0)
    maxAuthBody within small List.length_replicate (Accepted.success result).encode
  have other : authNone ≠ authTls := by decide
  simp [checkProbeReply, Reply.encode, verifier, other, bind, Except.bind]

theorem not_offersTls_of_compliant {record : Bytes} (compliant : Compliant record) :
    ¬ OffersTls record := by
  intro offers
  have passed := (checkProbeReply_ok_iff record).mpr offers
  rw [checkProbeReply_compliant compliant] at passed
  cases passed

namespace RecordMarking

/-- The first fragment of a record. -/
def Cut.first (cut : Cut) : Bytes :=
  cut.front.headD cut.final

theorem Cut.record_of_first (cut : Cut) : ∃ more, cut.record = cut.first ++ more := by
  obtain ⟨front, final⟩ := cut
  cases front with
  | nil => exact ⟨[], (List.append_nil _).symm⟩
  | cons fragment front => exact ⟨front.flatten ++ final, List.append_assoc ..⟩

theorem encodeRecord_of_first (cut : Cut) :
    ∃ last more, encodeRecord cut = encodeFragment last cut.first ++ more := by
  obtain ⟨front, final⟩ := cut
  cases front with
  | nil => exact ⟨true, [], (List.append_nil _).symm⟩
  | cons fragment front =>
      exact ⟨false, (front.map (encodeFragment false)).flatten ++ encodeFragment true final,
        List.append_assoc ..⟩

theorem Cut.Short.first {cut : Cut} (short : cut.Short) : cut.first.length < 2 ^ 31 := by
  obtain ⟨front, final⟩ := cut
  cases front with
  | nil => exact short.2
  | cons fragment front => exact short.1 fragment List.mem_cons_self

end RecordMarking

/-- The probe takes the first fragment for the whole record. -/
theorem readProbeReply_fragment {last : Bool} {fragment : Bytes} (short : fragment.length < 2 ^ 31)
    (more : Bytes) (ending : IoErrorKind) :
    readProbeReply ⟨encodeFragment last fragment ++ more, ending⟩ = .ok fragment := by
  have header : headerOf (encodeFragment last fragment ++ more) = _ :=
    headerOf_encodeFragment short more
  have body : (encodeFragment last fragment ++ more).drop 4 = fragment ++ more := by
    rw [encodeFragment, List.append_assoc, List.drop_left' (Xdr.length_beU32 _)]
  have long : ¬ (encodeFragment last fragment ++ more).length < 4 := by
    simp only [encodeFragment, List.length_append, Xdr.length_beU32]
    omega
  have length : (UInt32.ofNat (BigEndian.decode ((encodeFragment last fragment ++ more).take 4)) &&&
      lengthMask).toNat = fragment.length := by
    rw [toNat_and_lengthMask, RecordReassembler.toNat_header, header, length_of_header last short]
  have whole : ¬ (fragment ++ more).length < fragment.length := by
    rw [List.length_append]
    omega
  simp only [readProbeReply, readExact, long, ↓reduceIte, bind, Except.bind, length, body, whole,
    List.take_left, pure, Except.pure]

theorem probeFrame_ok (prog vers : UInt32) : ∃ framed, probeFrame prog vers = .ok framed :=
  ⟨_, rfl⟩

/-- The probe passes when the first fragment of the record does. -/
theorem starttlsProbe_ok_iff (prog vers : UInt32) {cut : Cut} (short : cut.Short) (later : Bytes)
    (ending : IoErrorKind) :
    (starttlsProbe prog vers fun _ => ⟨encodeRecord cut ++ later, ending⟩) = .ok () ↔
      OffersTls cut.first := by
  obtain ⟨framed, sent⟩ := probeFrame_ok prog vers
  obtain ⟨last, more, split⟩ := encodeRecord_of_first cut
  have read : readProbeReply ⟨encodeRecord cut ++ later, ending⟩ = .ok cut.first := by
    rw [split, List.append_assoc]
    exact readProbeReply_fragment short.first _ ending
  simp only [starttlsProbe, probeVerdict, sent, read, bind, Except.bind]
  exact checkProbeReply_ok_iff cut.first

/-- The probe tells the servers with TLS from the others exactly when the reply is of
neither kind: not the reply of one, and not one with an `AUTH_TLS` verifier. -/
theorem starttlsProbe_discerns_iff (prog vers : UInt32) (cut : Cut) (short : cut.Short)
    (later : Bytes) (ending : IoErrorKind) :
    ((starttlsProbe prog vers fun _ => ⟨encodeRecord cut ++ later, ending⟩) = .ok () ↔
        Compliant cut.record) ↔
      ¬ Compliant cut.record ∧ ¬ OffersTls cut.first := by
  have excludes : OffersTls cut.first → ¬ Compliant cut.record := by
    intro offers compliant
    obtain ⟨more, whole⟩ := cut.record_of_first
    exact not_offersTls_of_compliant compliant (whole ▸ offers.append more)
  rw [starttlsProbe_ok_iff prog vers short]
  constructor
  · intro same
    have refuses : ¬ Compliant cut.record := fun compliant =>
      excludes (same.mpr compliant) compliant
    exact ⟨refuses, fun offers => refuses (same.mp offers)⟩
  · rintro ⟨refuses, silent⟩
    exact ⟨fun offers => (silent offers).elim, fun compliant => (refuses compliant).elim⟩

/-- A denied call: neither compliant nor accepted. -/
theorem starttlsProbe_discerns_denied :
    ((starttlsProbe 100003 4 fun _ =>
        ⟨encodeRecord ⟨[], Reply.encode probeXid (.authError 1)⟩ ++ [], .timedOut⟩) = .ok () ↔
        Compliant (Cut.record ⟨[], Reply.encode probeXid (.authError 1)⟩)) ↔
      ¬ Compliant (Cut.record ⟨[], Reply.encode probeXid (.authError 1)⟩) ∧
        ¬ OffersTls (Cut.first ⟨[], Reply.encode probeXid (.authError 1)⟩) :=
  starttlsProbe_discerns_iff 100003 4 ⟨[], Reply.encode probeXid (.authError 1)⟩ (by decide) []
    .timedOut

/-- The reply of a server with TLS, in one fragment. -/
def compliantReply : Cut :=
  ⟨[], Reply.encode probeXid (.accepted authNone starttls (.success []))⟩

/-- The reply of a server with TLS is refused, and a reply to another call that breaks off
after an `AUTH_TLS` verifier is taken for one. -/
theorem starttlsProbe_mistakes :
    Compliant compliantReply.record ∧
    (starttlsProbe 100003 4 fun _ => ⟨encodeRecord compliantReply, .timedOut⟩) = .error tlsErr ∧
    (starttlsProbe 100003 4 fun _ => ⟨encodeRecord ⟨[], beU32 0 ++ (beU32 1 ++ (beU32 0 ++
      (beU32 7 ++ beU32 0)))⟩, .timedOut⟩) = .ok () ∧
    ¬ ∀ (prog vers : UInt32) (cut : Cut), cut.Short → ∀ later ending,
      (starttlsProbe prog vers fun _ => ⟨encodeRecord cut ++ later, ending⟩) = .ok () ↔
        Compliant cut.record := by
  have refused : (starttlsProbe 100003 4 fun _ => ⟨encodeRecord compliantReply, .timedOut⟩) =
      .error tlsErr := by decide +kernel
  refine ⟨⟨[], rfl⟩, refused, by decide +kernel, fun claim => ?_⟩
  have passes := (claim 100003 4 compliantReply (by decide) [] .timedOut).mpr ⟨[], rfl⟩
  rw [List.append_nil, refused] at passes
  cases passes

end LibNfs.Rpc
