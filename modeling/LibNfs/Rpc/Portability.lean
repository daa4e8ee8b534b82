import LibNfs.Rpc.Message
import LibNfs.Xdr.Cursor

/-! # Lengths near the end of the address space

`parse_reply` over the cursor, and variable-length data on a 32-bit release build.
There the sum of a length and its padding wraps to zero for the last three lengths, so
that the check before the cut passes on any buffer.
-/

namespace LibNfs.Rpc

open Coding Guarded
open Xdr (Buf Target XdrError asBytes beU32 fromUtf8 padding)

/-- A reader of replies. -/
abbrev ReplyReader (α : Type) :=
  Reader RpcError UInt8 α

/-- The `?` operator on a decoder of the codec. -/
def lifted {α : Type} (decode : Buf α) : ReplyReader α :=
  decode.mapError .xdr

/-- The bytes that are left, as the result. -/
def resultBytes : ReplyReader Bytes :=
  fun buf => some (.ok (buf, []))

def acceptedReader : ReplyReader (Except RpcError Bytes) := do
  let stat ← lifted Buf.decodeU32
  if stat = success then
    return .ok (← resultBytes)
  else if stat = progUnavail then
    return .error .progUnavail
  else if stat = progMismatch then
    let low ← lifted Buf.decodeU32
    let high ← lifted Buf.decodeU32
    return .error (.progMismatch low high)
  else if stat = procUnavail then
    return .error .procUnavail
  else if stat = garbageArgs then
    return .error .garbageArgs
  else if stat = systemErr then
    return .error .systemErr
  else
    return .error (.unknownAcceptStat stat)

def deniedReader : ReplyReader (Except RpcError Bytes) := do
  let stat ← lifted Buf.decodeU32
  if stat = rpcMismatch then
    let low ← lifted Buf.decodeU32
    let high ← lifted Buf.decodeU32
    return .error (.rpcMismatch low high)
  else if stat = authError then
    let stat ← lifted Buf.decodeU32
    return .error (.authError stat)
  else
    return .error .malformedReply

def replyBodyReader (target : Target) : ReplyReader (Except RpcError Bytes) := do
  let kind ← lifted Buf.decodeU32
  if kind ≠ msgReply then
    throwThe RpcError .malformedReply
  else
    let stat ← lifted Buf.decodeU32
    if stat = msgAccepted then
      let _flavor ← lifted Buf.decodeU32
      let _verf ← lifted (target.decodeOpaque maxAuthBody)
      acceptedReader
    else if stat = msgDenied then
      deniedReader
    else
      throwThe RpcError .malformedReply

/-- `parse_reply`. -/
def replyReader (target : Target) : ReplyReader (UInt32 × Except RpcError Bytes) := do
  let xid ← lifted Buf.decodeU32
  let inner ← replyBodyReader target
  return (xid, inner)

section Replies

variable {most : Nat}

theorem follows_word : Follows most (lifted Buf.decodeU32) fun buf => liftXdr (Xdr.decodeU32 buf) :=
  Xdr.follows_u32.mapError RpcError.xdr

theorem yields_accepted : Yields most acceptedReader parseAccepted :=
  follows_word.yields fun _ =>
    .ite (fun _ => fun _ _ => ⟨_, rfl, rfl⟩) fun _ => .ite (fun _ => .pure _) fun _ =>
      .ite (fun _ => follows_word.yields fun _ => follows_word.yields fun _ => .pure _)
        fun _ => .ite (fun _ => .pure _) fun _ => .ite (fun _ => .pure _) fun _ =>
          .ite (fun _ => .pure _) fun _ => .pure _

theorem yields_denied : Yields most deniedReader parseDenied :=
  follows_word.yields fun _ =>
    .ite (fun _ => follows_word.yields fun _ => follows_word.yields fun _ => .pure _)
      fun _ => .ite (fun _ => follows_word.yields fun _ => .pure _) fun _ => .pure _

theorem yields_replyBody {target : Target}
    (verifier : Follows most (target.decodeOpaque maxAuthBody) (Xdr.decodeOpaque maxAuthBody)) :
    Yields most (replyBodyReader target) parseReplyBody :=
  follows_word.yields fun _ => .ite (fun _ => .throw _) fun _ =>
    follows_word.yields fun _ =>
      .ite (fun _ => follows_word.yields fun _ => (verifier.mapError RpcError.xdr).yields fun _ =>
        yields_accepted) fun _ => .ite (fun _ => yields_denied) fun _ => .throw _

/-- The verifier is the only part of a reply with a length of its own. -/
theorem yields_reply {target : Target}
    (verifier : Follows most (target.decodeOpaque maxAuthBody) (Xdr.decodeOpaque maxAuthBody)) :
    Yields most (replyReader target) parseReply :=
  follows_word.yields fun xid => (yields_replyBody verifier).map fun inner => (xid, inner)

end Replies

/-- The outcome is not a panic, and a value that is returned was consumed as a length, as
many bytes and their padding. -/
def Delivers {α : Type} (content : α → Bytes) (buf : Bytes)
    (outcome : Option (Except XdrError (α × Bytes))) : Prop :=
  ∃ result, outcome = some result ∧ ∀ value rest, result = .ok (value, rest) →
    ∃ (len : UInt32) (pad : Bytes), (content value).length = len.toNat ∧
      pad.length = padding len.toNat ∧ buf = beU32 len ++ (content value ++ (pad ++ rest))

/-- A length within three of `2 ^ 32` that the limit allows and the buffer does not hold. -/
def Overreaches (limit : Nat) (buf : Bytes) : Prop :=
  4 ≤ buf.length ∧ (Xdr.getU32 buf).1.toNat ≤ limit ∧
    2 ^ 32 - 3 ≤ (Xdr.getU32 buf).1.toNat ∧
    (Xdr.getU32 buf).2.length <
      (Xdr.getU32 buf).1.toNat + padding (Xdr.getU32 buf).1.toNat

/-- The sum of a length and its padding wraps exactly for the last three lengths. -/
theorem release32_add (len : UInt32) :
    Target.release32.add len.toNat (padding len.toNat) =
      some (if 2 ^ 32 - 3 ≤ len.toNat then 0 else len.toNat + padding len.toNat) := by
  have small := len.toNat_lt
  by_cases last : 2 ^ 32 - 3 ≤ len.toNat
  · have whole : len.toNat + padding len.toNat = 2 ^ 32 := by
      unfold padding
      omega
    simp only [Target.add, Target.release32, whole, last, ↓reduceIte, Nat.lt_irrefl,
      Bool.false_eq_true, Nat.mod_self]
  · have fits : len.toNat + padding len.toNat < 2 ^ 32 := by
      unfold padding
      omega
    simp only [Target.add, Target.release32, fits, last, ↓reduceIte]

section Release

variable {limit : Nat} {buf rest : Bytes} {len : UInt32}

/-- An outcome other than a panic took the data and its padding off the buffer. -/
theorem delivers_of_outcome {outcome : Except XdrError (Bytes × Bytes)}
    (ran : (Target.release32.decodeOpaque limit).outcome buf = some outcome) :
    Delivers id buf (some outcome) := by
  refine ⟨outcome, rfl, ?_⟩
  rintro data left rfl
  rcases read : Xdr.decodeU32 buf with fault | ⟨len, rest⟩
  · have word := (@Xdr.follows_u32 buf.length buf (Nat.le_refl _)).1
    simp only [Target.decodeOpaque, Reader.outcome_bind, word, read] at ran
    cases ran
  · by_cases within : len.toNat ≤ limit
    · obtain ⟨needed, sum⟩ : ∃ needed,
          Target.release32.add len.toNat (padding len.toNat) = some needed :=
        ⟨_, release32_add len⟩
      rw [Xdr.outcome_decodeOpaque Target.release32 read within sum] at ran
      split at ran
      · cases ran
      · split at ran
        · rename_i enough
          cases ran
          refine ⟨len, (rest.drop len.toNat).take (padding len.toNat), ?_, ?_, ?_⟩
          · rw [id, List.length_take]
            omega
          · rw [List.length_take, List.length_drop]
            omega
          · rw [id, List.take_append_drop, List.take_append_drop]
            exact Xdr.decodeU32_inv read
        · cases ran
    · have word := (@Xdr.follows_u32 buf.length buf (Nat.le_refl _)).1
      rw [read] at word
      rw [Target.decodeOpaque, Reader.outcome_bind_ok word] at ran
      simp only [gt_iff_lt, Nat.not_le.mp within, ↓reduceIte, Reader.outcome_throw] at ran
      cases ran

/-- The panic, for the lengths whose sum wraps and on no other input. -/
theorem release32_panics_iff :
    (Target.release32.decodeOpaque limit).outcome buf = none ↔ Overreaches limit buf := by
  have word := (@Xdr.follows_u32 buf.length buf (Nat.le_refl _)).1
  by_cases header : 4 ≤ buf.length
  · have read : Xdr.decodeU32 buf = .ok (Xdr.getU32 buf) := by
      simp only [Xdr.decodeU32, Xdr.ensure, Nat.not_lt.mpr header, ↓reduceIte]
      rfl
    generalize parsed : Xdr.getU32 buf = parts at read
    obtain ⟨len, rest⟩ := parts
    simp only [Overreaches, header, true_and, parsed]
    by_cases within : len.toNat ≤ limit
    · rw [Xdr.outcome_decodeOpaque Target.release32 read within (release32_add len)]
      by_cases last : 2 ^ 32 - 3 ≤ len.toNat
      · simp only [last, ↓reduceIte, Nat.not_lt_zero, within, true_and]
        by_cases holds : len.toNat + padding len.toNat ≤ rest.length
        · simp only [holds, ↓reduceIte, Nat.not_lt.mpr holds, iff_false]
          exact Option.some_ne_none _
        · simp only [holds, ↓reduceIte, Nat.not_le.mp holds]
      · simp only [last, ↓reduceIte, false_and, and_false, iff_false]
        split
        · exact Option.some_ne_none _
        · rw [if_pos (by omega)]
          exact Option.some_ne_none _
    · rw [read] at word
      rw [Target.decodeOpaque, Reader.outcome_bind_ok word]
      simp only [gt_iff_lt, Nat.not_le.mp within, ↓reduceIte, Reader.outcome_throw, within,
        false_and, iff_false]
      exact Option.some_ne_none _
  · have read : Xdr.decodeU32 buf = .error (.truncated 4 buf.length) := by
      simp only [Xdr.decodeU32, Xdr.ensure, Nat.not_le.mp header, ↓reduceIte]
      rfl
    simp only [Target.decodeOpaque, Reader.outcome_bind, word, read, Overreaches, header,
      false_and, iff_false]
    exact Option.some_ne_none _

theorem delivers_iff :
    Delivers id buf ((Target.release32.decodeOpaque limit).outcome buf) ↔
      ¬ Overreaches limit buf := by
  rw [← release32_panics_iff]
  constructor
  · rintro ⟨result, ran, -⟩ panics
    rw [panics] at ran
    cases ran
  · intro runs
    obtain ⟨result, ran⟩ := Option.ne_none_iff_exists'.mp runs
    rw [ran]
    exact delivers_of_outcome ran

/-- A string is variable-length data that is then checked. -/
theorem delivers_string_iff :
    Delivers asBytes buf (Target.release32.decodeString.outcome buf) ↔
      ¬ Overreaches Target.release32.usizeMax buf := by
  rw [← delivers_iff]
  rw [Target.decodeString, Reader.outcome_bind]
  rcases raw : (Target.release32.decodeOpaque Target.release32.usizeMax).outcome buf with
    _ | (fault | ⟨data, rest⟩)
  · refine ⟨?_, ?_⟩ <;>
    · rintro ⟨result, panics, -⟩
      cases panics
  · refine ⟨fun _ => delivers_of_outcome raw, fun _ => ⟨_, rfl, ?_⟩⟩
    rintro text left refused
    cases refused
  · have shape := delivers_of_outcome raw
    refine ⟨fun _ => shape, fun _ => ?_⟩
    obtain ⟨_, same, consumed⟩ := shape
    cases same
    simp only [Option.bind_some]
    cases valid : fromUtf8 data with
    | none =>
        refine ⟨_, rfl, ?_⟩
        rintro text left refused
        cases refused
    | some text =>
        refine ⟨_, rfl, ?_⟩
        rintro found left accepted
        cases accepted
        rw [Xdr.asBytes_of_fromUtf8 valid]
        exact consumed data rest rfl

end Release

/-- No verifier is long enough for the sum to wrap. -/
theorem follows_verifier {most : Nat} :
    Follows most (Target.release32.decodeOpaque maxAuthBody) (Xdr.decodeOpaque maxAuthBody) := by
  apply Xdr.follows_opaqueData
  intro len within small
  have fits : len + padding len < 2 ^ 32 := by
    have padded := Xdr.padding_le len
    unfold maxAuthBody at within
    omega
  exact if_pos fits

/-- Variable-length data on the 32-bit release build is delivered or refused unless its
length overreaches, and replies are always parsed without a panic. -/
theorem release32_delivers_iff (limit : UInt32) (buf : Bytes) :
    (Delivers id buf ((Target.release32.decodeOpaque limit.toNat).outcome buf) ↔
      ¬ Overreaches limit.toNat buf) ∧
    (Delivers asBytes buf (Target.release32.decodeString.outcome buf) ↔
      ¬ Overreaches Target.release32.usizeMax buf) ∧
    (Delivers id buf (Target.release32.decodeBytes.outcome buf) ↔
      ¬ Overreaches Target.release32.usizeMax buf) ∧
    Delivers id buf ((Target.release32.decodeOpaque maxAuthBody).outcome buf) ∧
    ∃ result, (replyReader Target.release32).outcome buf = some result ∧
      result.map Prod.fst = parseReply buf := by
  refine ⟨delivers_iff, delivers_string_iff, delivers_iff, ?_, ?_⟩
  · have runs := (follows_verifier buf (Nat.le_refl _)).1
    rw [runs]
    exact delivers_of_outcome runs
  · exact yields_reply follows_verifier buf (Nat.le_refl _)

/-- A lone length prefix makes all three decoders panic. -/
theorem release32_overreaches :
    Target.release32.decodeBytes.outcome [0xff, 0xff, 0xff, 0xfd] = none ∧
    Target.release32.decodeString.outcome [0xff, 0xff, 0xff, 0xfd] = none ∧
    ¬ ∀ (limit : UInt32) (buf : Bytes),
      Delivers id buf ((Target.release32.decodeOpaque limit.toNat).outcome buf) := by
  refine ⟨by decide +kernel, by decide +kernel, fun claim => ?_⟩
  obtain ⟨result, runs, -⟩ := claim 0xffffffff [0xff, 0xff, 0xff, 0xfd]
  have panics : (Target.release32.decodeOpaque (0xffffffff : UInt32).toNat).outcome
      [0xff, 0xff, 0xff, 0xfd] = none := by decide +kernel
  rw [panics] at runs
  cases runs

end LibNfs.Rpc
