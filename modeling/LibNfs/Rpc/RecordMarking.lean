import LibNfs.Rpc.Record

/-! # RFC 5531 record marking

The abstract reading of a marked stream, in one pass over all of it: each
fragment has a four-byte header whose top bit marks the last fragment of its
record and whose other 31 bits give its length, and a record is the
concatenation of its fragments. With a limit, the reading stops at the first
header that takes the running total of its record above it. `encodeRecord` is
the sender's side, for any way of cutting a record into fragments.
-/

namespace LibNfs.Rpc.RecordMarking

open Xdr (beU32)

/-- What the reading of a stream gives: its complete records, in order, and
whether it stopped at an oversized record. -/
@[ext] structure Parse where
  records : List Bytes
  tooLarge : Bool
  deriving DecidableEq, Repr

/-- The reading of a record followed by another reading. -/
def Parse.cons (record : Bytes) (rest : Parse) : Parse :=
  ⟨record :: rest.records, rest.tooLarge⟩

/-- Records read before another reading. -/
def Parse.after (records : List Bytes) (rest : Parse) : Parse :=
  ⟨records ++ rest.records, rest.tooLarge⟩

/-- A total is above the limit, if there is one. -/
def exceeds (limit : Option Nat) (total : Nat) : Prop :=
  ∃ bound, limit = some bound ∧ bound < total

theorem not_exceeds_none (total : Nat) : ¬ exceeds none total := by
  rintro ⟨_, ⟨⟩, _⟩

instance (limit : Option Nat) (total : Nat) : Decidable (exceeds limit total) :=
  match limit with
  | none => .isFalse (not_exceeds_none total)
  | some bound => decidable_of_iff (bound < total)
      ⟨fun above => ⟨bound, rfl, above⟩, fun ⟨_, same, above⟩ => Option.some.inj same ▸ above⟩

/-- The header of a fragment, as a number. -/
def headerOf (stream : Bytes) : Nat :=
  BigEndian.decode (stream.take 4)

/-- The one-pass reading of a stream; `record` holds the fragments already read
of the record under way. -/
def parse (limit : Option Nat) (record stream : Bytes) : Parse :=
  if stream.length < 4 then
    ⟨[], false⟩
  else
    let last := 2 ^ 31 ≤ headerOf stream
    let len := headerOf stream % 2 ^ 31
    let body := stream.drop 4
    if exceeds limit (record.length + len) then
      ⟨[], true⟩
    else if body.length < len then
      ⟨[], false⟩
    else if last then
      (parse limit [] (body.drop len)).cons (record ++ body.take len)
    else
      parse limit (record ++ body.take len) (body.drop len)
termination_by stream.length
decreasing_by all_goals (simp only [List.length_drop]; omega)

/-- The reading from inside a fragment of which `len` bytes are missing. -/
def payload (limit : Option Nat) (last : Bool) (len : Nat) (record body : Bytes) : Parse :=
  if body.length < len then
    ⟨[], false⟩
  else if last then
    (parse limit [] (body.drop len)).cons (record ++ body.take len)
  else
    parse limit (record ++ body.take len) (body.drop len)

theorem parse_short {limit : Option Nat} {record stream : Bytes} (short : stream.length < 4) :
    parse limit record stream = ⟨[], false⟩ := by
  rw [parse, if_pos short]

/-- A header is checked against the limit and then its payload is read. -/
theorem parse_header {limit : Option Nat} {record stream : Bytes} (long : 4 ≤ stream.length) :
    parse limit record stream =
      if exceeds limit (record.length + headerOf stream % 2 ^ 31) then
        ⟨[], true⟩
      else
        payload limit (decide (2 ^ 31 ≤ headerOf stream)) (headerOf stream % 2 ^ 31) record
          (stream.drop 4) := by
  rw [parse, if_neg (by omega)]
  simp only [payload, decide_eq_true_eq]

theorem headerOf_append {stream : Bytes} (long : 4 ≤ stream.length) (rest : Bytes) :
    headerOf (stream ++ rest) = headerOf stream := by
  rw [headerOf, headerOf, List.take_append_of_le_length long]

/-- Bytes already received of a fragment may be set aside. -/
theorem payload_append {limit : Option Nat} {last : Bool} {len : Nat} {record front rest : Bytes}
    (short : front.length ≤ len) :
    payload limit last len record (front ++ rest) =
      payload limit last (len - front.length) (record ++ front) rest := by
  have sizes : (front ++ rest).length < len ↔ rest.length < len - front.length := by
    rw [List.length_append]
    omega
  have taken : (front ++ rest).take len = front ++ rest.take (len - front.length) := by
    rw [List.take_append, List.take_of_length_le short]
  have dropped : (front ++ rest).drop len = rest.drop (len - front.length) := by
    rw [List.drop_append, List.drop_eq_nil_of_le short, List.nil_append]
  simp only [payload, sizes, taken, dropped, List.append_assoc]

/-- A fragment that is complete is followed by the next header. -/
theorem payload_full {limit : Option Nat} {last : Bool} {len : Nat} {record body : Bytes}
    (full : len ≤ body.length) (rest : Bytes) :
    payload limit last len record (body ++ rest) =
      if last then (parse limit [] (body.drop len ++ rest)).cons (record ++ body.take len)
      else parse limit (record ++ body.take len) (body.drop len ++ rest) := by
  have enough : ¬ (body ++ rest).length < len := by
    rw [List.length_append]
    omega
  rw [payload, if_neg enough, List.take_append_of_le_length full,
    List.drop_append_of_le_length full]

/-- A limit only cuts the reading short. -/
theorem records_prefix_unlimited (limit : Option Nat) (record stream : Bytes) :
    (parse limit record stream).records <+: (parse none record stream).records := by
  induction total : stream.length using Nat.strongRecOn generalizing record stream with
  | ind size ih =>
      by_cases short : stream.length < 4
      · rw [parse_short short]
        exact List.nil_prefix
      · rw [parse_header (by omega), parse_header (by omega), if_neg (not_exceeds_none _)]
        split
        · exact List.nil_prefix
        · unfold payload
          split
          · exact List.nil_prefix
          · have smaller : ((stream.drop 4).drop (headerOf stream % 2 ^ 31)).length < size := by
              rw [← total, List.length_drop, List.length_drop]
              omega
            split
            · exact (List.prefix_append_right_inj [_]).mpr (ih _ smaller [] _ rfl)
            · exact ih _ smaller _ _ rfl

/-- More bytes extend a reading, unless it stopped at an oversized record. -/
theorem parse_append (limit : Option Nat) (record stream : Bytes) :
    ((parse limit record stream).tooLarge = true ∧
        ∀ rest, parse limit record (stream ++ rest) = parse limit record stream) ∨
      (parse limit record stream).tooLarge = false ∧
        ∃ record' stream', ∀ rest, parse limit record (stream ++ rest) =
          (parse limit record' (stream' ++ rest)).after (parse limit record stream).records := by
  induction total : stream.length using Nat.strongRecOn generalizing record stream with
  | ind size ih =>
      by_cases short : stream.length < 4
      · rw [parse_short short]
        exact .inr ⟨rfl, record, stream, fun _ => rfl⟩
      · have long : 4 ≤ stream.length := by omega
        have longer : ∀ rest : Bytes, 4 ≤ (stream ++ rest).length := fun rest => by
          rw [List.length_append]
          omega
        simp only [parse_header long, parse_header (longer _), headerOf_append long]
        split
        · exact .inl ⟨rfl, fun _ => rfl⟩
        · rename_i within
          by_cases part : (stream.drop 4).length < headerOf stream % 2 ^ 31
          · refine .inr ⟨by rw [payload, if_pos part], record, stream, fun rest => ?_⟩
            rw [parse_header (longer rest), headerOf_append long, if_neg within]
            simp only [payload, part, ↓reduceIte]
            rfl
          · have full : headerOf stream % 2 ^ 31 ≤ (stream.drop 4).length := by omega
            have smaller : ((stream.drop 4).drop (headerOf stream % 2 ^ 31)).length < size := by
              rw [← total, List.length_drop, List.length_drop]
              omega
            have whole := @payload_full limit (decide (2 ^ 31 ≤ headerOf stream)) _ record _ full
            have alone := whole []
            simp only [List.append_nil] at alone
            simp only [List.drop_append_of_le_length long, whole, alone]
            split
            · rcases ih _ smaller [] _ rfl with ⟨large, same⟩ | ⟨fits, record', stream', longer⟩
              · exact .inl ⟨large, fun rest => by rw [same]⟩
              · exact .inr ⟨fits, record', stream', fun rest => by rw [longer]; rfl⟩
            · exact ih _ smaller _ _ rfl

theorem records_prefix_append (limit : Option Nat) (record stream rest : Bytes) :
    (parse limit record stream).records <+: (parse limit record (stream ++ rest)).records := by
  rcases parse_append limit record stream with ⟨-, same⟩ | ⟨-, record', stream', longer⟩
  · exact ⟨[], by rw [same, List.append_nil]⟩
  · rw [longer]
    exact List.prefix_append _ _

/-- A record cut into non-last fragments and one last fragment. -/
structure Cut where
  front : List Bytes
  final : Bytes
  deriving DecidableEq, Repr

/-- The record a cut is of. -/
def Cut.record (cut : Cut) : Bytes :=
  cut.front.flatten ++ cut.final

/-- Every fragment length can be written in 31 bits. -/
def Cut.Short (cut : Cut) : Prop :=
  (∀ fragment ∈ cut.front, fragment.length < 2 ^ 31) ∧ cut.final.length < 2 ^ 31

instance (cut : Cut) : Decidable cut.Short :=
  inferInstanceAs (Decidable ((∀ fragment ∈ cut.front, _) ∧ _))

/-- A fragment on the wire. -/
def encodeFragment (last : Bool) (fragment : Bytes) : Bytes :=
  beU32 (UInt32.ofNat ((if last then 2 ^ 31 else 0) + fragment.length)) ++ fragment

/-- A record on the wire, cut in a given way. -/
def encodeRecord (cut : Cut) : Bytes :=
  (cut.front.map (encodeFragment false)).flatten ++ encodeFragment true cut.final

/-- The records of a list of cuts on the wire, one after the other. -/
def encodeRecords (cuts : List Cut) : Bytes :=
  (cuts.map encodeRecord).flatten

theorem headerOf_encodeFragment {last : Bool} {fragment : Bytes} (short : fragment.length < 2 ^ 31)
    (rest : Bytes) :
    headerOf (encodeFragment last fragment ++ rest) =
      (if last then 2 ^ 31 else 0) + fragment.length := by
  have small : (if last then 2 ^ 31 else 0) + fragment.length < 2 ^ 32 := by
    cases last
    · simp only [Bool.false_eq_true, ↓reduceIte]
      omega
    · simp only [↓reduceIte]
      omega
  have word : (UInt32.ofNat ((if last then 2 ^ 31 else 0) + fragment.length)).toNat =
      (if last then 2 ^ 31 else 0) + fragment.length :=
    UInt32.toNat_ofNat_of_lt' small
  rw [headerOf, encodeFragment, List.append_assoc, List.take_left' (Xdr.length_beU32 _), beU32,
    word, BigEndian.decode_encode small]

theorem length_of_header (last : Bool) {len : Nat} (short : len < 2 ^ 31) :
    ((if last then 2 ^ 31 else 0) + len) % 2 ^ 31 = len := by
  cases last
  · simp only [Bool.false_eq_true, ↓reduceIte]
    omega
  · simp only [↓reduceIte]
    omega

/-- A fragment that keeps its record within the limit is read off the wire. -/
theorem parse_encodeFragment {limit : Option Nat} {last : Bool} {record fragment : Bytes}
    (short : fragment.length < 2 ^ 31)
    (within : ¬ exceeds limit (record.length + fragment.length)) (rest : Bytes) :
    parse limit record (encodeFragment last fragment ++ rest) =
      if last then (parse limit [] rest).cons (record ++ fragment)
      else parse limit (record ++ fragment) rest := by
  have long : 4 ≤ (encodeFragment last fragment ++ rest).length := by
    simp only [encodeFragment, List.length_append, Xdr.length_beU32]
    omega
  have body : (encodeFragment last fragment ++ rest).drop 4 = fragment ++ rest := by
    rw [encodeFragment, List.append_assoc, List.drop_left' (Xdr.length_beU32 _)]
  have mark : decide (2 ^ 31 ≤ (if last then 2 ^ 31 else 0) + fragment.length) = last := by
    cases last
    · simpa using short
    · simp
  rw [parse_header long, headerOf_encodeFragment short, length_of_header last short, mark, body,
    if_neg within, payload_append (Nat.le_refl _), Nat.sub_self]
  cases last <;> simp [payload]

/-- The fragments of one record, after those already read. -/
theorem parse_encodeRecord {limit : Option Nat} (cut : Cut) (read rest : Bytes)
    (short : cut.Short) (within : ¬ exceeds limit (read ++ cut.record).length) :
    parse limit read (encodeRecord cut ++ rest) =
      (parse limit [] rest).cons (read ++ cut.record) := by
  obtain ⟨front, final⟩ := cut
  induction front generalizing read with
  | nil =>
      have fits : ¬ exceeds limit (read.length + final.length) := by
        simpa [Cut.record] using within
      have last := @parse_encodeFragment limit true read final short.2 fits rest
      simpa [encodeRecord, Cut.record] using last
  | cons fragment front ih =>
      have fits : ¬ exceeds limit (read.length + fragment.length) := by
        rintro ⟨bound, rfl, above⟩
        refine within ⟨bound, rfl, ?_⟩
        simp only [Cut.record, List.flatten_cons, List.length_append]
        omega
      have tail := ih (read ++ fragment)
        ⟨fun other member => short.1 other (List.mem_cons_of_mem _ member), short.2⟩
        (by simpa [Cut.record, List.append_assoc] using within)
      have head := @parse_encodeFragment limit false read fragment
        (short.1 fragment List.mem_cons_self) fits (encodeRecord ⟨front, final⟩ ++ rest)
      simp only [encodeRecord, List.map_cons, List.flatten_cons, List.append_assoc,
        Cut.record, Bool.false_eq_true, ↓reduceIte] at head tail ⊢
      rw [head, tail]

/-- Every record whose length respects the limit is read back, however it was
cut into fragments, and what follows is read after them. -/
theorem parse_encodeRecords_append {limit : Option Nat} (cuts : List Cut)
    (short : ∀ cut ∈ cuts, cut.Short)
    (within : ∀ cut ∈ cuts, ¬ exceeds limit cut.record.length) (rest : Bytes) :
    parse limit [] (encodeRecords cuts ++ rest) =
      (parse limit [] rest).after (cuts.map Cut.record) := by
  induction cuts with
  | nil => rfl
  | cons cut cuts ih =>
      have tail := ih (fun other member => short other (List.mem_cons_of_mem _ member))
        (fun other member => within other (List.mem_cons_of_mem _ member))
      have head := parse_encodeRecord cut [] (encodeRecords cuts ++ rest)
        (short cut List.mem_cons_self) (within cut List.mem_cons_self)
      rw [List.nil_append] at head
      rw [encodeRecords, List.map_cons, List.flatten_cons, ← encodeRecords, List.append_assoc,
        head, tail]
      rfl

theorem parse_encodeRecords {limit : Option Nat} (cuts : List Cut)
    (short : ∀ cut ∈ cuts, cut.Short)
    (within : ∀ cut ∈ cuts, ¬ exceeds limit cut.record.length) :
    parse limit [] (encodeRecords cuts) = ⟨cuts.map Cut.record, false⟩ := by
  have all := parse_encodeRecords_append cuts short within []
  have nothing : parse limit [] [] = ⟨[], false⟩ := parse_short (by decide)
  rw [List.append_nil, nothing] at all
  rw [all, Parse.after, List.append_nil]

/-- A fragment of which bytes are missing holds no record. -/
theorem records_of_torn_fragment {limit : Option Nat} {last : Bool} {fragment : Bytes}
    (short : fragment.length < 2 ^ 31) {count : Nat} (missing : count < fragment.length + 4) :
    (parse limit [] ((encodeFragment last fragment).take count)).records = [] := by
  have size : (encodeFragment last fragment).length = fragment.length + 4 := by
    rw [encodeFragment, List.length_append, Xdr.length_beU32, Nat.add_comm]
  by_cases few : count < 4
  · rw [parse_short (by rw [List.length_take]; omega)]
  · have long : 4 ≤ ((encodeFragment last fragment).take count).length := by
      rw [List.length_take]
      omega
    have header : headerOf ((encodeFragment last fragment).take count) % 2 ^ 31 =
        fragment.length := by
      have whole := @headerOf_encodeFragment last fragment short []
      rw [List.append_nil] at whole
      rw [← length_of_header last short, ← whole, headerOf, headerOf, List.take_take,
        Nat.min_eq_left (by omega)]
    have part : (((encodeFragment last fragment).take count).drop 4).length <
        fragment.length := by
      rw [List.length_drop, List.length_take]
      omega
    rw [parse_header long, header]
    split
    · rfl
    · rw [payload, if_pos part]

end LibNfs.Rpc.RecordMarking
