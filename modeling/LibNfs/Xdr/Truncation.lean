import LibNfs.Xdr.RoundTrip

/-! # Cut and extended messages

No strict prefix of the code of a value is read: wherever the cut falls, the
decoder runs out of bytes and says so (`Ty.cuts`). As the whole code is read and
nothing after it, a message is accepted by `from_bytes` only when it is complete
and ends there.
-/

namespace LibNfs.Xdr

open Coding

/-- The error is `Truncated`. -/
def Short (fault : XdrError) : Prop :=
  ∃ needed had, fault = .truncated needed had

/-- A truncation is a fault of a short buffer. -/
theorem short_truncated (needed had : Nat) : Short (.truncated needed had) :=
  ⟨needed, had, rfl⟩

/-- A decoder that first checks for `width` bytes refuses fewer. -/
theorem cuts_ensure {α : Type} {width : Nat} {next : Bytes → Except XdrError (α × Bytes)}
    {code : Bytes} (length : code.length = width) :
    Cuts Short (fun buf => (ensure buf width).bind fun _ => next buf) code := by
  intro front back joined some
  have shorter : front.length < width := by
    have whole := congrArg List.length joined
    have rest := List.length_pos_iff.mpr some
    rw [List.length_append] at whole
    omega
  refine ⟨.truncated width front.length, ?_, short_truncated _ _⟩
  simp only [ensure, shorter, ↓reduceIte, Except.bind]

theorem cuts_u32 (value : UInt32) : Cuts Short decodeU32 (beU32 value) :=
  cuts_ensure (length_beU32 value)

theorem cuts_u64 (value : UInt64) : Cuts Short decodeU64 (beU64 value) :=
  cuts_ensure (length_beU64 value)

/-- A signed word that is cut is truncated. -/
theorem cuts_i32 (value : Int32) :
    Cuts Short (XdrDecode.decode : Decoder XdrError UInt8 Int32) (beU32 value.toUInt32) :=
  (cuts_u32 _).head fun value buf => .ok (value.toInt32, buf)

/-- A signed hyper that is cut is truncated. -/
theorem cuts_i64 (value : Int64) :
    Cuts Short (XdrDecode.decode : Decoder XdrError UInt8 Int64) (beU64 value.toUInt64) :=
  (cuts_u64 _).head fun value buf => .ok (value.toInt64, buf)

theorem cuts_bool (value : Bool) :
    Cuts Short (XdrDecode.decode : Decoder XdrError UInt8 Bool) (beU32 (boolWord value)) :=
  (cuts_u32 _).head fun value buf =>
    if value = 0 then .ok (false, buf) else if value = 1 then .ok (true, buf)
    else .error (.invalidBool value)

theorem decodeOpaque_eq (limit : Nat) : decodeOpaque limit = decodeThen decodeU32 fun len buf =>
    if len.toNat > limit then .error (.limitExceeded len.toNat limit)
    else (ensure buf (len.toNat + padding len.toNat)).bind fun _ =>
      .ok (buf.take len.toNat, (buf.drop len.toNat).drop (padding len.toNat)) := rfl

/-- A cut in the data or the padding leaves fewer bytes than the length announces. -/
theorem cuts_opaqueData {data pad : Bytes} (limit : Nat) (within : data.length ≤ limit)
    (fits : data.length < 2 ^ 32) (aligned : pad.length = padding data.length) :
    Cuts Short (decodeOpaque limit) (opaqueCode data pad) := by
  have length : (UInt32.ofNat data.length).toNat = data.length :=
    UInt32.toNat_ofNat_of_lt' (by simpa using fits)
  rw [decodeOpaque_eq, opaqueCode]
  apply Cuts.both (reads_u32 _) (cuts_u32 _)
  simp only [length, gt_iff_lt, Nat.not_lt.mpr within, ↓reduceIte]
  exact cuts_ensure (by rw [List.length_append, aligned])

theorem decodeString_eq : (XdrDecode.decode : Decoder XdrError UInt8 String) =
    decodeThen (decodeOpaque usizeMax) fun raw buf =>
      (fromUtf8 raw).elim (.error .invalidUtf8) fun text => .ok (text, buf) := by
  funext buf
  simp only [XdrDecode.decode, decodeThen]
  cases decodeOpaque usizeMax buf with
  | error fault => rfl
  | ok parsed =>
      simp only [bind, Except.bind]
      cases fromUtf8 parsed.1 <;> rfl

theorem cuts_string {text : String} {pad : Bytes} (fits : (asBytes text).length < 2 ^ 32)
    (aligned : pad.length = padding (asBytes text).length) :
    Cuts Short (XdrDecode.decode : Decoder XdrError UInt8 String)
      (opaqueCode (asBytes text) pad) := by
  rw [decodeString_eq]
  exact (cuts_opaqueData usizeMax (by unfold usizeMax; omega) fits aligned).head _

/-- Data of a fixed size that is cut is truncated. -/
theorem cuts_fixed {size : Nat} {data : Vector UInt8 size} {pad : Bytes}
    (aligned : pad.length = padding size) :
    Cuts Short (XdrDecode.decode : Decoder XdrError UInt8 (Vector UInt8 size))
      (data.toList ++ pad) :=
  cuts_ensure (by rw [List.length_append, Vector.length_toList, aligned])

section Containers

variable {α : Type} {decode : Decoder XdrError UInt8 α}

theorem decodeVec_eq : decodeVec decode = decodeThen decodeU32 fun count buf =>
    if count.toNat > buf.length then .error (.truncated count.toNat buf.length)
    else decodeMany decode count.toNat buf := rfl

/-- A cut among the elements is found by the count check or by an element. -/
theorem cuts_vec {items : List α} {codes : List Bytes} (fits : items.length < 2 ^ 32)
    (each : ReadsAll decode items codes) (cuts : ∀ code ∈ codes, Cuts Short decode code) :
    Cuts Short (decodeVec decode) (beU32 (UInt32.ofNat items.length) ++ codes.flatten) := by
  have count : (UInt32.ofNat items.length).toNat = items.length :=
    UInt32.toNat_ofNat_of_lt' (by simpa using fits)
  rw [decodeVec_eq]
  apply Cuts.both (reads_u32 _) (cuts_u32 _)
  intro front back joined some
  rw [count]
  by_cases more : items.length > front.length
  · exact ⟨_, if_pos more, short_truncated _ _⟩
  · simp only [more, ↓reduceIte]
    exact Cuts.many each cuts front back joined some

/-- An optional value is read flag first. -/
theorem decodeOption_eq : decodeOption decode = decodeThen decodeU32 fun present buf =>
    if present = 0 then .ok (none, buf)
    else if present = 1 then (decode buf).bind fun parsed => .ok (some parsed.1, parsed.2)
    else .error (.invalidBool present) := rfl

/-- The flag of an absent value that is cut is truncated. -/
theorem cuts_none : Cuts Short (decodeOption decode) (beU32 0) := by
  rw [decodeOption_eq]
  exact (cuts_u32 0).head _

/-- A value that is there and is cut is truncated. -/
theorem cuts_some {code : Bytes} (inner : Cuts Short decode code) :
    Cuts Short (decodeOption decode) (beU32 1 ++ code) := by
  rw [decodeOption_eq]
  apply Cuts.both (reads_u32 1) (cuts_u32 1)
  exact inner.head fun value buf => .ok (some value, buf)

/-- A value under a limit that is cut is truncated. -/
theorem cuts_limited {limit : UInt64} {len : α → Nat} {code : Bytes}
    (inner : Cuts Short decode code) : Cuts Short (decodeLimited limit len decode) code :=
  inner.head fun value buf =>
    if len value > limit.toNat then .error (.limitExceeded (len value) limit.toNat)
    else .ok (value, buf)

/-- A case of an enumeration is read number first. -/
theorem enum32Decode_eq (discriminants : List Int32) : enum32Decode discriminants =
    decodeThen XdrDecode.decode fun discriminant buf =>
      (discriminants.finIdxOf? discriminant).elim (.error (.invalidEnum discriminant))
        fun variant => .ok (variant, buf) := by
  funext buf
  simp only [enum32Decode, decodeThen]
  cases (XdrDecode.decode buf : Except XdrError (Int32 × Bytes)) with
  | error fault => rfl
  | ok parsed =>
      simp only [bind, Except.bind]
      cases discriminants.finIdxOf? parsed.1 <;> rfl

/-- A case of an enumeration that is cut is truncated. -/
theorem cuts_enum32 {discriminants : List Int32} (value : Int32) :
    Cuts Short (enum32Decode discriminants) (beU32 value.toUInt32) := by
  rw [enum32Decode_eq]
  exact (cuts_i32 value).head _

/-- The first arm of a union that is cut is truncated. -/
theorem cuts_here (label : Int64) {fields : Fields} {rest : Variants} {code : Bytes}
    (inner : Cuts Short fields.decode code) :
    Cuts Short ((Variants.cons label fields rest).decode (i32Lit label)) code := by
  have arm : (Variants.cons label fields rest).decode (i32Lit label) =
      decodeThen fields.decode fun value buf => .ok (.inl value, buf) := by
    funext buf
    simp only [Variants.decode, ↓reduceIte]
    rfl
  rw [arm]
  exact inner.head _

/-- Another arm of a union that is cut is truncated. -/
theorem cuts_there {label : Int64} {discriminant : Int32} {fields : Fields} {rest : Variants}
    {code : Bytes} (other : discriminant ≠ i32Lit label)
    (inner : Cuts Short (rest.decode discriminant) code) :
    Cuts Short ((Variants.cons label fields rest).decode discriminant) code := by
  have arm : (Variants.cons label fields rest).decode discriminant =
      decodeThen (rest.decode discriminant) fun value buf => .ok (.inr value, buf) := by
    funext buf
    simp only [Variants.decode, other, ↓reduceIte]
    rfl
  rw [arm]
  exact inner.head _

end Containers

mutual

/-- A strict prefix of the code of a value is refused as truncated. -/
theorem Ty.cuts : (ty : Ty) → (value : ty.Val) → ty.Occupied → ty.Distinct → ty.Fits value →
    ty.Within value → Cuts Short ty.decode (ty.code value)
  | .u32, value, _, _, _, _ => cuts_u32 value
  | .i32, value, _, _, _, _ => cuts_i32 value
  | .u64, value, _, _, _, _ => cuts_u64 value
  | .i64, value, _, _, _, _ => cuts_i64 value
  | .bool, value, _, _, _, _ => cuts_bool value
  | .void, _, _, _, _, _ => Cuts.nil
  | .fixed _, _, _, _, _, _ => cuts_fixed (List.length_replicate ..)
  | .option _, none, _, _, _, _ => cuts_none
  | .option elem, some value, occupied, distinct, fits, within =>
      cuts_some (elem.cuts value occupied distinct (fits value rfl) (within value rfl))
  | .sized kind, value, occupied, distinct, fits, within =>
      kind.cuts value occupied distinct fits within
  | .struct fields, value, occupied, distinct, fits, within =>
      fields.cuts value occupied distinct fits within
  | .enum32 discriminants, value, _, _, _, _ => cuts_enum32 (discriminants.get value)
  | .union variants, value, occupied, distinct, fits, within =>
      Cuts.both (reads_i32 _) (cuts_i32 _)
        (variants.cuts value occupied distinct.2 distinct.1 fits within)

/-- The same, of the types that a limit can be put on. -/
theorem SizedTy.cuts : (kind : SizedTy) → (value : kind.Val) → kind.Occupied → kind.Distinct →
    kind.Fits value → kind.Within value → Cuts Short kind.decode (kind.code value)
  | .string, _, _, _, fits, _ => cuts_string fits (List.length_replicate ..)
  | .bytes, _, _, _, fits, _ =>
      cuts_opaqueData usizeMax (by
        change _ < 2 ^ 32 at fits
        unfold usizeMax
        omega) fits (List.length_replicate ..)
  | .vec elem, items, occupied, distinct, fits, within => by
      refine cuts_vec fits.1 ?_ ?_
      · rw [ReadsAll, List.forall₂_map_right_iff, List.forall₂_same]
        exact fun item member => elem.reads item occupied.1 distinct (fits.2 item member)
          (within.2 item member)
      · intro code member
        obtain ⟨item, inside, rfl⟩ := List.mem_map.mp member
        exact elem.cuts item occupied.1 distinct (fits.2 item inside) (within.2 item inside)

theorem Fields.cuts : (fields : Fields) → (value : fields.Val) → fields.Occupied →
    fields.Distinct → fields.Fits value → fields.Within value →
    Cuts Short fields.decode (fields.code value)
  | .nil, _, _, _, _, _ => Cuts.nil
  | .plain ty rest, value, occupied, distinct, fits, within =>
      Cuts.pair (ty.reads value.1 occupied.1 distinct.1 fits.1 within.1)
        (ty.cuts value.1 occupied.1 distinct.1 fits.1 within.1)
        (rest.cuts value.2 occupied.2 distinct.2 fits.2 within.2)
  | .limited _ ty rest, value, occupied, distinct, fits, within =>
      Cuts.pair
        (reads_limited within.1.1
          (ty.reads value.1 occupied.1 distinct.1 fits.1.2 within.1.2))
        (cuts_limited (ty.cuts value.1 occupied.1 distinct.1 fits.1.2 within.1.2))
        (rest.cuts value.2 occupied.2 distinct.2 fits.2 within.2)

/-- The arm that reads the fields is the one that wrote them. -/
theorem Variants.cuts : (variants : Variants) → (value : variants.Val) → variants.Occupied →
    variants.Distinct → variants.discriminants.Nodup → variants.Fits value →
    variants.Within value →
    Cuts Short (variants.decode (variants.active value)) (variants.body value)
  | .nil, value, _, _, _, _, _ => nomatch value
  | .cons label fields _, .inl value, occupied, distinct, _, fits, within =>
      cuts_here label (fields.cuts value occupied.1 distinct.1 fits within)
  | .cons label fields rest, .inr value, occupied, distinct, nodup, fits, within => by
      have fresh := (List.nodup_cons.mp nodup).1
      have other : rest.active value ≠ i32Lit label :=
        fun same => fresh (same ▸ rest.active_mem value)
      exact cuts_there other (rest.cuts value occupied.2 distinct.2
        (List.nodup_cons.mp nodup).2 fits within)

end

section Encodable

variable {α γ : Type} {encode : Encoder XdrError UInt8 α}

/-- Data that is written has a length prefix. -/
theorem encodeOpaque_inv {data buf out : Bytes} {limit : Nat}
    (encoded : encodeOpaque data limit buf = .ok out) : data.length < 2 ^ 32 := by
  unfold encodeOpaque at encoded
  split at encoded
  · cases encoded
  · split at encoded
    · cases encoded
    · rename_i small
      unfold u32Max at small
      omega

/-- A pair that is written has both parts written. -/
theorem encodePair_inv {second : Encoder XdrError UInt8 γ} {value : α × γ} {buf out : Bytes}
    (encoded : encodePair encode second value buf = .ok out) :
    ∃ middle, encode value.1 buf = .ok middle ∧ second value.2 middle = .ok out := by
  unfold encodePair at encoded
  cases head : encode value.1 buf with
  | error fault => simp [head, bind, Except.bind] at encoded
  | ok middle => exact ⟨middle, rfl, by simpa only [head, bind, Except.bind] using encoded⟩

/-- Items that are written are each written. -/
theorem encodeAll_inv {items : List α} {buf out : Bytes}
    (encoded : encodeAll encode items buf = .ok out) {item : α} (member : item ∈ items) :
    ∃ before after, encode item before = .ok after := by
  induction items generalizing buf with
  | nil => exact (List.not_mem_nil member).elim
  | cons first rest ih =>
      rw [encodeAll_cons] at encoded
      cases head : encode first buf with
      | error fault => simp [head, Except.bind] at encoded
      | ok middle =>
          rw [head] at encoded
          rcases List.mem_cons.mp member with rfl | later
          · exact ⟨buf, middle, head⟩
          · exact ih encoded later

/-- A list that is written has a count prefix, and each item is written. -/
theorem encodeVec_inv {items : List α} {buf out : Bytes}
    (encoded : encodeVec encode items buf = .ok out) :
    items.length < 2 ^ 32 ∧ ∀ item ∈ items, ∃ before after, encode item before = .ok after := by
  unfold encodeVec at encoded
  split at encoded
  · cases encoded
  · rename_i small
    refine ⟨?_, fun item member => encodeAll_inv encoded member⟩
    unfold u32Max at small
    omega

/-- A value that is written is within its limit. -/
theorem encodeLimited_inv {limit : UInt64} {len : α → Nat} {value : α} {buf out : Bytes}
    (encoded : encodeLimited limit len encode value buf = .ok out) :
    len value ≤ limit.toNat ∧ encode value buf = .ok out := by
  unfold encodeLimited at encoded
  split at encoded
  · cases encoded
  · rename_i within
    exact ⟨Nat.not_lt.mp within, encoded⟩

end Encodable

mutual

/-- A value that is encoded has lengths that fit and respect the limits. -/
theorem Ty.fits_of_encode : (ty : Ty) → (value : ty.Val) → {buf out : Bytes} →
    ty.encode value buf = .ok out → ty.Fits value ∧ ty.Within value
  | .u32, _, _, _, _ | .i32, _, _, _, _ | .u64, _, _, _, _ | .i64, _, _, _, _ | .bool, _, _, _, _
  | .void, _, _, _, _ | .fixed _, _, _, _, _ | .enum32 _, _, _, _, _ => ⟨trivial, trivial⟩
  | .option _, none, _, _, _ =>
      ⟨fun _ absent => (Option.some_ne_none _ absent.symm).elim,
        fun _ absent => (Option.some_ne_none _ absent.symm).elim⟩
  | .option elem, some value, _, _, encoded => by
      have inner := elem.fits_of_encode value encoded
      exact ⟨fun _ same => Option.some.inj same ▸ inner.1,
        fun _ same => Option.some.inj same ▸ inner.2⟩
  | .sized kind, value, _, _, encoded => kind.fits_of_encode value encoded
  | .struct fields, value, _, _, encoded => fields.fits_of_encode value encoded
  | .union variants, value, _, _, encoded => variants.fits_of_encode value encoded

/-- The same, of the types that a limit can be put on. -/
theorem SizedTy.fits_of_encode : (kind : SizedTy) → (value : kind.Val) → {buf out : Bytes} →
    kind.encode value buf = .ok out → kind.Fits value ∧ kind.Within value
  | .string, _, _, _, encoded => ⟨encodeOpaque_inv encoded, trivial⟩
  | .bytes, _, _, _, encoded => ⟨encodeOpaque_inv encoded, trivial⟩
  | .vec elem, items, _, _, encoded => by
      obtain ⟨fits, each⟩ := encodeVec_inv encoded
      have inner : ∀ item ∈ items, elem.Fits item ∧ elem.Within item := by
        intro item member
        obtain ⟨before, after, written⟩ := each item member
        exact elem.fits_of_encode item written
      exact ⟨⟨fits, fun item member => (inner item member).1⟩,
        ⟨trivial, fun item member => (inner item member).2⟩⟩

/-- The same, of the fields of a struct. -/
theorem Fields.fits_of_encode : (fields : Fields) → (value : fields.Val) → {buf out : Bytes} →
    fields.encode value buf = .ok out → fields.Fits value ∧ fields.Within value
  | .nil, _, _, _, _ => ⟨trivial, trivial⟩
  | .plain ty rest, value, _, _, encoded => by
      obtain ⟨middle, head, tail⟩ := encodePair_inv encoded
      have first := ty.fits_of_encode value.1 head
      have later := rest.fits_of_encode value.2 tail
      exact ⟨⟨first.1, later.1⟩, ⟨first.2, later.2⟩⟩
  | .limited limit ty rest, value, _, _, encoded => by
      obtain ⟨middle, head, tail⟩ := encodePair_inv encoded
      obtain ⟨within, written⟩ := encodeLimited_inv head
      have first := ty.fits_of_encode value.1 written
      have later := rest.fits_of_encode value.2 tail
      exact ⟨⟨⟨trivial, first.1⟩, later.1⟩, ⟨⟨within, first.2⟩, later.2⟩⟩

theorem Variants.fits_of_encode : (variants : Variants) → (value : variants.Val) →
    {buf out : Bytes} → variants.encode value buf = .ok out →
    variants.Fits value ∧ variants.Within value
  | .nil, value, _, _, _ => nomatch value
  | .cons _ fields _, .inl value, _, _, encoded => fields.fits_of_encode value encoded
  | .cons _ _ rest, .inr value, _, _, encoded => rest.fits_of_encode value encoded

end

/-- `to_bytes` for a type. -/
def Ty.toBytes (ty : Ty) (value : ty.Val) : Except XdrError Bytes :=
  @Xdr.toBytes ty.Val ⟨ty.encode⟩ value

/-- `from_bytes` for a type. -/
def Ty.fromBytes (ty : Ty) (buf : Bytes) : Except XdrError ty.Val :=
  @Xdr.fromBytes ty.Val ⟨ty.decode⟩ buf

/-- What cannot be read from a buffer cannot be read from it as a whole. -/
theorem Ty.fromBytes_error {ty : Ty} {buf : Bytes} {fault : XdrError}
    (refused : ty.decode buf = .error fault) : ty.fromBytes buf = .error fault := by
  simp only [Ty.fromBytes, Xdr.fromBytes, XdrDecode.decode, refused, bind, Except.bind]

/-- Neither a cut nor an extended message is taken for a complete one. -/
theorem fromBytes_complete (ty : Ty) (occupied : ty.Occupied) (distinct : ty.Distinct)
    (value : ty.Val) (code : Bytes) (encoded : ty.toBytes value = .ok code) :
    (∀ front back, code = front ++ back → back ≠ [] → ∃ needed had,
      ty.decode front = .error (.truncated needed had) ∧
        ty.fromBytes front = .error (.truncated needed had)) ∧
    (∀ suffix, suffix ≠ [] →
      ty.fromBytes (code ++ suffix) = .error (.trailingData suffix.length)) := by
  obtain ⟨fits, within⟩ := ty.fits_of_encode value encoded
  have same : ty.code value = code := by
    have written := (ty.writes value fits within []).symm.trans encoded
    simpa using written
  subst same
  constructor
  · intro front back joined some
    obtain ⟨fault, refused, needed, had, rfl⟩ :=
      ty.cuts value occupied distinct fits within front back joined some
    exact ⟨needed, had, refused, Ty.fromBytes_error refused⟩
  · intro suffix some
    simp only [Ty.fromBytes, Xdr.fromBytes, XdrDecode.decode,
      ty.reads value occupied distinct fits within suffix, bind, Except.bind, ne_eq, some,
      not_false_eq_true, ↓reduceIte]

/-- Two words, the second one optional. -/
theorem fromBytes_complete_sample :
    (∀ front back, beU32 5 ++ (beU32 1 ++ beU32 7) = front ++ back → back ≠ [] →
      ∃ needed had,
        (Ty.struct (.plain .u32 (.plain (.option .u32) .nil))).decode front =
          .error (.truncated needed had) ∧
        (Ty.struct (.plain .u32 (.plain (.option .u32) .nil))).fromBytes front =
          .error (.truncated needed had)) ∧
    (∀ suffix, suffix ≠ [] →
      (Ty.struct (.plain .u32 (.plain (.option .u32) .nil))).fromBytes
          (beU32 5 ++ (beU32 1 ++ beU32 7) ++ suffix) = .error (.trailingData suffix.length)) :=
  fromBytes_complete (.struct (.plain .u32 (.plain (.option .u32) .nil)))
    ⟨trivial, trivial, trivial⟩ ⟨trivial, trivial, trivial⟩ (5, some 7, ()) _ rfl

/-- A union that gives two variants the same label, which the derive does not check. -/
def sharedLabel : Ty :=
  .union (.cons 0 .nil (.cons 0 (.plain .u32 .nil) .nil))

/-- Half of a message of its second variant is taken for one of the first. -/
theorem fromBytes_sharedLabel :
    sharedLabel.Occupied ∧ sharedLabel.toBytes (.inr (.inl (7, ()))) = .ok (beU32 0 ++ beU32 7) ∧
      sharedLabel.fromBytes (beU32 0) = .ok (.inl ()) :=
  ⟨⟨trivial, ⟨trivial, trivial⟩, trivial⟩, rfl, rfl⟩

end LibNfs.Xdr
