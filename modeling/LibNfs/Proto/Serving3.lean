import LibNfs.Proto.Grammar
import LibNfs.Proto.Nfs3

/-! # A server of NFSv3 procedures

A server that executes a procedure on arguments of its type, with results of its
type or a failure. On the wire it decodes the arguments by the codec and writes
the status and the results; for the client it is then a function from arguments to
results. Arguments that have no encoding are not sent.
-/

namespace LibNfs.Proto

open Coding
open Xdr (XdrError XdrEncode XdrDecode Ty beU32)

namespace Proc3

/-- The procedure with a number. -/
def ofNumber (number : UInt32) : Option Proc3 :=
  [getattr, setattr, lookup, readlink, read, write, create, mkdir, fsinfo, commit].find?
    (·.number = number)

/-- A procedure is found under its number. -/
theorem ofNumber_number (proc : Proc3) : ofNumber proc.number = some proc := by
  cases proc <;> decide

/-- Arguments that have an encoding. -/
def Encodable (proc : Proc3) (args : proc.Args.Val) : Prop :=
  proc.Args.Fits args ∧ proc.Args.Within args

/-- Results that have an encoding. -/
def Success (proc : Proc3) : Type :=
  { result : proc.Ok.Val // proc.Ok.Fits result ∧ proc.Ok.Within result }

theorem args_occupied (proc : Proc3) : proc.Args.Occupied := by
  cases proc <;> simp [Args, NfsFh3.ty, DirOpArgs3.ty, Sattr3.ty, SetTime.ty, CreateHow3.ty,
    Nfstime3.ty, Ty.Occupied, Xdr.SizedTy.Occupied, Xdr.Fields.Occupied, Xdr.Variants.Occupied]

/-- The labels of the arguments are apart. -/
theorem args_distinct (proc : Proc3) : proc.Args.Distinct := by
  cases proc <;> simp [Args, NfsFh3.ty, DirOpArgs3.ty, Sattr3.ty, SetTime.ty, CreateHow3.ty,
    Nfstime3.ty, Ty.Distinct, Xdr.SizedTy.Distinct, Xdr.Fields.Distinct, Xdr.Variants.Distinct,
    Xdr.Variants.discriminants, Xdr.i32Lit]

theorem ok_occupied (proc : Proc3) : proc.Ok.Occupied := by
  cases proc <;> simp [Ok, NfsFh3.ty, Fattr3.ty, WccData.ty, WccAttr.ty, Specdata3.ty, Nfstime3.ty,
    Ty.Occupied, Xdr.SizedTy.Occupied, Xdr.Fields.Occupied]

/-- The labels of the results are apart. -/
theorem ok_distinct (proc : Proc3) : proc.Ok.Distinct := by
  cases proc <;> simp [Ok, NfsFh3.ty, Fattr3.ty, WccData.ty, WccAttr.ty, Specdata3.ty, Nfstime3.ty,
    Ty.Distinct, Xdr.SizedTy.Distinct, Xdr.Fields.Distinct]

end Proc3

/-- A procedure that failed: its status, and what follows it. -/
structure Failure3 where
  status : UInt32
  bad : status ≠ nfs3Ok
  data : Bytes
  deriving DecidableEq, Repr

/-- `NFS3ERR_NOTSUPP`. -/
def notSupported3 : Failure3 :=
  ⟨10004, by decide, []⟩

/-- A server, by what its procedures come to. -/
structure Server3 (S : Type) where
  exec : (proc : Proc3) → proc.Args.Val → Prog S Failure3 proc.Success

namespace Server3

variable {S : Type} (server : Server3 S)

/-- The reply of a procedure: a status, and after success the result. -/
def reply (proc : Proc3) : Except Failure3 proc.Success → Bytes
  | .ok success => beU32 nfs3Ok ++ proc.Ok.code success.1
  | .error failure => beU32 failure.status ++ failure.data

/-- Decodes the arguments of a call and answers it. -/
def serve (proc : Proc3) (request : Bytes) : Prog S Rpc.RpcError Bytes :=
  match proc.Args.decode request with
  | .ok (args, []) => do
      let outcome ← Prog.outcome (server.exec proc args)
      return reply proc outcome
  | .ok (_, _ :: _) | .error _ => Prog.throw .garbageArgs

/-- The server as a transport that delivers its replies intact. -/
def transport : Transport S where
  call prog vers number args :=
    match args with
    | .error error => Prog.throw (.xdr error)
    | .ok request =>
        if prog = program ∧ vers = version3 then
          match Proc3.ofNumber number with
          | some proc => server.serve proc request
          | none => Prog.throw .procUnavail
        else
          Prog.throw .procUnavail

/-- What a procedure comes to, whatever stands on the wire. -/
def result (proc : Proc3) (args : proc.Args.Val) : Prog S ProtoError proc.Ok.Val :=
  ⟨fun state => ((server.exec proc args).run state).map fun (outcome, next) =>
    match outcome with
    | .ok success => (.ok success.1, next)
    | .error failure => (.error (.nfs3 failure.status), next)⟩

theorem decode_reply {proc : Proc3} (outcome : Except Failure3 proc.Success) :
    (Nfs3Result.decode proc.Ok.decode (reply proc outcome)).map Prod.fst =
      match outcome with
      | .ok success => .ok (.ok success.1)
      | .error failure => .ok (.fail failure.status) := by
  cases outcome with
  | ok success =>
      have read := proc.Ok.reads success.1 proc.ok_occupied proc.ok_distinct success.2.1 success.2.2
        []
      rw [List.append_nil] at read
      simp [Nfs3Result.decode, reply, read, bind, Except.bind, pure, Except.pure, Except.map]
  | error failure =>
      simp [Nfs3Result.decode, reply, failure.bad, bind, Except.bind, pure, Except.pure, Except.map]

end Server3

/-- The attributes are those of their value. -/
theorem Sattr3.ofVal_val (attrs : Sattr3) : ofVal attrs.val = attrs := by
  obtain ⟨mode, uid, gid, size, atime, mtime⟩ := attrs
  cases atime <;> cases mtime <;> rfl

/-- The way of creating a file is that of its value. -/
theorem CreateHow3.ofVal_val (how : CreateHow3) : ofVal how.val = how := by
  cases how with
  | unchecked attrs => exact congrArg unchecked attrs.ofVal_val
  | guarded attrs => exact congrArg guarded attrs.ofVal_val
  | exclusive verf => rfl

/-- The handle respects `NFS3_FHSIZE`. -/
def NfsFh3.Short (fh : NfsFh3) : Prop :=
  fh.data.length ≤ 64

instance : DecidablePred NfsFh3.Short :=
  fun fh => inferInstanceAs (Decidable (fh.data.length ≤ 64))

section Lengths

variable {each : Nat → Prop} {capped : UInt64 → Nat → Prop}

theorem lengths_none {elem : Ty} : (Ty.option elem).Lengths each capped none :=
  fun _ absent => (Option.some_ne_none _ absent.symm).elim

/-- Attributes have no part of variable length. -/
theorem SetTime.lengths (time : SetTime) : SetTime.ty.Lengths each capped time.val := by
  cases time with
  | dontChange => trivial
  | toServerTime => trivial
  | toClientTime time => exact ⟨⟨trivial, trivial, trivial⟩, trivial⟩

/-- The lengths in the attributes that are set. -/
theorem Sattr3.lengths (attrs : Sattr3) : Sattr3.ty.Lengths each capped attrs.val :=
  ⟨fun _ _ => trivial, fun _ _ => trivial, fun _ _ => trivial, fun _ _ => trivial,
    attrs.atime.lengths, attrs.mtime.lengths, trivial⟩

/-- The lengths in a way of creating a file. -/
theorem CreateHow3.lengths (how : CreateHow3) : CreateHow3.ty.Lengths each capped how.val := by
  cases how with
  | unchecked attrs => exact ⟨attrs.lengths, trivial⟩
  | guarded attrs => exact ⟨attrs.lengths, trivial⟩
  | exclusive verf => exact ⟨trivial, trivial⟩

theorem Fattr3.lengths (attr : Fattr3) : Fattr3.ty.Lengths each capped attr :=
  ⟨trivial, trivial, trivial, trivial, trivial, trivial, trivial, ⟨trivial, trivial, trivial⟩,
    trivial, trivial, ⟨trivial, trivial, trivial⟩, ⟨trivial, trivial, trivial⟩,
    ⟨trivial, trivial, trivial⟩, trivial⟩

theorem Fattr3.lengths_option (attr : Option Fattr3) :
    (Ty.option Fattr3.ty).Lengths each capped attr :=
  fun inner _ => lengths inner

end Lengths

section Encodable

variable {fh : NfsFh3} {name : String}

theorem NfsFh3.fits (short : fh.Short) : NfsFh3.ty.Fits fh.val :=
  ⟨⟨trivial, Nat.lt_of_le_of_lt short (by decide)⟩, trivial⟩

/-- A handle of at most 64 bytes is within its limit. -/
theorem NfsFh3.within (short : fh.Short) : NfsFh3.ty.Within fh.val :=
  ⟨⟨short, trivial⟩, trivial⟩

namespace Proc3

/-- The arguments of `GETATTR` can be written. -/
theorem encodable_getattr (short : fh.Short) : getattr.Encodable fh.val :=
  ⟨NfsFh3.fits short, NfsFh3.within short⟩

/-- The arguments of `READLINK` can be written. -/
theorem encodable_readlink (short : fh.Short) : readlink.Encodable fh.val :=
  ⟨NfsFh3.fits short, NfsFh3.within short⟩

/-- The arguments of `SETATTR` can be written. -/
theorem encodable_setattr (attrs : Sattr3) (short : fh.Short) :
    setattr.Encodable (fh.val, attrs.val, none, ()) :=
  ⟨⟨NfsFh3.fits short, attrs.lengths, lengths_none, trivial⟩,
    NfsFh3.within short, attrs.lengths, lengths_none, trivial⟩

/-- The arguments of `LOOKUP` can be written. -/
theorem encodable_lookup (short : fh.Short) (sized : Sized (Xdr.asBytes name)) :
    lookup.Encodable (fh.val, name, ()) :=
  ⟨⟨NfsFh3.fits short, sized, trivial⟩, NfsFh3.within short, trivial, trivial⟩

/-- The arguments of `READ` can be written. -/
theorem encodable_read (offset : UInt64) (count : UInt32) (short : fh.Short) :
    read.Encodable (fh.val, offset, count, ()) :=
  ⟨⟨NfsFh3.fits short, trivial, trivial, trivial⟩, NfsFh3.within short, trivial, trivial, trivial⟩

/-- The arguments of `COMMIT` can be written. -/
theorem encodable_commit (offset : UInt64) (count : UInt32) (short : fh.Short) :
    commit.Encodable (fh.val, offset, count, ()) :=
  ⟨⟨NfsFh3.fits short, trivial, trivial, trivial⟩, NfsFh3.within short, trivial, trivial, trivial⟩

/-- The arguments of `WRITE` can be written. -/
theorem encodable_write (offset : UInt64) (count stable : UInt32) {data : Bytes}
    (short : fh.Short) (sized : Sized data) :
    write.Encodable (fh.val, offset, count, stable, data, ()) :=
  ⟨⟨NfsFh3.fits short, trivial, trivial, trivial, sized, trivial⟩,
    NfsFh3.within short, trivial, trivial, trivial, trivial, trivial⟩

/-- The arguments of `CREATE` can be written. -/
theorem encodable_create (how : CreateHow3) (short : fh.Short) (sized : Sized (Xdr.asBytes name)) :
    create.Encodable ((fh.val, name, ()), how.val, ()) :=
  ⟨⟨(encodable_lookup short sized).1, how.lengths, trivial⟩, (encodable_lookup short sized).2,
    how.lengths, trivial⟩

/-- A name too long for its length prefix has no encoding. -/
theorem lookup_long (short : fh.Short) (long : ¬ Sized (Xdr.asBytes name)) :
    ∃ error, ∀ buf, lookup.Args.encode (fh.val, name, ()) buf = .error error := by
  have tooLong : (Xdr.asBytes name).length > u32Max := Nat.lt_of_not_le fun within =>
    long (Nat.lt_of_le_of_lt within (by decide))
  have written := NfsFh3.ty.writes fh.val (NfsFh3.fits short) (NfsFh3.within short)
  by_cases limited : (Xdr.asBytes name).length > usizeMax
  · refine ⟨.limitExceeded (Xdr.asBytes name).length usizeMax, fun buf => ?_⟩
    simp [Args, DirOpArgs3.ty, Ty.encode, Xdr.Fields.encode, Xdr.SizedTy.encode, encodePair,
      written buf, XdrEncode.encode, Xdr.encodeOpaque, limited, bind, Except.bind]
  · refine ⟨.lengthOverflow (Xdr.asBytes name).length, fun buf => ?_⟩
    simp [Args, DirOpArgs3.ty, Ty.encode, Xdr.Fields.encode, Xdr.SizedTy.encode, encodePair,
      written buf, XdrEncode.encode, Xdr.encodeOpaque, limited, tooLong, bind, Except.bind]

end Proc3

end Encodable

namespace Nfs3

variable {S : Type} {server : Server3 S} {proc : Proc3} {args : proc.Args.Val} {state : S}

/-- A call is what the server makes of its arguments. -/
theorem call_eq (encodable : proc.Encodable args) :
    (call server.transport proc args).run state = (server.result proc args).run state := by
  have written : proc.Args.encode args [] = .ok ([] ++ proc.Args.code args) :=
    proc.Args.writes args encodable.1 encodable.2 []
  have read := proc.Args.reads args proc.args_occupied proc.args_distinct encodable.1 encodable.2 []
  rw [List.append_nil] at read
  simp only [call, Transport.callAs, Prog.bind_apply, Prog.within, Server3.transport, written,
    List.nil_append, and_self, ↓reduceIte, Proc3.ofNumber_number, Server3.serve, read,
    Prog.outcome, Server3.result, id_eq]
  rcases (server.exec proc args).run state with _ | ⟨outcome, next⟩
  · rfl
  · have decoded := @Server3.decode_reply proc outcome
    rcases parsed : Nfs3Result.decode proc.Ok.decode (Server3.reply proc outcome) with
      error | ⟨result, rest⟩
    · rw [parsed] at decoded
      cases outcome <;> cases decoded
    · rw [parsed] at decoded
      cases outcome with
      | ok success =>
          cases decoded
          simp [Prog.pure_apply, Prog.ofExcept, Except.mapError, parsed, Nfs3Result.intoResult]
      | error failure =>
          cases decoded
          simp [Prog.pure_apply, Prog.ofExcept, Except.mapError, parsed, Nfs3Result.intoResult]

/-- Arguments without an encoding are not sent. -/
theorem call_of_error {error : XdrError} (refused : proc.Args.encode args [] = .error error) :
    (call server.transport proc args).run state = some (.error (.rpc (.xdr error)), state) := by
  simp only [call, refused]
  rfl

end Nfs3

end LibNfs.Proto
