import LibNfs.Proto.LinkedLists
import LibNfs.Xdr.Settled

/-! # Interfaces of remote procedures

A procedure is known by three numbers, the type of its arguments, and how what a
service may reply is written and read. An interface is a family of procedures; a
service executes them on arguments that it has decoded. The client that calls a
procedure of a service gets what the service executed, or sends nothing at all when
the arguments have no encoding.
-/

namespace LibNfs.Proto

open Coding
open Xdr (XdrError Ty)

/-- A procedure of an RPC program. -/
structure Procedure where
  prog : UInt32
  vers : UInt32
  number : UInt32
  Args : Ty
  occupied : Args.Occupied
  distinct : Args.Distinct
  Answer : Type
  decode : Decoder XdrError UInt8 Answer
  Reply : Type
  code : Reply → Bytes
  answer : Reply → Answer
  reads : ∀ reply, Reads decode (answer reply) (code reply)

namespace Procedure

/-- `RpcClient::call` of the procedure. -/
def call {τ : Type} (procedure : Procedure) (transport : Transport τ)
    (args : procedure.Args.Val) : Prog τ ProtoError procedure.Answer :=
  transport.callAs procedure.prog procedure.vers procedure.number (procedure.Args.encode args [])
    procedure.decode

section Kinds

variable (prog vers number : UInt32) (Args : Ty) (occupied : Args.Occupied)
  (distinct : Args.Distinct)

/-- A procedure whose answers have a layout. -/
def ofLayout {α : Type} {decode : Decoder XdrError UInt8 α} {layout : Layout UInt8 α}
    (decodes : Decodes decode layout) : Procedure where
  prog := prog
  vers := vers
  number := number
  Args := Args
  occupied := occupied
  distinct := distinct
  Answer := α
  decode := decode
  Reply := { answer : α // layout.valid answer }
  code reply := layout.code reply.1
  answer reply := reply.1
  reads reply := decodes.reads reply.2

/-- A procedure whose answers start with a status. A failure has a status other than the one
of success. -/
def ofStatus {α γ : Type} (good : UInt32) (there : Except UInt32 α → γ)
    {decode : Decoder XdrError UInt8 α} {layout : Layout UInt8 α} (decodes : Decodes decode layout)
    (decode' : Decoder XdrError UInt8 γ) (returns : ∀ buffer, decode' buffer = (do
      let (status, buf) ← Xdr.decodeU32 buffer
      if status = good then
        let (found, buf) ← decode buf
        return (there (.ok found), buf)
      else
        return (there (.error status), buf))) : Procedure where
  prog := prog
  vers := vers
  number := number
  Args := Args
  occupied := occupied
  distinct := distinct
  Answer := γ
  decode := decode'
  Reply := Except { status : UInt32 // status ≠ good } { answer : α // layout.valid answer }
  code
    | .ok found => Xdr.beU32 good ++ layout.code found.1
    | .error status => Xdr.beU32 status.1
  answer
    | .ok found => there (.ok found.1)
    | .error status => there (.error status.1)
  reads := by
    rintro (status | found) rest
    · simp only [returns, Xdr.reads_u32 status.1 _, bind, Except.bind, if_neg status.2, pure,
        Except.pure]
    · have read := decodes.reads found.2 rest
      simp only [returns, List.append_assoc, Xdr.reads_u32 good _, bind, Except.bind, ↓reduceIte,
        read, pure, Except.pure]

end Kinds

end Procedure

/-- A family of procedures, told apart by their numbers. -/
structure Interface (ι : Type) where
  procedure : ι → Procedure
  find : UInt32 → UInt32 → UInt32 → Option ι
  finds : ∀ index, find (procedure index).prog (procedure index).vers (procedure index).number =
    some index

/-- What executes the procedures of an interface. Beside a reply it gives what it writes after
the reply, which no client reads. -/
structure Service {ι : Type} (interface : Interface ι) (S : Type) where
  exec : (index : ι) → (interface.procedure index).Args.Val →
    Prog S Rpc.RpcError ((interface.procedure index).Reply × Bytes)

namespace Service

variable {ι S : Type} {interface : Interface ι} (service : Service interface S)

/-- Decodes the arguments of a call and answers it. -/
def serve (index : ι) (request : Bytes) : Prog S Rpc.RpcError Bytes :=
  match (interface.procedure index).Args.decode request with
  | .ok (args, []) => do
      let (reply, extra) ← service.exec index args
      return (interface.procedure index).code reply ++ extra
  | .ok (_, _ :: _) | .error _ => Prog.throw .garbageArgs

/-- The service as a transport that delivers its replies intact. -/
def transport : Transport S where
  call prog vers number args :=
    match args with
    | .error error => Prog.throw (.xdr error)
    | .ok request =>
        match interface.find prog vers number with
        | some index => service.serve index request
        | none => Prog.throw .procUnavail

/-- What a procedure comes to, whatever stands on the wire. -/
def result (index : ι) (args : (interface.procedure index).Args.Val) :
    Prog S ProtoError (interface.procedure index).Answer := do
  let (reply, _) ← Prog.within id (fun next _ => next) .rpc (service.exec index args)
  return (interface.procedure index).answer reply

variable {service} {index : ι} {args : (interface.procedure index).Args.Val} {state : S}

/-- The service decodes the arguments that the client has encoded. -/
theorem serve_code (encodable : (interface.procedure index).Args.Encodable args) :
    service.serve index ((interface.procedure index).Args.code args) = (do
      let (reply, extra) ← service.exec index args
      return (interface.procedure index).code reply ++ extra) := by
  have read := (interface.procedure index).Args.reads args (interface.procedure index).occupied
    (interface.procedure index).distinct encodable.1 encodable.2 []
  rw [List.append_nil] at read
  rw [serve, read]

/-- A call is what the service makes of its arguments. -/
theorem call_eq (encodable : (interface.procedure index).Args.Encodable args) :
    ((interface.procedure index).call service.transport args).run state =
      (service.result index args).run state := by
  have written : (interface.procedure index).Args.encode args [] =
      .ok ((interface.procedure index).Args.code args) :=
    (interface.procedure index).Args.writes args encodable.1 encodable.2 []
  simp only [Procedure.call, Transport.callAs, transport, written, interface.finds,
    serve_code encodable, result, Prog.bind_apply, Prog.within, id_eq]
  rcases (service.exec index args).run state with _ | ⟨error | ⟨reply, extra⟩, next⟩
  · rfl
  · rfl
  · have read := (interface.procedure index).reads reply extra
    simp only [Prog.pure_apply, Option.map_some, Except.mapError, read, Prog.ofExcept]

/-- A call of a procedure that the service executes. -/
theorem call_of_exec (encodable : (interface.procedure index).Args.Encodable args)
    {reply : (interface.procedure index).Reply} {extra : Bytes} {next : S}
    (executed : (service.exec index args).run state = some (.ok (reply, extra), next)) :
    ((interface.procedure index).call service.transport args).run state =
      some (.ok ((interface.procedure index).answer reply), next) := by
  rw [call_eq encodable]
  simp only [result, Prog.bind_apply, Prog.within, id_eq, executed]
  rfl

/-- A call whose arguments have no encoding sends nothing. -/
theorem call_unwritable (broken : ¬ (interface.procedure index).Args.Encodable args) :
    ∃ error, ((interface.procedure index).call service.transport args).run state =
      some (.error (.rpc (.xdr error)), state) := by
  obtain ⟨error, fails⟩ := (interface.procedure index).Args.unwritable args broken
  refine ⟨error, ?_⟩
  simp only [Procedure.call, Transport.callAs, transport, fails []]
  rfl

end Service

end LibNfs.Proto
