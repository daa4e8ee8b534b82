import LibNfs.Proto.Readdirplus
import LibNfs.Proto.Serving3

/-! # A server of directories

The encoding of a page of `READDIRPLUS` in RFC 1813, which the client reads back,
and a server that answers the procedure. For the client that server is a function
from a place in a directory to a page.
-/

namespace LibNfs.Proto

open Coding
open Xdr (XdrError Ty beU32)

theorem Fattr3.reads_option (attr : Option Fattr3) :
    Reads (Ty.option Fattr3.ty).decode attr ((Ty.option Fattr3.ty).code attr) := by
  refine Ty.reads (.option Fattr3.ty) attr ?_ ?_ (lengths_option attr) (lengths_option attr)
  · simp [Fattr3.ty, Specdata3.ty, Nfstime3.ty, Ty.Occupied, Xdr.Fields.Occupied]
  · simp [Fattr3.ty, Specdata3.ty, Nfstime3.ty, Ty.Distinct, Xdr.Fields.Distinct]

namespace EntryPlus3

/-- The name has a length prefix and the handle respects its limit. -/
structure Encodable (entry : EntryPlus3) : Prop where
  name : Sized (Xdr.asBytes entry.name)
  handle : ∀ fh, entry.nameHandle = some fh → fh.Short

def code (entry : EntryPlus3) : Bytes :=
  ty.code entry.val

theorem ofVal_val (entry : EntryPlus3) : ofVal entry.val = entry := by
  obtain ⟨fileid, name, cookie, attributes, handle⟩ := entry
  cases handle <;> rfl

theorem reads {entry : EntryPlus3} (encodable : entry.Encodable) :
    Reads ty.decode entry.val entry.code := by
  have handle {each : Nat → Prop} {capped : UInt64 → Nat → Prop}
      (holds : ∀ fh : NfsFh3, fh.Short → NfsFh3.ty.Lengths each capped fh.val) :
      (Ty.option NfsFh3.ty).Lengths each capped (entry.nameHandle.map NfsFh3.val) := by
    intro inner given
    obtain ⟨fh, present, rfl⟩ := Option.map_eq_some_iff.mp given
    exact holds fh (encodable.handle fh present)
  refine Ty.reads ty entry.val ?_ ?_ ?_ ?_
  · simp [ty, NfsFh3.ty, Fattr3.ty, Specdata3.ty, Nfstime3.ty, Ty.Occupied, Xdr.SizedTy.Occupied,
      Xdr.Fields.Occupied]
  · simp [ty, NfsFh3.ty, Fattr3.ty, Specdata3.ty, Nfstime3.ty, Ty.Distinct, Xdr.SizedTy.Distinct,
      Xdr.Fields.Distinct]
  · exact ⟨trivial, encodable.name, trivial, Fattr3.lengths_option _,
      handle fun _ => NfsFh3.fits, trivial⟩
  · exact ⟨trivial, trivial, trivial, Fattr3.lengths_option _, handle fun _ => NfsFh3.within, trivial⟩

end EntryPlus3

namespace ReaddirplusOk

/-- Each entry after a `true`, and a `false` after the last one. -/
def entriesCode : List EntryPlus3 → Bytes
  | [] => Ty.bool.code false
  | entry :: entries => Ty.bool.code true ++ (entry.code ++ entriesCode entries)

def code (page : ReaddirplusOk) : Bytes :=
  (Ty.option Fattr3.ty).code page.dirAttributes ++ ((Ty.fixed 8).code page.cookieverf ++
    (entriesCode page.entries ++ Ty.bool.code page.eof))

/-- With fuel for them all, every entry is read. -/
theorem reads_entries {entries : List EntryPlus3} (each : ∀ entry ∈ entries, entry.Encodable)
    {fuel : Nat} (enough : entries.length < fuel) :
    Reads (decodeEntries fuel) entries (entriesCode entries) := by
  induction entries generalizing fuel with
  | nil =>
      obtain ⟨fuel, rfl⟩ := Nat.exists_eq_succ_of_ne_zero (Nat.ne_zero_of_lt enough)
      intro rest
      have absent := Xdr.reads_bool false rest
      change (Ty.bool.decode (Ty.bool.code false ++ rest) >>= _) = _
      rw [show Ty.bool.decode (Ty.bool.code false ++ rest) = _ from absent]
      rfl
  | cons entry entries ih =>
      obtain ⟨fuel, rfl⟩ := Nat.exists_eq_succ_of_ne_zero (Nat.ne_zero_of_lt enough)
      obtain ⟨first, others⟩ := List.forall_mem_cons.mp each
      intro rest
      have present := Xdr.reads_bool true (entry.code ++ (entriesCode entries ++ rest))
      have read := EntryPlus3.reads first (entriesCode entries ++ rest)
      have more := ih others (Nat.lt_of_succ_lt_succ enough) rest
      rw [entriesCode, List.append_assoc, List.append_assoc]
      unfold decodeEntries
      rw [show Ty.bool.decode (Ty.bool.code true ++ _) = _ from present]
      simp only [bind, Except.bind, if_true, read, more, EntryPlus3.ofVal_val]
      rfl

/-- An entry takes more than no bytes. -/
theorem length_lt_entriesCode (entries : List EntryPlus3) :
    entries.length < (entriesCode entries).length := by
  induction entries with
  | nil => decide
  | cons entry entries ih =>
      have word : (Ty.bool.code true).length = 4 := rfl
      simp only [entriesCode, List.length_append, List.length_cons, word]
      omega

/-- A page is read back. -/
theorem reads {page : ReaddirplusOk} (each : ∀ entry ∈ page.entries, entry.Encodable) :
    Reads decode page page.code := by
  intro rest
  have attributes := Fattr3.reads_option page.dirAttributes
    ((Ty.fixed 8).code page.cookieverf ++ (entriesCode page.entries ++ (Ty.bool.code page.eof ++ rest)))
  have verf := Ty.reads (.fixed 8) page.cookieverf trivial trivial trivial trivial
    (entriesCode page.entries ++ (Ty.bool.code page.eof ++ rest))
  have enough : page.entries.length <
      (entriesCode page.entries ++ (Ty.bool.code page.eof ++ rest)).length + 1 := by
    have counted := length_lt_entriesCode page.entries
    rw [List.length_append]
    omega
  have entries := reads_entries each enough (Ty.bool.code page.eof ++ rest)
  have eof := Xdr.reads_bool page.eof rest
  simp only [code, List.append_assoc, decode, attributes, bind, Except.bind, verf, entries]
  rw [show Ty.bool.decode (Ty.bool.code page.eof ++ rest) = _ from eof]
  rfl

end ReaddirplusOk

/-- A page that has an encoding. -/
def DirPage3 : Type :=
  { page : ReaddirplusOk // ∀ entry ∈ page.entries, entry.Encodable }

/-- A server that lists directories from a place on. -/
structure Lister3 (S : Type) where
  list : NfsFh3 → UInt64 → Vector UInt8 8 → Prog S Failure3 DirPage3

namespace Lister3

variable {S : Type} (lister : Lister3 S)

def reply : Except Failure3 DirPage3 → Bytes
  | .ok page => beU32 nfs3Ok ++ page.1.code
  | .error failure => beU32 failure.status ++ failure.data

/-- Decodes the arguments of a call and answers it. -/
def serve (request : Bytes) : Prog S Rpc.RpcError Bytes :=
  match Nfs3.ReaddirplusArgs.decode request with
  | .ok ((dir, cookie, cookieverf, _), []) => do
      let outcome ← Prog.outcome (lister.list (.ofVal dir) cookie cookieverf)
      return reply outcome
  | .ok (_, _ :: _) | .error _ => Prog.throw .garbageArgs

/-- The server as a transport that delivers its replies intact. -/
def transport : Transport S where
  call prog vers number args :=
    match args with
    | .error error => Prog.throw (.xdr error)
    | .ok request =>
        if prog = program ∧ vers = version3 ∧ number = Nfs3.procReaddirplus then
          lister.serve request
        else
          Prog.throw .procUnavail

/-- A success is read with its value. -/
theorem decode_ok {page : DirPage3} :
    Nfs3Result.decode ReaddirplusOk.decode (reply (.ok page)) = .ok (.ok page.1, []) := by
  have read := ReaddirplusOk.reads page.2 []
  rw [List.append_nil] at read
  simp [Nfs3Result.decode, reply, read, bind, Except.bind, pure, Except.pure]

variable {lister} {dir : NfsFh3} {cookie : UInt64} {cookieverf : Vector UInt8 8} {state next : S}

/-- A call is what the server makes of its arguments. -/
theorem readdirplus_ok (short : dir.Short) (dircount maxcount : UInt32) {page : DirPage3}
    (listed : (lister.list dir cookie cookieverf).run state = some (.ok page, next)) :
    (Nfs3.readdirplus lister.transport dir cookie cookieverf dircount maxcount).run state =
      some (.ok page.1, next) := by
  have fits : Nfs3.ReaddirplusArgs.Fits (dir.val, cookie, cookieverf, dircount, maxcount, ()) :=
    ⟨NfsFh3.fits short, trivial, trivial, trivial, trivial, trivial⟩
  have within : Nfs3.ReaddirplusArgs.Within (dir.val, cookie, cookieverf, dircount, maxcount, ()) :=
    ⟨NfsFh3.within short, trivial, trivial, trivial, trivial, trivial⟩
  have written := Nfs3.ReaddirplusArgs.writes _ fits within []
  have read := Nfs3.ReaddirplusArgs.reads (dir.val, cookie, cookieverf, dircount, maxcount, ())
    (by simp [Nfs3.ReaddirplusArgs, NfsFh3.ty, Ty.Occupied, Xdr.SizedTy.Occupied,
      Xdr.Fields.Occupied])
    (by simp [Nfs3.ReaddirplusArgs, NfsFh3.ty, Ty.Distinct, Xdr.SizedTy.Distinct,
      Xdr.Fields.Distinct]) fits within []
  rw [List.append_nil] at read
  have named : NfsFh3.ofVal dir.val = dir := rfl
  simp only [Nfs3.readdirplus, Transport.callAs, Prog.bind_apply, Prog.within, transport, written,
    List.nil_append, and_self, ↓reduceIte, serve, read, Prog.outcome, id_eq, named, listed,
    Option.map_some, Prog.pure_apply, Prog.ofExcept, decode_ok, Except.mapError,
    Nfs3Result.intoResult]

end Lister3

end LibNfs.Proto
