import LibNfs.Client.Mounting
import LibNfs.Proto.Kept
import LibNfs.Rpc.Segmentation
import LibNfs.Rpc.Streams

/-! # Mounts over TLS

An NFSv4 URL that asks for TLS is mounted over a stream of `connect_tls` or not at all:
once the client is over that stream no call leaves it. For any other version the
parameter is read and has no effect.
-/

namespace LibNfs.Client

open Proto (ProtoError Transport Nfs4 NfsFh4)
open Rpc (RpcClient RpcError Along)

/-- Encrypted, or the probe. -/
def Written.Sealed : Written → Prop
  | .probe _ => True
  | .data channel _ => channel = .tls

variable {ω : Type}

/-- Nothing but probes was written in the clear. -/
def Wired.Sealed (wired : Wired ω) : Prop :=
  ∀ entry ∈ wired.written, entry.Sealed

/-- The stream is encrypted, and so was all data before. -/
def Wired.Encrypted (wired : Wired ω) : Prop :=
  wired.channel = .tls ∧ wired.Sealed

theorem Wired.Sealed.append {wired : Wired ω} (closed : wired.Sealed) {entry : Written}
    (last : entry.Sealed) {other : Wired ω} (grown : other.written = wired.written ++ [entry]) :
    other.Sealed := by
  intro found member
  rw [grown, List.mem_append, List.mem_singleton] at member
  rcases member with before | rfl
  · exact closed found before
  · exact last

variable {platform : Platform ω}

theorem encrypted_read {wired next : Wired ω} {answer : Rpc.Arrival}
    (encrypted : wired.Encrypted) (answered : platform.wire.read wired = some (answer, next)) :
    next.Encrypted := by
  obtain ⟨⟨answer, net⟩, -, same⟩ := Option.map_eq_some_iff.mp answered
  cases same
  exact encrypted

theorem encrypted_write {data : Bytes} {wired next : Wired ω}
    {answer : Except (Nat × Rpc.IoErrorKind) Unit} (encrypted : wired.Encrypted)
    (answered : platform.wire.write data wired = some (answer, next)) : next.Encrypted := by
  obtain ⟨⟨answer, net⟩, -, same⟩ := Option.map_eq_some_iff.mp answered
  cases same
  exact ⟨encrypted.1, encrypted.2.append (show (Written.data wired.channel data).Sealed from
    encrypted.1) rfl⟩

theorem rpcTransport_keeps :
    (Proto.rpcTransport platform.wire).Keeps (Along Wired.Encrypted) :=
  fun prog vers proc args => RpcClient.keeps_call _
    (fun _ _ _ encrypted answered => encrypted_read encrypted answered)
    (fun _ _ _ _ encrypted answered => encrypted_write encrypted answered) prog vers proc args

theorem asMount_meets {α ε : Type} {wrap : ε → MountError} {body : Prog (Link ω) ε α}
    {pre failed : Link ω → Prop} {ok : α → Link ω → Prop}
    (meets : body.Meets pre (Prog.split ok fun _ => failed)) :
    (asMount wrap body).Meets pre (Prog.split ok fun _ => failed) :=
  Prog.Meets.focus (fun _ _ => rfl) meets

theorem asMount_keeps {α ε : Type} {wrap : ε → MountError} {body : Prog (Link ω) ε α}
    {invariant : Link ω → Prop} (keeps : body.Keeps invariant) :
    (asMount wrap body).Keeps invariant :=
  Prog.Keeps.within (fun _ _ => rfl) keeps

/-- The invariant does not depend on the state of the network. -/
def Blind (invariant : Link ω → Prop) : Prop :=
  ∀ link net, invariant link → invariant { link with env := { link.env with net := net } }

theorem ask_keeps {α : Type} {question : ω → Option (α × ω)} {invariant : Link ω → Prop}
    (blind : Blind invariant) : (Platform.ask question).Keeps invariant := by
  refine RpcClient.ask_meets fun link answer wired before answered => ?_
  obtain ⟨⟨answer, net⟩, -, same⟩ := Option.map_eq_some_iff.mp answered
  cases same
  exact blind link net before

theorem attempt_keeps {α : Type} {question : ω → Option (Except Rpc.IoErrorKind α × ω)}
    {invariant : Link ω → Prop} (blind : Blind invariant) :
    (Platform.attempt question).Keeps invariant := by
  refine Prog.Keeps.bind (ask_keeps blind) fun answer => ?_
  split
  · exact Prog.Keeps.pure _
  · exact Prog.Keeps.throw _

/-- No data was written in the clear. -/
def Discreet (link : Link ω) : Prop :=
  link.env.Sealed

theorem blind_discreet : Blind (Discreet : Link ω → Prop) :=
  fun _ _ discreet => discreet

theorem blind_encrypted : Blind (Along Wired.Encrypted : Link ω → Prop) :=
  fun _ _ along => ⟨along.1, along.2.1, along.2.2⟩

theorem probe_keeps (prog vers : UInt32) : (platform.probe prog vers).Keeps Discreet := by
  refine Prog.Keeps.bind (Prog.Keeps.ofExcept _) fun framed => ?_
  refine Prog.Keeps.bind (Prog.Keeps.modify fun link discreet => ?_) fun _ =>
    Prog.Keeps.bind (attempt_keeps blind_discreet) fun _ => Prog.Keeps.ofExcept _
  exact Wired.Sealed.append discreet (show (Written.probe framed).Sealed from trivial) rfl

/-- The stream that `connect_tls` leaves the client with. -/
theorem connectTls_meets (ip : IpAddr) (port : UInt16) (prog vers : UInt32) (timeo : UInt64)
    (cred : Rpc.Credentials) (params : TlsParams) :
    (platform.connectTls ip port prog vers timeo cred params).Meets Discreet
      (Prog.split (fun _ => Along Wired.Encrypted) fun _ => Discreet) := by
  refine .bind (fun _ => Discreet) (attempt_keeps blind_discreet).byCases fun _ => ?_
  refine .bind (fun _ => Discreet) (probe_keeps prog vers).byCases fun _ => ?_
  refine .bind (fun _ => Discreet) (ask_keeps blind_discreet).byCases fun session => ?_
  refine .bind (fun _ => Discreet) (Prog.Keeps.ofExcept session).byCases fun _ => ?_
  refine .bind (fun _ => Discreet) (ask_keeps blind_discreet).byCases fun seed => ?_
  exact .modify fun link discreet => ⟨RpcClient.overStream_fromStream cred seed, rfl, discreet⟩

theorem onNfs4_keeps {α : Type} {invariant : Link ω → Prop} {nfs : Nfs4 (Link ω)}
    {body : Prog (Nfs4 (Link ω)) ProtoError α} (keeps : body.Keeps (Nfs4.Upon invariant)) :
    (onNfs4 nfs body).Keeps invariant := by
  intro link final result before ended
  obtain ⟨⟨outcome, next⟩, ran, same⟩ := Option.map_eq_some_iff.mp ended
  cases same
  exact keeps { nfs with rpc := link } next outcome before ran

theorem uniqueOwner_keeps {invariant : Link ω → Prop} (blind : Blind invariant) :
    platform.uniqueOwner.Keeps invariant :=
  Prog.Keeps.bind (ask_keeps blind) fun _ => Prog.Keeps.pure _

theorem fromClient_keeps (minor : UInt32) :
    (fromClient platform minor).Keeps (Along Wired.Encrypted) := by
  refine Prog.Keeps.bind (asMount_keeps (uniqueOwner_keeps blind_encrypted)) fun owner => ?_
  refine Prog.Keeps.bind (asMount_keeps (ask_keeps blind_encrypted)) fun boot => ?_
  refine Prog.Keeps.bind (asMount_keeps (uniqueOwner_keeps blind_encrypted)) fun id => ?_
  refine Prog.Keeps.bind Prog.Keeps.get fun link => ?_
  refine Prog.Keeps.bind (onNfs4_keeps ?_) fun _ => Prog.Keeps.pure _
  exact Nfs4.handshake_keeps rpcTransport_keeps boot id

theorem lookupAll_keeps (root : NfsFh4) (comps : List String) :
    (lookupAll (Proto.rpcTransport platform.wire) root comps).Keeps
      (Nfs4.Upon (Along Wired.Encrypted)) := by
  induction comps generalizing root with
  | nil => exact Prog.Keeps.pure _
  | cons comp comps ih =>
      exact Prog.Keeps.bind (Nfs4.lookup_keeps rpcTransport_keeps root comp) fun found =>
        ih found.1

/-- What the outcome of a mount says of the connection it leaves. -/
def Concealed {α : Type} : Except MountError α → Link ω → Prop :=
  Prog.split (fun _ => Along Wired.Encrypted) fun _ => Discreet

theorem Concealed.discreet {α : Type} {result : Except MountError α} {link : Link ω}
    (concealed : Concealed result link) : link.env.Sealed := by
  cases result with
  | ok _ => exact concealed.2.2
  | error _ => exact concealed

theorem concealed_of_keeps {α : Type} {body : Prog (Link ω) MountError α}
    (keeps : body.Keeps (Along Wired.Encrypted)) :
    body.Meets (Along Wired.Encrypted) Concealed :=
  Prog.Meets.onError keeps.byCases fun _ _ along => along.2.2

/-- A client that is asked for TLS speaks over TLS. -/
theorem connectV4_meets (ip : IpAddr) (port : UInt16) (cred : Rpc.Credentials) (url : NfsUrl)
    (asked : url.tls = true) :
    (connectV4 platform ip port cred url).Meets Discreet Concealed := by
  unfold connectV4
  simp only [asked, ↓reduceIte]
  split
  · refine .bind (fun _ => Along Wired.Encrypted)
      (asMount_meets (connectTls_meets ip port _ _ _ cred _)) fun _ => ?_
    exact concealed_of_keeps (fromClient_keeps url.minorversion)
  · exact .throw fun _ discreet => discreet

theorem resolveIp_keeps (server : String) (port : UInt16) :
    (resolveIp platform server port).Keeps Discreet := by
  refine Prog.Keeps.bind (asMount_keeps (ask_keeps blind_discreet)) fun answer => ?_
  split
  · exact Prog.Keeps.throw _
  · exact Prog.Keeps.throw _
  · exact Prog.Keeps.pure _

theorem mountV4_meets (url : NfsUrl) (cred : Rpc.Credentials) (asked : url.tls = true) :
    (mountV4 platform url cred).Meets Discreet Concealed := by
  refine .bind (fun _ => Discreet) (resolveIp_keeps url.server _).byCases fun ip => ?_
  refine .bind (fun _ => Along Wired.Encrypted) (connectV4_meets ip _ cred url asked) fun nfs => ?_
  refine concealed_of_keeps ?_
  refine Prog.Keeps.bind (onNfs4_keeps (Nfs4.rootFh_keeps rpcTransport_keeps)) fun root => ?_
  refine Prog.Keeps.bind (onNfs4_keeps (lookupAll_keeps root.1 _)) fun root => ?_
  exact Prog.Keeps.pure _

/-- A client that has run a program has the connection that is left. -/
theorem rpc_of_onNfs4 {α : Type} {nfs next : Nfs4 (Link ω)}
    {body : Prog (Nfs4 (Link ω)) ProtoError α} {value : α} {link final : Link ω}
    (ran : (onNfs4 nfs body).run link = some (.ok (value, next), final)) : next.rpc = final := by
  obtain ⟨⟨outcome, after⟩, -, same⟩ := Option.map_eq_some_iff.mp ran
  cases outcome with
  | error error => cases same
  | ok value =>
      cases same
      rfl

/-- The context of an NFSv4 mount has the connection that the mount leaves. -/
theorem mountV4_context {url : NfsUrl} {cred : Rpc.Credentials} {context : Mounted (Link ω)}
    {link final : Link ω} (ran : (mountV4 platform url cred).run link = some (.ok context, final)) :
    ∃ backend root, context = .v4 backend root ∧ backend.nfs.rpc = final := by
  obtain ⟨_, _, _, ran⟩ := Prog.bind_eq_ok ran
  obtain ⟨_, _, _, ran⟩ := Prog.bind_eq_ok ran
  obtain ⟨_, _, _, ran⟩ := Prog.bind_eq_ok ran
  obtain ⟨⟨root, nfs⟩, _, looked, ended⟩ := Prog.bind_eq_ok ran
  cases ended
  exact ⟨V4Backend.new nfs, root.data, rfl, rpc_of_onNfs4 looked⟩

/-- Whatever the other parameters and their order, an NFSv4 mount that is asked for TLS
writes nothing but the probe in the clear, and the connection of the context that it returns
is the TLS stream. -/
theorem mountUrl_encrypted (platform : Platform ω) (text : String) (url : NfsUrl)
    (parsed : NfsUrl.parse text = .ok url) (asked : url.tls = true) (version : url.version = 4)
    (link final : Link ω) (clean : link.env.written = [])
    (result : Except MountError (Mounted (Link ω)))
    (ran : (mountUrl platform text).run link = some (result, final)) :
    (∀ channel data, .data channel data ∈ final.env.written → channel = .tls) ∧
      ∀ context, result = .ok context → ∃ backend root, context = .v4 backend root ∧
        backend.nfs.rpc = final ∧ final.client.OverStream ∧ final.env.channel = .tls := by
  have discreet : Discreet link := by
    intro entry member
    rw [clean] at member
    exact (List.not_mem_nil member).elim
  unfold mountUrl at ran
  rw [parsed, Prog.bind_of_ok rfl, mountParsed] at ran
  simp only [version, ↓reduceIte] at ran
  have concealed : Concealed result final :=
    mountV4_meets url _ asked link final result discreet ran
  constructor
  · intro channel data member
    exact concealed.discreet _ member
  · rintro context rfl
    obtain ⟨backend, root, isV4, connected⟩ := mountV4_context ran
    exact ⟨backend, root, isV4, connected, concealed.1, concealed.2.1⟩

/-- The parameter has no effect on the other versions. -/
theorem mountParsed_tls_ignored (platform : Platform ω) (url : NfsUrl) (other : url.version ≠ 4) :
    mountParsed platform url = mountParsed platform { url with tls := false } := by
  simp only [mountParsed, other, ↓reduceIte]
  rfl

open Rpc (Reply Inbound)
open Rpc.RpcClient (Feed)
open Xdr (beU32)

/-- A platform whose connections all succeed and read from one feed. -/
def fed : Platform Feed where
  tlsFeature := true
  pid := 1
  env := RpcClient.feed
  resolve _ _ feed := some (.ok (some (.v4 (Vector.replicate 4 10))), feed)
  dial _ _ _ feed := some (.ok (), feed)
  exchange _ feed := some (.ok ⟨Rpc.RecordMarking.encodeRecord ⟨[], beU32 0 ++ (beU32 1 ++
    (beU32 0 ++ (beU32 7 ++ beU32 0)))⟩, .timedOut⟩, feed)
  session _ feed := some (.ok (), feed)
  seedXid feed := some (5, feed)
  nanos feed := some (0, feed)

/-- No client, and nothing written yet. -/
def unlinked (feed : Feed) : Link Feed :=
  ⟨RpcClient.connect .tcp .none 0, feed, .plain, []⟩

/-- The reply to a call, in one segment. -/
def replied (xid : UInt32) (result : Bytes) : Bytes :=
  Rpc.RecordMarking.encodeRecord ⟨[], Reply.encode xid (.accepted 0 [] (.success result))⟩

/-- The result of a `COMPOUND` whose operations succeed. The client takes an opaque from the
reply before it parses it, so the result is one. -/
def wrapped (count : UInt32) (results : Bytes) : Bytes :=
  let whole := beU32 0 ++ (beU32 0 ++ (beU32 count ++ results))
  beU32 (UInt32.ofNat whole.length) ++ whole

/-- The result of an operation that succeeds. -/
def succeeded (op : UInt32) (body : Bytes) : Bytes :=
  beU32 op ++ (beU32 0 ++ body)

/-- The kind of the stream that data was written to. -/
def Written.channel? : Written → Option Channel
  | .probe _ => none
  | .data channel _ => some channel

/-- What a run ends with: whether it succeeded, and what it wrote. -/
def traced (outcome : Option (Except MountError (Mounted (Link Feed)) × Link Feed)) :
    Option (Bool × List (Option Channel)) :=
  outcome.map fun (result, link) => (result.isOk, link.env.written.map Written.channel?)

/-- The replies to the two calls of a mount of NFSv3. -/
def mountFeed : Feed :=
  ⟨[⟨replied 5 (beU32 0 ++ (beU32 1 ++ ([7, 0, 0, 0] ++ beU32 0))), by decide, by decide⟩,
    ⟨replied 5 (beU32 10006), by decide, by decide⟩], false⟩

/-- The replies to the calls of a mount of NFSv4.0: `SETCLIENTID`, its confirmation, the root, and
the lookup of one component. -/
def mountFeed4 : Feed :=
  let fh := beU32 1 ++ [7, 0, 0, 0]
  ⟨[⟨replied 5 (wrapped 1 (succeeded Proto.opSetclientid (List.replicate 16 1))),
      by decide +kernel, by decide +kernel⟩,
    ⟨replied 6 (wrapped 1 (succeeded Proto.opSetclientidConfirm [])),
      by decide +kernel, by decide +kernel⟩,
    ⟨replied 7 (wrapped 2 (succeeded Proto.opPutrootfh [] ++ succeeded Proto.opGetfh fh)),
      by decide +kernel, by decide +kernel⟩,
    ⟨replied 8 (wrapped 4 (succeeded Proto.opPutfh [] ++ (succeeded Proto.opLookup [] ++
      (succeeded Proto.opGetfh fh ++ succeeded Proto.opGetattr (beU32 0 ++ beU32 0))))),
      by decide +kernel, by decide +kernel⟩], false⟩

/-- A mount over TLS: after the probe come its four calls, all of them encrypted. -/
theorem mountUrl_encrypted_sample :
    ∃ context final,
      (mountUrl fed "nfs://h/e?tls=1&version=4").run (unlinked mountFeed4) =
        some (.ok context, final) ∧
      final.env.written.map Written.channel? =
        [none, some .tls, some .tls, some .tls, some .tls] ∧
      (∀ channel data, .data channel data ∈ final.env.written → channel = .tls) ∧
      ∃ backend root, context = .v4 backend root ∧
        backend.nfs.rpc = final ∧ final.client.OverStream ∧ final.env.channel = .tls := by
  have trace : traced ((mountUrl fed "nfs://h/e?tls=1&version=4").run (unlinked mountFeed4)) =
      some (true, [none, some .tls, some .tls, some .tls, some .tls]) := by
    decide +kernel
  obtain ⟨⟨result, final⟩, ran, shown⟩ := Option.map_eq_some_iff.mp trace
  obtain ⟨mounted, written⟩ := Prod.mk.inj shown
  obtain ⟨sealed, spoken⟩ := mountUrl_encrypted fed "nfs://h/e?tls=1&version=4"
    { server := "h", path := "/e", version := 4, tls := true } (by decide +kernel) rfl rfl
    (unlinked mountFeed4) final rfl result ran
  cases result with
  | error error => cases mounted
  | ok context => exact ⟨context, final, ran, written, sealed, spoken context rfl⟩

/-- Without a version the mount is one of NFSv3, whose two calls are not encrypted. -/
theorem mountUrl_unencrypted :
    ¬ ∀ (text : String) (url : NfsUrl), NfsUrl.parse text = .ok url → url.tls = true →
      ∀ (platform : Platform Feed) (link final : Link Feed)
        (result : Except MountError (Mounted (Link Feed))), link.env.written = [] →
        (mountUrl platform text).run link = some (result, final) →
        (∃ error, result = .error error) ∨
          ∀ channel data, .data channel data ∈ final.env.written → channel = .tls := by
  intro claim
  have trace : traced ((mountUrl fed "nfs://h/e?tls=1&nfsport=2049&mountport=635").run
      (unlinked mountFeed)) = some (true, [some .plain, some .plain]) := by
    decide +kernel
  obtain ⟨⟨result, final⟩, ran, shown⟩ := Option.map_eq_some_iff.mp trace
  obtain ⟨succeeded, written⟩ := Prod.mk.inj shown
  have either := claim "nfs://h/e?tls=1&nfsport=2049&mountport=635"
    { server := "h", path := "/e", nfsport := some 2049, mountport := some 635, tls := true }
    (by decide +kernel) rfl fed (unlinked mountFeed) final result rfl ran
  rcases either with ⟨error, rfl⟩ | sealed
  · cases succeeded
  · have plain : some Channel.plain ∈ final.env.written.map Written.channel? := by
      rw [written]
      exact List.mem_cons_self
    obtain ⟨entry, member, same⟩ := List.mem_map.mp plain
    cases entry with
    | probe data => cases same
    | data channel data =>
        cases same
        cases sealed .plain data member

end LibNfs.Client
