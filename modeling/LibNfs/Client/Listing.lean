import LibNfs.Client.BackendV3
import LibNfs.Client.BackendV4
import LibNfs.Lib.Paging
import LibNfs.Proto.Conformance
import LibNfs.Proto.Lister3

/-! # Listing a directory

`readdir` over both backends. The loop goes on from the cookie of the last entry it
was given, with the verifier that came with it; so whatever runs of the entries a
server hands out, the loop puts them together again.
-/

namespace LibNfs.Client

open Proto (EntryPlus3 Lister3 DirPage3 OpServer ArgOp Results)
open Proto.Nfs4 (requested)

/-- A cookie verifier. -/
abbrev Verifier := Vector UInt8 8

/-- The page, with its end and its verifier. -/
def DirPage.view (page : DirPage) : Paging.Page Verifier (UInt64 × DirEntry) :=
  ⟨page.cookieverf, page.entries, page.eof⟩

section Loop

variable {σ : Type} {fetch : UInt64 → Verifier → Prog σ NfsError DirPage}
  {entries : List (UInt64 × DirEntry)} {ready : σ → Prop} {required : σ → Option Verifier}

/-- The entries that follow a place are put behind those before it. -/
theorem readPages_eq (serves : Paging.Serves fetch DirPage.view Prod.fst 0 entries ready required)
    (distinct : Paging.Distinct Prod.fst 0 entries) {done rest : List (UInt64 × DirEntry)}
    (split : entries = done ++ rest) {pages : Nat} (enough : rest.length < pages) {cookie : UInt64}
    {verf : Verifier} (place : Paging.after Prod.fst 0 entries cookie = rest) {state : σ}
    (isReady : ready state)
    (entitled : Paging.Entitled Prod.fst 0 entries (required state) cookie verf) :
    ∃ next, (readPages fetch pages cookie verf (done.map Prod.snd)).run state =
      some (.ok (entries.map Prod.snd), next) := by
  induction pages generalizing done rest cookie verf state with
  | zero => exact absurd enough (Nat.not_lt_zero _)
  | succ pages ih =>
      obtain ⟨page, next, fetched, isPage, nextReady, wants⟩ :=
        serves cookie verf state isReady entitled
      rw [place] at isPage
      change Paging.IsPage rest page.entries page.eof at isPage
      rw [readPages, Prog.bind_of_ok fetched]
      by_cases ended : page.eof ∨ page.entries = []
      · have all : page.entries = rest := by
          rcases ended with eof | empty
          · exact isPage.reached.mp eof
          · by_contra other
            apply isPage.some
            · intro nothing
              exact other (empty.trans nothing.symm)
            · exact empty
        refine ⟨next, ?_⟩
        rw [if_pos ended, all, ← List.map_append, ← split]
        rfl
      · have more : page.entries ≠ [] := fun empty => ended (.inr empty)
        rw [split] at distinct place
        obtain ⟨last, remaining, final, cut, stops⟩ := isPage.advance distinct more
        have whole : entries = (done ++ page.entries) ++ remaining := by
          rw [split, cut, List.append_assoc]
        have fewer : remaining.length < pages := by
          have length := congrArg List.length cut
          rw [List.length_append] at length
          have nonempty := List.length_pos_iff.mpr more
          omega
        have listed : last ∈ entries := by
          rw [whole]
          apply List.mem_append_left
          apply List.mem_append_right
          exact List.mem_of_getLast? final
        rw [← split] at distinct stops
        rw [if_neg ended, final, ← List.map_append]
        exact ih whole fewer stops nextReady (.inr ⟨List.mem_map_of_mem listed, wants⟩)

/-- From the start, the loop returns every entry once, in order. -/
theorem readPages_all (serves : Paging.Serves fetch DirPage.view Prod.fst 0 entries ready required)
    (distinct : Paging.Distinct Prod.fst 0 entries) {pages : Nat} (enough : entries.length < pages)
    (verf : Verifier) {state : σ} (isReady : ready state) :
    ∃ next, (readPages fetch pages 0 verf []).run state =
      some (.ok (entries.map Prod.snd), next) := by
  have begins : entries = [] ++ entries := rfl
  exact readPages_eq serves distinct begins enough (Paging.after_start entries) isReady (.inl rfl)

end Loop

namespace V3Backend

variable {S : Type} {lister : Lister3 S} {host : Host S} {dir : ObjId}
  {ready : S → Prop} {required : S → Option Verifier} {entries : List EntryPlus3}

/-- What a server of NFSv3 hands out. -/
def pageOf (page : DirPage3) : Paging.Page Verifier EntryPlus3 :=
  ⟨page.1.cookieverf, page.1.entries, page.1.eof⟩

theorem serves_readPage (served : host.nfs = lister.transport)
    (short : Proto.NfsFh3.Short ⟨dir⟩)
    (serves : Paging.Serves (lister.list ⟨dir⟩) pageOf EntryPlus3.cookie 0 entries ready required) :
    Paging.Serves (readPage host dir) DirPage.view Prod.fst 0 (entries.map dirEntry)
      (fun backend => ready backend.world) (required ∘ world) := by
  refine serves.refine (fun _ => rfl) (fun _ isReady => isReady) ?_
  intro cookie verf backend page world isReady listed nextReady
  have read := Lister3.readdirplus_ok short 8192 32768 listed
  have called : (within .ofProto (Proto.Nfs3.readdirplus host.nfs ⟨dir⟩ cookie verf 8192 32768)).run
      backend = some (.ok page.1, { backend with world := world }) := by
    simp only [served, within, Prog.within, read]
    rfl
  exact ⟨_, _, Prog.bind_of_ok called, rfl, nextReady, rfl⟩

end V3Backend

namespace V4Backend

variable {S : Type} {server : OpServer S} {dir : ObjId}
  {ready : S → Prop} {required : S → Option Verifier}
  {entries : List (Proto.EntryRes requested)}

/-- The operations of a request for a page. -/
def pageOps (dir : ObjId) (cookie : UInt64) (verf : Verifier) : List ArgOp :=
  [.putfh ⟨dir⟩, .readdir cookie verf (32768 / 2) 32768 requested]

/-- Executes the operations of a request for a page. -/
def listed (server : OpServer S) (dir : ObjId) (cookie : UInt64) (verf : Verifier) :
    Prog S Proto.Failure (Proto.DirRes requested) := do
  let results ← server.perform (pageOps dir cookie verf)
  return results.second.result

/-- What a server of NFSv4 hands out. -/
def pageOf (page : Proto.DirRes requested) :
    Paging.Page Verifier (Proto.EntryRes requested) :=
  ⟨page.cookieverf, page.entries, page.eof⟩

/-- An entry as the client shows it. -/
def shown (entry : Proto.EntryRes requested) : UInt64 × DirEntry :=
  dirEntry (Proto.CompoundReader.entryOf entry)

theorem serves_readPage (attends : server.Attends) (short : Proto.NfsFh4.Short ⟨dir⟩)
    (serves : Paging.Serves (listed server dir) pageOf Proto.EntryRes.cookie 0 entries ready
      required) :
    Paging.Serves (readPage server.transport dir) DirPage.view Prod.fst 0 (entries.map shown)
      (fun backend => backend.nfs.Established ∧ ready backend.nfs.rpc)
      (required ∘ fun backend => backend.nfs.rpc) := by
  refine serves.refine (fun _ => rfl) (fun _ isReady => isReady.2) ?_
  rintro cookie verf backend page rpc ⟨established, -⟩ performed nextReady
  obtain ⟨results, mid, ran, same⟩ := Prog.bind_eq_ok performed
  cases same
  have conversed := Proto.Nfs4.converse_of_ok
    (Proto.Nfs4.answered_of_attends attends established ran)
  have read : (Proto.Nfs4.readdir server.transport ⟨dir⟩ cookie verf 32768).run backend.nfs =
      some (.ok (Proto.CompoundReader.dirOf results.second.result), backend.nfs.sentTo rpc) :=
    (Proto.Nfs4.readdir_eq cookie verf 32768 established short).trans (Prog.bind_of_ok conversed)
  have called : (within (Proto.Nfs4.readdir server.transport ⟨dir⟩ cookie verf 32768)).run backend =
      some (.ok (Proto.CompoundReader.dirOf results.second.result),
        { backend with nfs := backend.nfs.sentTo rpc }) := by
    simp only [within, Prog.within, read]
    rfl
  refine ⟨_, _, Prog.bind_of_ok called, rfl, ⟨established.sentTo rpc, nextReady⟩, ?_⟩
  simp only [DirPage.view, Proto.CompoundReader.dirOf, List.map_map, pageOf]
  rfl

end V4Backend

/-- Whatever the sizes of the pages, `readdir` ends and returns every entry of the directory
once, in order: over NFSv3 and over NFSv4. -/
theorem readdir_lists {S T : Type} {lister : Lister3 S} {host : Host S} {server : OpServer T}
    {dir3 dir4 : ObjId} {entries3 : List EntryPlus3} {entries4 : List (Proto.EntryRes requested)}
    {ready3 : S → Prop} {required3 : S → Option Verifier} {ready4 : T → Prop}
    {required4 : T → Option Verifier} (served : host.nfs = lister.transport)
    (attends : server.Attends) (short3 : Proto.NfsFh3.Short ⟨dir3⟩)
    (short4 : Proto.NfsFh4.Short ⟨dir4⟩)
    (distinct3 : Paging.Distinct EntryPlus3.cookie 0 entries3)
    (distinct4 : Paging.Distinct Proto.EntryRes.cookie 0 entries4)
    (serves3 : Paging.Serves (lister.list ⟨dir3⟩) V3Backend.pageOf EntryPlus3.cookie 0 entries3
      ready3 required3)
    (serves4 : Paging.Serves (V4Backend.listed server dir4) V4Backend.pageOf Proto.EntryRes.cookie 0
      entries4 ready4 required4) :
    (∀ (pages : Nat) (backend : V3Backend S), entries3.length < pages → ready3 backend.world →
        ∃ next, (V3Backend.readdir host pages dir3).run backend =
          some (.ok (entries3.map fun entry => (V3Backend.dirEntry entry).2), next)) ∧
      ∀ (pages : Nat) (backend : V4Backend T), entries4.length < pages → backend.nfs.Established →
        ready4 backend.nfs.rpc →
        ∃ next, (V4Backend.readdir server.transport pages dir4).run backend =
          some (.ok (entries4.map fun entry => (V4Backend.shown entry).2), next) := by
  constructor
  · intro pages backend enough isReady
    have paged := V3Backend.serves_readPage served short3 serves3
    have many : (entries3.map V3Backend.dirEntry).length < pages := by rwa [List.length_map]
    have apart : Paging.Distinct Prod.fst 0 (entries3.map V3Backend.dirEntry) :=
      distinct3.map fun _ => rfl
    obtain ⟨next, read⟩ := readPages_all paged apart many (Vector.replicate 8 0) isReady
    rw [List.map_map] at read
    exact ⟨next, read⟩
  · intro pages backend enough established isReady
    have paged := V4Backend.serves_readPage attends short4 serves4
    have many : (entries4.map V4Backend.shown).length < pages := by rwa [List.length_map]
    have apart : Paging.Distinct Prod.fst 0 (entries4.map V4Backend.shown) :=
      distinct4.map fun _ => rfl
    obtain ⟨next, read⟩ :=
      readPages_all paged apart many (Vector.replicate 8 0) ⟨established, isReady⟩
    rw [List.map_map] at read
    exact ⟨next, read⟩

section TwoPages

variable {α : Type} {key : α → UInt64} {first second : α}

/-- The verifier of the directory. -/
def sampleVerf : Verifier :=
  Vector.replicate 8 5

/-- One entry in each page. -/
def oneByOne (key : α → UInt64) (first second : α) (cookie : UInt64) : Paging.Page Verifier α :=
  if cookie = 0 then ⟨sampleVerf, [first], false⟩
  else if cookie = key first then ⟨sampleVerf, [second], true⟩
  else ⟨sampleVerf, [], true⟩

theorem mem_oneByOne {cookie : UInt64} {entry : α}
    (member : entry ∈ (oneByOne key first second cookie).run) : entry = first ∨ entry = second := by
  unfold oneByOne at member
  split at member
  · exact .inl (List.mem_singleton.mp member)
  · split at member
    · exact .inr (List.mem_singleton.mp member)
    · exact absurd member List.not_mem_nil

theorem token_oneByOne (cookie : UInt64) :
    (oneByOne key first second cookie).token = sampleVerf := by
  unfold oneByOne
  split
  · rfl
  · split <;> rfl

/-- A page of one entry is a page of the listing. -/
theorem isPage_oneByOne (distinct : Paging.Distinct key 0 [first, second]) {cookie : UInt64}
    (asked : cookie = 0 ∨ cookie ∈ [first, second].map key) :
    Paging.IsPage (Paging.after key 0 [first, second] cookie)
      (oneByOne key first second cookie).run (oneByOne key first second cookie).eof := by
  have apart := distinct.apart
  have nodup := distinct.nodup
  simp only [List.map_cons, List.map_nil, List.mem_cons, List.not_mem_nil, or_false, not_or,
    List.nodup_cons, not_false_eq_true, List.nodup_nil, and_true] at apart nodup asked
  rcases asked with rfl | rfl | rfl
  · rw [Paging.after_start, oneByOne, if_pos rfl]
    exact ⟨⟨[second], rfl⟩, by simp, by simp⟩
  · have follows : Paging.after key 0 [first, second] (key first) = [second] :=
      @Paging.after_key α UInt64 _ key 0 [] [second] first distinct
    rw [follows, oneByOne, if_neg (Ne.symm apart.1), if_pos rfl]
    exact ⟨List.prefix_rfl, by simp, by simp⟩
  · have follows : Paging.after key 0 [first, second] (key second) = [] :=
      @Paging.after_key α UInt64 _ key 0 [first] [] second distinct
    rw [follows, oneByOne, if_neg (Ne.symm apart.2), if_neg (Ne.symm nodup)]
    exact ⟨List.prefix_rfl, by simp, by simp⟩

end TwoPages

/-- `NFS3ERR_BAD_COOKIE`. -/
def badCookie3 : Proto.Failure3 :=
  ⟨10003, by decide, []⟩

/-- `NFS4ERR_BAD_COOKIE`. -/
def badCookie : Proto.Failure :=
  ⟨10003, by decide⟩

/-- An entry with this name and cookie. -/
def sampleEntry3 (name : String) (cookie : UInt64) : EntryPlus3 :=
  ⟨cookie, name, cookie, none, none⟩

theorem sampleEntry3_encodable {name : String} (sized : Proto.Sized (Xdr.asBytes name))
    (cookie : UInt64) : (sampleEntry3 name cookie).Encodable :=
  ⟨sized, fun _ given => by cases given⟩

/-- A page of one entry over NFSv3. -/
def samplePage3 (cookie : UInt64) : DirPage3 :=
  let page := oneByOne EntryPlus3.cookie (sampleEntry3 "a" 7) (sampleEntry3 "b" 3) cookie
  ⟨⟨none, page.token, page.run, page.eof⟩, fun entry member => by
    rcases mem_oneByOne member with rfl | rfl
    · exact sampleEntry3_encodable (by decide) 7
    · exact sampleEntry3_encodable (by decide) 3⟩

/-- A directory of two files, for NFSv3. -/
def sampleLister : Lister3 Unit where
  list _ cookie verf :=
    if cookie = 0 ∨ verf = sampleVerf then return samplePage3 cookie
    else Prog.throw badCookie3

/-- An entry with this name and cookie over NFSv4. -/
def sampleEntry4 (name : Proto.Text) (cookie : UInt64) (asked : List Nat) : Proto.EntryRes asked :=
  ⟨cookie, name, Proto.Method.noAttrs asked⟩

/-- The first name. -/
def sampleA : Proto.Text :=
  ⟨"a", by decide⟩

/-- The second name. -/
def sampleB : Proto.Text :=
  ⟨"b", by decide⟩

/-- A page of one entry over NFSv4. -/
def samplePage4 (asked : List Nat) (cookie : UInt64) : Proto.DirRes asked :=
  let page := oneByOne Proto.EntryRes.cookie (sampleEntry4 sampleA 7 asked)
    (sampleEntry4 sampleB 3 asked) cookie
  ⟨page.token, page.run, page.eof⟩

/-- A directory of two files, for NFSv4. -/
def sampleServer : OpServer Unit where
  receive _ state := state
  exec
    | .readdir cookie verf _ _ asked =>
        if cookie = 0 ∨ verf = sampleVerf then return ⟨samplePage4 asked cookie, ()⟩
        else Prog.throw badCookie
    | op => return ⟨Proto.Method.blank op, op.noExtra⟩

theorem distinct_of_seven_three {α : Type} {key : α → UInt64} {first second : α}
    (seven : key first = 7) (three : key second = 3) : Paging.Distinct key 0 [first, second] := by
  constructor
  · rw [List.map_cons, List.map_cons, List.map_nil, seven, three]
    decide
  · rw [List.map_cons, List.map_cons, List.map_nil, seven, three]
    decide

/-- The entries over NFSv3 have cookies that are apart. -/
theorem sampleEntries3_distinct :
    Paging.Distinct EntryPlus3.cookie 0 [sampleEntry3 "a" 7, sampleEntry3 "b" 3] :=
  distinct_of_seven_three rfl rfl

/-- The entries over NFSv4 have cookies that are apart. -/
theorem sampleEntries4_distinct (asked : List Nat) :
    Paging.Distinct Proto.EntryRes.cookie 0
      [sampleEntry4 sampleA 7 asked, sampleEntry4 sampleB 3 asked] :=
  distinct_of_seven_three rfl rfl

theorem sampleLister_serves (dir : ObjId) :
    Paging.Serves (sampleLister.list ⟨dir⟩) V3Backend.pageOf EntryPlus3.cookie 0
      [sampleEntry3 "a" 7, sampleEntry3 "b" 3] (fun _ => True) fun _ => some sampleVerf := by
  intro cookie verf state _ entitled
  have granted : cookie = 0 ∨ verf = sampleVerf :=
    entitled.imp id fun asked => (Option.some.inj asked.2).symm
  have page := isPage_oneByOne sampleEntries3_distinct (entitled.imp id And.left)
  refine ⟨samplePage3 cookie, (), ?_, page, trivial, congrArg some (token_oneByOne cookie).symm⟩
  simp only [sampleLister, if_pos granted]
  rfl

/-- The sample server attends to every request. -/
theorem sampleServer_attends : sampleServer.Attends where
  receive _ _ := rfl
  sequence _ _ _ _ _ _ := ⟨_, rfl⟩

/-- The sample server serves the two entries. -/
theorem sampleServer_serves (dir : ObjId) :
    Paging.Serves (V4Backend.listed sampleServer dir) V4Backend.pageOf Proto.EntryRes.cookie 0
      [sampleEntry4 sampleA 7 requested, sampleEntry4 sampleB 3 requested] (fun _ => True)
      fun _ => some sampleVerf := by
  intro cookie verf state _ entitled
  have granted : cookie = 0 ∨ verf = sampleVerf :=
    entitled.imp id fun asked => (Option.some.inj asked.2).symm
  have page := isPage_oneByOne (sampleEntries4_distinct requested) (entitled.imp id And.left)
  refine ⟨samplePage4 requested cookie, (), ?_, page, trivial,
    congrArg some (token_oneByOne cookie).symm⟩
  have executed : (sampleServer.exec (.readdir cookie verf (32768 / 2) 32768 requested)).run () =
      some (.ok ⟨samplePage4 requested cookie, ()⟩, ()) := by
    simp only [sampleServer, if_pos granted]
    rfl
  exact Prog.bind_of_ok (sampleServer.perform_cons_ok rfl (sampleServer.perform_cons_ok executed rfl))

/-- A host that has nothing but the directory. -/
def sampleHost : Host Unit where
  nfs := sampleLister.transport
  protocol := .tcp
  portmapPort := 111
  connect _ := return ()
  port _ := sampleLister.transport

/-- Two files, in two pages, over both versions. -/
theorem readdir_lists_two :
    (∃ next, (V3Backend.readdir sampleHost 3 [1]).run ⟨(), 65536, 65536, none, [], 1⟩ =
        some (.ok [⟨"a", 7, none⟩, ⟨"b", 3, none⟩], next)) ∧
      ∃ next, (V4Backend.readdir sampleServer.transport 3 [1]).run
          ⟨⟨(), 0, 1, Proto.uniqueOwner 1 1, 0, 0, none, 1⟩, 65536, 65536⟩ =
        some (.ok [⟨"a", 0, some (.fromFattr4 {})⟩, ⟨"b", 0, some (.fromFattr4 {})⟩], next) := by
  have both := @readdir_lists Unit Unit sampleLister sampleHost sampleServer [1] [1] _ _ _ _ _ _ rfl
    sampleServer_attends (by decide) (by decide) sampleEntries3_distinct
    (sampleEntries4_distinct requested) (sampleLister_serves [1]) (sampleServer_serves [1])
  constructor
  · exact both.1 3 ⟨(), 65536, 65536, none, [], 1⟩ (by decide) trivial
  · exact both.2 3 ⟨⟨(), 0, 1, Proto.uniqueOwner 1 1, 0, 0, none, 1⟩, 65536, 65536⟩ (by decide)
      ⟨.inl rfl, 1, 1, rfl⟩ trivial

end LibNfs.Client
