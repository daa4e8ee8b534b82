import Mathlib.Data.List.TakeWhile
import LibNfs.Client.Url

/-! # What the URL parser accepts

The canonical text of a URL names its host, its path and every field as a
parameter. Parameters set different fields, so they may come in any order. In
the other direction, an accepted text may leave part of its authority unread.
-/

namespace LibNfs.Client

open Text

namespace NfsUrl

/-- A number in decimal. -/
def decimal (number : Nat) : List Char :=
  Nat.toDigits 10 number

theorem not_mem_decimal {symbol : Char} (number : Nat) (other : symbol.isDigit = false) :
    symbol ∉ decimal number := by
  intro member
  have digit := (numeral_toDigits number).2.1 symbol member
  rw [other] at digit
  cases digit

theorem parseU32_decimal (number : UInt32) (key : String) :
    parseU32 (decimal number.toNat) key = .ok number := by
  have within : number.toNat ≤ u32Max := by
    have small := number.toNat_lt
    unfold u32Max
    omega
  rw [parseU32, decimal, parseUnsigned_toDigits within]
  simp only [UInt32.ofNat_toNat]

theorem parsePort_decimal (port : UInt16) : parsePort (decimal port.toNat) = .ok port := by
  have within : port.toNat ≤ u16Max := by
    have small := port.toNat_lt
    unfold u16Max
    omega
  rw [parsePort, decimal, parseUnsigned_toDigits within]
  simp only [UInt16.ofNat_toNat]

/-- A flag as a digit. -/
def flagText (flag : Bool) : List Char :=
  if flag then ['1'] else ['0']

theorem parseBool_flagText (flag : Bool) : parseBool (flagText flag) = flag := by
  cases flag <;> decide

/-- The parameters of the canonical text. -/
inductive Param where
  | version
  | minorversion
  | uid
  | gid
  | mountport
  | timeo
  | autotraverse
  | tls
  | tlsInsecure
  deriving DecidableEq, Repr

namespace Param

/-- The key of a parameter. -/
def key : Param → String
  | version => "version"
  | minorversion => "minorversion"
  | uid => "uid"
  | gid => "gid"
  | mountport => "mountport"
  | timeo => "timeo"
  | autotraverse => "autotraverse"
  | tls => "tls"
  | tlsInsecure => "tls_insecure"

/-- The value of a parameter in a URL. -/
def value (url : NfsUrl) : Param → List Char
  | version => decimal url.version.toNat
  | minorversion => decimal url.minorversion.toNat
  | uid => decimal url.uid.toNat
  | gid => decimal url.gid.toNat
  | mountport => decimal (url.mountport.getD 0).toNat
  | timeo => decimal url.timeo.toNat
  | autotraverse => flagText url.autotraverse
  | tls => flagText url.tls
  | tlsInsecure => flagText url.tlsInsecure

/-- A parameter as it is written in the query. -/
def text (url : NfsUrl) (param : Param) : List Char :=
  param.key.toList ++ '=' :: param.value url

/-- Gives one URL the field of another. -/
def set (url : NfsUrl) (parsed : NfsUrl) : Param → NfsUrl
  | version => { parsed with version := url.version }
  | minorversion => { parsed with minorversion := url.minorversion }
  | uid => { parsed with uid := url.uid }
  | gid => { parsed with gid := url.gid }
  | mountport => { parsed with mountport := some (url.mountport.getD 0) }
  | timeo => { parsed with timeo := url.timeo }
  | autotraverse => { parsed with autotraverse := url.autotraverse }
  | tls => { parsed with tls := url.tls }
  | tlsInsecure => { parsed with tlsInsecure := url.tlsInsecure }

/-- Two parameters are set in either order. -/
theorem set_comm (url parsed : NfsUrl) (first second : Param) :
    second.set url (first.set url parsed) = first.set url (second.set url parsed) := by
  cases first <;> cases second <;> rfl

/-- A symbol that is in no key and no number is in no parameter. -/
theorem ampersand_free (url : NfsUrl) (param : Param) : '&' ∉ param.text url := by
  have flags (flag : Bool) : '&' ∉ flagText flag := by cases flag <;> decide
  rw [text, List.mem_append, List.mem_cons, not_or, not_or]
  refine ⟨by cases param <;> decide, by decide, ?_⟩
  cases param with
  | autotraverse | tls | tlsInsecure => exact flags _
  | version | minorversion | uid | gid | mountport | timeo => exact not_mem_decimal _ rfl

/-- A parameter is split at its equals sign. -/
theorem splitOnce_text (url : NfsUrl) (param : Param) :
    splitOnce '=' (param.text url) = some (param.key.toList, param.value url) :=
  splitOnce_append (by cases param <;> decide) _

/-- The parser sets the field of a canonical parameter and no other. -/
theorem applyPair_text (url parsed : NfsUrl) (param : Param) (timeo : url.timeo.toNat < 2 ^ 32) :
    applyPair parsed (param.text url) = .ok (param.set url parsed) := by
  have some : param.text url ≠ [] := by simp [text]
  have whole (number : Nat) : splitOnce '.' (decimal number) = none :=
    splitOnce_eq_none.mpr (not_mem_decimal number rfl)
  have seconds : url.timeo.toUInt32.toUInt64 = url.timeo ∧
      url.timeo.toUInt32.toNat = url.timeo.toNat := by
    have low : url.timeo.toUInt32.toNat = url.timeo.toNat := by
      rw [UInt64.toNat_toUInt32, Nat.mod_eq_of_lt timeo]
    exact ⟨UInt64.toNat_inj.mp (by rw [UInt32.toNat_toUInt64, low]), low⟩
  have timeoRead := parseU32_decimal url.timeo.toUInt32 "timeo"
  rw [seconds.2] at timeoRead
  simp only [applyPair, some, ↓reduceIte, splitOnce_text, Option.getD_some, String.ofList_toList]
  cases param <;>
    simp [applyParam, key, value, set, whole, parseU32_decimal, parsePort_decimal, timeoRead,
      seconds.1, parseBool_flagText, bind, Except.bind, pure, Except.pure]

end Param

/-- The parameters of the canonical text of a URL: the mount port when it is set. -/
def params (url : NfsUrl) : List Param :=
  [.version, .minorversion, .uid, .gid] ++ (if url.mountport.isSome then [.mountport] else []) ++
    [.timeo, .autotraverse, .tls, .tlsInsecure]

/-- The parameters are applied one after another. -/
theorem foldlM_applyPair (url : NfsUrl) (timeo : url.timeo.toNat < 2 ^ 32) (params : List Param)
    (parsed : NfsUrl) :
    (params.map (Param.text url)).foldlM applyPair parsed =
      .ok (params.foldl (fun parsed param => param.set url parsed) parsed) := by
  induction params generalizing parsed with
  | nil => rfl
  | cons param rest ih =>
      rw [List.map_cons, List.foldlM_cons, Param.applyPair_text url parsed param timeo]
      exact ih (param.set url parsed)

/-- The parameters give back all the fields that are not in the location. -/
theorem foldl_set_params (url : NfsUrl) :
    url.params.foldl (fun parsed param => param.set url parsed)
      { server := url.server, path := url.path, nfsport := url.nfsport } = url := by
  obtain ⟨server, path, version, minorversion, uid, gid, nfsport, mountport, timeo, autotraverse,
    tls, tlsInsecure⟩ := url
  cases mountport <;> rfl

/-- In any order. -/
theorem foldl_set_perm {url : NfsUrl} {order : List Param} (perm : order.Perm url.params) :
    order.foldl (fun parsed param => param.set url parsed)
      { server := url.server, path := url.path, nfsport := url.nfsport } = url := by
  rw [perm.foldl_eq' fun first _ second _ parsed => Param.set_comm url parsed first second]
  exact foldl_set_params url

/-- A host as it is written: bare, or between brackets. -/
inductive HostText : List Char → List Char → Prop where
  | bare {host : List Char} (some : host ≠ []) (slash : '/' ∉ host) (query : '?' ∉ host)
      (colon : ':' ∉ host) (bracket : '[' ∉ host) : HostText host host
  | bracketed {host : List Char} (some : host ≠ []) (bracket : ']' ∉ host) (slash : '/' ∉ host)
      (query : '?' ∉ host) : HostText host ('[' :: host ++ [']'])

/-- A port as it is written after a host. -/
def portText (port : Option UInt16) : List Char :=
  match port with
  | some port => ':' :: decimal port.toNat
  | none => []

theorem not_mem_portText {symbol : Char} (port : Option UInt16) (colon : symbol ≠ ':')
    (other : symbol.isDigit = false) : symbol ∉ portText port := by
  cases port with
  | none => exact List.not_mem_nil
  | some port =>
      rw [portText, List.mem_cons, not_or]
      exact ⟨colon, not_mem_decimal _ other⟩

/-- The host and the port are read back. -/
theorem parseAuthority_text {host written : List Char} (hostText : HostText host written)
    (port : Option UInt16) (parsed : NfsUrl) (unset : parsed.nfsport = none) :
    parseAuthority (written ++ portText port) parsed =
      .ok { parsed with server := String.ofList host, nfsport := port } := by
  cases hostText with
  | bracketed some bracket slash query =>
      have cut : splitOnce ']' (host ++ ']' :: portText port) = .some (host, portText port) :=
        splitOnce_append bracket _
      simp only [List.cons_append, List.append_assoc, List.nil_append, parseAuthority,
        parseBracketed, cut]
      cases port with
      | none =>
          simp only [portText, ← unset]
          rfl
      | some port =>
          simp only [portText, parsePort_decimal, bind, Except.bind]
          rfl
  | bare some slash query colon bracket =>
      have head : (host ++ portText port).head? ≠ .some '[' := by
        rw [List.head?_append_of_ne_nil _ some]
        exact fun same => bracket (List.mem_of_mem_head? same)
      rw [parseAuthority_bare head, parseHostPort]
      cases port with
      | none =>
          rw [portText, List.append_nil, rsplitOnce_eq_none.mpr colon]
          simp only [← unset]
          rfl
      | some port =>
          rw [portText, rsplitOnce_append host (not_mem_decimal port.toNat rfl)]
          simp only [parsePort_decimal, bind, Except.bind]
          rfl

theorem not_mem_hostText {host written : List Char} (hostText : HostText host written) :
    '/' ∉ written ∧ '?' ∉ written ∧ written ≠ [] := by
  cases hostText with
  | bare some slash query colon bracket => exact ⟨slash, query, some⟩
  | bracketed some bracket slash query =>
      refine ⟨?_, ?_, by simp⟩ <;> simpa using ‹_›

/-- The canonical text of a URL, with its host as written and its parameters in order. -/
def canonical (url : NfsUrl) (host : List Char) (order : List Param) : String :=
  String.ofList (scheme ++ (host ++ portText url.nfsport ++ url.path.toList) ++
    '?' :: ['&'].intercalate (order.map (Param.text url)))

/-- A location is split where its path begins. -/
theorem splitLocation_path {authority path : List Char} (free : '/' ∉ authority)
    (absolute : path.head? = some '/') :
    splitLocation (authority ++ path) = (authority, path) := by
  obtain ⟨rest, rfl⟩ : ∃ rest, path = '/' :: rest := by
    obtain ⟨rest, joined⟩ := List.head?_eq_some_iff.mp absolute
    exact ⟨rest, joined⟩
  rw [splitLocation, splitOnce_append free]

/-- The query of the canonical text is split back into its parameters. -/
theorem splitOn_params (url : NfsUrl) {order : List Param} (some : order ≠ []) :
    (['&'].intercalate (order.map (Param.text url))).splitOn '&' = order.map (Param.text url) := by
  apply List.splitOn_intercalate
  · intro text member
    obtain ⟨param, -, rfl⟩ := List.mem_map.mp member
    exact param.ampersand_free url
  · simpa using some

/-- A URL is read back from its canonical text, whatever the order of its parameters. -/
theorem parse_canonical (url : NfsUrl) (host : List Char)
    (hostText : HostText url.server.toList host) (absolute : url.path.toList.head? = some '/')
    (plain : '?' ∉ url.path.toList) (timeo : url.timeo.toNat < 2 ^ 32) (order : List Param)
    (perm : order.Perm url.params) : parse (canonical url host order) = .ok url := by
  have ⟨slash, query, written⟩ := not_mem_hostText hostText
  have noSlash : '/' ∉ host ++ portText url.nfsport := by
    rw [List.mem_append, not_or]
    exact ⟨slash, not_mem_portText _ (by decide) rfl⟩
  have noQuery : '?' ∉ host ++ portText url.nfsport ++ url.path.toList := by
    rw [List.mem_append, List.mem_append, not_or, not_or]
    exact ⟨⟨query, not_mem_portText _ (by decide) rfl⟩, plain⟩
  have some : order ≠ [] := by
    rintro rfl
    exact absurd perm.nil_eq (by simp [params])
  have authority : host ++ portText url.nfsport ≠ [] := by simp [written]
  have begins : scheme.isPrefixOf (canonical url host order).toList = true := by
    simp [canonical]
  have rest : (canonical url host order).toList.drop scheme.length =
      (host ++ portText url.nfsport ++ url.path.toList) ++
        '?' :: ['&'].intercalate (order.map (Param.text url)) := by
    rw [canonical, String.toList_ofList, List.append_assoc, List.drop_left]
  have located := parseAuthority_text hostText url.nfsport { path := url.path } rfl
  rw [String.ofList_toList] at located
  rw [parse, if_pos begins, rest]
  simp only [splitOnce_append noQuery, parseLocation, splitLocation_path noSlash absolute,
    authority, ↓reduceIte, located, String.ofList_toList, bind, Except.bind, splitOn_params url some,
    foldlM_applyPair url timeo, foldl_set_perm perm]

/-- A URL of an address in brackets with both ports, its parameters written backwards. -/
def sampleUrl : NfsUrl where
  server := "::1"
  path := "/vol/a"
  version := 4
  minorversion := 1
  nfsport := some 2049
  mountport := some 20048
  tls := true

theorem parse_canonical_sample :
    sampleUrl.params.reverse.Perm sampleUrl.params ∧
      parse (canonical sampleUrl ('[' :: "::1".toList ++ [']']) sampleUrl.params.reverse) =
        .ok sampleUrl := by
  have perm := List.reverse_perm sampleUrl.params
  refine ⟨perm, parse_canonical sampleUrl _ ?_ (by decide) (by decide) (by decide) _ perm⟩
  exact HostText.bracketed (by decide) (by decide) (by decide) (by decide)

/-- The characters between the scheme and the first `/` or `?`. -/
def authority (url : String) : List Char :=
  (url.toList.drop scheme.length).takeWhile fun symbol => symbol ≠ '/' ∧ symbol ≠ '?'

/-- The authority is the host, in brackets or not, and maybe a decimal port. -/
inductive Accounted (host : List Char) : List Char → Prop where
  | host : Accounted host host
  | hostPort {port : List Char} {number : Nat} (numeral : Numeral port number)
      (small : number ≤ u16Max) : Accounted host (host ++ ':' :: port)
  | bracketed : Accounted host ('[' :: (host ++ [']']))
  | bracketedPort {port : List Char} {number : Nat} (numeral : Numeral port number)
      (small : number ≤ u16Max) : Accounted host ('[' :: (host ++ ']' :: ':' :: port))

/-- A host in brackets is there, and what follows the bracket, if anything, is a
colon without a plus sign after it. -/
def BracketsClean (authority : List Char) : Prop :=
  ∀ host after, authority = '[' :: (host ++ ']' :: after) → ']' ∉ host →
    host ≠ [] ∧ (after ≠ [] → after.head? = some ':' ∧ after.tail.head? ≠ some '+')

/-- A host before the last colon is there, and no plus sign follows that colon. -/
def PortClean (authority : List Char) : Prop :=
  authority.head? ≠ some '[' → ∀ host port, authority = host ++ ':' :: port → ':' ∉ port →
    host ≠ [] ∧ port.head? ≠ some '+'

theorem parsePort_inv {text : List Char} {port : UInt16} (unsigned : text.head? ≠ some '+')
    (read : parsePort text = .ok port) : ∃ number, Numeral text number ∧ number ≤ u16Max := by
  unfold parsePort at read
  split at read
  · rename_i number parsed
    exact ⟨number, (parseUnsigned_eq_some unsigned).mp parsed⟩
  · cases read

/-- A result that was accepted has the server. -/
def OfServer (server : String) (result : Except NfsError NfsUrl) : Prop :=
  ∀ url, result = .ok url → url.server = server

namespace OfServer

variable {server : String}

theorem pure {url : NfsUrl} (same : url.server = server) : OfServer server (.ok url) := by
  intro result accepted
  cases accepted
  exact same

/-- An error is no URL of another server. -/
theorem error (fault : NfsError) : OfServer server (.error fault) := by
  intro url absurd
  cases absurd

/-- A sequence keeps the server when its last part does. -/
theorem bind {α : Type} {read : Except NfsError α} {next : α → Except NfsError NfsUrl}
    (each : ∀ value, OfServer server (next value)) : OfServer server (read >>= next) := by
  cases read with
  | error fault => exact error fault
  | ok value => exact each value

/-- A choice keeps the server when both arms do. -/
theorem ite {test : Prop} [Decidable test] {first second : Except NfsError NfsUrl}
    (left : OfServer server first) (right : OfServer server second) :
    OfServer server (if test then first else second) := by
  split
  · exact left
  · exact right

end OfServer

/-- No parameter sets the server. -/
theorem applyParam_server (parsed : NfsUrl) (key : String) (value : List Char) :
    OfServer parsed.server (applyParam parsed key value) := by
  unfold applyParam
  refine .ite ?_ ?_
  · split
    · exact .bind fun _ => .bind fun _ => .pure rfl
    · exact .bind fun _ => .pure rfl
  refine .ite (.bind fun _ => .pure rfl) ?_
  refine .ite (.bind fun _ => .pure rfl) ?_
  refine .ite (.bind fun _ => .pure rfl) ?_
  refine .ite (.bind fun _ => .pure rfl) ?_
  refine .ite (.bind fun _ => .pure rfl) ?_
  refine .ite (.bind fun _ => .pure rfl) ?_
  refine .ite (.pure rfl) ?_
  refine .ite (.pure rfl) ?_
  refine .ite (.pure rfl) ?_
  refine .ite (.pure rfl) ?_
  exact .error _

theorem applyPair_server (parsed : NfsUrl) (pair : List Char) :
    OfServer parsed.server (applyPair parsed pair) := by
  exact .ite (.pure rfl) (applyParam_server parsed _ _)

theorem foldlM_server (pairs : List (List Char)) (parsed : NfsUrl) :
    OfServer parsed.server (pairs.foldlM applyPair parsed) := by
  induction pairs generalizing parsed with
  | nil => exact .pure rfl
  | cons pair rest ih =>
      rw [List.foldlM_cons]
      cases first : applyPair parsed pair with
      | error fault => exact .error fault
      | ok next => exact applyPair_server parsed pair next first ▸ ih next

/-- The characters up to the first `/` of those up to the first `?`. -/
theorem splitLocation_authority (url : String) {location : List Char}
    (before : location = (url.toList.drop scheme.length).takeWhile (· ≠ '?')) :
    (splitLocation location).1 = authority url := by
  have slash : (splitLocation location).1 = location.takeWhile (· ≠ '/') := by
    rw [takeWhile_of_splitOnce, splitLocation]
    cases splitOnce '/' location <;> rfl
  rw [slash, before, List.takeWhile_takeWhile, authority]
  congr 1
  funext symbol
  simp

/-- What a location that is accepted is made of. -/
theorem parseLocation_inv {location : List Char} {query : Option (List Char)} {result : NfsUrl}
    (accepted : parseLocation location query = .ok result) :
    ∃ parsed start, parseAuthority (splitLocation location).1 start = .ok parsed ∧
      (splitLocation location).1 ≠ [] ∧ result.server = parsed.server := by
  unfold parseLocation at accepted
  simp only [] at accepted
  split at accepted
  · cases accepted
  · rename_i some
    cases read : parseAuthority (splitLocation location).1
        { path := String.ofList (splitLocation location).2 } with
    | error fault =>
        rw [read] at accepted
        cases accepted
    | ok parsed =>
        refine ⟨parsed, _, read, some, ?_⟩
        rw [read] at accepted
        cases query with
        | none =>
            cases accepted
            rfl
        | some query => exact foldlM_server _ parsed result accepted

/-- An accepted text has an authority, which gave the server. -/
theorem parse_inv {url : String} {result : NfsUrl} (accepted : parse url = .ok result) :
    ∃ parsed start, parseAuthority (authority url) start = .ok parsed ∧ authority url ≠ [] ∧
      result.server = parsed.server := by
  have located {location : List Char}
      (cut : ((splitOnce '?' (url.toList.drop scheme.length)).map Prod.fst).getD
        (url.toList.drop scheme.length) = location) :
      (splitLocation location).1 = authority url :=
    splitLocation_authority url (cut.symm.trans (takeWhile_of_splitOnce _).symm)
  unfold parse at accepted
  split at accepted
  · cases cut : splitOnce '?' (url.toList.drop scheme.length) with
    | none =>
        simp only [cut] at accepted
        have here : (splitLocation (url.toList.drop scheme.length)).1 = authority url :=
          located (by rw [cut]; rfl)
        exact here ▸ parseLocation_inv accepted
    | some parts =>
        simp only [cut] at accepted
        have here : (splitLocation parts.1).1 = authority url := located (by rw [cut]; rfl)
        exact here ▸ parseLocation_inv accepted
  · cases accepted

/-- What a bracketed host that is accepted is made of. -/
theorem parseBracketed_inv {stripped : List Char} {start parsed : NfsUrl}
    (read : parseBracketed stripped start = .ok parsed) :
    ∃ host after, stripped = host ++ ']' :: after ∧ ']' ∉ host ∧
      parsed.server = String.ofList host ∧
      (∀ port, after = ':' :: port → ∃ number, parsePort port = .ok number) := by
  unfold parseBracketed at read
  split at read
  · cases read
  · rename_i host after cut
    obtain ⟨joined, free⟩ := splitOnce_eq_some.mp cut
    refine ⟨host, after, joined, free, ?_⟩
    split at read
    · rename_i port
      cases number : parsePort port with
      | error fault =>
          rw [number] at read
          cases read
      | ok value =>
          rw [number] at read
          cases read
          refine ⟨rfl, fun other same => ⟨value, ?_⟩⟩
          obtain rfl := (List.cons.inj same).2
          exact number
    · rename_i other
      cases read
      exact ⟨rfl, fun port same => (other port same).elim⟩

/-- A text in brackets is cut in one way. -/
theorem bracketsClean_iff {host after : List Char} (free : ']' ∉ host) :
    BracketsClean ('[' :: (host ++ ']' :: after)) ↔
      host ≠ [] ∧ (after ≠ [] → after.head? = some ':' ∧ after.tail.head? ≠ some '+') := by
  constructor
  · intro clean
    exact clean host after rfl free
  · rintro condition host' after' joined free'
    have same : some (host, after) = some (host', after') := by
      rw [← splitOnce_append free, ← splitOnce_append free', (List.cons.inj joined).2]
    obtain ⟨rfl, rfl⟩ := Prod.mk.inj (Option.some.inj same)
    exact condition

/-- A text in brackets is accounted for by its host when a port or nothing follows. -/
theorem accounted_brackets {host after : List Char} :
    Accounted host ('[' :: (host ++ ']' :: after)) ↔
      after = [] ∨ ∃ port number, after = ':' :: port ∧ Numeral port number ∧ number ≤ u16Max := by
  constructor
  · intro accounted
    generalize whole : '[' :: (host ++ ']' :: after) = text at accounted
    cases accounted with
    | host =>
        have length := congrArg List.length whole
        simp at length
        omega
    | hostPort numeral small =>
        -- the bracket would be the first digit of the port
        rename_i port number
        have first : port.head? = some ']' := by
          have symbol := congrArg (fun text => text[host.length + 1]?) whole
          simpa [List.head?_eq_getElem?, List.getElem?_append_right] using symbol.symm
        exact absurd (numeral.2.1 ']' (List.mem_of_mem_head? first)) (by decide)
    | bracketed =>
        have rest := (List.cons.inj (List.append_cancel_left (List.cons.inj whole).2)).2
        exact Or.inl rest
    | bracketedPort numeral small =>
        have rest := (List.cons.inj (List.append_cancel_left (List.cons.inj whole).2)).2
        exact Or.inr ⟨_, _, rest, numeral, small⟩
  · rintro (rfl | ⟨port, number, rfl, numeral, small⟩)
    · exact .bracketed
    · exact .bracketedPort numeral small

/-- What a host and a port that are accepted are made of. -/
theorem parseHostPort_inv {authority : List Char} {start parsed : NfsUrl}
    (read : parseHostPort authority start = .ok parsed) :
    (':' ∉ authority ∧ parsed.server = String.ofList authority) ∨
      ∃ host port number, authority = host ++ ':' :: port ∧ ':' ∉ port ∧
        parsePort port = .ok number ∧ parsed.server = String.ofList host := by
  unfold parseHostPort at read
  split at read
  · rename_i host port cut
    obtain ⟨joined, free⟩ := rsplitOnce_eq_some.mp cut
    cases number : parsePort port with
    | error fault =>
        rw [number] at read
        cases read
    | ok value =>
        rw [number] at read
        cases read
        exact Or.inr ⟨host, port, value, joined, free, number, rfl⟩
  · rename_i cut
    cases read
    exact Or.inl ⟨rsplitOnce_eq_none.mp cut, rfl⟩

/-- When nothing is left over behind a port. -/
theorem portClean_iff {host port : List Char} (bare : (host ++ ':' :: port).head? ≠ some '[')
    (free : ':' ∉ port) :
    PortClean (host ++ ':' :: port) ↔ host ≠ [] ∧ port.head? ≠ some '+' := by
  constructor
  · intro clean
    exact clean bare host port rfl free
  · rintro condition - host' port' joined free'
    have same : some (host, port) = some (host', port') := by
      rw [← rsplitOnce_append host free, ← rsplitOnce_append host' free', joined]
    obtain ⟨rfl, rfl⟩ := Prod.mk.inj (Option.some.inj same)
    exact condition

/-- A text that does not start with a bracket is accounted for by what comes
before the last colon when a port follows. -/
theorem accounted_hostPort {host port : List Char}
    (bare : (host ++ ':' :: port).head? ≠ some '[') :
    Accounted host (host ++ ':' :: port) ↔ ∃ number, Numeral port number ∧ number ≤ u16Max := by
  constructor
  · intro accounted
    generalize whole : host ++ ':' :: port = text at accounted bare
    cases accounted with
    | host =>
        have length := congrArg List.length whole
        simp at length
    | hostPort numeral small =>
        obtain rfl := (List.cons.inj (List.append_cancel_left whole)).2
        exact ⟨_, numeral, small⟩
    | bracketed => exact (bare rfl).elim
    | bracketedPort numeral small => exact (bare rfl).elim
  · rintro ⟨number, numeral, small⟩
    exact .hostPort numeral small

theorem ofList_ne_empty {host : List Char} : String.ofList host ≠ "" ↔ host ≠ [] := by
  rw [ne_eq, ne_eq, String.ofList_eq_empty_iff]

/-- A port that was read has a sign or is a decimal number. -/
theorem numeral_iff_unsigned {port : List Char} {number : UInt16}
    (read : parsePort port = .ok number) :
    (∃ value, Numeral port value ∧ value ≤ u16Max) ↔ port.head? ≠ some '+' := by
  constructor
  · rintro ⟨value, numeral, -⟩
    exact numeral.head_ne_plus
  · intro unsigned
    exact parsePort_inv unsigned read

/-- What follows a closing bracket is nothing or a port. -/
theorem after_iff {after : List Char}
    (read : ∀ port, after = ':' :: port → ∃ number, parsePort port = .ok number) :
    (after = [] ∨ ∃ port number, after = ':' :: port ∧ Numeral port number ∧ number ≤ u16Max) ↔
      (after ≠ [] → after.head? = some ':' ∧ after.tail.head? ≠ some '+') := by
  constructor
  · rintro (none | ⟨port, number, rfl, numeral, -⟩) some
    · exact (some none).elim
    · exact ⟨rfl, numeral.head_ne_plus⟩
  · intro clean
    by_cases none : after = []
    · exact Or.inl none
    · obtain ⟨colon, unsigned⟩ := clean none
      obtain ⟨port, rfl⟩ := List.head?_eq_some_iff.mp colon
      obtain ⟨number, parsed⟩ := read port rfl
      obtain ⟨value, numeral, small⟩ := (numeral_iff_unsigned parsed).mpr unsigned
      exact Or.inr ⟨port, value, rfl, numeral, small⟩

/-- Of an accepted text, the server is there and the authority is nothing but the
server and maybe a port exactly when no host is empty, nothing but a port follows
a closing bracket, and no port has a sign. -/
theorem authority_accounted_iff {url : String} {result : NfsUrl}
    (accepted : parse url = .ok result) :
    (result.server ≠ "" ∧ Accounted result.server.toList (authority url)) ↔
      BracketsClean (authority url) ∧ PortClean (authority url) := by
  obtain ⟨parsed, start, read, some, server⟩ := parse_inv accepted
  rw [server]
  generalize authority url = text at read some
  by_cases bracket : text.head? = .some '['
  · obtain ⟨stripped, rfl⟩ := List.head?_eq_some_iff.mp bracket
    obtain ⟨host, after, rfl, free, named, ports⟩ := parseBracketed_inv read
    have port : PortClean ('[' :: (host ++ ']' :: after)) := fun bare => (bare rfl).elim
    rw [named, String.toList_ofList, ofList_ne_empty, accounted_brackets, after_iff ports,
      bracketsClean_iff free, and_iff_left port]
  · have brackets : BracketsClean text := by
      rintro host after rfl
      exact (bracket rfl).elim
    rw [parseAuthority_bare bracket] at read
    rw [and_iff_right brackets]
    rcases parseHostPort_inv read with ⟨free, named⟩ | ⟨host, port, number, rfl, free, digits, named⟩
    · have none : PortClean text := by
        rintro - host port rfl
        exact (free (by simp)).elim
      rw [named, String.toList_ofList, ofList_ne_empty]
      exact iff_of_true ⟨some, .host⟩ none
    · rw [named, String.toList_ofList, ofList_ne_empty, accounted_hostPort bracket,
        numeral_iff_unsigned digits, portClean_iff bracket free]

/-- A port of a host in brackets, with a path. -/
theorem authority_accounted_sample :
    (("::1" : String) ≠ "" ∧ Accounted "::1".toList (authority "nfs://[::1]:2049/vol")) ↔
      BracketsClean (authority "nfs://[::1]:2049/vol") ∧
        PortClean (authority "nfs://[::1]:2049/vol") := by
  have accepted : parse "nfs://[::1]:2049/vol" =
      .ok { server := "::1", path := "/vol", nfsport := some 2049 } := by decide +kernel
  exact authority_accounted_iff accepted

/-- The parser accepts texts without a host, and texts of which it leaves a part unread. -/
theorem parse_accepts_unaccounted :
    parse "nfs://:2049/vol" = .ok { server := "", path := "/vol", nfsport := some 2049 } ∧
      parse "nfs://[::1]junk/vol" = .ok { server := "::1", path := "/vol" } ∧
      ¬ Accounted "::1".toList (authority "nfs://[::1]junk/vol") := by
  refine ⟨by decide +kernel, by decide +kernel, ?_⟩
  have text : authority "nfs://[::1]junk/vol" =
      '[' :: ("::1".toList ++ ']' :: ['j', 'u', 'n', 'k']) := by decide +kernel
  rw [text, accounted_brackets]
  rintro (absurd | ⟨port, number, absurd, -⟩)
  · cases absurd
  · cases absurd

end NfsUrl

end LibNfs.Client
