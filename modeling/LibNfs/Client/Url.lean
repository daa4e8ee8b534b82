import LibNfs.Client.Backend
import LibNfs.Lib.Text

/-! # URLs of exports

The parser of `nfs://` texts: a location, cut into an authority and a path, and
parameters, each of which sets a field of the result.
-/

namespace LibNfs.Client

open Text

/-- A parsed URL. -/
structure NfsUrl where
  server : String := ""
  path : String := "/"
  version : UInt32 := 3
  minorversion : UInt32 := 0
  uid : UInt32 := 0
  gid : UInt32 := 0
  nfsport : Option UInt16 := none
  mountport : Option UInt16 := none
  timeo : UInt64 := 60
  autotraverse : Bool := false
  tls : Bool := false
  tlsInsecure : Bool := false
  deriving DecidableEq, Repr

namespace NfsUrl

/-- `parse_bool`: everything but `0` and `false` is true. -/
def parseBool (value : List Char) : Bool :=
  value ≠ ['0'] ∧ value.map Char.toLower ≠ ['f', 'a', 'l', 's', 'e']

def parseU32 (value : List Char) (key : String) : Except NfsError UInt32 :=
  match parseUnsigned u32Max value with
  | some number => .ok (UInt32.ofNat number)
  | none => .error (.invalidUrl
      ("valor inválido para " ++ key ++ ": «" ++ String.ofList value ++ "»"))

/-- The largest `u16`. -/
def u16Max : Nat := 2 ^ 16 - 1

def parsePort (value : List Char) : Except NfsError UInt16 :=
  match parseUnsigned u16Max value with
  | some number => .ok (UInt16.ofNat number)
  | none => .error (.invalidUrl ("puerto inválido: «" ++ String.ofList value ++ "»"))

def scheme : List Char := ['n', 'f', 's', ':', '/', '/']

/-- The authority of a location and its path, which is `/` when there is none. -/
def splitLocation (location : List Char) : List Char × List Char :=
  match splitOnce '/' location with
  | some (authority, rest) => (authority, '/' :: rest)
  | none => (location, ['/'])

/-- A host in brackets, from after the opening one, and its port. What follows the
closing bracket is not looked at unless it starts with a colon. -/
def parseBracketed (stripped : List Char) (parsed : NfsUrl) : Except NfsError NfsUrl :=
  match splitOnce ']' stripped with
  | none => .error (.invalidUrl "IPv6 sin cierre ]")
  | some (host, after) =>
      match after with
      | ':' :: port => do
          let port ← parsePort port
          return { parsed with server := String.ofList host, nfsport := some port }
      | _ => return { parsed with server := String.ofList host }

/-- A host without brackets and its port. -/
def parseHostPort (authority : List Char) (parsed : NfsUrl) : Except NfsError NfsUrl :=
  match rsplitOnce ':' authority with
  | some (host, port) => do
      let port ← parsePort port
      return { parsed with server := String.ofList host, nfsport := some port }
  | none => return { parsed with server := String.ofList authority }

/-- The host of an authority and its port. -/
def parseAuthority (authority : List Char) (parsed : NfsUrl) : Except NfsError NfsUrl :=
  match authority with
  | '[' :: stripped => parseBracketed stripped parsed
  | _ => parseHostPort authority parsed

theorem parseAuthority_bare {authority : List Char} (bare : authority.head? ≠ some '[')
    (parsed : NfsUrl) : parseAuthority authority parsed = parseHostPort authority parsed := by
  unfold parseAuthority
  split
  · exact (bare rfl).elim
  · rfl

/-- Sets the field of one parameter. -/
def applyParam (parsed : NfsUrl) (key : String) (value : List Char) : Except NfsError NfsUrl :=
  if key ∈ ["version", "vers", "nfsvers"] then
    match splitOnce '.' value with
    | some (major, minor) => do
        let version ← parseU32 major key
        let minorversion ← parseU32 minor key
        return { parsed with version, minorversion }
    | none => do
        let version ← parseU32 value key
        return { parsed with version }
  else if key ∈ ["minorversion", "minor"] then do
    let minorversion ← parseU32 value key
    return { parsed with minorversion }
  else if key = "uid" then do
    let uid ← parseU32 value key
    return { parsed with uid }
  else if key = "gid" then do
    let gid ← parseU32 value key
    return { parsed with gid }
  else if key = "nfsport" then do
    let port ← parsePort value
    return { parsed with nfsport := some port }
  else if key = "mountport" then do
    let port ← parsePort value
    return { parsed with mountport := some port }
  else if key = "timeo" then do
    let seconds ← parseU32 value key
    return { parsed with timeo := seconds.toUInt64 }
  else if key ∈ ["autotraverse", "auto-traverse"] then
    return { parsed with autotraverse := parseBool value }
  else if key ∈ ["tls", "xprtsec"] then
    return { parsed with tls := parseBool value }
  else if key ∈ ["tls_insecure", "tls-insecure"] then
    return { parsed with tlsInsecure := parseBool value }
  else if key ∈ ["dircache", "readahead", "auto-mount", "rsize", "wsize", "retrans"] then
    return parsed
  else
    .error (.invalidUrl ("parámetro de URL desconocido: " ++ key))

/-- The turn of the parameter loop for one piece of the query. -/
def applyPair (parsed : NfsUrl) (pair : List Char) : Except NfsError NfsUrl :=
  if pair = [] then
    .ok parsed
  else
    let (key, value) := (splitOnce '=' pair).getD (pair, [])
    applyParam parsed (String.ofList key) value

/-- `parse` once the location and the query are told apart. -/
def parseLocation (location : List Char) (query : Option (List Char)) : Except NfsError NfsUrl :=
  let (authority, path) := splitLocation location
  if authority = [] then
    .error (.invalidUrl "falta el servidor")
  else do
    let parsed ← parseAuthority authority { path := String.ofList path }
    match query with
    | some query => (query.splitOn '&').foldlM applyPair parsed
    | none => return parsed

def parse (url : String) : Except NfsError NfsUrl :=
  if scheme.isPrefixOf url.toList then
    let rest := url.toList.drop scheme.length
    match splitOnce '?' rest with
    | some (location, query) => parseLocation location (some query)
    | none => parseLocation rest none
  else
    .error (.invalidUrl ("falta el esquema nfs:// en «" ++ url ++ "»"))

end NfsUrl

end LibNfs.Client
