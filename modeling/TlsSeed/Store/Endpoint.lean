import TlsSeed.Text.Utf8

/-! # Endpoints

An endpoint is an address of the form scheme, authority, path. Its query and fragment say nothing,
and requests go to its path with one slash at the end. Scheme and authority are ASCII, but any
character beyond may stand in a path or a query.
-/

namespace TlsSeed.Store

inductive AddressFault where
  | empty
  | tooLong
  | character
  | schemeTooLong
  | authority
  | form
  deriving DecidableEq, Repr

def AddressFault.message : AddressFault → String
  | empty => "empty string"
  | tooLong => "uri too long"
  | character => "invalid uri character"
  | schemeTooLong => "scheme too long"
  | authority => "invalid authority"
  | form => "invalid format"

/-- An address in parts. A part may be missing. -/
structure Address where
  scheme : Option String
  authority : Option String
  path : String
  query : Option String
  deriving DecidableEq, Repr

namespace Address

def isSchemeChar (c : Char) : Bool :=
  c.isAlphanum || "+-.~".toList.contains c

/-- The character may stand in an authority. A percent sign is looked at apart. -/
def isAuthorityChar (c : Char) : Bool :=
  c.isAlphanum || "!$&'()*+,-.:;=@[]_~".toList.contains c

def endsAuthority (c : Char) : Bool :=
  c == '/' || c == '?' || c == '#'

def isPathChar (c : Char) : Bool :=
  0x21 ≤ c.toNat && !"#<>?".toList.contains c && c.toNat != 0x60 && c.toNat != 0x7F

def isQueryChar (c : Char) : Bool :=
  0x21 ≤ c.toNat && !(['"', '#', '<', '>'].contains c) && c.toNat != 0x7F

/-- The scheme in front of a text, and what follows the two slashes. The two well-known schemes are
written in small letters whatever their letters were. -/
def scheme? (cs : List Char) : Except AddressFault (Option String × List Char) :=
  let word := cs.takeWhile isSchemeChar
  match cs.dropWhile isSchemeChar with
  | ':' :: '/' :: '/' :: rest =>
    let lower := String.ofList (word.map Char.toLower)
    if lower = "http" ∨ lower = "https" then .ok (some lower, rest)
    -- The marks alone stand behind no scheme, and their colon is taken for an authority.
    else if cs.length ≤ 3 then .ok (none, cs)
    else if 64 < word.length then .error .schemeTooLong
    else .ok (some (String.ofList word), rest)
  | _ => .ok (none, cs)

/-- What has been seen of an authority. A user name ends with its at sign, and a numeric address
with its bracket: colons and percent signs before them do not count. -/
structure Seen where
  colons : Nat := 0
  opened : Bool := false
  closed : Bool := false
  percent : Bool := false
  lastAt : Bool := false

def Seen.next (s : Seen) (c : Char) : Except AddressFault Seen :=
  let s := { s with lastAt := false }
  if c = ':' then
    if 8 ≤ s.colons then .error .authority else .ok { s with colons := s.colons + 1 }
  else if c = '[' then
    if s.percent || s.opened then .error .authority else .ok { s with opened := true }
  else if c = ']' then
    if !s.opened || s.closed then .error .authority
    else .ok { s with closed := true, colons := 0, percent := false }
  else if c = '@' then .ok { s with colons := 0, percent := false, lastAt := true }
  else if c = '%' then .ok { s with percent := true }
  else if isAuthorityChar c then .ok s
  else .error .character

def checkAuthority (cs : List Char) : Except AddressFault Unit := do
  let s ← cs.foldlM Seen.next {}
  if s.opened != s.closed || 1 < s.colons || s.lastAt || s.percent then .error .authority

/-- The path at the front and the query behind it. A fragment may hold anything. -/
def pathAndQuery (cs : List Char) : Except AddressFault (String × Option String) :=
  let path := String.ofList (cs.takeWhile isPathChar)
  match cs.dropWhile isPathChar with
  | [] | '#' :: _ => .ok (path, none)
  | '?' :: rest =>
    match rest.dropWhile isQueryChar with
    | [] | '#' :: _ => .ok (path, some (String.ofList (rest.takeWhile isQueryChar)))
    | _ => .error .character
  | _ => .error .character

/-- The greatest length of an address in bytes. -/
def maxLength : Nat := 65534

/-- Reads an address. Without a scheme it is a path, if a slash comes first, or else an authority
and nothing more. -/
def read (s : String) : Except AddressFault Address := do
  let cs := s.toList
  if maxLength < s.utf8ByteSize then .error .tooLong
  else if cs.isEmpty then .error .empty
  else if cs = ['*'] then .ok ⟨none, none, s, none⟩
  else if cs.head? == some '/' then
    let (path, query) ← pathAndQuery cs
    return ⟨none, none, path, query⟩
  else
    let (scheme, rest) ← scheme? cs
    if rest.isEmpty then .error .empty
    let authority := rest.takeWhile (!endsAuthority ·)
    let tail := rest.dropWhile (!endsAuthority ·)
    checkAuthority authority
    if cs.length = 1 && !tail.isEmpty then .error .character
    if scheme.isNone && !tail.isEmpty || authority.isEmpty then .error .form
    let (path, query) ← pathAndQuery tail
    return ⟨scheme, some (String.ofList authority), path, query⟩

end Address

/-! ## Hosts for both versions of the internet protocol -/

/-- The hosts under which the service answers to both versions of the internet protocol in a
region. -/
def dualStackHosts (region : String) : List String :=
  ["dynamodb", "search-dynamodb"].map (· ++ "." ++ region ++ ".api.aws")

/-- The endpoint is one of the hosts for both versions, over one of the two well-known schemes. A
port or a query makes it another endpoint. -/
def isDualStack (region endpoint : String) : Bool :=
  match Address.read endpoint with
  | .ok ⟨some scheme, some authority, _, none⟩ =>
    (scheme == "http" || scheme == "https") && (dualStackHosts region).contains authority
  | _ => false

/-- What is told about such an endpoint: a setting has to choose it, and no address can. -/
def dualStackRefusal : String :=
  "Endpoint override is not supported for dual-stack endpoints. Please enable dual-stack " ++
  "functionality by enabling the configuration. For more details, see: " ++
  "https://docs.aws.amazon.com/sdkref/latest/guide/feature-endpoints.html"

/-! ## Routes -/

inductive EndpointFault where
  | address (fault : AddressFault)
  | noAuthority
  | noScheme
  deriving DecidableEq, Repr

/-- What is told about the fault, from the outside in. -/
def EndpointFault.causes : EndpointFault → List String
  | address fault => ["endpoint is not a valid URI", fault.message]
  | noAuthority => ["endpoint must contain authority"]
  | noScheme => ["endpoint must contain scheme"]

/-- Where the requests for an endpoint go, and what the endpoint says in vain. -/
structure Route where
  uri : String
  ignoredQuery : Option String
  deriving DecidableEq, Repr

def Route.to (endpoint : String) : Except EndpointFault Route :=
  match Address.read endpoint with
  | .error fault => .error (.address fault)
  | .ok ⟨_, none, _, _⟩ => .error .noAuthority
  | .ok ⟨none, _, _, _⟩ => .error .noScheme
  | .ok ⟨some scheme, some authority, path, query⟩ =>
    let slash := if path.toList.getLast? == some '/' then "" else "/"
    .ok ⟨scheme ++ "://" ++ authority ++ path ++ slash, query⟩

/-- The slash at the end has made the address longer than an address may be. -/
def Route.isTooLong (r : Route) : Bool :=
  Address.maxLength < r.uri.utf8ByteSize

end TlsSeed.Store
