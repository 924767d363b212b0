import ColumnMap.Url.Path

/-!
Addresses: a scheme, perhaps a host and who asks it, a path, and perhaps a query and a fragment.
Every part is kept as it is written.
-/

namespace ColumnMap.Url

inductive Host where
  /-- A name; it may be empty where the scheme gives hosts no meaning. -/
  | domain (name : String)
  | ipv4 (address : Nat)
  /-- Eight numbers of sixteen bits. -/
  | ipv6 (pieces : List Nat)
  deriving DecidableEq, Repr

structure Authority where
  username : String := ""
  password : Option String := none
  host : Host
  portNumber : Option Nat := none
  deriving DecidableEq, Repr

inductive Path where
  /-- Text that nothing can be put below. -/
  | plain (text : String)
  | segments (l : List String)
  deriving DecidableEq, Repr

end Url

structure Url where
  scheme : String
  authority : Option Url.Authority
  path : Url.Path
  query : Option String
  fragment : Option String
  deriving DecidableEq, Repr

namespace Url

/-- Why a text is no address. -/
inductive Fault where
  | noScheme
  | emptyHost
  | badDomain
  | badHostCharacter
  | badIpv4
  | badIpv6
  | badPort
  deriving DecidableEq, Repr

def Fault.message : Fault → String
  | .noScheme => "relative URL without a base"
  | .emptyHost => "empty host"
  | .badDomain => "invalid international domain name"
  | .badHostCharacter => "invalid domain character"
  | .badIpv4 => "invalid IPv4 address"
  | .badIpv6 => "invalid IPv6 address"
  | .badPort => "invalid port number"

def isFile (scheme : String) : Bool := scheme == "file"

/-- The number that goes without saying where a host is asked by this scheme. -/
def defaultPort? (scheme : String) : Option Nat :=
  [("http", 80), ("https", 443), ("ws", 80), ("wss", 443), ("ftp", 21)].lookup scheme

/-- The schemes whose hosts and paths have a meaning of their own. -/
def isSpecial (scheme : String) : Bool := isFile scheme || (defaultPort? scheme).isSome

/-! ### Text -/

def ipv4Text (address : Nat) : String :=
  ".".intercalate
    ([address / Nat.pow 256 3, address / Nat.pow 256 2 % 256, address / 256 % 256,
      address % 256].map toString)

/-- Where the longest row of zeros starts, the first of several, and its length. -/
def longestZeros (pieces : List Nat) : Nat × Nat :=
  (List.range pieces.length).foldl
    (fun best i =>
      let n := ((pieces.drop i).takeWhile (· == 0)).length
      if best.2 < n then (i, n) else best)
    (0, 0)

def piecesText (pieces : List Nat) : String :=
  ":".intercalate (pieces.map fun n => String.ofList (Nat.toDigits 16 n))

/-- Two or more zeros in a row are left out, once. -/
def ipv6Text (pieces : List Nat) : String :=
  let (start, length) := longestZeros pieces
  if 2 ≤ length then
    piecesText (pieces.take start) ++ "::" ++ piecesText (pieces.drop (start + length))
  else piecesText pieces

def Host.text : Host → String
  | .domain name => name
  | .ipv4 address => ipv4Text address
  | .ipv6 pieces => "[" ++ ipv6Text pieces ++ "]"

/-- The user and the password, if one of them is given. -/
def Authority.userText (a : Authority) : String :=
  match a.password with
  | some password => a.username ++ ":" ++ password ++ "@"
  | none => if a.username.isEmpty then "" else a.username ++ "@"

def Authority.text (a : Authority) : String :=
  a.userText ++ a.host.text
    ++ match a.portNumber with
      | some n => ":" ++ toString n
      | none => ""

def Path.text : Path → String
  | .plain text => text
  | .segments l => String.join (l.map ("/" ++ ·))

/-- Without a host, two slashes at the start of the path would read as one. -/
def Path.guard : Path → String
  | .segments ("" :: _ :: _) => "/."
  | _ => ""

def text (url : Url) : String :=
  url.scheme ++ ":"
    ++ (match url.authority with
      | some a => "//" ++ a.text
      | none => url.path.guard)
    ++ url.path.text
    ++ (match url.query with
      | some q => "?" ++ q
      | none => "")
    ++ (match url.fragment with
      | some f => "#" ++ f
      | none => "")

/-- The address with `more` below it, where an empty segment at the end of its path makes room;
none if its path has no segments. -/
def below? (url : Url) (more : List String) : Option Url :=
  match url.path with
  | .plain _ => none
  | .segments l =>
    let path := more.foldl (push (isSpecial url.scheme) (isFile url.scheme)) (popIfEmpty l)
    some { url with path := .segments path }

end ColumnMap.Url
