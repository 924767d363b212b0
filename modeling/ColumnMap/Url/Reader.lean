import ColumnMap.Url.Host

/-!
Addresses from text. Blanks and controls around the text are dropped, and so are tabs and line ends
inside it. Schemes that are special forgive any number of slashes, forward or backward.
-/

namespace ColumnMap.Url

/-- The text in front of the first character that `stops`, and the rest with it. -/
def span (stops : Char → Bool) (s : List Char) : List Char × List Char :=
  (s.takeWhile (!stops ·), s.dropWhile (!stops ·))

def isSlash (c : Char) : Bool := c == '/' || c == '\\'

def isSchemeChar (c : Char) : Bool := c.isAlphanum || c == '+' || c == '-' || c == '.'

/-- The scheme, in lower case, and what follows the colon. -/
def scheme? (s : List Char) : Option (String × List Char) :=
  match span (!isSchemeChar ·) s with
  | (c :: name, ':' :: r) =>
    if c.isAlpha then some (String.ofList ((c :: name).map Char.toLower), r) else none
  | _ => none

/-- What may follow a path. -/
structure Ending where
  query : Option String
  fragment : Option String

/-- Splits the text at its query and its fragment. -/
def ending (special : Bool) (s : List Char) : List Char × Ending :=
  let (main, mark) := span (· == '#') s
  let fragment := mark.head?.map fun _ => String.ofList (encode inFragment (mark.drop 1))
  let (path, mark) := span (· == '?') main
  let query := mark.head?.map fun _ => String.ofList (encode (inQuery special) (mark.drop 1))
  (path, ⟨query, fragment⟩)

def assemble (scheme : String) (authority : Option Authority) (path : Path) (ending : Ending) : Url :=
  { scheme, authority, path, query := ending.query, fragment := ending.fragment }

/-! ### Who asks, and where -/

/-- The text in front of the last `@`, if there is one, and the text after it. -/
def splitUser (s : List Char) : Option (List Char) × List Char :=
  let (host, mark) := span (· == '@') s.reverse
  match mark with
  | [] => (none, s)
  | _ :: user => (some user.reverse, host.reverse)

/-- The name and the password of `s`; an empty password is none. -/
def userOf (s : List Char) : String × Option String :=
  let (name, mark) := span (· == ':') s
  let written := fun t => String.ofList (encode inUserInfo t)
  (written name, if 1 < mark.length then some (written (mark.drop 1)) else none)

/-- Whether something is given of a user; an empty name without a password is nothing. -/
def hasUser (user : String × Option String) : Bool := !user.1.isEmpty || user.2.isSome

/-- Splits at the first colon that stands outside brackets. -/
def splitPort (inside : Bool) : List Char → List Char × List Char
  | [] => ([], [])
  | c :: r =>
    if c == ':' && !inside then ([], c :: r)
    else
      let (host, rest) := splitPort (c == '[' || (inside && c != ']')) r
      (c :: host, rest)

/-- The number in the digits at the start of `s`, and what follows them, which must start a path.
Without digits no number is given. -/
def portNumberOf (s : List Char) : Except Fault (Option Nat × List Char) :=
  let (digits, rest) := span (!·.isDigit) s
  let number := digits.foldl (fun n c => 10 * n + (c.toNat - 48)) 0
  if 65535 < number then .error .badPort
  else if rest.head?.any (!isSlash ·) then .error .badPort
  else .ok (if digits.isEmpty then none else some number, rest)

/-- The authority in `s`, which is followed by more text or not, and what of `s` belongs to the
path. -/
def authorityOf (scheme : String) (s : List Char) (isFollowed : Bool) :
    Except Fault (Authority × List Char) := do
  let (userText, place) := splitUser s
  if userText == some [] && place.isEmpty && isFollowed then .error .emptyHost
  let user := userOf (userText.getD [])
  let (hostText, portText) := splitPort false place
  let host ← if isSpecial scheme then
      if hostText.isEmpty then .error .emptyHost else specialHost hostText
    else otherHost hostText
  let isUnnamed := host == .domain ""
  if isUnnamed && !portText.isEmpty then .error .emptyHost
  let (number, rest) ← portNumberOf (portText.drop 1)
  if isUnnamed && hasUser user then .error .emptyHost
  .ok (⟨user.1, user.2, host, number.filter (some · != defaultPort? scheme)⟩, rest)

/-- Reads what follows the two slashes. -/
def withAuthority (scheme : String) (s : List Char) : Except Fault Url := do
  let special := isSpecial scheme
  let (first, more) := span (fun c => c == '/' || c == '?' || c == '#' || (special && c == '\\')) s
  let (authority, left) ← authorityOf scheme first (!more.isEmpty)
  let (path, ending) := ending special (left ++ more)
  let segments :=
    match path with
    | [] => if special then [""] else []
    | c :: r => segmentsOf special false (if c == '/' || (special && c == '\\') then r else c :: r)
  .ok (assemble scheme authority (.segments segments) ending)

/-! ### Files -/

/-- The host of an address of a file. This computer goes without saying. -/
def fileHost (s : List Char) : Except Fault Host :=
  if s.isEmpty then .ok (.domain "")
  else (specialHost s).map fun host => if host == .domain "localhost" then .domain "" else host

def filePath (scheme : String) (host : Host) (s : List Char) : Url :=
  let (path, ending) := ending true s
  let text := if path.head?.any isSlash then path.drop 1 else path
  let host := if leadsToDrive text then .domain "" else host
  assemble scheme (some { host }) (.segments (segmentsOf true true text)) ending

/-- Reads what follows the colon in an address of a file. A drive is no host. -/
def fileOf (scheme : String) : List Char → Except Fault Url
  | a :: b :: r =>
    if isSlash a && isSlash b then
      let (hostText, rest) := span (fun c => isSlash c || c == '?' || c == '#') r
      if (driveLetter? hostText).isSome then .ok (filePath scheme (.domain "") r)
      else (fileHost hostText).map fun host => filePath scheme host rest
    else .ok (filePath scheme (.domain "") (a :: b :: r))
  | s => .ok (filePath scheme (.domain "") s)

/-! ### Addresses -/

/-- Reads what follows the colon of a scheme without a meaning of its own. -/
def otherOf (scheme : String) (s : List Char) : Except Fault Url :=
  match s with
  | '/' :: '/' :: r => withAuthority scheme r
  | '/' :: r =>
    let (path, ending) := ending false r
    .ok (assemble scheme none (.segments (segmentsOf false false path)) ending)
  | s =>
    let (path, ending) := ending false s
    .ok (assemble scheme none (.plain (String.ofList (encode inControls path))) ending)

/-- The text without blanks and controls at its ends, and without what is ignored. -/
def clean (s : List Char) : List Char :=
  (((s.dropWhile (· ≤ ' ')).reverse.dropWhile (· ≤ ' ')).reverse).filter (!isIgnored ·)

/-- The address that a text writes. -/
def ofText (text : String) : Except Fault Url :=
  match scheme? (clean text.toList) with
  | none => .error .noScheme
  | some (scheme, r) =>
    if isFile scheme then fileOf scheme r
    else if isSpecial scheme then withAuthority scheme (r.dropWhile isSlash)
    else otherOf scheme r

end ColumnMap.Url
