import ColumnMap.Url.Encode

/-!
The path of an address, as the list of its segments. The segments `.` and `..`, however they are
escaped, are not kept: the second takes the segment before it away, unless that names a drive.
-/

namespace ColumnMap.Url

/-- A letter and a colon, or a bar in its place, at the start of a segment. -/
def startsWithDrive : List Char → Bool
  | c :: m :: r => c.isAlpha && (m == ':' || m == '|') && (r.isEmpty || r.head? == some '\\')
  | _ => false

/-- The letter of a segment that names a drive and nothing else. -/
def driveLetter? : List Char → Option Char
  | [c, m] => if c.isAlpha && (m == ':' || m == '|') then some c else none
  | _ => none

/-- The number of dots that a segment is made of, where `%2e` is one as well; none for others. -/
def dots? : List Char → Option Nat
  | [] => some 0
  | '.' :: r => (dots? r).map (· + 1)
  | '%' :: '2' :: 'e' :: r => (dots? r).map (· + 1)
  | '%' :: '2' :: 'E' :: r => (dots? r).map (· + 1)
  | _ => none

/-- The segments without the last one; a drive stays. -/
def parent (segments : List String) : List String :=
  match segments.getLast? with
  | none => []
  | some s => if startsWithDrive s.toList then segments else segments.dropLast

/-- Goes on from `segments` with one more, which is already escaped. If it is the last one, the
path that a dot leads to ends in an empty segment. In a path of files a drive that comes first is
written with a colon. -/
def descend (isFile isLast : Bool) (segments : List String) (segment : List Char) : List String :=
  let ending := if isLast then [""] else []
  match dots? segment with
  | some 1 => segments ++ ending
  | some 2 => parent segments ++ ending
  | _ =>
    match if isFile && segments.isEmpty then driveLetter? segment else none with
    | some c => segments ++ [String.ofList [c, ':']]
    | none => segments ++ [String.ofList segment]

/-- Goes on with all of `parts`, the last of which ends the path. -/
def descendAll (isFile : Bool) (segments : List String) : List (List Char) → List String
  | [] => segments
  | [s] => descend isFile true segments s
  | s :: t :: r => descendAll isFile (descend isFile false segments s) (t :: r)

/-- Parts between the separators. -/
def split (separates : Char → Bool) : List Char → List (List Char)
  | [] => [[]]
  | c :: r =>
    match split separates r with
    | [] => [[c]]
    | p :: ps => if separates c then [] :: p :: ps else (c :: p) :: ps

/-- A path of files does not start with an empty segment, unless that is all of it. -/
def settleFile (isFile : Bool) (segments : List String) : List String :=
  if isFile then
    match segments.dropWhile (·.isEmpty) with
    | [] => [""]
    | rest => rest
  else segments

/-- The segments of the path `text`, which follows the first slash. -/
def segmentsOf (special isFile : Bool) (text : List Char) : List String :=
  let parts := split (fun c => c == '/' || (special && c == '\\')) text
  settleFile isFile (descendAll isFile [] (parts.map (encode inPath)))

/-- Whether a path of files starts with a drive written out, for which it loses its host. -/
def leadsToDrive (text : List Char) : Bool :=
  go [] (split (fun c => c == '/' || c == '\\') text |>.map (encode inPath))
where
  go (segments : List String) : List (List Char) → Bool
    | [] => false
    | s :: r => (segments.isEmpty && (driveLetter? s).isSome) || go (descend true r.isEmpty segments s) r

/-- Adds one segment to a path. A path that is a single slash makes room for it; the names `.` and
`..` are passed over. -/
def push (special isFile : Bool) (segments : List String) (segment : String) : List String :=
  if segment = "." ∨ segment = ".." then segments
  else
    let start := if segments = [""] then [] else segments
    let kept := segment.toList.filter (!isIgnored ·)
    settleFile isFile (descend isFile true start (encode (inSegment special) kept))

/-- The segments without an empty one at the end; a single slash stays. -/
def popIfEmpty (segments : List String) : List String :=
  if 1 < segments.length ∧ segments.getLast? = some "" then segments.dropLast else segments

end ColumnMap.Url
