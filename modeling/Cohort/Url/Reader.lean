import Cohort.Url.Host

/-!
# Reading addresses

`Url.read` takes a text apart in the order of its parts. Controls and spaces around it and line ends and tabs inside it
do not count. The authority ends at the first slash, question mark or hash sign; in it, credentials end at the last at
sign, and the password starts at the first colon of the credentials. The schemes of the web are special: a backslash is
a slash to them, they need a host, and leave out the port that is their own.
-/

namespace Cohort.Url

/-- The special schemes that have a port of their own. -/
def schemePorts : List (String × Nat) := [("http", 80), ("https", 443), ("ws", 80), ("wss", 443), ("ftp", 21)]

/-- The port of a scheme. -/
def defaultPort? (scheme : List Char) : Option Nat := schemePorts.lookup (String.ofList scheme)

/-- A slash, which in special schemes may be a backslash. -/
def isSlash (special : Bool) (c : Char) : Bool := c == '/' || (special && c == '\\')

/-- What ends an authority. -/
def endsAuthority (special : Bool) (c : Char) : Bool := isSlash special c || c == '?' || c == '#'

/-- What ends a path. -/
def endsPath (c : Char) : Bool := c == '?' || c == '#'

/-- A text without controls and spaces around it and without line ends and tabs. -/
def clean (cs : List Char) : List Char :=
  let start := cs.dropWhile fun c => c.toNat ≤ 32
  let inner := (start.reverse.dropWhile fun c => c.toNat ≤ 32).reverse
  inner.filter fun c => c != '\t' && c != '\n' && c != '\x0d'

/-- A character of a scheme after the first. -/
def isSchemeChar (c : Char) : Bool := c.isAlphanum || c == '+' || c == '-' || c == '.'

/-- The scheme in small letters, and the text after its colon. -/
def readScheme? (cs : List Char) : Option (List Char × List Char) :=
  let scheme := cs.takeWhile isSchemeChar
  match scheme.head?, cs.dropWhile isSchemeChar with
  | some c, ':' :: rest => if c.isAlpha then some (scheme.map Char.toLower, rest) else none
  | _, _ => none

/-! ## Path, query and fragment -/

/-- A segment that stands for the one above. -/
def isDoubleDot (s : List Char) : Bool :=
  ["..", ".%2e", "%2e.", "%2e%2e"].contains (String.ofList (s.map Char.toLower))

/-- A segment that stands for nothing. -/
def isSingleDot (s : List Char) : Bool := [".", "%2e"].contains (String.ofList (s.map Char.toLower))

/-- A drive letter with a colon or bar. -/
def isDrive : List Char → Bool
  | [a, b] => a.isAlpha && (b == ':' || b == '|')
  | _ => false

/-- A segment that is a drive letter up to its first backslash. -/
def startsWithDrive (s : List Char) : Bool := isDrive (s.takeWhile (· != '\\'))

/-- The segments without the last one, which stays if it starts with a drive letter. -/
def shorten (ss : List (List Char)) : List (List Char) := if ss.getLast?.any startsWithDrive then ss else ss.dropLast

/-- A segment behind others, given whether it is the last one. A drive letter in the first place of a file's path has a
colon. -/
def addSegment (file : Bool) (ss : List (List Char)) (s : List Char) (last : Bool) : List (List Char) :=
  let front := if last then [[]] else []
  if isDoubleDot s then shorten ss ++ front
  else if isSingleDot s then ss ++ front
  else if file && ss.isEmpty && isDrive s then [s.take 1 ++ [':']]
  else ss ++ [encode pathSet s]

/-- Segments behind others. -/
def addSegments (file : Bool) (ss : List (List Char)) : List (List Char) → List (List Char)
  | [] => ss
  | [s] => addSegment file ss s true
  | s :: rest => addSegments file (addSegment file ss s false) rest

/-- The segments of a path, given the text after its first slash. -/
def readSegments (special file : Bool) (cs : List Char) : List (List Char) :=
  addSegments file [] (Text.parts (isSlash special) cs)

/-- A text without the slash that it starts with. -/
def dropSlash (special : Bool) : List Char → List Char
  | [] => []
  | c :: cs => if isSlash special c then cs else c :: cs

/-- The path of an address with an authority. -/
def readPath (special : Bool) (cs : List Char) : UrlPath :=
  .segments (if cs.isEmpty && !special then [] else readSegments special false (dropSlash special cs))

/-- The query and the fragment of a text that is empty or starts with one of their marks. -/
def readTail (special : Bool) (cs : List Char) : Option (List Char) × Option (List Char) :=
  let fragment := fun (cs : List Char) => match cs with
    | '#' :: r => some (encode fragmentSet r)
    | _ => none
  match cs with
  | '?' :: r =>
    let set := if special then specialQuerySet else querySet
    (some (encode set (r.takeWhile (· != '#'))), fragment (r.dropWhile (· != '#')))
  | cs => (none, fragment cs)

/-! ## Authority -/

/-- The text before the last at sign, if there is one, and the text after it. -/
def splitCredentials (cs : List Char) : Option (List Char) × List Char :=
  let host := (cs.reverse.takeWhile (· != '@')).reverse
  if host.length = cs.length then (none, cs) else (some (cs.take (cs.length - host.length - 1)), host)

/-- The host of an authority: the text before the first colon that is not between brackets. -/
def hostPart (inBrackets : Bool) : List Char → List Char
  | [] => []
  | c :: cs =>
    if c = ':' ∧ inBrackets = false then []
    else c :: hostPart (if c = '[' then true else if c = ']' then false else inBrackets) cs

/-- A port and the rest of the text. -/
def readPort (scheme cs : List Char) : Except Error (Option Nat × List Char) :=
  let ds := cs.takeWhile Numeral.isDecimal
  let rest := cs.dropWhile Numeral.isDecimal
  let port := (Numeral.natural? ds).getD 0
  if Numeral.twoTo 16 ≤ port then .error .port
  else if !rest.isEmpty && rest.head? != some '\\' then .error .port
  else .ok (if ds.isEmpty || some port == defaultPort? scheme then none else some port, rest)

/-- Whether a host says nothing. -/
def isEmptyHost (h : Host) : Bool := h == .domain []

/-- The address with an authority, given the text after its slashes. -/
def readAuthority (scheme : List Char) (special : Bool) (cs : List Char) : Except Error Url := do
  let authority := cs.takeWhile fun c => !endsAuthority special c
  let tail := cs.dropWhile fun c => !endsAuthority special c
  let (credentials, location) := splitCredentials authority
  if credentials == some [] && location.isEmpty && !tail.isEmpty then .error .emptyHost
  let info := credentials.getD []
  let username := encode userinfoSet (info.takeWhile (· != ':'))
  let password := encode userinfoSet ((info.dropWhile (· != ':')).drop 1)
  let name := hostPart false location
  let afterHost := location.drop name.length
  if special && name.isEmpty then .error .emptyHost
  let host ← readHost special name
  if isEmptyHost host && !afterHost.isEmpty then .error .emptyHost
  let (port, rest) ← match afterHost with
    | ':' :: r => readPort scheme r
    | r => .ok (none, r)
  if isEmptyHost host && !(username.isEmpty && password.isEmpty) then .error .emptyHost
  let text := rest ++ tail
  let (query, fragment) := readTail special (text.dropWhile fun c => !endsPath c)
  return ⟨scheme, username, password, some host, port, readPath special (text.takeWhile fun c => !endsPath c),
    query, fragment⟩

/-- The path of a file: its first segment is not empty unless there is no other. -/
def filePath (ss : List (List Char)) : UrlPath :=
  match ss.dropWhile List.isEmpty with
  | [] => .segments [[]]
  | ss => .segments ss

/-- The host of a file and the text after it, given the text after the colon of the scheme. Without a host, the text
starts behind the first slash of the path. -/
def splitFileHost (cs : List Char) : List Char × List Char :=
  match cs with
  | a :: b :: r =>
    if isSlash true a && isSlash true b then
      let name := r.takeWhile fun c => !endsAuthority true c
      if isDrive name then ([], r) else (name, r.dropWhile fun c => !endsAuthority true c)
    else ([], dropSlash true cs)
  | cs => ([], dropSlash true cs)

/-- The address of a file, given the text after the colon of its scheme. A path with a drive letter has no host. -/
def readFile (cs : List Char) : Except Error Url := do
  let (name, text) := splitFileHost cs
  let host ← if name.isEmpty then .ok (Host.domain []) else readHost true name
  let host := if host = .domain "localhost".toList then .domain [] else host
  let (query, fragment) := readTail true (text.dropWhile fun c => !endsPath c)
  let path := text.takeWhile fun c => !endsPath c
  let segments := readSegments true true (if isEmptyHost host then path else dropSlash true path)
  let host := if segments.head?.any isDrive then .domain [] else host
  return ⟨"file".toList, [], [], some host, none, filePath segments, query, fragment⟩

/-- The address without an authority, given the text after the colon of its scheme. -/
def readPlain (scheme cs : List Char) : Url :=
  let text := cs.takeWhile fun c => !endsPath c
  let path := match text with
    | '/' :: r => .segments (readSegments false false r)
    | t => .opaqueText (encode controlSet t)
  let (query, fragment) := readTail false (cs.dropWhile fun c => !endsPath c)
  ⟨scheme, [], [], none, none, path, query, fragment⟩

/-- The address that a text spells. -/
def readChars (cs : List Char) : Except Error Url :=
  match readScheme? (clean cs) with
  | none => .error .relative
  | some (scheme, rest) =>
    if scheme = "file".toList then readFile rest
    else if (defaultPort? scheme).isSome then readAuthority scheme true (rest.dropWhile (isSlash true))
    else match rest with
      | '/' :: '/' :: r => readAuthority scheme false r
      | r => .ok (readPlain scheme r)

/-- The address that a text spells. -/
def read (s : String) : Except Error Url := readChars s.toList

end Cohort.Url
