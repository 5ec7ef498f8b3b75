import Cohort.Numeral
import Cohort.Text.Ascii

/-!
# Addresses

An address (URL) in the parts of the URL standard: a scheme, credentials, a host with a port, a path, a query and a
fragment. `Url.text` writes it. The parts hold what is written, that is with percent-encoding.
-/

namespace Cohort

/-- A host. -/
inductive Host where
  /-- A name, or nothing. -/
  | domain (name : List Char)
  /-- An IPv4 address. -/
  | ipv4 (address : Nat)
  /-- An IPv6 address, in eight pieces of 16 bits. -/
  | ipv6 (pieces : List Nat)
  deriving DecidableEq

/-- A path. -/
inductive UrlPath where
  /-- A text without structure. -/
  | opaqueText (text : List Char)
  /-- Segments, each with a slash in front. -/
  | segments (segments : List (List Char))
  deriving DecidableEq

/-- The characters of a path. -/
def UrlPath.chars : UrlPath → List Char
  | .opaqueText t => t
  | .segments ss => ss.flatMap fun s => '/' :: s

/-- An address. -/
structure Url where
  /-- The scheme. -/
  scheme : List Char
  /-- The user. -/
  username : List Char
  /-- The password, empty if there is none. -/
  password : List Char
  /-- The host, if there is an authority at all. -/
  host : Option Host
  /-- The port, unless it is the one of the scheme. -/
  port : Option Nat
  /-- The path. -/
  path : UrlPath
  /-- The query. -/
  query : Option (List Char)
  /-- The fragment. -/
  fragment : Option (List Char)
  deriving DecidableEq

namespace Url

/-- Why a text is no address. -/
inductive Error where
  /-- There is no scheme. -/
  | relative
  /-- There is no host where one must be. -/
  | emptyHost
  /-- A domain name with a character that it may not have. -/
  | domainName
  /-- A character that no host may have. -/
  | hostCharacter
  /-- A port that is no number below `2 ^ 16`. -/
  | port
  /-- A domain name that ends in a number and is no IPv4 address. -/
  | ipv4
  /-- Brackets around something else than an IPv6 address. -/
  | ipv6
  deriving DecidableEq

/-- The wording of an error. -/
def Error.message : Error → String
  | .relative => "relative URL without a base"
  | .emptyHost => "empty host"
  | .domainName => "invalid international domain name"
  | .hostCharacter => "invalid domain character"
  | .port => "invalid port number"
  | .ipv4 => "invalid IPv4 address"
  | .ipv6 => "invalid IPv6 address"

/-! ## Writing -/

/-- An IPv4 address in four parts. -/
def ipv4Chars (n : Nat) : List Char :=
  ['.'].intercalate ([n / 16777216, n / 65536 % 256, n / 256 % 256, n % 256].map Numeral.digits)

/-- The length of the run of zeros in front. -/
def zeroRun : List Nat → Nat
  | 0 :: rest => zeroRun rest + 1
  | _ => 0

/-- The start and the length of the first longest run of zeros from index `i` on, given one to beat. -/
def longestZeroRun (best : Nat × Nat) (i : Nat) : List Nat → Nat × Nat
  | [] => best
  | n :: ns =>
    let run := zeroRun (n :: ns)
    longestZeroRun (if best.2 < run then (i, run) else best) (i + 1) ns

/-- Pieces in base sixteen with colons between them. -/
def pieceChars (ns : List Nat) : List Char := [':'].intercalate (ns.map Numeral.hexDigits)

/-- An IPv6 address, its first longest run of at least two zeros left out. -/
def ipv6Chars (pieces : List Nat) : List Char :=
  let (start, length) := longestZeroRun (0, 1) 0 pieces
  if length < 2 then pieceChars pieces
  else pieceChars (pieces.take start) ++ [':', ':'] ++ pieceChars (pieces.drop (start + length))

/-- A host. -/
def hostChars : Host → List Char
  | .domain name => name
  | .ipv4 n => ipv4Chars n
  | .ipv6 pieces => '[' :: ipv6Chars pieces ++ [']']

/-- User and password with an at sign behind them, if there are any. -/
def credentialChars (u : Url) : List Char :=
  if u.username.isEmpty && u.password.isEmpty then []
  else u.username ++ (if u.password.isEmpty then [] else ':' :: u.password) ++ ['@']

/-- The authority with its two slashes, if there is one. -/
def authorityChars (u : Url) : List Char :=
  match u.host with
  | none => []
  | some h =>
    ['/', '/'] ++ u.credentialChars ++ hostChars h ++
      match u.port with
      | none => []
      | some p => ':' :: Numeral.digits p

/-- The path. Without an authority, a path that starts with two slashes is kept from looking like one. -/
def pathChars (u : Url) : List Char :=
  match u.host, u.path with
  | none, .segments ([] :: _ :: _) => ['/', '.'] ++ u.path.chars
  | _, _ => u.path.chars

/-- A part behind its mark, if there is one. -/
def markedChars (mark : Char) : Option (List Char) → List Char
  | none => []
  | some t => mark :: t

/-- The characters of an address. -/
def chars (u : Url) : List Char :=
  u.scheme ++ ':' :: u.authorityChars ++ u.pathChars ++ markedChars '?' u.query ++ markedChars '#' u.fragment

/-- An address as it is written. -/
def text (u : Url) : String := String.ofList u.chars

end Url
end Cohort
