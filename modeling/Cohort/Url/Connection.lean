import Cohort.Text.Quoted
import Cohort.Text.Utf8
import Cohort.Url.Host

/-!
# Addresses of databases

An address leads to a database if its parts are texts once percent-encoding is undone and the options in its query make
sense (`Url.checkConnection`). The parts are looked at first, in the order in which they are used, then the options in
the order of the query. Options that are not known are passed over.
-/

namespace Cohort.Url

/-- Why an address leads to no database. -/
inductive ConnectionError where
  /-- A part is no text. -/
  | encoding (fault : Text.Utf8.Fault)
  /-- There is no such way to encrypt connections. -/
  | encryption (raw : String)
  /-- A number was expected. -/
  | number (fault : Numeral.Fault)
  /-- The address of a host was expected. -/
  | hostAddress
  deriving DecidableEq

/-- The wording of an error. -/
def ConnectionError.message : ConnectionError → String
  | .encoding f => f.message
  | .encryption raw => "error with configuration: unknown value " ++ Text.quoted raw ++ " for `ssl_mode`"
  | .number f => f.message
  | .hostAddress => "invalid IP address syntax"

/-- The ways to encrypt connections. -/
def encryptions : List String := ["disable", "allow", "prefer", "require", "verify-ca", "verify-full"]

/-- Checks that a part is a text. -/
def checkPart (cs : List Char) : Except ConnectionError Unit :=
  match Text.Utf8.fault? (decode cs) with
  | none => .ok ()
  | some f => .error (.encoding f)

/-- Checks that a text is a number below `bound`. -/
def checkNumber (bound : Nat) (cs : List Char) : Except ConnectionError Unit :=
  match Numeral.unsigned bound cs with
  | .ok _ => .ok ()
  | .error f => .error (.number f)

/-- The address of a host. -/
def isHostAddress (cs : List Char) : Bool := (embeddedPieces? cs).isSome || (ipv6? cs).isSome

/-- Checks the value of an option. -/
def checkOption (name value : List Char) : Except ConnectionError Unit :=
  match String.ofList name with
  | "sslmode" | "ssl-mode" =>
    if encryptions.contains (Text.lower (String.ofList value)) then .ok ()
    else .error (.encryption (String.ofList value))
  | "statement-cache-capacity" => checkNumber (Numeral.twoTo 64) value
  | "hostaddr" => if isHostAddress value then .ok () else .error .hostAddress
  | "port" => checkNumber (Numeral.twoTo 16) value
  | _ => .ok ()

/-- The text of a name or value in a query, where a plus sign stands for a space. -/
def queryText (cs : List Char) : List Char :=
  Text.Utf8.lossy (decode (cs.map fun c => if c = '+' then ' ' else c))

/-- The names and values of a query. -/
def queryPairs (query : List Char) : List (List Char × List Char) :=
  ((Text.parts (· == '&') query).filter fun p => !p.isEmpty).map fun p =>
    let name := p.takeWhile (· != '=')
    (queryText name, queryText (p.drop (name.length + 1)))

/-- Checks that an address leads to a database. -/
def checkConnection (u : Url) : Except ConnectionError Unit := do
  checkPart ((u.host.map hostChars).getD [])
  checkPart u.username
  checkPart u.password
  checkPart (u.path.chars.dropWhile (· == '/'))
  (queryPairs (u.query.getD [])).forM fun (name, value) => checkOption name value

end Cohort.Url
