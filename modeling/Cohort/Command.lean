import Cohort.Calculation.Reading
import Cohort.Calculation.Service
import Cohort.Json.Printer
import Cohort.Settings
import Cohort.Url.Connection
import Cohort.Url.Reader

/-!
# The command line

A command asks for one of three things about a group: to calculate it, to show its results, or to explain it by its
membership query (`Command.read?`). What it leaves is a `Report`. The settings come first, then the address of the
database, and only then the group (`Command.run`).
-/

namespace Cohort

/-- What is asked about a group. -/
inductive Request where
  /-- Its members, found anew. -/
  | calculate
  /-- Its members as of its last calculation. -/
  | results
  /-- Its membership query. -/
  | explain
  deriving DecidableEq

/-- The names of the requests. -/
def Request.names : List (String × Request) := [("calculate", calculate), ("results", results), ("explain", explain)]

/-- A request about a group, answered in words or by a document. -/
structure Command where
  /-- The request. -/
  request : Request
  /-- The group. -/
  group : Uuid
  /-- Whether a document is wanted. -/
  json : Bool

/-- What a command leaves: its exit code, and texts for the output and for complaints, each of which ends a line. -/
structure Report where
  /-- The exit code. -/
  code : Nat
  /-- The output. -/
  output : List String
  /-- The complaints. -/
  complaints : List String

namespace Report

/-- Texts, each of which ends a line. -/
def lines (texts : List String) : String := String.join (texts.map fun t => t ++ "\n")

/-- A command that failed. -/
def failed (output : List String) (message : String) : Report := ⟨1, output, ["error: " ++ message]⟩

/-- Arguments that make no command. -/
def usage : Report := ⟨2, [], ["usage: cohort calculate|results|explain GROUP [--json]"]⟩

end Report

/-! ## Answers -/

namespace Command

/-- The number of members of a group. -/
def counted (group : Uuid) (n : Nat) : String := "Group " ++ group.text ++ ": " ++ Numeral.natText n ++ " member(s)"

/-- Members, one a line. -/
def memberLines (ids : List Uuid) : List String := ids.map fun id => "  " ++ id.text

/-- The complaint about workflows that were not triggered, if there are any. -/
def warnings (deliveries : Option (List Delivery)) : List String :=
  let ds := deliveries.getD []
  let failed := ds.countP fun d => !d.succeeded
  if failed = 0 then []
  else ["warning: " ++ Numeral.natText failed ++ " of " ++ Numeral.natText ds.length ++ " workflow trigger(s) failed"]

/-- The members of a group that was calculated, as a document. -/
def calculatedDocument (group : Uuid) (ids : List Uuid) : Json :=
  .object [("groupId", group.document), ("memberCount", .ofInt ids.length),
    ("memberIds", .array (ids.map Uuid.document))]

/-- The members of a group that was calculated. -/
def calculatedReport (c : Command) (r : Calculated) : Report :=
  let output :=
    if c.json then [(calculatedDocument c.group r.memberIds).pretty]
    else counted c.group r.memberIds.length :: memberLines r.memberIds
  ⟨0, output, warnings r.deliveries⟩

/-- What is shown of the results of a group. -/
def resultsTitle (group : Uuid) (r : Results) : String :=
  match r.calculatedAt with
  | some t => counted group r.memberIds.length ++ ", calculated " ++ t.offsetText
  | none => "Group " ++ group.text ++ " has never been calculated"

/-- The results of a group. -/
def resultsReport (c : Command) (r : Results) : Report :=
  ⟨0, if c.json then [r.document.pretty] else resultsTitle c.group r :: memberLines r.memberIds, []⟩

/-- A calculation that did not succeed, as a document. -/
def notSuccessfulDocument (group : Uuid) (status : CalculationStatus) (calculatedAt : Instant)
    (message : Option String) : Json :=
  .object [("calculatedAt", .string calculatedAt.text), ("errorMessage", .ofOption .string message),
    ("groupId", group.document), ("memberIds", .array []), ("status", .string status.name)]

/-- Results that could not be read. A calculation that did not succeed is told also by a document, if one is wanted. -/
def noResultsReport (c : Command) (e : CalculationError) : Report :=
  match e, c.json with
  | .notSuccessful _ status calculatedAt message, true =>
    .failed [(notSuccessfulDocument c.group status calculatedAt message).pretty]
      ("last calculation was not successful (status: " ++ status.name ++ ")")
  | e, _ => .failed [] e.message

/-- Parameters with their numbers, one a line. -/
def parameterLines (number : Nat) : List Parameter → List String
  | [] => []
  | p :: ps => ("  " ++ placeholder number ++ " = " ++ p.shown) :: parameterLines (number + 1) ps

/-- The membership query of a group. -/
def explainedReport (c : Command) (q : Query) : Report :=
  ⟨0, if c.json then [q.document.pretty] else q.text :: parameterLines 1 q.parameters, []⟩

/-! ## Carrying a command out -/

variable {σ : Type}

/-- What calculations need, as the settings say. -/
def service (settings : Settings) (now : Instant) (post : String → StateM (World σ) (Option Response)) : Service σ :=
  ⟨World.client, settings.orchestration.map fun o => .http o.baseUrl post, ⟨settings.advisoryLock, now⟩⟩

/-- Carries a command out. -/
def answer (c : Command) (s : Service σ) : StateM (World σ) Report := do
  match c.request with
  | .calculate =>
    match ← (s.calculate c.group).run with
    | .ok r => return c.calculatedReport r
    | .error e => return .failed [] e.message
  | .results =>
    match ← (World.onDatabase (Reading.results c.group)).run with
    | .ok r => return c.resultsReport r
    | .error e => return c.noResultsReport e
  | .explain =>
    match ← (Cohort.explain s.client c.group).run with
    | .ok q => return c.explainedReport q
    | .error e => return .failed [] e.message

/-- The complaint about an address that leads to no database. -/
def badAddress (why : String) : String := "error with configuration: " ++ why

/-- Carries a command out once its settings and the address of the database make sense. -/
def run (env : Environment) (now : Instant) (post : String → StateM (World σ) (Option Response)) (c : Command) :
    StateM (World σ) Report :=
  match Settings.read env with
  | .error e => return .failed [] (CalculationError.configuration e.message).message
  | .ok settings =>
    match Url.read settings.database.url with
    | .error e => return .failed [] (badAddress e.message)
    | .ok url =>
      match url.checkConnection with
      | .error e => return .failed [] (badAddress e.message)
      | .ok () => c.answer (service settings now post)

/-! ## Arguments -/

/-- The argument that asks for a document. -/
def jsonFlag : String := "--json"

/-- The argument behind which no argument has a meaning of its own. -/
def endOfFlags : String := "--"

/-- The command that arguments make. The request for a document may stand anywhere before the end of flags, and the
name of the command stands before it, too. -/
def read? (args : List String) : Option Command :=
  let front := args.takeWhile (· != endOfFlags)
  let back := (args.dropWhile (· != endOfFlags)).drop 1
  match front.filter (· != jsonFlag) with
  | [] => none
  | name :: rest =>
    match rest ++ back with
    | [group] => do
      let request ← Request.names.lookup name
      let id ← (Uuid.read group).toOption
      return ⟨request, id, front.contains jsonFlag⟩
    | _ => none

/-- Carries out the command that arguments make. -/
def runArguments (env : Environment) (now : Instant) (post : String → StateM (World σ) (Option Response))
    (args : List String) : StateM (World σ) Report :=
  match read? args with
  | some c => c.run env now post
  | none => return .usage

end Command
end Cohort
