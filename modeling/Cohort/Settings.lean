import Cohort.Numeral
import Cohort.Text.Ascii
import Cohort.Text.Blank

/-!
# Settings

The settings come from variables, each of which may be unset (`Settings.read`). Of several faulty ones the first in the
order pool size, timeout, lock counts. `Settings.databaseOnly` gives the settings of the database alone and passes
over a pool size that makes no sense.
-/

namespace Cohort

/-- How to reach the database; times in seconds. -/
structure DatabaseSettings where
  /-- Its address. -/
  url : String
  /-- The most connections at a time. -/
  maxConnections : Nat
  /-- How long to wait for a connection. -/
  connectionTimeout : Nat
  /-- How long an unused connection is kept. -/
  idleTimeout : Nat
  /-- How long any connection is kept. -/
  maxLifetime : Nat

/-- How to reach the orchestrator. -/
structure OrchestrationSettings where
  /-- Its base address. -/
  baseUrl : String
  /-- How long to wait for an answer, in seconds. -/
  timeout : Nat

/-- All settings. -/
structure Settings where
  /-- The database. -/
  database : DatabaseSettings
  /-- The orchestrator, if there is one. -/
  orchestration : Option OrchestrationSettings
  /-- Whether calculations of one group wait for each other. -/
  advisoryLock : Bool

/-- Which variable makes no sense, and what it holds. -/
inductive SettingsError where
  /-- A number was expected. -/
  | notNumber (name raw : String)
  /-- A truth value was expected. -/
  | notBoolean (name raw : String)

/-- The wording of an error. -/
def SettingsError.message : SettingsError → String
  | .notNumber name raw => name ++ " is not a number: " ++ raw
  | .notBoolean name raw => name ++ " is not a boolean: " ++ raw

/-- The values of variables. -/
abbrev Environment := String → Option String

namespace Settings

/-- The variables. -/
def variableNames : List String :=
  ["DATABASE_URL", "DATABASE_POOL_SIZE", "ORCHESTRATION_URL", "ORCHESTRATION_TIMEOUT_SECS", "GROUP_CALC_ADVISORY_LOCK"]

/-- The address of the database if none is given. -/
def standardUrl : String := "postgresql://localhost:5432/groups"

/-- The number of connections if none is given. -/
def standardConnections : Nat := 10

/-- The number of connections that a text denotes, below `2 ^ 32`. -/
def connections? (raw : String) : Option Nat := Numeral.unsigned? (Numeral.twoTo 32) raw.toList

/-- The number of seconds that a text denotes, below `2 ^ 64`. -/
def seconds? (raw : String) : Option Nat := Numeral.unsigned? (Numeral.twoTo 64) raw.toList

/-- The words for yes and no. -/
def flags : List (String × Bool) :=
  [("1", true), ("true", true), ("yes", true), ("on", true), ("0", false), ("false", false), ("no", false),
    ("off", false), ("", false)]

/-- The truth value that a text denotes in any case and with blanks around it. -/
def flag? (raw : String) : Option Bool := flags.lookup (Text.lower (Text.trim raw))

/-- The settings of the database. -/
def databaseWith (env : Environment) (connections : Nat) : DatabaseSettings :=
  ⟨(env "DATABASE_URL").getD standardUrl, connections, 30, 600, 1800⟩

/-- The settings of the database alone. -/
def databaseOnly (env : Environment) : DatabaseSettings :=
  databaseWith env (((env "DATABASE_POOL_SIZE").bind connections?).getD standardConnections)

/-- A variable read as something, with a value of its own if it is unset. -/
def setting {α : Type} (env : Environment) (name : String) (read : String → Option α) (standard : α)
    (e : String → String → SettingsError) : Except SettingsError α :=
  match env name with
  | none => .ok standard
  | some raw =>
    match read raw with
    | some a => .ok a
    | none => .error (e name raw)

/-- The settings that variables give. -/
def read (env : Environment) : Except SettingsError Settings := do
  let connections ← setting env "DATABASE_POOL_SIZE" connections? standardConnections .notNumber
  let timeout ← setting env "ORCHESTRATION_TIMEOUT_SECS" seconds? 10 .notNumber
  let lock ← setting env "GROUP_CALC_ADVISORY_LOCK" flag? false .notBoolean
  let url := (env "ORCHESTRATION_URL").filter fun url => !Text.isBlankText url
  return ⟨databaseWith env connections, url.map fun url => ⟨url, timeout⟩, lock⟩

end Settings
end Cohort
