import ProcessMigration.Json.Decode
import ProcessMigration.Text.Lowercase

/-!
# What a person decides about a run

* `GatewayStrategy`: how a parallel gateway that waits for further branches is carried over;
* `Mode`: what a run does.
-/

namespace ProcessMigration

/-- How a waiting parallel gateway is carried over. -/
inductive GatewayStrategy where
  /-- The gateway is left out. -/
  | ignore
  /-- The last activities before the gateway are run again. -/
  | activateLastActivities
  /-- The gateway itself is activated. -/
  | migrate
  /-- Instances with such a gateway are skipped. -/
  | skip
  deriving DecidableEq, Repr, Inhabited

namespace GatewayStrategy

/-- The name of a strategy. -/
def name : GatewayStrategy → String
  | .ignore => "ignore"
  | .activateLastActivities => "activate-last-activities"
  | .migrate => "migrate"
  | .skip => "skip"

/-- All strategies. -/
def all : List GatewayStrategy := [.ignore, .activateLastActivities, .migrate, .skip]

/-- The strategy of this name. -/
def ofName? (s : String) : Option GatewayStrategy := all.find? fun g => g.name == s

/-- The strategy that a person means, or the complaint. Blanks around the name, capitals and
underscores for hyphens are accepted. -/
def parse (s : String) : Except String GatewayStrategy :=
  let word := String.ofList <|
    (Text.lowercase (Text.trim s)).toList.map fun c => if c = '_' then '-' else c
  match ofName? word with
  | some g => .ok g
  | none => .error ("Unknown gateway strategy: " ++ word)

/-- Reads a strategy. -/
def decode : Decoder GatewayStrategy := fun room doc =>
  (Decoder.text room doc).bind fun s => (parse s).toOption

/-- Writes a strategy. -/
def encode (g : GatewayStrategy) : Json := .string g.name

end GatewayStrategy

/-- What a run does. -/
inductive Mode where
  /-- Carries over the instances that have no mapping record yet. -/
  | migrate
  /-- Tries the skipped instances again. -/
  | retrySkipped
  /-- Lists the skipped instances. -/
  | listSkipped
  deriving DecidableEq, Repr, Inhabited

namespace Mode

/-- The name of a mode. -/
def name : Mode → String
  | .migrate => "MIGRATE"
  | .retrySkipped => "RETRY_SKIPPED"
  | .listSkipped => "LIST_SKIPPED"

/-- The mode of this name. -/
def ofName? (s : String) : Option Mode :=
  [migrate, retrySkipped, listSkipped].find? fun m => m.name == s

/-- Reads a mode. -/
def decode : Decoder Mode := .name ofName?

/-- Writes a mode. -/
def encode (m : Mode) : Json := .string m.name

end Mode
end ProcessMigration
