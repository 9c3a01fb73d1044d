/-!
# Failures of the engines

A call to the source or the target engine can fail; the failure names the side, the operation and a
message, and ends the run.
-/

namespace ProcessMigration

/-- The engine that was called. -/
inductive Side where
  | source
  | target
  deriving DecidableEq, Repr

/-- The name of a side. -/
def Side.name : Side → String
  | .source => "source"
  | .target => "target"

/-- A failed call to an engine. -/
structure ConnectorError where
  side : Side
  operation : String
  message : String
  deriving DecidableEq, Repr

/-- The wording of a failed call. -/
def ConnectorError.text (e : ConnectorError) : String :=
  e.side.name ++ " connector failed during " ++ e.operation ++ ": " ++ e.message

end ProcessMigration
