import ProcessMigration.Action
import ProcessMigration.Variables.Pipeline

/-!
# Watching the pipeline

What comes out of a pipeline does not tell which interceptors were run for it. Here the pipeline is
watched: each **execution** of an interceptor is noted, also that of one that fails.

* `Interceptor.watched` runs an interceptor;
* `Pipeline.watchedTransform` sends the variables of a scope through the pipeline.
-/

namespace ProcessMigration

/-- An interceptor was run on the value that a variable had by then. -/
structure Execution where
  interceptor : Interceptor
  subject : SourceVariable
  value : Json

/-- What the pipeline fails with when an interceptor does. A refusal names the interceptor and the
variable. -/
def InterceptorFailure.at (i : Interceptor) (v : SourceVariable) :
    InterceptorFailure → PipelineError
  | .refused message => .refused i.name v.name message
  | .crashed message => .crashed message

/-- Something that notes the executions of interceptors. -/
abbrev Watched (α : Type) := Action (List Execution) PipelineError α

/-- Runs an interceptor and notes it. -/
def Interceptor.watched (i : Interceptor) (v : SourceVariable) (value : Json) : Watched Json :=
  fun executions => ((i.execute v value).mapError (InterceptorFailure.at i v), executions ++ [⟨i, v, value⟩])

namespace Pipeline

/-- Sends a value through interceptors, one after the other. -/
def watchAll (v : SourceVariable) : List Interceptor → Json → Watched Json
  | [], value => return value
  | i :: rest, value => do
    let value ← i.watched v value
    watchAll v rest value

/-- The value of a variable for the target engine. -/
def watchVariable (p : Pipeline) (v : SourceVariable) : Watched Json :=
  watchAll v (p.seeing v) v.value

/-- Adds the values of variables to those there are. -/
def watchInto (p : Pipeline) : List SourceVariable → Variables → Watched Variables
  | [], out => return out
  | v :: rest, out => do
    let value ← p.watchVariable v
    watchInto p rest (out.insert v.name value)

/-- The variables of a scope for the target engine. -/
def watchedTransform (p : Pipeline) (vs : List SourceVariable) : Watched Variables :=
  p.watchInto vs .empty

end Pipeline
end ProcessMigration
