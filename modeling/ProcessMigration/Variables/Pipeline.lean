import ProcessMigration.Source.Variable
import ProcessMigration.Target.Command

/-!
# The interceptor pipeline

An **interceptor** changes the values of variables on their way to the target engine. It has a
priority, and a scope: the kinds of source variables that it sees.

* A `Pipeline` holds its interceptors in ascending priority, equal ones in the order in which they
  came;
* `Pipeline.transform` sends the variables of a scope through it, one after the other, and stops at
  the first interceptor that refuses a value.
-/

namespace ProcessMigration

/-- How an interceptor fails. -/
inductive InterceptorFailure where
  /-- The value cannot be carried over. -/
  | refused (message : String)
  /-- The interceptor broke off, and the whole run with it. -/
  | crashed (message : String)
  deriving DecidableEq, Repr

/-- Which variables an interceptor sees. -/
inductive InterceptorScope where
  | universal
  | kinds (ks : List VariableKind)
  deriving DecidableEq, Repr

/-- The interceptor sees variables of this kind. -/
def InterceptorScope.appliesTo : InterceptorScope → VariableKind → Bool
  | .universal, _ => true
  | .kinds ks, k => ks.contains k

/-- A step of the pipeline: from the source variable and its present value to the next value. -/
structure Interceptor where
  name : String
  priority : Int
  scope : InterceptorScope
  execute : SourceVariable → Json → Except InterceptorFailure Json

/-- Why a variable cannot be carried over, or that an interceptor broke off. -/
inductive PipelineError where
  | refused (interceptor variableName message : String)
  | crashed (message : String)
  deriving DecidableEq, Repr

/-- The wording of a pipeline error. -/
def PipelineError.message : PipelineError → String
  | .refused interceptor variableName message =>
    "An error occurred during variable transformation. Interceptor [" ++ interceptor
      ++ "] failed for variable [" ++ variableName ++ "]: " ++ message
  | .crashed message => message

/-- Interceptors in the order in which they run. -/
structure Pipeline where
  interceptors : List Interceptor

namespace Pipeline

/-- No interceptors. -/
def empty : Pipeline := ⟨[]⟩

instance : Inhabited Pipeline := ⟨empty⟩

/-- Adds an interceptor after those of its priority. -/
def push (p : Pipeline) (i : Interceptor) : Pipeline :=
  ⟨(p.interceptors ++ [i]).mergeSort fun a b => a.priority ≤ b.priority⟩

/-- Adds interceptors one after the other. -/
def pushAll (p : Pipeline) (is : List Interceptor) : Pipeline := is.foldl push p

/-- The interceptors that see a variable, in the order in which they run. -/
def seeing (p : Pipeline) (v : SourceVariable) : List Interceptor :=
  p.interceptors.filter fun i => i.scope.appliesTo v.kind

/-- The names of the interceptors in the order in which they run. -/
def names (p : Pipeline) : List String := p.interceptors.map (·.name)

/-- Sends a value through interceptors, one after the other. -/
def runAll (v : SourceVariable) : List Interceptor → Json → Except PipelineError Json
  | [], value => .ok value
  | i :: rest, value =>
    match i.execute v value with
    | .ok value => runAll v rest value
    | .error (.refused message) => .error (.refused i.name v.name message)
    | .error (.crashed message) => .error (.crashed message)

/-- The value of a variable for the target engine. -/
def transformVariable (p : Pipeline) (v : SourceVariable) : Except PipelineError Json :=
  runAll v (p.seeing v) v.value

/-- Adds the values of variables to those there are. -/
def transformInto (p : Pipeline) : List SourceVariable → Variables → Except PipelineError Variables
  | [], out => .ok out
  | v :: rest, out =>
    match p.transformVariable v with
    | .ok value => transformInto p rest (out.insert v.name value)
    | .error e => .error e

/-- The variables of a scope for the target engine; of variables with the same name the last one
counts. -/
def transform (p : Pipeline) (vs : List SourceVariable) : Except PipelineError Variables :=
  p.transformInto vs .empty

end Pipeline
end ProcessMigration
