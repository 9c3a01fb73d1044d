import ProcessMigration.Action
import ProcessMigration.Variables.Registry

/-!
# Filling a registry, and watching it build

A registry is filled by **registrations**, one after the other. A later registration of an id takes
the place of the factory of an earlier one, but not its turn among those that run by themselves.

What comes out of a build does not tell which factories were run for it. Here the registry is
watched: each run of a factory is noted, also that of one that fails.

* `Registry.ofRegistrations` is the registry after some registrations;
* `Registry.watchedBuild` makes the pipeline that the settings choose.
-/

namespace ProcessMigration

/-- An interceptor is made known. -/
structure Registration where
  id : String
  factory : InterceptorFactory
  /-- It runs unless it is switched off. -/
  byDefault : Bool

/-- A factory was run for an id, with these properties. -/
structure FactoryRun where
  id : String
  factory : InterceptorFactory
  properties : SortedMap Json

/-- What comes of a run of a factory. -/
def FactoryRun.result (x : FactoryRun) : Except RegistryError Interceptor := x.factory x.properties

/-- Something that notes the factories that it runs. -/
abbrev Building (α : Type) := Action (List FactoryRun) RegistryError α

/-- Runs a factory and notes it. -/
def FactoryRun.watched (x : FactoryRun) : Building Interceptor := fun runs =>
  (x.result, runs ++ [x])

namespace Registry

/-- The registry with one more registration. -/
def add (r : Registry) (x : Registration) : Registry :=
  if x.byDefault then r.registerDefault x.id x.factory else r.register x.id x.factory

/-- The registry after some registrations. -/
def ofRegistrations (came : List Registration) : Registry := came.foldl add empty

/-- Makes interceptors and adds them to a pipeline. -/
def watchAll (r : Registry) : List (String × SortedMap Json) → Pipeline → Building Pipeline
  | [], p => return p
  | (id, properties) :: rest, p =>
    match r.factories.get? id with
    | none => Action.fail (.unknownInterceptor id)
    | some factory => do
      let i ← FactoryRun.watched ⟨id, factory, properties⟩
      watchAll r rest (p.push i)

/-- The pipeline that the settings choose. -/
def watchedBuild (r : Registry) (settings : List InterceptorSettings) : Building Pipeline := do
  let _ ← Action.ofExcept (r.checkIds (settings.map (·.id)) [])
  r.watchAll (r.selected settings) .empty

end Registry
end ProcessMigration
