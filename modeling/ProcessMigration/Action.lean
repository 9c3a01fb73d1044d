/-!
# Actions

An action reads and changes a state and ends with a value or a failure. The state that a failed
action leaves behind stays: what was done before the failure is done.

The laws below say what the monad operations do to a state, so that a proof can step through an
action.
-/

namespace ProcessMigration

/-- A computation over a state `σ` that ends with a value or with a failure `ε`. -/
def Action (σ ε α : Type) : Type := σ → Except ε α × σ

namespace Action

variable {σ ε α β : Type}

/-- Runs an action on a state. -/
def run (x : Action σ ε α) (s : σ) : Except ε α × σ := x s

/-- Ends with a value. -/
protected def pure (a : α) : Action σ ε α := fun s => (.ok a, s)

/-- One action after the other; a failure ends both. -/
protected def bind (x : Action σ ε α) (f : α → Action σ ε β) : Action σ ε β := fun s =>
  match x s with
  | (.ok a, s) => f a s
  | (.error e, s) => (.error e, s)

instance : Monad (Action σ ε) where
  pure := Action.pure
  bind := Action.bind

/-- Ends with a failure. -/
def fail (e : ε) : Action σ ε α := fun s => (.error e, s)

/-- Reads the state. -/
def get : Action σ ε σ := fun s => (.ok s, s)

/-- Changes the state. -/
def modify (f : σ → σ) : Action σ ε Unit := fun s => (.ok (), f s)

/-- An outcome that needs no state. -/
def ofExcept (r : Except ε α) : Action σ ε α := fun s => (r, s)

/-- The same action with its failure put differently. -/
def mapError {ε' : Type} (f : ε → ε') (x : Action σ ε α) : Action σ ε' α := fun s =>
  match x s with
  | (.ok a, s) => (.ok a, s)
  | (.error e, s) => (.error (f e), s)

/-- An action on a part of a larger state. -/
def onPart {τ : Type} (part : τ → σ) (put : σ → τ → τ) (x : Action σ ε α) : Action τ ε α := fun t =>
  match x (part t) with
  | (r, s) => (r, put s t)

/-- Does an action for each item of a list, in order. -/
def forAll (xs : List α) (f : α → Action σ ε Unit) : Action σ ε Unit :=
  match xs with
  | [] => pure ()
  | x :: rest => do
    f x
    forAll rest f

@[simp] theorem run_pure (a : α) (s : σ) : run (pure a : Action σ ε α) s = (.ok a, s) := rfl

@[simp] theorem run_fail (e : ε) (s : σ) : run (fail e : Action σ ε α) s = (.error e, s) := rfl

@[simp] theorem run_get (s : σ) : run (get : Action σ ε σ) s = (.ok s, s) := rfl

@[simp] theorem run_ofExcept (r : Except ε α) (s : σ) : run (ofExcept r : Action σ ε α) s = (r, s) :=
  rfl

@[simp] theorem run_modify (f : σ → σ) (s : σ) :
    run (modify f : Action σ ε Unit) s = (.ok (), f s) := rfl

theorem run_bind (x : Action σ ε α) (f : α → Action σ ε β) (s : σ) :
    run (x >>= f) s =
      match run x s with
      | (.ok a, s) => run (f a) s
      | (.error e, s) => (.error e, s) := rfl

end Action
end ProcessMigration
