import ProcessMigration.Strategy

/-!
# The command line

Flags choose the pass and what becomes of the tables after it; `--config` names a configuration file,
either in the next argument or after an equals sign. A flag stands once at most.

* `Arguments.parse` reads the arguments from left to right and ends at the first one that is wrong.
* The value of `--config` is only looked at when the next option or the end is reached, so a wrong
  argument right after it is reported first.
* When all are read, the two passes that exclude each other and the flag that needs another one are
  checked, in this order.
-/

namespace ProcessMigration

/-- What the command line says. -/
structure Arguments where
  runtime : Bool := false
  retrySkipped : Bool := false
  listSkipped : Bool := false
  dropSchema : Bool := false
  force : Bool := false
  config : Option String := none
  deriving DecidableEq, Repr, Inhabited

/-- Why a command line is not accepted. -/
inductive ArgumentError where
  | unknownArgument
  /-- An option stands twice, or two options exclude each other. -/
  | conflict
  | missingRequired
  /-- An option has no value or an empty one. -/
  | invalidValue
  /-- There are too many arguments, or a flag has a value. -/
  | tooManyValues
  /-- Help is asked for. -/
  | help
  deriving DecidableEq, Repr

/-- What the program says about a command line that it does not accept. -/
def ArgumentError.message : ArgumentError → String
  | .unknownArgument => "unknown argument"
  | .conflict => "an option stands twice, or two options exclude each other"
  | .missingRequired => "an option needs another one that is missing"
  | .invalidValue => "an option has no value"
  | .tooManyValues => "too many arguments or values"
  | .help => "help"

/-- What is printed when help is asked for. -/
def helpText : String :=
  "Moves running process instances from the source engine to the target engine\n\n"
    ++ "Usage: runtime-migrator [OPTIONS]\n\n"
    ++ "Options:\n"
    ++ "      --runtime        Migrate active process instances (default mode)\n"
    ++ "      --retry-skipped  Retry process instances skipped by earlier runs\n"
    ++ "      --list-skipped   Print skipped process instances with their reasons\n"
    ++ "      --drop-schema    Drop the mapping table after a successful run\n"
    ++ "      --force          With --drop-schema, drop the mapping table even after a failed run\n"
    ++ "      --config <PATH>  Configuration file\n"
    ++ "  -h, --help           Print help\n"

/-- The most arguments that are accepted. -/
def maxArguments : Nat := 5

namespace Arguments

/-- The pass that is asked for. -/
def mode (a : Arguments) : Mode :=
  if a.retrySkipped then .retrySkipped
  else if a.listSkipped then .listSkipped
  else .migrate

/-- What has been read so far. -/
structure Progress where
  read : Arguments := {}
  /-- An option that waits for its value, or for its value to be looked at. -/
  waiting : Option (Option String) := none
  deriving DecidableEq, Repr

/-- Takes over the value of `--config`. -/
def setConfig (a : Arguments) (value : String) : Except ArgumentError Arguments :=
  if a.config.isSome then .error .conflict
  else if value.isEmpty then .error .invalidValue
  else .ok { a with config := some value }

/-- Looks at the value that waits. -/
def settle (p : Progress) : Except ArgumentError Arguments :=
  match p.waiting with
  | none => .ok p.read
  | some none => .error .invalidValue
  | some (some value) => p.read.setConfig value

/-- A flag: how it is looked up and how it is set. -/
structure Flag where
  name : String
  get : Arguments → Bool
  set : Arguments → Arguments

/-- The flags. -/
def flags : List Flag := [
  ⟨"--runtime", (·.runtime), fun a => { a with runtime := true }⟩,
  ⟨"--retry-skipped", (·.retrySkipped), fun a => { a with retrySkipped := true }⟩,
  ⟨"--list-skipped", (·.listSkipped), fun a => { a with listSkipped := true }⟩,
  ⟨"--drop-schema", (·.dropSchema), fun a => { a with dropSchema := true }⟩,
  ⟨"--force", (·.force), fun a => { a with force := true }⟩]

/-- The name of the option for the configuration file. -/
def configOption : String := "--config"

/-- The name of the option for help. -/
def helpOption : String := "--help"

/-- The letter of the option for help. -/
def helpLetter : Char := 'h'

/-- Splits an argument at its first equals sign. -/
def split (arg : String) : String × Option String :=
  let cs := arg.toList
  match cs.dropWhile (· ≠ '=') with
  | [] => (arg, none)
  | _ :: value => (String.ofList (cs.takeWhile (· ≠ '=')), some (String.ofList value))

/-- Reads an argument that begins with two hyphens. -/
def long (p : Progress) (arg : String) : Except ArgumentError Progress :=
  let (name, value) := split arg
  if name = configOption then do
    let a ← settle p
    match value with
    | some v => return { read := ← a.setConfig v }
    | none => return { read := a, waiting := some none }
  else if name = helpOption then
    if value.isSome then .error .tooManyValues
    else do
      let _ ← settle p
      .error .help
  else
    match flags.find? fun f => f.name == name with
    | none => .error .unknownArgument
    | some f =>
      if value.isSome then .error .tooManyValues
      else do
        let a ← settle p
        if f.get a then .error .conflict else return { read := f.set a }

/-- Reads letters after a single hyphen. -/
def short (p : Progress) (letter : Char) : Except ArgumentError Progress :=
  if letter = helpLetter then do
    let _ ← settle p
    .error .help
  else .error .unknownArgument

/-- Reads an argument without a hyphen, which can only be a value. -/
def plain (p : Progress) (arg : String) : Except ArgumentError Progress :=
  match p.waiting with
  | some none => .ok { p with waiting := some (some arg) }
  | _ => .error .unknownArgument

/-- Reads the arguments from left to right. After two hyphens alone nothing may follow. -/
def scan (p : Progress) : List String → Except ArgumentError Arguments
  | [] => settle p
  | arg :: rest =>
    match arg.toList with
    | ['-', '-'] => if rest.isEmpty then settle p else .error .unknownArgument
    | '-' :: '-' :: _ => do scan (← long p arg) rest
    | '-' :: letter :: _ => do scan (← short p letter) rest
    | _ => do scan (← plain p arg) rest

/-- The passes do not exclude each other, and no flag lacks the one that it needs. -/
def check (a : Arguments) : Except ArgumentError Unit :=
  if a.retrySkipped && a.listSkipped then .error .conflict
  else if a.force && !a.dropSchema then .error .missingRequired
  else .ok ()

/-- Reads a command line. -/
def parse (args : List String) : Except ArgumentError Arguments :=
  if maxArguments < args.length then .error .tooManyValues
  else do
    let a ← scan {} args
    check a
    return a

end Arguments
end ProcessMigration
