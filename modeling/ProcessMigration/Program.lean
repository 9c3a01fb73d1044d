import ProcessMigration.Arguments
import ProcessMigration.Config
import ProcessMigration.FileTree.Databases
import ProcessMigration.Migration.Workspace

/-!
# The program

The program reads its configuration, opens the mapping store, the source and the target engine, and
makes one pass. All that it does to the outside is a change of the file tree, a text on its output and
an exit code.

* The database is made, with its tables, before source and target are opened.
* The journal is made with its first line, and the directories above it just before.
* Whatever a pass does stays done when it fails: records and journal are written as they come.
* The tables are dropped on demand, after a failed pass only by force.
-/

namespace ProcessMigration

/-- Why the program fails. -/
inductive ProgramError where
  | unreadableConfig (path : String) (cause : FileError)
  | config (path : String) (cause : ConfigError)
  | store (path : String) (cause : StoreError)
  | interceptors (cause : RegistryError)
  | source (cause : LoadError)
  | target (cause : LoadError)
  | migration (cause : MigrationError)
  /-- The tables cannot be dropped. -/
  | drop (cause : StoreError)
  deriving DecidableEq, Repr

namespace ProgramError

/-- What is reported: the failure and its causes. -/
def chain : ProgramError → List String
  | .unreadableConfig path cause => ["failed to read config " ++ path, cause.message]
  | .config path .unreadable => ["failed to parse config " ++ path]
  | .config _ cause => [cause.message]
  | .store path cause => ("failed to open mapping store " ++ path) :: cause.chain
  | .interceptors cause => ["failed to build variable interceptors", cause.message]
  | .source cause => "failed to load source" :: cause.chain
  | .target cause => "failed to open target" :: cause.chain
  | .migration cause => cause.chain
  | .drop cause => "failed to drop the mapping schema" :: cause.chain

/-- The report in one line. -/
def message (e : ProgramError) : String := ": ".intercalate e.chain

end ProgramError

/-- How the program ends. -/
inductive Ending where
  | success
  /-- Help, or a command line that is not accepted. -/
  | usage (cause : ArgumentError)
  | failure (cause : ProgramError)
  deriving DecidableEq, Repr

namespace Ending

/-- The exit code. An interceptor that breaks off takes the program with it. -/
def code : Ending → Nat
  | .success => 0
  | .failure (.migration (.crashed _)) => 101
  | .usage _ | .failure _ => 1

/-- The line on the error output, if there is one. -/
def fatal? : Ending → Option String
  | .failure (.migration (.crashed _)) => none
  | .failure cause => some cause.message
  | _ => none

/-- What is said about the ending, if anything. -/
def remark? : Ending → Option String
  | .usage .help => none
  | .usage cause => some cause.message
  | ending => ending.fatal?

end Ending

/-- What a run of the program leaves behind. -/
structure Outcome where
  ending : Ending
  printed : String := ""
  files : FileTree

namespace Program

/-- The configuration file where none is named. -/
def defaultConfigFile : String := "runtime-migrator.toml"

/-- The name of the log file. -/
def logFile : String := "runtime-migrator.log"

/-! ## Reading -/

/-- Reads the configuration; without a file everything has its default. -/
def loadConfig (files : FileTree) (path : String) : Except ProgramError Config :=
  if files.exists path then
    match files.readText path with
    | .error e => .error (.unreadableConfig path e)
    | .ok s => (Config.ofText s).mapError (.config path)
  else .ok {}

/-- Reads the snapshot of the source engine. -/
def loadSource (files : FileTree) (path : String) : Except LoadError SnapshotSource :=
  match files.readText path with
  | .error e => .error (.file path e)
  | .ok s =>
    match SnapshotSource.read? s with
    | some source => .ok source
    | none => .error (.json path)

/-- The journal at a path. Where there is none, it can be made if the directories above it can. -/
def journalAt (files : FileTree) (path : String) : JournalFile :=
  match files.readText path with
  | .ok s => .text s
  | .error .notFound =>
    match files.makeParent path with
    | (.error e, _) => .unwritable e false
    | (.ok (), made) =>
      match made.append path "" with
      | .ok _ => .absent
      | .error e => .unwritable e false
  | .error e => .broken e

/-- Opens the target engine on its definitions and its journal. -/
def openTarget (files : FileTree) (s : TargetSection) : Except LoadError TargetEngine :=
  match files.readText s.definitions with
  | .error e => .error (.file s.definitions e)
  | .ok text =>
    match Definition.decodeFile.ofText? text with
    | none => .error (.json s.definitions)
    | some definitions => TargetEngine.open definitions s.journal (journalAt files s.journal)

/-! ## Writing -/

/-- The path of the log file in a directory. -/
def logPath (directory : String) : String :=
  if directory.isEmpty then logFile else directory ++ "/" ++ logFile

/-- The file tree with a log file, if the configuration asks for one and it can be made. -/
def withLog (files : FileTree) (s : LoggingSection) : FileTree :=
  match s.directory with
  | none => files
  | some directory =>
    match files.makeDirectories directory with
    | (.error _, made) => made
    | (.ok (), made) => (made.append (logPath directory) "").toOption.getD made

/-- The file tree with what was appended to the journal, or after a line could not be appended. -/
def withJournal (files : FileTree) (path : String) (before after : JournalFile) : FileTree :=
  if after = before then files
  else
    match files.makeParent path with
    | (.error _, made) => made
    | (.ok (), made) => (made.append path (before.addedTo after)).toOption.getD made

/-- Opens the database of an address. -/
def openDatabase (files : FileTree) (address : String) :
    Except DatabaseError (OpenDatabase × FileTree) :=
  match DatabaseAddress.ofText address with
  | .error e => .error e
  | .ok a => files.openDatabase a

/-! ## Running -/

/-- The migrator of a configuration over files. -/
def migrator (c : Config) (pipeline : Pipeline) (writable : Bool) : Migrator Workspace :=
  let environment := Workspace.environment
  ⟨c.settings, pipeline, if writable then environment else environment.readOnly⟩

/-- Makes the pass over an opened workspace. -/
def migrate (a : Arguments) (c : Config) (pipeline : Pipeline) (files : FileTree)
    (o : OpenDatabase) (w : Workspace) : Outcome :=
  let (result, state) := ((migrator c pipeline o.writable).run a.mode).run { world := w }
  let after := state.world
  let printed := state.output.text
  let files := withJournal (files.save o after.database) c.target.journal w.target.journal
    after.target.journal
  let (ending, drops) : Ending × Bool := match result with
    | .ok _ => (.success, a.dropSchema)
    | .error (.crashed message) => (.failure (.migration (.crashed message)), false)
    | .error e => (.failure (.migration e), a.dropSchema && a.force)
  if drops then
    match files.runStore { o with database := after.database } (Store.dropSchema after.tables) with
    | (.ok (), _, files) => { ending, printed, files }
    | (.error e, _, files) => { ending := .failure (.drop e), printed, files }
  else { ending, printed, files }

/-- Opens everything and makes the pass. -/
def runWith (a : Arguments) (c : Config) (files : FileTree) : Outcome :=
  let path := c.mapping.database
  let failed (files : FileTree) (e : ProgramError) : Outcome := { ending := .failure e, files }
  match StoreTables.ofPrefix c.mapping.tablePrefix with
  | .error e => failed files (.store path e)
  | .ok _ =>
    match openDatabase files path with
    | .error e => failed files (.store path (.database e))
    | .ok (o, files) =>
      match files.runStore o (Store.open c.mapping.tablePrefix) with
      | (.error e, _, files) => failed files (.store path e)
      | (.ok tables, o, files) =>
        match Registry.builtin.build c.interceptors with
        | .error e => failed files (.interceptors e)
        | .ok pipeline =>
          match loadSource files c.source.snapshot with
          | .error e => failed files (.source e)
          | .ok source =>
            match openTarget files c.target with
            | .error e => failed files (.target e)
            | .ok target => migrate a c pipeline files o ⟨source, target, tables, o.database⟩

/-- The path of the configuration. -/
def configPath (a : Arguments) : String := a.config.getD defaultConfigFile

/-- Runs the program in a file tree. -/
def run (args : List String) (files : FileTree) : Outcome :=
  match Arguments.parse args with
  | .error .help => { ending := .usage .help, printed := helpText, files }
  | .error e => { ending := .usage e, files }
  | .ok a =>
    let path := configPath a
    match loadConfig files path with
    | .error e => { ending := .failure e, files }
    | .ok c => runWith a c (withLog files c.logging)

/-- The files that a run looks at or writes, as far as the configuration says it. -/
def pathsOf (c : Config) : List String :=
  let database := match DatabaseAddress.ofText c.mapping.database with
    | .ok a => a.path :: FileTree.besideEndings.map (a.path ++ ·)
    | .error _ => []
  database ++ [c.source.snapshot, c.target.definitions, c.target.journal]
    ++ c.logging.directory.toList.map logPath

/-- The files that a run in this file tree looks at or writes: of the configuration, and with it
those that it names. -/
def paths (args : List String) (files : FileTree) : List String :=
  match Arguments.parse args with
  | .error _ => []
  | .ok a =>
    match loadConfig files (configPath a) with
    | .error _ => [configPath a]
    | .ok c => configPath a :: pathsOf c

end Program
end ProcessMigration
