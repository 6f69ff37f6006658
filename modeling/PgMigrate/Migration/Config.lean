import PgMigrate.Toml.Read
import PgMigrate.Migration.Generator
/-
  Generator settings, as a project writes them in its TOML settings file.

  ```
  postgres_version = "9.6"
  default_schema = "app"
  breakpoints = true
  batch_delimiter = "--> statement-breakpoint"
  ```

  Every key may be left out: no target version (the newest syntax is allowed), the
  `public` schema, breakpoints on, and the usual breakpoint line.  Other keys are ignored,
  but the whole text must be a valid TOML document, and a known key must hold a value of
  its own type (a string, or a boolean for `breakpoints`).  The version text is kept as
  written; it is checked only when the settings are turned into a generator.
-/
namespace PgMigrate

/-- The generator's settings as written in the settings file. -/
structure GeneratorConfig where
  postgresVersion : Option String := none
  defaultSchema : String := DatabaseModel.publicSchema
  breakpoints : Bool := true
  batchDelimiter : String := breakpoint
deriving Repr, DecidableEq, Inhabited

/-- Why settings could not be had. -/
inductive ConfigError where
  /-- The file could not be read. -/
  | ioError (reason : String)
  /-- The text is not a TOML document of settings. -/
  | parseError
  /-- The target version is not a version. -/
  | invalidVersion (e : VersionError)
deriving Repr

namespace ConfigError

/-- The name of the error's kind. -/
def kindName : ConfigError → String
  | .ioError _ => "IoError"
  | .parseError => "ParseError"
  | .invalidVersion _ => "InvalidVersion"

/-- The text of the error. -/
def message : ConfigError → String
  | .ioError reason => "IO error: " ++ reason
  | .parseError => "Parse error"
  | .invalidVersion e => "Invalid version: " ++ e.message

end ConfigError

namespace GeneratorConfig

/-- A string under a key, if the key is there; a value of another type is refused. -/
def stringAt (es : Toml.Entries) (key : String) : Option (Option String) :=
  match es.lookup key with
  | none => some none
  | some (.string s) => some (some s)
  | some _ => none

/-- The settings of a document's root table. -/
def ofTable (es : Toml.Entries) : Option GeneratorConfig := do
  let breakpoints ← match es.lookup "breakpoints" with
    | none => some true
    | some (.boolean b) => some b
    | some _ => none
  pure {
    postgresVersion := ← stringAt es "postgres_version"
    defaultSchema := (← stringAt es "default_schema").getD DatabaseModel.publicSchema
    breakpoints
    batchDelimiter := (← stringAt es "batch_delimiter").getD breakpoint }

/-- The settings a TOML text gives. -/
def parse (text : String) : Except ConfigError GeneratorConfig :=
  match (Toml.parse text).bind ofTable with
  | some c => .ok c
  | none => .error .parseError

/-- The settings of a file: its text, or why it could not be read. -/
def ofFile (contents : Except String String) : Except ConfigError GeneratorConfig :=
  match contents with
  | .ok text => parse text
  | .error reason => .error (.ioError reason)

/-- The target version, if one is set. -/
def version (c : GeneratorConfig) : Except ConfigError (Option ServerVersion) :=
  match c.postgresVersion with
  | none => .ok none
  | some text =>
    match ServerVersion.parse text with
    | .ok v => .ok (some v)
    | .error e => .error (.invalidVersion e)

end GeneratorConfig

namespace Generator

/-- The generator the settings describe. -/
def ofConfig (c : GeneratorConfig) : Except ConfigError Generator := do
  pure {
    version := ← c.version
    defaultSchema := some c.defaultSchema
    breakpoints := c.breakpoints
    batchDelimiter := c.batchDelimiter }

end Generator

end PgMigrate
