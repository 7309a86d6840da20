import AdminShell.Settings.Typed
import AdminShell.Settings.Formats
import AdminShell.Toml.Read
import AdminShell.Json.Parse
import AdminShell.Files.System

/-! # Loading settings

Settings are loaded from layers, each over the ones before it:

1. the files `aas-validator.toml`, `.aas-validator.toml` and `config/aas-validator.toml`
   of the working directory, those that are there;
2. the user's file `aas-validator/aas-validator.toml` in the configuration directory,
   `$XDG_CONFIG_HOME` when it is absolute, else `$HOME/.config`, when it is there;
3. a file named on the command line, which must be there;
4. the environment variables `AASV__SECTION__KEY`, where `check.extensions` and
   `check.ignore_paths` are lists written with commas.

A file is looked up by its name from the working directory. When no file has that name,
the name with a known extension added is tried, extension by extension. A file's extension
gives its format: TOML, JSON, YAML, INI, RON or JSON5, the file's value being a map (a YAML
file may also be empty). A file that is not there or cannot be read is skipped unless it is
required; a file that is there but not well formed stops the load.
The first layer that fails stops the load. A file is reported by its path from the working
directory.
-/

namespace AdminShell

open Files

/-- What a run finds around it: its environment variables and its working directory. -/
structure Surroundings where
  vars : List (String × String)
  workingDirectory : String

def variablesOfBlock (block : String) : List (String × String) :=
  (block.splitOn "\x00").filterMap (fun entry =>
    match entry.toList with
    | first :: rest =>
      match rest.span (· != '=') with
      | (name, '=' :: value) => some (String.ofList (first :: name), String.ofList value)
      | _ => none
    | [] => none)

def Surroundings.valueOf? (s : Surroundings) (name : String) : Option String :=
  (s.vars.reverse.find? (·.1 == name)).map Prod.snd

/-- The formats a settings file may be written in. -/
inductive FileFormat where
  | toml
  | json
  | yaml
  | ini
  | ron
  | json5
  deriving DecidableEq, Repr

def knownExtensions : List (String × FileFormat) :=
  [("toml", .toml), ("json", .json), ("yaml", .yaml), ("yml", .yaml), ("ini", .ini),
    ("ron", .ron), ("json5", .json5)]

def FileFormat.ofExtension? (ext : String) : Option FileFormat :=
  (knownExtensions.find? (·.1 == ext)).map Prod.snd

def absolutePath (cwd p : String) : String :=
  if p.startsWith "/" then p else Path.join cwd p

def placeholderPath (p : String) : String :=
  match Path.extension? p with
  | some e => Path.withExtension p (e ++ ".dummy")
  | none => Path.withExtension p "dummy"

variable {m : Type → Type} [Monad m] [FileSystem m]

def isFile (p : String) : m Bool := do
  match ← FileSystem.kindAt p with
  | .ok .file => pure true
  | _ => pure false

def exists_ (p : String) : m Bool := do
  match ← FileSystem.kindAt p with
  | .ok _ => pure true
  | .error _ => pure false

def firstWithExtension (p : String) : List (String × FileFormat) → m (Option (String × FileFormat))
  | [] => pure none
  | (ext, format) :: rest => do
    let candidate := Path.withExtension p ext
    if ← isFile candidate then pure (some (candidate, format)) else firstWithExtension p rest

def findFile (cwd name : String) : m (Except LoadError (String × FileFormat)) := do
  let path := absolutePath cwd name
  if ← isFile path then
    match (Path.extension? path).bind FileFormat.ofExtension? with
    | some format => pure (.ok (path, format))
    | none => pure (.error (.unsupportedFormat path))
  else
    match ← firstWithExtension (placeholderPath path) knownExtensions with
    | some found => pure (.ok found)
    | none => pure (.error (.notFound name))

def rootEntries (root : Sourced) (origin : String) : Except LoadError (List (String × Sourced)) :=
  match root with
  | .table _ entries => .ok entries
  | other => .error (.malformed
      ("invalid type: " ++ other.describe ++ ", expected a map in " ++ origin) origin)

def parseLayer (format : FileFormat) (text origin : String) :
    Except LoadError (List (String × Sourced)) :=
  match format with
  | .toml =>
    match Toml.read text with
    | .ok entries => .ok (Sourced.ofTomlEntries (some origin) entries)
    | .error e => .error (.malformed (e.render text) origin)
  | .json =>
    let doc := Json.read text
    match doc.fault? with
    | some f => .error (.malformed f.message origin)
    | none => rootEntries (Sourced.ofJson (some origin) doc.root) origin
  | .ini =>
    match Ini.read text with
    | .ok sections => .ok (Sourced.ofIni (some origin) sections)
    | .error f => .error (.malformed f.render origin)
  | .ron =>
    match Ron.read text with
    | .error f => .error (.malformed f.render origin)
    | .ok v =>
      match Sourced.ofRon (some origin) v with
      | .error message => .error (.malformed message origin)
      | .ok root => rootEntries root origin
  | .json5 =>
    match Json5.read text with
    | .error report => .error (.malformed report origin)
    | .ok v =>
      match Sourced.ofJson5 (some origin) v with
      | .error message => .error (.malformed message origin)
      | .ok root => rootEntries root origin
  | .yaml =>
    match Yaml.load text with
    | .error e => .error (.malformed e.render origin)
    | .ok [] => .ok []
    | .ok [root] =>
      match Sourced.ofYaml (some origin) root with
      | .error message => .error (.malformed message origin)
      | .ok r => rootEntries r origin
    | .ok docs => .error (.malformed
        ("Got " ++ toString docs.length ++ " YAML documents, expected 1") origin)

def readLayer (cwd name : String) (required : Bool) :
    m (Except LoadError (List (String × Sourced))) := do
  match ← findFile cwd name with
  | .error e => pure (if required then .error e else .ok [])
  | .ok (path, format) =>
    let origin := (Path.relativeTo? path cwd).getD path
    match ← FileSystem.readText path with
    | .error e => pure (if required then .error (.unreadable e) else .ok [])
    | .ok text => pure (parseLayer format text origin)

inductive SettingsSource where
  | optionalFile (name : String)
  | userFile (path : String)
  | requiredFile (name : String)
  | environment

def localNames : List String :=
  ["aas-validator.toml", ".aas-validator.toml", "config/aas-validator.toml"]

def userFile? (s : Surroundings) : Option String :=
  let configured := (s.valueOf? "XDG_CONFIG_HOME").filter (·.startsWith "/")
  let home := (s.valueOf? "HOME").filter (!·.isEmpty)
  let base := configured <|> home.map (Path.join · ".config")
  base.map (fun b => Path.join (Path.join b "aas-validator") "aas-validator.toml")

def listKeys : List String := ["check.extensions", "check.ignore_paths"]

def settingsSources (s : Surroundings) (explicit : Option String) : List SettingsSource :=
  localNames.map .optionalFile ++ (userFile? s).toList.map .userFile ++
    explicit.toList.map .requiredFile ++ [.environment]

def readSource (s : Surroundings) : SettingsSource → m (Except LoadError (List (String × Sourced)))
  | .optionalFile name => readLayer s.workingDirectory name false
  | .userFile path => do
    if ← exists_ path then readLayer s.workingDirectory path false else pure (.ok [])
  | .requiredFile name => readLayer s.workingDirectory name true
  | .environment => pure (.ok (Sourced.environmentLayer "AASV" "__" listKeys s.vars))

def joinSources (s : Surroundings) : List SettingsSource → Sourced → m (Except LoadError Sourced)
  | [], acc => pure (.ok acc)
  | source :: rest, acc => do
    match ← readSource s source with
    | .error e => pure (.error e)
    | .ok layer => joinSources s rest (acc.setAll layer)

def loadSettings (s : Surroundings) (explicit : Option String) : m (Except LoadError Settings) := do
  match ← joinSources s (settingsSources s explicit) Sourced.emptyTable with
  | .error e => pure (.error e)
  | .ok root => pure (Settings.ofSourced root)

end AdminShell
