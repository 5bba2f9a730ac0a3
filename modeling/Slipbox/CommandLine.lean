import Slipbox.Html
import Slipbox.Viewer.Session

/-!
# The command line

The program shows its usage, writes one note as a page, or opens the viewer on a
directory of notes. The directory is named on the command line or by the configuration;
if it is named on the command line, a configuration that cannot be used is ignored.
`run` decides what a command line does on a disk; it ends with text to write and an
exit code, or with a session of the viewer.
-/

namespace Slipbox

/-! ### Arguments -/

/-- What the program is asked to do. -/
inductive Command where
  | browse (notesPath : Option Text)
  | render (file : Text)
  | help
deriving DecidableEq, Repr

/-- What is wrong with the arguments. -/
inductive ArgumentError where
  | noFile
  | unknownOption (option : Text)
  | tooMany
deriving DecidableEq, Repr

/-- The wording of what is wrong. -/
def ArgumentError.message : ArgumentError → Text
  | .noFile => "--render needs a file".toList
  | .unknownOption option => "unknown option ".toList ++ option
  | .tooMany => "too many arguments".toList

namespace CommandLine

def renderOption : Text := "--render".toList

def helpOptions : List Text := ["-h".toList, "--help".toList]

/-- The command that arguments give. -/
def command : List Text → Except ArgumentError Command
  | [] => .ok (.browse none)
  | [word] =>
    if word ∈ helpOptions then .ok .help
    else if word = renderOption then .error .noFile
    else if Text.startsWith ['-', '-'] word then .error (.unknownOption word)
    else .ok (.browse (some word))
  | word :: next :: more =>
    if word = renderOption ∧ more = [] then .ok (.render next)
    else if Text.startsWith ['-', '-'] word then .error (.unknownOption word)
    else .error .tooMany

/-- How the program is used. -/
def usage (program : Text) : Text :=
  "Usage: ".toList ++ program ++ " [notes-folder-path]\n       ".toList ++ program ++
    " --render <file.zettel>".toList

/-! ### Outcomes -/

/-- What the program does. -/
inductive Outcome where
  | success (output : Text)
  | failure (errors : Text)
  | view (session : Viewer.Session)

/-- Lines, each closed by a newline. -/
def written (lines : List Text) : Text := lines.flatMap (· ++ ['\n'])

/-- A failure with a message, followed by further lines. -/
def refuse (message : Text) (more : List Text) : Outcome :=
  .failure (written (("Error: ".toList ++ message) :: more))

/-! ### Commands -/

/-- Writes a note as a page. -/
def render (d : Disk) (path : Text) : Outcome :=
  match d.readText path with
  | .error fault =>
    refuse ("Failed to read ".toList ++ path)
      [[], "Caused by:".toList, "    ".toList ++ fault.message]
  | .ok body =>
    .success (written [Html.renderNote (Note.ofBody ⟨(Path.fileName? path).getD []⟩ body)])

/-- The wording of a failure to load the configuration. -/
def configMessage (location : Text) : ConfigError → Text
  | .unreadable fault =>
    "Failed to read config file at ".toList ++ location ++ ": ".toList ++ fault.message
  | .invalid => "Failed to parse config file at ".toList ++ location ++ ": invalid TOML".toList

/-- Opens the viewer on a directory that `source` named. -/
def openViewer (d : Disk) (path source : Text) (config : Option Config) : Outcome :=
  match Store.validate d path with
  | .error e =>
    refuse ("Notes path '".toList ++ path ++ ['\''] ++ source ++ " is invalid: ".toList ++
      e.message) []
  | .ok _ =>
    match Viewer.Session.start d path config with
    | .ok session => .view session
    | .error e => refuse e.message []

def browse (program : Text) (env : Environment) (d : Disk) (named : Option Text) : Outcome :=
  let location := Config.location env
  match named, Config.load env d location with
  | some path, loaded => openViewer d path [] (loaded.toOption.getD none)
  | none, .error e =>
    refuse ("Failed to load config file: ".toList ++ configMessage location e) [usage program]
  | none, .ok (some config) =>
    openViewer d config.notesPath (" from config file '".toList ++ location ++ ['\'']) (some config)
  | none, .ok none =>
    refuse "No notes path provided and no config file found".toList
      [usage program, "Or create a config file at ".toList ++ location]

/-- The paths whose files a run looks at, on a disk that holds the configuration. -/
def pathsOf (env : Environment) (d : Disk) (arguments : List Text) : List Text :=
  match command arguments with
  | .ok (.render file) => [file]
  | .ok (.browse (some path)) => [path]
  | .ok (.browse none) =>
    match Config.load env d (Config.location env) with
    | .ok (some config) => [config.notesPath]
    | _ => []
  | _ => []

/-- What the program does with its arguments. -/
def run (program : Text) (env : Environment) (d : Disk) (arguments : List Text) : Outcome :=
  match command arguments with
  | .error e => refuse e.message [usage program]
  | .ok .help => .success (written [usage program])
  | .ok (.render file) => render d file
  | .ok (.browse named) => browse program env d named

end CommandLine
end Slipbox
