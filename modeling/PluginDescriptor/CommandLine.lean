import PluginDescriptor.Config

/-!
# The command line

Arguments are read from left to right. A value given apart from its option, and a row of manifests,
are pending until the next argument that is neither; only then are they checked. The first problem
ends the reading, and what is missing altogether is noticed last.
-/

namespace PluginDescriptor

/-- What the command line asks for. -/
structure CommandLine where
  /-- The manifests in the order they are processed. -/
  manifests : List Path
  outputDirectory : Path
  encoding : String := "UTF-8"
  generator : Option String := none
  noVersion : Bool := false
  verbose : Bool := false
deriving DecidableEq

namespace CommandLine

/-- An option with a value. -/
inductive Setting where
  | outputDirectory
  | encoding
  | generator
deriving DecidableEq

/-- An option without a value. -/
inductive Flag where
  | noVersion
  | verbose
deriving DecidableEq

/-- An option that is answered at once. -/
inductive Inquiry where
  | help
  | version
deriving DecidableEq

/-- Anything that can stand after hyphens. -/
inductive Switch where
  | setting (setting : Setting)
  | flag (flag : Flag)
  | inquiry (inquiry : Inquiry)
deriving DecidableEq

/-- The long name of an option with a value. -/
def Setting.name : Setting → String
  | .outputDirectory => "output-dir"
  | .encoding => "encoding"
  | .generator => "generator"

/-- The long name of an option without a value. -/
def Flag.name : Flag → String
  | .noVersion => "no-version"
  | .verbose => "verbose"

/-- The long name of an option that is answered at once. -/
def Inquiry.name : Inquiry → String
  | .help => "help"
  | .version => "version"

namespace Switch

/-- Everything that can stand after hyphens. -/
def all : List Switch :=
  [.setting .outputDirectory, .setting .encoding, .setting .generator, .flag .noVersion,
    .flag .verbose, .inquiry .help, .inquiry .version]

/-- The long name, which stands after two hyphens. -/
def name : Switch → String
  | .setting chosen => chosen.name
  | .flag raised => raised.name
  | .inquiry asked => asked.name

/-- The letter that stands after one hyphen, if there is one. -/
def letter? : Switch → Option Char
  | .setting .outputDirectory => some 'o'
  | .setting .encoding => some 'e'
  | .setting .generator => none
  | .flag .noVersion => none
  | .flag .verbose => some 'v'
  | .inquiry .help => some 'h'
  | .inquiry .version => some 'V'

/-- What a long name means. Names are not abbreviated. -/
def ofName? (name : String) : Option Switch :=
  all.find? fun switch => switch.name = name

/-- What a letter means. -/
def ofLetter? (letter : Char) : Option Switch :=
  all.find? fun switch => switch.letter? = some letter

end Switch

/-- Why a command line is refused. -/
inductive UsageError where
  /-- An option stands where its value should follow. -/
  | missingValue (setting : Setting)
  /-- A path is empty. -/
  | emptyPath
  | unknownArgument (argument : String)
  /-- An option is given a second time. -/
  | repeated (name : String)
  /-- A value is given to an option that takes none. -/
  | unexpectedValue (name value : String)
  /-- There is no output directory or no manifest. -/
  | missingRequired
deriving DecidableEq

namespace UsageError

/-- The text that reports the error. -/
def message : UsageError → String
  | .missingValue setting => s!"a value is required for '--{setting.name}' but none was supplied"
  | .emptyPath => "a path may not be empty"
  | .unknownArgument argument => s!"unexpected argument '{argument}' found"
  | .repeated name => s!"the argument '--{name}' cannot be used multiple times"
  | .unexpectedValue name value => s!"unexpected value '{value}' for '--{name}' found"
  | .missingRequired => "an output directory and at least one manifest are required"

end UsageError

/-- What ends the reading of a command line early. -/
inductive Stop where
  | inquiry (inquiry : Inquiry)
  | usage (error : UsageError)
deriving DecidableEq

/-- What has been read and not been checked yet. -/
inductive Pending where
  | nothing
  | setting (setting : Setting) (value : Option String)
  | manifests (paths : List String)
deriving DecidableEq

/-- How far a command line has been read. -/
structure Draft where
  manifests : List Path := []
  outputDirectory : Option Path := none
  encoding : Option String := none
  generator : Option String := none
  noVersion : Bool := false
  verbose : Bool := false
  pending : Pending := .nothing
deriving DecidableEq

namespace Draft

/-- Stores the value of an option that has not been given before. -/
def store (draft : Draft) (setting : Setting) (value : String) : Except Stop Draft :=
  let repeated := Except.error (.usage (.repeated setting.name))
  match setting with
  | .outputDirectory =>
    if draft.outputDirectory.isSome then repeated
    else if value = "" then .error (.usage .emptyPath)
    else .ok { draft with outputDirectory := some ⟨value⟩ }
  | .encoding =>
    if draft.encoding.isSome then repeated else .ok { draft with encoding := some value }
  | .generator =>
    if draft.generator.isSome then repeated else .ok { draft with generator := some value }

/-- Checks and stores what is pending. -/
def settle (draft : Draft) : Except Stop Draft :=
  let settled := { draft with pending := .nothing }
  match draft.pending with
  | .nothing => .ok settled
  | .setting setting none => .error (.usage (.missingValue setting))
  | .setting setting (some value) => settled.store setting value
  | .manifests paths =>
    if paths.contains "" then .error (.usage .emptyPath)
    else .ok { settled with manifests := draft.manifests ++ paths.map Path.mk }

/-- Raises a flag that has not been raised before. -/
def raise (draft : Draft) (flag : Flag) : Except Stop Draft :=
  let repeated := Except.error (.usage (.repeated flag.name))
  match flag with
  | .noVersion => if draft.noVersion then repeated else .ok { draft with noVersion := true }
  | .verbose => if draft.verbose then repeated else .ok { draft with verbose := true }

/-- Takes a manifest. -/
def addManifest (draft : Draft) (path : String) : Except Stop Draft :=
  match draft.pending with
  | .manifests paths => .ok { draft with pending := .manifests (paths ++ [path]) }
  | _ => draft.settle.map fun draft => { draft with pending := .manifests [path] }

/-- Takes an argument without hyphens: the value that is waited for, or a manifest. -/
def addPlain (draft : Draft) (argument : String) : Except Stop Draft :=
  match draft.pending with
  | .setting setting none => .ok { draft with pending := .setting setting (some argument) }
  | _ => draft.addManifest argument

/-- Takes a name after two hyphens, perhaps with a value attached by `=`. -/
def addLong (draft : Draft) (name : String) (value : Option String) : Except Stop Draft :=
  match Switch.ofName? name, value with
  | none, _ => .error (.usage (.unknownArgument ("--" ++ name)))
  | some (.setting setting), some value => do (← draft.settle).store setting value
  | some (.setting setting), none =>
    draft.settle.map fun draft => { draft with pending := .setting setting none }
  | some switch, some value => .error (.usage (.unexpectedValue switch.name value))
  | some (.flag flag), none => do (← draft.settle).raise flag
  | some (.inquiry inquiry), none => do
    let _ ← draft.settle
    .error (.inquiry inquiry)

/-- Takes letters after one hyphen. The rest after the letter of an option with a value is its
value, less an `=` in front. -/
def addLetters (draft : Draft) : List Char → Except Stop Draft
  | [] => .ok draft
  | letter :: rest =>
    match Switch.ofLetter? letter with
    | none => .error (.usage (.unknownArgument (String.ofList ['-', letter])))
    | some (.flag flag) =>
      match draft.settle with
      | .error stop => .error stop
      | .ok draft =>
        match draft.raise flag with
        | .error stop => .error stop
        | .ok draft => draft.addLetters rest
    | some (.inquiry inquiry) => do
      let _ ← draft.settle
      .error (.inquiry inquiry)
    | some (.setting setting) =>
      match rest with
      | [] => draft.settle.map fun draft => { draft with pending := .setting setting none }
      | '=' :: value => do (← draft.settle).store setting (String.ofList value)
      | value => do (← draft.settle).store setting (String.ofList value)

/-- Takes an argument before any `--`. A hyphen alone counts as an argument without hyphens. -/
def add (draft : Draft) (argument : String) : Except Stop Draft :=
  match argument.toList with
  | '-' :: '-' :: rest =>
    let (name, value) := rest.span (· ≠ '=')
    draft.addLong (String.ofList name) (value.tail?.map String.ofList)
  | ['-'] => draft.addPlain argument
  | '-' :: letters => draft.addLetters letters
  | _ => draft.addPlain argument

/-- Takes arguments. Everything after `--` is a manifest. -/
def addAll (draft : Draft) : List String → Except Stop Draft
  | [] => .ok draft
  | "--" :: rest => rest.foldlM addManifest draft
  | argument :: rest =>
    match draft.add argument with
    | .error stop => .error stop
    | .ok draft => draft.addAll rest

/-- What is asked for in the end. -/
def complete (draft : Draft) : Except Stop CommandLine := do
  let draft ← draft.settle
  match draft.outputDirectory with
  | none => .error (.usage .missingRequired)
  | some outputDirectory =>
    if draft.manifests.isEmpty then .error (.usage .missingRequired)
    else
      return { manifests := draft.manifests
               outputDirectory
               encoding := draft.encoding.getD "UTF-8"
               generator := draft.generator
               noVersion := draft.noVersion
               verbose := draft.verbose }

end Draft

/-- Reads the arguments of a command line. -/
def parse (arguments : List String) : Except Stop CommandLine :=
  (({} : Draft).addAll arguments).bind Draft.complete

/-- The settings a command line asks for. -/
def config (commandLine : CommandLine) : Config :=
  let label :=
    match commandLine.generator with
    | some name => { name, version := some toolVersion }
    | none => GeneratorLabel.standard
  { outputRoot := commandLine.outputDirectory
    encoding := commandLine.encoding
    label := if commandLine.noVersion then label.withoutVersion else label }

/-- How the program is called. -/
def usage : String :=
  "Usage: gpdgen [OPTIONS] --output-dir <DIR> <MANIFEST>..."

/-- The answer to an inquiry. -/
def Inquiry.answer : Inquiry → String
  | .version => toolName ++ " " ++ toolVersion ++ "\n"
  | .help =>
    "Writes Gradle plugin descriptors for @GradlePlugin annotated classes\n\n" ++ usage ++
      "\n\nArguments:\n" ++
      "  <MANIFEST>...  Compilation unit manifests, processed in order\n\n" ++
      "Options:\n" ++
      "  -o, --output-dir <DIR>     " ++
      "Compiler output directory receiving META-INF/gradle-plugins\n" ++
      "  -e, --encoding <ENCODING>  Charset the descriptors are written in [default: UTF-8]\n" ++
      "      --generator <LABEL>    Generator name written into the descriptor banner\n" ++
      "      --no-version           Leave the version out of the descriptor banner\n" ++
      "  -v, --verbose              Verbose logging\n" ++
      "  -h, --help                 Print help\n" ++
      "  -V, --version              Print version\n"

end CommandLine

end PluginDescriptor
