import PluginDescriptor.Event
import PluginDescriptor.LogFilter.FieldValue

/-!
# Log filters

A filter decides which events are logged. It is written as directives between commas. A directive
sets a level for everything, for the targets that start with a given text, for the events that carry
a given field, or for both. The directive with the longest matching target decides, then one with a
field, and of two for the same events the later one. An event that no directive matches is not
logged.
-/

namespace PluginDescriptor

/-- How much detail is logged. -/
inductive Verbosity where
  | off
  | error
  | warning
  | info
  | debug
  | trace
deriving DecidableEq

namespace Verbosity

/-- The rank of the least important level that is logged. -/
def rank : Verbosity → Nat
  | .off => 0
  | .error => 1
  | .warning => 2
  | .info => 3
  | .debug => 4
  | .trace => 5

/-- Whether events of a level are logged. -/
def allows (verbosity : Verbosity) (level : Level) : Bool :=
  level.rank ≤ verbosity.rank

/-- Every verbosity with its name and its number. -/
def table : List (String × Nat × Verbosity) :=
  [("off", 0, .off), ("error", 1, .error), ("warn", 2, .warning), ("info", 3, .info),
    ("debug", 4, .debug), ("trace", 5, .trace)]

/-- The verbosity a name stands for, in upper or lower case, or a number from 0 to 5. -/
def ofText? (text : String) : Option Verbosity :=
  let digits :=
    match text.toList with
    | '+' :: rest => rest
    | characters => characters
  let found :=
    if !digits.isEmpty && digits.all Char.isDigit then
      let number := digits.foldl (fun value c => value * 10 + (c.toNat - 0x30)) 0
      table.find? fun entry => entry.2.1 = number
    else table.find? fun entry => entry.1 = text.map Char.toLower
  found.map fun entry => entry.2.2

end Verbosity

namespace LogFilter

/-- One directive of a filter. -/
structure Directive where
  /-- How the targets start that the directive is about; nothing stands for every target. -/
  target : Option String := none
  /-- Whether the directive is about a span. -/
  inSpan : Bool := false
  /-- A field that has to be there, perhaps with a value after `=`. -/
  field : Option String := none
  verbosity : Verbosity := .trace
deriving DecidableEq

/-- Which part of a directive is being read, and the place in the text where that part starts. -/
inductive Part where
  | start
  /-- A level or a target. -/
  | name (first : Nat)
  | span (first : Nat)
  | field (first : Nat)
  | afterField
  | afterSpan
  | level (first : Nat)
deriving DecidableEq

/-- The characters of a text whose place is at least `first` and less than `last`. Places are
counted in bytes, and the first character has the place `place`. -/
def between (first last place : Nat) : List Char → List Char
  | [] => []
  | c :: rest =>
    let following := between first last (place + c.utf8Size) rest
    if first ≤ place && place < last then c :: following else following

/-- The part of a text between two places. -/
def cut (text : String) (first last : Nat) : String :=
  String.ofList (between first last 0 text.toList)

/-- Whether a level or a target may start with a character. -/
def startsName (c : Char) : Bool :=
  c = '-' || c = ':' || c = '_' || Text.isAlphanumeric c

namespace Directive

/-- Reads the character at a place of a directive. The parts are cut from `text`. -/
def next (text : String) (directive : Directive) (part : Part) (place : Nat) (c : Char) :
    Option (Directive × Part) :=
  match part with
  | .start =>
    if c = '[' then some (directive, .span (place + 1))
    else if startsName c then some (directive, .name place)
    else none
  | .name first =>
    let named := { directive with target := some (cut text first place) }
    if c = '=' then some (named, .level (place + 1))
    else if c = '[' then some (named, .span (place + 1))
    else some (directive, part)
  | .span first =>
    if c = ']' then some ({ directive with inSpan := true }, .afterSpan)
    else if c = '\x7b' then
      some ({ directive with inSpan := cut text first place ≠ "" }, .field (place + 1))
    else some (directive, part)
  | .field first =>
    if c = '\x7d' then
      let field := cut text first place
      if isField field then some ({ directive with field := some field }, .afterField) else none
    else some (directive, part)
  | .afterField => if c = ']' then some (directive, .afterSpan) else none
  | .afterSpan => if c = '=' then some (directive, .level (place + 1)) else none
  | .level _ => some (directive, part)

/-- Reads characters that start at a place of a directive. -/
def read (text : String) : Directive → Part → Nat → List Char → Option (Directive × Part)
  | directive, part, _, [] => some (directive, part)
  | directive, part, place, c :: rest =>
    match next text directive part place c with
    | none => none
    | some (directive, part) => read text directive part (place + c.utf8Size) rest

/-- Completes a directive with the part that reaches to the end of `text`. A target without a level
stands for everything that is logged about it. -/
def complete (text : String) (directive : Directive) : Part → Option Directive
  | .name first =>
    let name := cut text first text.utf8ByteSize
    match Verbosity.ofText? name with
    | some verbosity => some { directive with verbosity }
    | none => some { directive with target := some name }
  | .level first =>
    let level := cut text first text.utf8ByteSize
    if level = "" then some directive
    else (Verbosity.ofText? level).map fun verbosity => { directive with verbosity }
  | .afterSpan => some directive
  | _ => none

/-- Reads one directive. Its parts are found in the text without surrounding white space, and are
cut from the text as it is given at the same places. -/
def ofText? (text : String) : Option Directive :=
  match read text {} .start 0 (Text.trimBlank text).toList with
  | some (directive, part) => directive.complete text part
  | none => none

/-- Whether a directive is about an event. Events lie in no span and are not told apart by the
values of their fields. -/
def applies (directive : Directive) (event : Event) : Bool :=
  let targetMatches :=
    match directive.target with
    | none => true
    | some start => start.isPrefixOf event.target
  let fieldMatches :=
    match directive.field with
    | none => true
    | some name => event.fieldNames.contains name
  !directive.inSpan && targetMatches && fieldMatches

/-- How much of a target a directive gives. -/
def weight (directive : Directive) : Nat :=
  match directive.target with
  | none => 0
  | some start => start.utf8ByteSize + 1

/-- Whether a directive comes before an earlier one that is about the same event. -/
def supersedes (directive earlier : Directive) : Bool :=
  if directive.weight = earlier.weight then
    match directive.field, earlier.field with
    | _, none => true
    | none, some _ => false
    | some name, some other => !decide (name < other)
  else earlier.weight < directive.weight

end Directive

end LogFilter

/-- A decision on which events are logged. -/
structure LogFilter where
  directives : List LogFilter.Directive
deriving DecidableEq

namespace LogFilter

/-- Logs everything up to a verbosity. -/
def upTo (verbosity : Verbosity) : LogFilter :=
  ⟨[{ verbosity }]⟩

/-- Reads a filter. Without any directive nothing is logged. -/
def ofText? (text : String) : Option LogFilter :=
  let parts := (text.toList.splitOn ',').filter fun part => !part.isEmpty
  (parts.mapM fun part => Directive.ofText? (String.ofList part)).map LogFilter.mk

/-- The directive that decides about an event. -/
def decisive? (filter : LogFilter) (event : Event) : Option Directive :=
  (filter.directives.filter fun directive => directive.applies event).foldl
    (fun best directive =>
      match best with
      | none => some directive
      | some earlier => if directive.supersedes earlier then some directive else some earlier)
    none

/-- Whether an event is logged. -/
def allows (filter : LogFilter) (event : Event) : Bool :=
  match filter.decisive? event with
  | none => false
  | some directive => directive.verbosity.allows event.level

/-- The filter of a run: the given one if it can be read, and otherwise the default, which shows
more detail to a verbose run. -/
def choose (given : Option String) (verbose : Bool) : LogFilter :=
  match given.bind ofText? with
  | some filter => filter
  | none => upTo (if verbose then .debug else .info)

end LogFilter

end PluginDescriptor
