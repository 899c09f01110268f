import PluginDescriptor.Text.Alphanumeric
import PluginDescriptor.Text.Trim

/-!
# Patterns

A directive of a log filter may give a regular expression for the value of a field. Events are not
told apart by the values of their fields, so a pattern is never matched, but it has to be one:
`Pattern.isWellFormed` decides which texts are. A pattern stands before a closing brace, so nothing
that takes one, such as a counted repetition, can be completed in it.

The reader is a machine that takes a text one character at a time and may look at what follows. The
switch `unicode` is on at first. Where it is off, a class stands for bytes, and what could match a
part of a character is refused; word boundaries are only there where it is off. The switch `verbose`
is off at first. Where it is on, white space and comments do not count.
-/

namespace PluginDescriptor.LogFilter.Pattern

/-- How many groups, classes, repetitions, sequences and alternations can lie inside each other. -/
def deepestNesting : Nat := 250

/-- The switches that decide what is well-formed. -/
structure Switches where
  unicode : Bool := true
  verbose : Bool := false
deriving DecidableEq

/-- What has been read at one level of nesting: parts of a sequence, or items of a class. -/
structure Level where
  /-- How many parts there are since the last separator. -/
  parts : Nat := 0
  /-- The height of the tallest of them. -/
  height : Nat := 0
  /-- The height of the last part, if it can be repeated. -/
  last : Option Nat := none
  /-- The height of what stands before the last separator, if there is one. -/
  before : Option Nat := none

namespace Level

/-- One more part, of a given height. -/
def push (level : Level) (height : Nat) : Level :=
  { level with
    parts := level.parts + 1, height := max level.height height, last := some height }

/-- One more part that cannot be repeated. -/
def pushSwitches (level : Level) : Level :=
  { level with parts := level.parts + 1, last := none }

/-- Repeats the last part. -/
def repeatLast? (level : Level) : Option Level :=
  level.last.map fun height =>
    { level with height := max level.height (height + 1), last := some (height + 1) }

/-- The height of the parts together: several ones are a level of their own. -/
def sequenceHeight (level : Level) : Nat :=
  if level.parts ≤ 1 then level.height else level.height + 1

/-- The height of everything at a level. -/
def totalHeight (level : Level) : Nat :=
  match level.before with
  | none => level.sequenceHeight
  | some height => max height level.sequenceHeight + 1

/-- What follows after `|`, all alternatives being equals. -/
def nextAlternative (level : Level) : Level :=
  { before := some (max (level.before.getD 0) level.sequenceHeight) }

/-- What follows after an operator of a class, which binds to the left. -/
def nextOperand (level : Level) : Level :=
  { before := some level.totalHeight }

end Level

/-- Where a character or a shorthand for a class stands. -/
inductive Site where
  | sequence
  /-- As an item of a class. -/
  | item
  /-- As the end of a range that begins with this code point. -/
  | rangeEnd (first : Nat)
deriving DecidableEq

/-- What may come next. -/
inductive Control where
  /-- A part of a sequence. -/
  | sequence
  /-- After an opening parenthesis. -/
  | group
  /-- After `(?`. -/
  | groupKind
  /-- After `(?P`. -/
  | namedGroup
  | groupName (name : String)
  /-- In a list of switches: those read, what they set, whether they are being turned off, and
  whether that has just begun. -/
  | switches (read : List Char) (result : Switches) (negated dangling : Bool)
  /-- After a backslash. -/
  | escape (site : Site)
  /-- In a numeric escape of some digits, with this many left. -/
  | code (site : Site) (digits remaining value : Nat)
  /-- Before the letter of a general category. -/
  | category (site : Site)
  /-- At the start of a class, where a caret negates it and hyphens are items; after one of them a
  closing bracket ends the class. -/
  | classStart (caret hyphens : Bool)
  /-- An item of a class. -/
  | item
  /-- After an item of a class, with its code point if it is a character. -/
  | afterItem (first : Option Nat)
  | rangeEnd (first : Nat)
deriving DecidableEq

/-- How far a pattern has been read. -/
structure State where
  switches : Switches := {}
  level : Level := {}
  /-- The levels and switches around the open groups, the innermost first. -/
  groups : List (Switches × Level) := []
  /-- The open classes, the innermost first. -/
  classes : List Level := []
  /-- The names of the groups so far. -/
  names : List String := []
  control : Control := .sequence
  inComment : Bool := false
  /-- How many of the next characters have been read already. -/
  skipped : Nat := 0

/-- The switches there are. -/
def switchLetters : List Char :=
  ['i', 'm', 's', 'U', 'R', 'u', 'x']

/-- The names of classes that are written between colons. -/
def classNames : List String :=
  ["alnum", "alpha", "ascii", "blank", "cntrl", "digit", "graph", "lower", "print", "punct",
    "space", "upper", "word", "xdigit"]

/-- The letters of the general categories. -/
def categoryLetters : List Char :=
  ['c', 'l', 'm', 'n', 'p', 's', 'z', 'C', 'L', 'M', 'N', 'P', 'S', 'Z']

/-- Whether a named class follows an opening bracket: whether it is negated, and how many characters
it takes. -/
def namedClass? (text : List Char) : Option (Bool × Nat) :=
  match text with
  | ':' :: rest =>
    let negated := rest.head? = some '^'
    let rest := if negated then rest.drop 1 else rest
    let name := rest.takeWhile (· ≠ ':')
    if (rest.drop name.length).take 2 = [':', ']'] && classNames.contains (String.ofList name) then
      some (negated, name.length + if negated then 4 else 3)
    else none
  | _ => none

/-- The character after a hyphen. Where white space does not count, nor does the sign of a comment,
though the comment does. -/
def afterHyphen? (verbose : Bool) (text : List Char) : Option Char :=
  if verbose then
    match text.dropWhile Text.isBlank with
    | '#' :: rest => (rest.dropWhile Text.isBlank).head?
    | rest => rest.head?
  else text.head?

/-- Whether the name of a group may hold a character, perhaps as its first one. -/
def isNameChar (first : Bool) (c : Char) : Bool :=
  c = '_' || Text.isAlphabetic c || (!first && (['.', '[', ']'].contains c || Text.isNumeric c))

/-- The character that a one-letter escape stands for. -/
def escaped? (c : Char) : Option Char :=
  if c = 'a' then some '\x07'
  else if c = 'f' then some '\x0c'
  else if c = 't' then some '\t'
  else if c = 'n' then some '\n'
  else if c = 'r' then some '\r'
  else if c = 'v' then some '\x0b'
  else if c.toNat < 0x80 && !c.isAlphanum && c ≠ '<' && c ≠ '>' then some c
  else none

/-- The number of digits of a numeric escape. -/
def codeLength? (c : Char) : Option Nat :=
  if c = 'x' then some 2 else if c = 'u' then some 4 else if c = 'U' then some 8 else none

/-- The value of a hexadecimal digit. -/
def hexDigit? (c : Char) : Option Nat :=
  if c.isDigit then some (c.toNat - 0x30)
  else if 'a' ≤ c && c ≤ 'f' then some (c.toNat - 0x61 + 10)
  else if 'A' ≤ c && c ≤ 'F' then some (c.toNat - 0x41 + 10)
  else none

/-- Whether white space and comments may stand at a control point. -/
def Control.allowsBlanks : Control → Bool
  | .sequence | .group | .code .. | .category _ => true
  | .classStart .. | .item | .afterItem _ | .rangeEnd _ => true
  | _ => false

namespace State

/-- The state at another control point. -/
def goto (state : State) (control : Control) : Option State :=
  some { state with control }

/-- Adds a part to the sequence. -/
def pushPart (state : State) (height : Nat) : Option State :=
  { state with level := state.level.push height }.goto .sequence

/-- Adds an item to the innermost class. -/
def pushItem (state : State) (height : Nat) (control : Control) : Option State :=
  match state.classes with
  | [] => none
  | innermost :: outer => { state with classes := innermost.push height :: outer }.goto control

/-- Adds a character. One that is written as a byte of its own has to be an ASCII character where
bytes count, and in a class every one has to. -/
def character (state : State) (site : Site) (isByte : Bool) (code : Nat) : Option State :=
  let matchesText := state.switches.unicode || code < 0x80
  match site with
  | .sequence => if matchesText || !isByte then state.pushPart 0 else none
  | .item => if matchesText then state.pushItem 0 (.afterItem (some code)) else none
  | .rangeEnd first => if matchesText && first ≤ code then state.goto .item else none

/-- Adds a class that is written as an escape. -/
def shorthand (state : State) (site : Site) : Option State :=
  match site with
  | .sequence => state.pushPart 0
  | .item => state.pushItem 0 (.afterItem none)
  | .rangeEnd _ => none

/-- Adds a condition on the place. -/
def assertion (state : State) (site : Site) : Option State :=
  if site = .sequence then state.pushPart 0 else none

/-- Opens a group in which the given switches hold. -/
def openGroup (state : State) (switches : Switches) : State :=
  { state with
    groups := (state.switches, state.level) :: state.groups
    switches
    level := {}
    control := .sequence }

/-- Closes the innermost group. -/
def closeGroup (state : State) : Option State :=
  match state.groups with
  | [] => none
  | (switches, outer) :: groups =>
    { state with switches, level := outer, groups }.pushPart (state.level.totalHeight + 1)

/-- Opens a class. -/
def openClass (state : State) : Option State :=
  { state with classes := {} :: state.classes }.goto (.classStart true false)

/-- Closes the innermost class. -/
def closeClass (state : State) : Option State :=
  match state.classes with
  | [] => none
  | [innermost] => { state with classes := [] }.pushPart (innermost.totalHeight + 1)
  | innermost :: outer =>
    { state with classes := outer }.pushItem (innermost.totalHeight + 1) .item

/-- Reads a part of a sequence. A question mark right after a repetition sign belongs to it. -/
def readPart (state : State) (c : Char) (following : List Char) : Option State :=
  if c = '(' then state.goto .group
  else if c = ')' then state.closeGroup
  else if c = '|' then { state with level := state.level.nextAlternative }.goto .sequence
  else if c = '[' then state.openClass
  else if c = '?' || c = '*' || c = '+' then
    let skipped := if following.head? = some '?' then 1 else 0
    state.level.repeatLast?.bind fun level => { state with level, skipped }.goto .sequence
  else if c = '\x7b' then none
  else if c = '\\' then state.goto (.escape .sequence)
  else if c = '.' then if state.switches.unicode then state.pushPart 0 else none
  else state.pushPart 0

/-- Reads the name of a group. No two groups have the same. -/
def readName (state : State) (name : String) (c : Char) : Option State :=
  if c = '>' then
    if name = "" || state.names.contains name then none
    else some ({ state with names := name :: state.names }.openGroup state.switches)
  else if isNameChar (name = "") c then state.goto (.groupName (name.push c))
  else none

/-- Reads a list of switches. They hold for a group, or up to the end of the group they are in. -/
def readSwitches (state : State) (read : List Char) (result : Switches) (negated dangling : Bool)
    (c : Char) : Option State :=
  if c = ':' then if dangling then none else some (state.openGroup result)
  else if c = ')' then
    if dangling || read.isEmpty then none
    else { state with switches := result, level := state.level.pushSwitches }.goto .sequence
  else if c = '-' then
    if negated then none else state.goto (.switches read result true true)
  else if switchLetters.contains c && !read.contains c then
    let result :=
      if c = 'u' then { result with unicode := !negated }
      else if c = 'x' then { result with verbose := !negated }
      else result
    state.goto (.switches (c :: read) result negated false)
  else none

/-- Reads on after a backslash. -/
def readEscape (state : State) (site : Site) (c : Char) : Option State :=
  match escaped? c, codeLength? c with
  | some character, _ => state.character site false character.toNat
  | none, some digits => state.goto (.code site digits digits 0)
  | none, none =>
    if c = 'p' || c = 'P' then state.goto (.category site)
    else if ['d', 's', 'w'].contains c then state.shorthand site
    else if ['D', 'S', 'W'].contains c then
      if state.switches.unicode then state.shorthand site else none
    else if ['A', 'z'].contains c then state.assertion site
    else if ['b', 'B', '<', '>'].contains c then
      if state.switches.unicode then none else state.assertion site
    else none

/-- Reads on in a numeric escape. The code has to be a character. -/
def readCode (state : State) (site : Site) (digits remaining value : Nat) (c : Char) :
    Option State :=
  match hexDigit? c with
  | none => none
  | some digit =>
    let value := value * 16 + digit
    if remaining ≤ 1 then
      if value.isValidChar then state.character site (digits = 2) value else none
    else state.goto (.code site digits (remaining - 1) value)

/-- Reads an item of a class. -/
def readItem (state : State) (c : Char) (following : List Char) : Option State :=
  if c = '[' then
    match namedClass? following with
    | none => state.openClass
    | some (negated, length) =>
      if negated && !state.switches.unicode then none
      else { state with skipped := length }.pushItem 0 .item
  else if c = ']' then state.closeClass
  else if ['&', '-', '~'].contains c && following.head? = some c then
    match state.classes with
    | [] => none
    | innermost :: outer =>
      { state with classes := innermost.nextOperand :: outer, skipped := 1 }.goto .item
  else if c = '\\' then state.goto (.escape .item)
  else state.character .item false c.toNat

/-- Reads on at the start of a class. -/
def readClassStart (state : State) (caret hyphens : Bool) (c : Char) (following : List Char) :
    Option State :=
  if c = '^' && caret then
    if state.switches.unicode then state.goto (.classStart false false) else none
  else if c = '-' then state.pushItem 0 (.classStart false true)
  else if c = ']' && !hyphens then state.pushItem 0 .item
  else state.readItem c following

/-- Reads on after an item of a class. A hyphen makes a range, unless a closing bracket or another
hyphen follows. -/
def readAfterItem (state : State) (first : Option Nat) (c : Char) (following : List Char) :
    Option State :=
  let next := afterHyphen? state.switches.verbose following
  if c = '-' && next ≠ some ']' && next ≠ some '-' then
    first.bind fun first => state.goto (.rangeEnd first)
  else state.readItem c following

/-- Reads one character that counts, with the text that follows it. -/
def read (state : State) (c : Char) (following : List Char) : Option State :=
  match state.control with
  | .sequence => state.readPart c following
  | .group =>
    if c = '?' then state.goto .groupKind
    else (state.openGroup state.switches).readPart c following
  | .groupKind =>
    if c = 'P' then state.goto .namedGroup
    else if c = '<' then state.goto (.groupName "")
    else state.readSwitches [] state.switches false false c
  | .namedGroup => if c = '<' then state.goto (.groupName "") else none
  | .groupName name => state.readName name c
  | .switches read result negated dangling => state.readSwitches read result negated dangling c
  | .escape site => state.readEscape site c
  | .code site digits remaining value => state.readCode site digits remaining value c
  | .category site =>
    if state.switches.unicode && categoryLetters.contains c then state.shorthand site else none
  | .classStart caret hyphens => state.readClassStart caret hyphens c following
  | .item => state.readItem c following
  | .afterItem first => state.readAfterItem first c following
  | .rangeEnd first =>
    if c = '\\' then state.goto (.escape (.rangeEnd first))
    else state.character (.rangeEnd first) false c.toNat

/-- Reads one character with the text that follows it. -/
def next (state : State) (c : Char) (following : List Char) : Option State :=
  if state.skipped > 0 then some { state with skipped := state.skipped - 1 }
  else if state.inComment then some { state with inComment := c ≠ '\n' }
  else if state.switches.verbose && state.control.allowsBlanks && Text.isBlank c then some state
  else if state.switches.verbose && state.control.allowsBlanks && c = '#' then
    some { state with inComment := true }
  else state.read c following

/-- Reads a text. -/
def run (state : State) : List Char → Option State
  | [] => some state
  | c :: following => (state.next c following).bind fun state => state.run following

/-- Whether the pattern is complete. -/
def isComplete (state : State) : Bool :=
  state.control = .sequence && state.groups.isEmpty && state.level.totalHeight ≤ deepestNesting

end State

/-- Whether a text is a pattern. -/
def isWellFormed (text : List Char) : Bool :=
  (({} : State).run text).any State.isComplete

end PluginDescriptor.LogFilter.Pattern
