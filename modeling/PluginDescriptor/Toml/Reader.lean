import PluginDescriptor.Toml.Document
import PluginDescriptor.Toml.Scalar

/-!
# Reading TOML

The reader is a machine that takes a document one character at a time. Its control point tells what
may come next, and its frames hold the values that are still open, the innermost first. Reading a
text is a fold of `State.next` over the characters, so reading one text after another is reading
the texts joined. The result is a sequence of statements, from which `parse?` builds the document.
-/

namespace PluginDescriptor.Toml

/-- What delimits a string: a basic one knows escapes, a literal one does not. -/
inductive Quote where
  | basic
  | literal
deriving DecidableEq

/-- The delimiting character. -/
def Quote.mark : Quote → Char
  | .basic => '"'
  | .literal => '\x27'

/-- What a key is read for. -/
inductive KeyUse where
  /-- An assignment on a line of its own. -/
  | assignment
  /-- An entry of an inline table. -/
  | entry
  /-- The header of a table. -/
  | header
  /-- The header of a table in an array of tables. -/
  | arrayHeader
deriving DecidableEq

/-- What a quoted string on one line is read for. -/
inductive Target where
  /-- The last name so far of a key, after these names. -/
  | key (use : KeyUse) (before : List String)
  | value
deriving DecidableEq

/-- Where an escape sequence stands. -/
inductive Site where
  | line (target : Target)
  | lines
deriving DecidableEq

/-- A point where white space, line breaks and comments may stand. -/
inductive Place where
  /-- At the start of a line. -/
  | line
  /-- Before an element of an array. -/
  | element
  /-- After an element of an array. -/
  | afterElement
  /-- Before an entry of an inline table. -/
  | entry
  /-- After the key of an entry of an inline table. -/
  | entryKey (key : Key)
  /-- Before the value of an entry of an inline table. -/
  | entryValue
  /-- After an entry of an inline table. -/
  | afterEntry
deriving DecidableEq

/-- What may come next. -/
inductive Control where
  | resting (place : Place)
  /-- In a comment; the line break after it leads to the place. -/
  | comment (place : Place)
  /-- After a carriage return, which only counts before a line feed. -/
  | carriageReturn (place : Place)
  /-- After a header or an assignment. -/
  | lineEnd
  /-- After a bracket at the start of a line. -/
  | bracket
  | keyStart (use : KeyUse) (before : List String)
  | bareKey (use : KeyUse) (before : List String) (text : String)
  | keyEnd (use : KeyUse) (key : Key)
  /-- After the first closing bracket of a header that has two. -/
  | secondBracket (key : Key)
  | valueStart
  /-- In an unquoted value. -/
  | bare (text : String)
  /-- In white space after an unquoted value, which belongs to the value if more of it follows. -/
  | bareGap (text : String) (blanks : String)
  /-- After one quotation mark that starts a value. -/
  | openQuote (quote : Quote)
  /-- After two quotation marks that start a value. -/
  | emptyQuote (quote : Quote)
  | quoted (quote : Quote) (target : Target) (text : String)
  /-- After three quotation marks; a line break here does not count. -/
  | firstLine (quote : Quote)
  | firstLineReturn (quote : Quote)
  /-- In a string of several lines. -/
  | lines (quote : Quote) (text : String)
  | linesReturn (quote : Quote) (text : String)
  /-- After some quotation marks in a string of several lines. -/
  | closing (quote : Quote) (text : String) (count : Nat)
  | escape (site : Site) (text : String)
  /-- In a numeric escape with this many digits left. -/
  | code (site : Site) (text : String) (remaining : Nat) (value : Nat)
  /-- After a backslash that joins lines; `crossed` tells whether a line break has been passed. -/
  | continuation (text : String) (crossed : Bool)
  | continuationReturn (text : String)

/-- A value that is still open. -/
inductive Frame where
  /-- The key of the assignment that the value belongs to. -/
  | assignment (key : Key)
  | array (elements : List Value)
  | table (entries : Entries)
  /-- An inline table with the key of the entry being read. -/
  | entry (entries : Entries) (key : Key)

/-- How far a document has been read. -/
structure State where
  statements : List Statement := []
  frames : List Frame := []
  control : Control := .resting .line

/-- How many arrays and inline tables can lie inside each other. -/
def deepestNesting : Nat := 80

/-- How many names a key can have. -/
def longestKey : Nat := 80

/-- A space or a tab. -/
def isSpace (c : Char) : Bool :=
  c = ' ' || c = '\t'

/-- A character that may stand in a comment or a string: a tab or anything that is no ASCII control
character. -/
def isTextChar (c : Char) : Bool :=
  c = '\t' || (0x20 ≤ c.toNat && c.toNat ≠ 0x7F)

/-- A character of an unquoted key. -/
def isKeyChar (c : Char) : Bool :=
  c.isAlphanum || c = '_' || c = '-'

/-- The characters that no part of an unquoted value reaches over. -/
def valueEnds : List Char :=
  [' ', '\t', '\n', '\r', ',', '=', '#', '[', ']', '\x7b', '\x7d']

/-- A character of an unquoted value. -/
def isValueChar (c : Char) : Bool :=
  !valueEnds.contains c

/-- A character that an unquoted value, or a part of it after white space, may start with. -/
def isValueStart (c : Char) : Bool :=
  isValueChar c && c ≠ Quote.basic.mark && c ≠ Quote.literal.mark

/-- A text with some characters of one kind after it. -/
def pushMany (text : String) (c : Char) : Nat → String
  | 0 => text
  | count + 1 => pushMany (text.push c) c count

namespace State

/-- The state at another control point. -/
def goto (state : State) (control : Control) : Option State :=
  some { state with control }

/-- The state after a line that defines something. -/
def emit (state : State) (statement : Statement) : Option State :=
  some { state with statements := state.statements ++ [statement], control := .lineEnd }

/-- Gives a complete value to the innermost open one. -/
def deliver (state : State) (value : Value) : Option State :=
  match state.frames with
  | .assignment key :: rest => { state with frames := rest }.emit (.assignment key value)
  | .array elements :: rest =>
    { state with frames := .array (elements ++ [value]) :: rest }.goto (.resting .afterElement)
  | .entry entries key :: rest =>
    match entries.assign key.tables key.name value with
    | some entries => { state with frames := .table entries :: rest }.goto (.resting .afterEntry)
    | none => none
  | _ => none

/-- Completes the innermost open array. -/
def closeArray (state : State) : Option State :=
  match state.frames with
  | .array elements :: rest => { state with frames := rest }.deliver (.array elements)
  | _ => none

/-- Completes the innermost open inline table. -/
def closeTable (state : State) : Option State :=
  match state.frames with
  | .table entries :: rest => { state with frames := rest }.deliver (.table (entriesValue entries))
  | _ => none

/-- Opens an array or an inline table. -/
def openFrame (state : State) (frame : Frame) (place : Place) : Option State :=
  if state.frames.length ≤ deepestNesting then
    { state with frames := frame :: state.frames }.goto (.resting place)
  else none

/-- Starts a name of a key. -/
def startKey (state : State) (use : KeyUse) (before : List String) (c : Char) : Option State :=
  if c = Quote.basic.mark then state.goto (.quoted .basic (.key use before) "")
  else if c = Quote.literal.mark then state.goto (.quoted .literal (.key use before) "")
  else if isKeyChar c then state.goto (.bareKey use before (String.singleton c))
  else none

/-- Starts a value. -/
def startValue (state : State) (c : Char) : Option State :=
  if c = Quote.basic.mark then state.goto (.openQuote .basic)
  else if c = Quote.literal.mark then state.goto (.openQuote .literal)
  else if c = '[' then state.openFrame (.array []) .element
  else if c = '\x7b' then state.openFrame (.table []) .entry
  else if isValueStart c then state.goto (.bare (String.singleton c))
  else none

/-- Reads on where white space, line breaks and comments may stand. -/
def rest (state : State) (place : Place) (c : Char) : Option State :=
  if isSpace c || c = '\n' then state.goto (.resting place)
  else if c = '\r' then state.goto (.carriageReturn place)
  else if c = '#' then state.goto (.comment place)
  else
    match place with
    | .line => if c = '[' then state.goto .bracket else state.startKey .assignment [] c
    | .element => if c = ']' then state.closeArray else state.startValue c
    | .afterElement =>
      if c = ',' then state.goto (.resting .element)
      else if c = ']' then state.closeArray
      else none
    | .entry => if c = '\x7d' then state.closeTable else state.startKey .entry [] c
    | .entryKey key =>
      match state.frames with
      | .table entries :: rest =>
        if c = '=' then
          { state with frames := .entry entries key :: rest }.goto (.resting .entryValue)
        else none
      | _ => none
    | .entryValue => state.startValue c
    | .afterEntry =>
      if c = ',' then state.goto (.resting .entry)
      else if c = '\x7d' then state.closeTable
      else none

/-- Reads on after a name of a key. -/
def afterKey (state : State) (use : KeyUse) (key : Key) (c : Char) : Option State :=
  if isSpace c then state.goto (.keyEnd use key)
  else if c = '.' then
    if key.tables.length + 2 ≤ longestKey then
      state.goto (.keyStart use (key.tables ++ [key.name]))
    else none
  else
    match use with
    | .assignment =>
      if c = '=' then { state with frames := .assignment key :: state.frames }.goto .valueStart
      else none
    | .entry => state.rest (.entryKey key) c
    | .header => if c = ']' then state.emit (.table key) else none
    | .arrayHeader => if c = ']' then state.goto (.secondBracket key) else none

/-- Reads on after a header or an assignment. -/
def endLine (state : State) (c : Char) : Option State :=
  if isSpace c then state.goto .lineEnd
  else if c = '\n' then state.goto (.resting .line)
  else if c = '\r' then state.goto (.carriageReturn .line)
  else if c = '#' then state.goto (.comment .line)
  else none

/-- Reads on after a value. -/
def afterValue (state : State) (c : Char) : Option State :=
  match state.control with
  | .lineEnd => state.endLine c
  | .resting place => state.rest place c
  | _ => none

/-- Gives a complete value to the innermost open one and reads on. -/
def deliverThen (state : State) (value : Value) (c : Char) : Option State :=
  (state.deliver value).bind fun state => state.afterValue c

/-- Completes an unquoted value and reads on. -/
def endBare (state : State) (text : String) (c : Char) : Option State :=
  (Scalar.ofText? text).bind fun value => state.deliverThen value c

/-- Reads on in a string on one line. -/
def readQuoted (state : State) (quote : Quote) (target : Target) (text : String) (c : Char) :
    Option State :=
  if c = quote.mark then
    match target with
    | .value => state.deliver (.string text)
    | .key use before => state.goto (.keyEnd use ⟨before, text⟩)
  else if quote = .basic && c = '\\' then state.goto (.escape (.line target) text)
  else if isTextChar c then state.goto (.quoted quote target (text.push c))
  else none

/-- Reads on in a string of several lines. -/
def readLines (state : State) (quote : Quote) (text : String) (c : Char) : Option State :=
  if c = quote.mark then state.goto (.closing quote text 1)
  else if quote = .basic && c = '\\' then state.goto (.escape .lines text)
  else if c = '\r' then state.goto (.linesReturn quote text)
  else if c = '\n' || isTextChar c then state.goto (.lines quote (text.push c))
  else none

/-- Reads on after some quotation marks in a string of several lines. Three of them end the string,
and up to two more belong to its text. -/
def readClosing (state : State) (quote : Quote) (text : String) (count : Nat) (c : Char) :
    Option State :=
  if c = quote.mark then if count < 5 then state.goto (.closing quote text (count + 1)) else none
  else if count < 3 then state.readLines quote (pushMany text quote.mark count) c
  else state.deliverThen (.string (pushMany text quote.mark (count - 3))) c

/-- Goes back to the text after an escape sequence. -/
def resume (state : State) (site : Site) (text : String) : Option State :=
  match site with
  | .line target => state.goto (.quoted .basic target text)
  | .lines => state.goto (.lines .basic text)

/-- The character that a one-letter escape stands for. -/
def escaped? (c : Char) : Option Char :=
  if c = 'b' then some '\x08'
  else if c = 't' then some '\t'
  else if c = 'n' then some '\n'
  else if c = 'f' then some '\x0c'
  else if c = 'r' then some '\r'
  else if c = 'e' then some '\x1b'
  else if c = '"' then some '"'
  else if c = '\\' then some '\\'
  else none

/-- The number of digits of a numeric escape. -/
def codeLength? (c : Char) : Option Nat :=
  if c = 'x' then some 2 else if c = 'u' then some 4 else if c = 'U' then some 8 else none

/-- Reads on after a backslash. -/
def readEscape (state : State) (site : Site) (text : String) (c : Char) : Option State :=
  match escaped? c, codeLength? c with
  | some character, _ => state.resume site (text.push character)
  | none, some length => state.goto (.code site text length 0)
  | none, none =>
    if site ≠ .lines then none
    else if isSpace c then state.goto (.continuation text false)
    else if c = '\n' then state.goto (.continuation text true)
    else if c = '\r' then state.goto (.continuationReturn text)
    else none

/-- Reads on in a numeric escape. The code has to be a character. -/
def readCode (state : State) (site : Site) (text : String) (remaining value : Nat) (c : Char) :
    Option State :=
  if Scalar.isHexDigit c then
    let value := value * 16 + Scalar.digitValue c
    if remaining ≤ 1 then
      if value.isValidChar then state.resume site (text.push (Char.ofNat value)) else none
    else state.goto (.code site text (remaining - 1) value)
  else none

/-- Reads on after a backslash that joins lines. -/
def readContinuation (state : State) (text : String) (crossed : Bool) (c : Char) : Option State :=
  if isSpace c then state.goto (.continuation text crossed)
  else if c = '\n' then state.goto (.continuation text true)
  else if c = '\r' then state.goto (.continuationReturn text)
  else if crossed then state.readLines .basic text c
  else none

/-- Goes on with a line feed after a carriage return. -/
def lineFeed (state : State) (control : Control) (c : Char) : Option State :=
  if c = '\n' then state.goto control else none

/-- Reads one character. -/
def next (state : State) (c : Char) : Option State :=
  match state.control with
  | .resting place => state.rest place c
  | .comment place =>
    if c = '\n' then state.goto (.resting place)
    else if c = '\r' then state.goto (.carriageReturn place)
    else if isTextChar c then some state
    else none
  | .carriageReturn place => state.lineFeed (.resting place) c
  | .lineEnd => state.endLine c
  | .bracket =>
    if c = '[' then state.goto (.keyStart .arrayHeader [])
    else if isSpace c then state.goto (.keyStart .header [])
    else state.startKey .header [] c
  | .keyStart use before => if isSpace c then some state else state.startKey use before c
  | .bareKey use before text =>
    if isKeyChar c then state.goto (.bareKey use before (text.push c))
    else state.afterKey use ⟨before, text⟩ c
  | .keyEnd use key => state.afterKey use key c
  | .secondBracket key => if c = ']' then state.emit (.arrayTable key) else none
  | .valueStart => if isSpace c then some state else state.startValue c
  | .bare text =>
    if isValueChar c then state.goto (.bare (text.push c))
    else if isSpace c then state.goto (.bareGap text (String.singleton c))
    else state.endBare text c
  | .bareGap text blanks =>
    if isSpace c then state.goto (.bareGap text (blanks.push c))
    else if isValueStart c then state.goto (.bare ((text ++ blanks).push c))
    else state.endBare text c
  | .openQuote quote =>
    if c = quote.mark then state.goto (.emptyQuote quote) else state.readQuoted quote .value "" c
  | .emptyQuote quote =>
    if c = quote.mark then state.goto (.firstLine quote) else state.deliverThen (.string "") c
  | .quoted quote target text => state.readQuoted quote target text c
  | .firstLine quote =>
    if c = '\n' then state.goto (.lines quote "")
    else if c = '\r' then state.goto (.firstLineReturn quote)
    else state.readLines quote "" c
  | .firstLineReturn quote => state.lineFeed (.lines quote "") c
  | .lines quote text => state.readLines quote text c
  | .linesReturn quote text => state.lineFeed (.lines quote ((text.push '\r').push '\n')) c
  | .closing quote text count => state.readClosing quote text count c
  | .escape site text => state.readEscape site text c
  | .code site text remaining value => state.readCode site text remaining value c
  | .continuation text crossed => state.readContinuation text crossed c
  | .continuationReturn text => state.lineFeed (.continuation text true) c

/-- Reads a text. -/
def run (state : State) (text : List Char) : Option State :=
  text.foldlM next state

/-- The statements of a document that ends here. The end counts as a line break, which a carriage
return does not complete. -/
def finish (state : State) : Option (List Statement) :=
  match state.control with
  | .carriageReturn _ => none
  | _ =>
    match state.next '\n' with
    | some { statements, frames := [], control := .resting .line } => some statements
    | _ => none

end State

/-- The text of a document without the byte-order mark it may start with. -/
def withoutByteOrderMark : List Char → List Char
  | '\ufeff' :: rest => rest
  | text => text

/-- The statements of a document. -/
def statements? (text : String) : Option (List Statement) :=
  (({} : State).run (withoutByteOrderMark text.toList)).bind State.finish

/-- The table a TOML document stands for, or nothing if the text is no TOML document. -/
def parse? (text : String) : Option Value :=
  ((statements? text).bind Document.ofStatements?).map Document.value

end PluginDescriptor.Toml
