import Keyring.Cell

/-!
# The grammar of arguments

A form says which switches and operands a command takes, and `read` takes arguments apart by it.

A switch is spelled with two dashes and a word, or with one dash and a letter. A word may be cut
short as long as only one switch starts like it. A value follows as the next argument; after a word
it may stand behind an equals sign in the same argument, and after a letter directly or behind an
equals sign. Letters of switches without values may be put together, the first of them even with an
equals sign behind it. Two dashes alone end the switches: everything behind is an operand. As the
value of a switch in the same argument they stand for no value. An argument that looks like a
negative number or holds a space is an operand too, unless it spells a switch.

Every argument is classified before any is acted on, so an ambiguous one is refused even behind a
switch that asks for help.
-/

namespace Keyring.CommandLine

open Text (lit)

/-- What a switch is for. -/
inductive Kind where
  /-- Asks for help instead of anything else. -/
  | help
  /-- Says yes to something. -/
  | flag
  /-- Has a text as value. -/
  | text
  /-- Has an integer as value. -/
  | number
  deriving DecidableEq, Repr

/-- A switch. -/
structure Switch where
  /-- The spellings, dashes included, in the order in which messages list them. -/
  spellings : List Text
  kind : Kind
  deriving DecidableEq, Repr

/-- What operands a command takes. -/
inductive Operands where
  | none
  /-- One, of which the name tells what it stands for. -/
  | one (name : Text)
  /-- The first operand and everything behind it, which is not read any further. -/
  | everything
  deriving DecidableEq, Repr

/-- What a command takes. -/
structure Form where
  switches : List Switch
  operands : Operands
  deriving DecidableEq, Repr

/-- What can be wrong with arguments. -/
inductive Misuse where
  | ambiguous (argument : Text) (candidates : List Text)
  | missingValue (switch : Switch)
  | unwantedValue (switch : Switch) (value : Text)
  | notNumber (switch : Switch) (value : Text)
  | unknownCommand (word : Text)
  | missingOperand (name : Text)
  | unrecognized (arguments : List Text)
  deriving DecidableEq, Repr

/-- Why reading ends early. -/
inductive Stop where
  | help
  | misuse (misuse : Misuse)
  deriving DecidableEq, Repr

/-- A switch that was given, with its value if it has one. A switch that takes a value has none if
two dashes stand for it. -/
structure Setting where
  switch : Switch
  value : Option Text
  deriving DecidableEq, Repr

/-- The dash. -/
def dash : CodePoint := 45

/-- The sign between a switch and its value. -/
def equals : CodePoint := 61

/-- The argument that ends the switches. -/
def terminator : Text := [dash, dash]

namespace Switch

/-- The switch has a value. -/
def takesValue (switch : Switch) : Bool :=
  switch.kind = .text || switch.kind = .number

/-- How messages call the switch. -/
def label (switch : Switch) : Text :=
  Text.join (lit "/") switch.spellings

end Switch

namespace Form

/-- All spellings with their switches. -/
def spellings (form : Form) : List (Text × Switch) :=
  form.switches.flatMap fun switch => switch.spellings.map fun spelling => (spelling, switch)

/-- The switch of a spelling. -/
def find? (form : Form) (spelling : Text) : Option Switch :=
  form.switches.find? fun switch => switch.spellings.contains spelling

end Form

/-- One way to understand an argument as a switch. -/
structure Reading where
  spelling : Text
  switch : Switch
  /-- What stands behind the switch in the same argument. -/
  value : Option Text
  deriving DecidableEq, Repr

/-- An argument after the first look at it. -/
inductive Token where
  | operand (text : Text)
  | switch (text : Text) (reading : Reading)
  /-- It looks like a switch, but there is no such switch. -/
  | unknown (text : Text)
  | terminator
  deriving DecidableEq, Repr

/-- The argument that a token is. -/
def Token.text : Token → Text
  | .operand text => text
  | .switch text _ => text
  | .unknown text => text
  | .terminator => CommandLine.terminator

namespace Form

/-- The reading of an argument that spells a switch in full before an equals sign. -/
def exactReading? (form : Form) (argument : Text) : Option Reading :=
  match splitFirst equals argument with
  | none => none
  | some (spelling, value) =>
    (form.find? spelling).map fun switch => ⟨spelling, switch, some value⟩

/-- The readings of an argument that starts with two dashes: the words that start like it. -/
def longReadings (form : Form) (argument : Text) : List Reading :=
  let (start, value) :=
    match splitFirst equals argument with
    | none => (argument, none)
    | some (start, value) => (start, some value)
  (form.spellings.filter fun (spelling, _) => start.isPrefixOf spelling).map
    fun (spelling, switch) => ⟨spelling, switch, value⟩

/-- The readings of an argument that starts with one dash: the letter and what stands behind it. -/
def shortReadings (form : Form) (argument : Text) : List Reading :=
  (form.spellings.filter fun (spelling, _) => spelling = argument.take 2).map
    fun (spelling, switch) => ⟨spelling, switch, some (argument.drop 2)⟩

/-- The possible readings of an argument that does not spell a switch in full. -/
def readings (form : Form) (argument : Text) : List Reading :=
  if terminator.isPrefixOf argument then form.longReadings argument
  else form.shortReadings argument

end Form

/-- A text is made of digits. -/
def isDigits (text : Text) : Bool :=
  text.all fun point => point.digitValue?.isSome

/-- An argument looks like a negative number: a dash and digits, perhaps with a point among or
before them, perhaps with a newline behind. -/
def isNegativeNumeral (argument : Text) : Bool :=
  match argument with
  | [] => false
  | first :: rest =>
    let body := if rest.getLast? = some 10 then rest.dropLast else rest
    first = dash &&
      (match splitFirst 46 body with
        | none => !body.isEmpty && isDigits body
        | some (whole, fraction) => isDigits whole && !fraction.isEmpty && isDigits fraction)

namespace Form

/-- The token of an argument before the terminator. -/
def token (form : Form) (argument : Text) : Except Misuse Token :=
  if argument.head? ≠ some dash || argument.length = 1 then .ok (.operand argument)
  else
    match form.find? argument with
    | some switch => .ok (.switch argument ⟨argument, switch, none⟩)
    | none =>
      match form.exactReading? argument with
      | some reading => .ok (.switch argument reading)
      | none =>
        match form.readings argument with
        | [reading] => .ok (.switch argument reading)
        | [] =>
          if isNegativeNumeral argument || argument.contains 32 then .ok (.operand argument)
          else .ok (.unknown argument)
        | several => .error (.ambiguous argument (several.map Reading.spelling))

/-- The tokens of arguments. -/
def tokens (form : Form) : List Text → Except Misuse (List Token)
  | [] => .ok []
  | argument :: arguments =>
    if argument = terminator then .ok (.terminator :: arguments.map .operand)
    else
      match form.token argument, form.tokens arguments with
      | .error misuse, _ => .error misuse
      | _, .error misuse => .error misuse
      | .ok token, .ok tokens => .ok (token :: tokens)

end Form

/-- What one argument sets. -/
structure Spelled where
  settings : List Setting
  /-- A switch that waits for the next argument as its value. -/
  waiting : Option Switch
  deriving DecidableEq, Repr

namespace Spelled

/-- A switch with nothing behind it. -/
def ofSwitch (switch : Switch) : Spelled :=
  if switch.takesValue then ⟨[], some switch⟩ else ⟨[⟨switch, none⟩], none⟩

/-- A switch with its value. Two dashes are none. -/
def ofValue (switch : Switch) (value : Text) : Spelled :=
  ⟨[⟨switch, if value = terminator then none else some value⟩], none⟩

/-- A flag before other letters. -/
def after (switch : Switch) (spelled : Spelled) : Spelled :=
  { spelled with settings := ⟨switch, none⟩ :: spelled.settings }

/-- A letter and what stands behind it: the value of its switch, or more letters. -/
def ofLetters (form : Form) (switch : Switch) (value : Text) : Except Misuse Spelled :=
  if switch.takesValue then .ok (ofValue switch value)
  else
    match value with
    | [] => .error (.unwantedValue switch [])
    | letter :: rest =>
      match form.find? [dash, letter] with
      | none => .error (.unwantedValue switch (letter :: rest))
      | some next =>
        (if rest.isEmpty then .ok (ofSwitch next) else ofLetters form next rest).map (after switch)
termination_by value.length

/-- What a reading sets. -/
def ofReading (form : Form) (reading : Reading) : Except Misuse Spelled :=
  match reading.value with
  | none => .ok (ofSwitch reading.switch)
  | some value =>
    if terminator.isPrefixOf reading.spelling then
      if reading.switch.takesValue then .ok (ofValue reading.switch value)
      else .error (.unwantedValue reading.switch value)
    else ofLetters form reading.switch value

end Spelled

/-- What has been read so far. -/
structure Scan where
  settings : List Setting
  operands : List Text
  /-- Arguments that are neither switches nor wanted operands. -/
  extras : List Text
  deriving DecidableEq, Repr

namespace Scan

/-- Nothing has been read. -/
def empty : Scan := ⟨[], [], []⟩

/-- Acts on a setting. -/
def set (scan : Scan) (setting : Setting) : Except Stop Scan :=
  match setting.switch.kind, setting.value with
  | .help, _ => .error .help
  | .number, some value =>
    if (Text.parseInt? value).isSome then .ok { scan with settings := scan.settings ++ [setting] }
    else .error (.misuse (.notNumber setting.switch value))
  | _, _ => .ok { scan with settings := scan.settings ++ [setting] }

/-- Puts an argument aside. -/
def putAside (scan : Scan) (argument : Text) : Scan :=
  { scan with extras := scan.extras ++ [argument] }

/-- Acts on settings, one after another. -/
def setEach (scan : Scan) (settings : List Setting) : Except Stop Scan :=
  settings.foldlM set scan

/-- Whether one more operand is wanted. -/
def wantsOperand (form : Form) (scan : Scan) : Bool :=
  match form.operands with
  | .one _ => scan.operands.isEmpty
  | _ => false

/-- Goes on with the tokens that are left. -/
def read (form : Form) (scan : Scan) : List Token → Except Stop Scan
  | [] => .ok scan
  | .unknown text :: tokens => read form (scan.putAside text) tokens
  | .switch _ reading :: tokens =>
    match Spelled.ofReading form reading with
    | .error misuse => .error (.misuse misuse)
    | .ok spelled =>
      match spelled.waiting, tokens with
      | none, tokens =>
        match scan.setEach spelled.settings with
        | .error stop => .error stop
        | .ok scan => read form scan tokens
      | some switch, .operand value :: tokens =>
        match scan.setEach (spelled.settings ++ [⟨switch, some value⟩]) with
        | .error stop => .error stop
        | .ok scan => read form scan tokens
      | some switch, _ => .error (.misuse (.missingValue switch))
  | .operand text :: tokens =>
    if form.operands = .everything then
      .ok { scan with operands := text :: tokens.map Token.text }
    else if scan.wantsOperand form then
      match tokens with
      | .terminator :: tokens => read form { scan with operands := [text] } tokens
      | tokens => read form { scan with operands := [text] } tokens
    else read form (scan.putAside text) tokens
  | .terminator :: tokens =>
    match tokens with
    | [] => .ok (scan.putAside terminator)
    | token :: tokens =>
      if form.operands = .everything then
        .ok { scan with operands := terminator :: token.text :: tokens.map Token.text }
      else if scan.wantsOperand form then
        read form { scan with operands := [token.text] } tokens
      else read form (scan.putAside terminator) (token :: tokens)

end Scan

/-- Takes arguments apart. -/
def Form.read (form : Form) (arguments : List Text) : Except Stop Scan :=
  match form.tokens arguments with
  | .error misuse => .error (.misuse misuse)
  | .ok tokens =>
    match Scan.empty.read form tokens with
    | .error stop => .error stop
    | .ok scan =>
      match form.operands with
      | .one name =>
        if scan.operands.isEmpty then .error (.misuse (.missingOperand name)) else .ok scan
      | _ => .ok scan

namespace Scan

/-- The last value of a switch: absent if the switch was not given, and an empty list if it was
given without a value. -/
def value (scan : Scan) (switch : Switch) : Cell :=
  match scan.settings.reverse.find? fun setting => setting.switch = switch with
  | none => .absent
  | some ⟨_, none⟩ => .list []
  | some ⟨_, some value⟩ => .ofText value

/-- A switch was given. -/
def isSet (scan : Scan) (switch : Switch) : Bool :=
  scan.settings.any fun setting => setting.switch = switch

end Scan

end Keyring.CommandLine
