import Keyring.CommandLine.Grammar
import Keyring.Session

/-!
# Options

What the arguments of the program say: what is wanted of the session, and the command with what it
needs. `parse` reads the switches of the program first, then the command, and leaves everything
behind the command to the form of that command.
-/

namespace Keyring.CommandLine

open Text (lit)

/-- The commands, without what they are about. -/
inductive Verb where
  | create
  | list
  | remove
  | verify
  | statistics
  | logs
  deriving DecidableEq, Repr

/-- A command. -/
inductive Command where
  | create
  | list
  /-- Remove an id, by force without asking. -/
  | remove (id : Text) (force : Bool)
  /-- Check a secret, which is asked for if it is absent. -/
  | verify (id : Text) (secret : Cell)
  | statistics
  | logs (count : Cell)
  deriving DecidableEq, Repr

/-- What the arguments say. -/
structure Options where
  wishes : Session.Wishes
  command : Option Command
  deriving DecidableEq, Repr

/-- Arguments that are not acted on, by what they ask the program or one of its commands. -/
structure Refusal where
  verb : Option Verb
  stop : Stop
  deriving DecidableEq, Repr

/-- Asks for help. -/
def helpSwitch : Switch := ⟨[lit "-h", lit "--help"], .help⟩

/-- Names the file of the keychain. -/
def keychainSwitch : Switch := ⟨[lit "--keychain", lit "-k"], .text⟩

/-- Names the directory of the logs. -/
def logsSwitch : Switch := ⟨[lit "--log-dir"], .text⟩

/-- Wants events on the console. -/
def verboseSwitch : Switch := ⟨[lit "--verbose", lit "-v"], .flag⟩

/-- Wants a removal without a question. -/
def forceSwitch : Switch := ⟨[lit "--force", lit "-f"], .flag⟩

/-- Gives a secret. -/
def secretSwitch : Switch := ⟨[lit "--secret", lit "-s"], .text⟩

/-- Says how many lines to show. -/
def linesSwitch : Switch := ⟨[lit "--lines", lit "-n"], .number⟩

/-- How many lines are shown to those who do not say how many they want. -/
def defaultLines : Int := 50

/-- What the program takes. -/
def programForm : Form :=
  ⟨[helpSwitch, keychainSwitch, logsSwitch, verboseSwitch], .everything⟩

namespace Verb

/-- All commands, in the order in which help lists them. -/
def all : List Verb :=
  [.create, .list, .remove, .verify, .statistics, .logs]

/-- The word for a command. -/
def word : Verb → Text
  | .create => lit "create"
  | .list => lit "list"
  | .remove => lit "remove"
  | .verify => lit "verify"
  | .statistics => lit "stats"
  | .logs => lit "logs"

/-- The command of a word. -/
def ofWord? (word : Text) : Option Verb :=
  all.find? fun verb => verb.word = word

/-- The name of the operand that is an id. -/
def idName : Text :=
  lit "id"

/-- What a command takes. -/
def form : Verb → Form
  | .create => ⟨[helpSwitch], .none⟩
  | .list => ⟨[helpSwitch], .none⟩
  | .remove => ⟨[helpSwitch, forceSwitch], .one idName⟩
  | .verify => ⟨[helpSwitch, secretSwitch], .one idName⟩
  | .statistics => ⟨[helpSwitch], .none⟩
  | .logs => ⟨[helpSwitch, linesSwitch], .none⟩

/-- How many lines are wanted. -/
def linesOf (scan : Scan) : Cell :=
  match scan.value linesSwitch with
  | .absent => .ofInt defaultLines
  | .ofText text => .ofInt ((Text.parseInt? text).getD defaultLines)
  | value => value

/-- A command with what its arguments say. -/
def command (scan : Scan) : Verb → Command
  | .create => .create
  | .list => .list
  | .remove => .remove (scan.operands.head?.getD []) (scan.isSet forceSwitch)
  | .verify => .verify (scan.operands.head?.getD []) (scan.value secretSwitch)
  | .statistics => .statistics
  | .logs => .logs (linesOf scan)

end Verb

namespace Options

/-- What the switches of the program say. -/
def wishesOf (scan : Scan) : Session.Wishes :=
  ⟨scan.value keychainSwitch, scan.value logsSwitch, scan.isSet verboseSwitch⟩

/-- Options, unless some arguments are left over. -/
def unlessExtra (extras : List Text) (options : Options) : Except Refusal Options :=
  if extras.isEmpty then .ok options
  else .error ⟨none, .misuse (.unrecognized extras)⟩

/-- What arguments say, or why they are not acted on. -/
def parse (arguments : List Text) : Except Refusal Options :=
  match programForm.read arguments with
  | .error stop => .error ⟨none, stop⟩
  | .ok program =>
    match program.operands with
    | [] => unlessExtra program.extras ⟨wishesOf program, none⟩
    | word :: others =>
      match Verb.ofWord? word with
      | none => .error ⟨none, .misuse (.unknownCommand word)⟩
      | some verb =>
        match verb.form.read others with
        | .error stop => .error ⟨some verb, stop⟩
        | .ok scan =>
          unlessExtra (program.extras ++ scan.extras) ⟨wishesOf program, some (verb.command scan)⟩

end Options

end Keyring.CommandLine
