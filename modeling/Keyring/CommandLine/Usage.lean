import Keyring.CommandLine.Options

/-!
# Usage and help

What the program says about its arguments: one usage for the program and for each command, the help
below it, and the message for each misuse.
-/

namespace Keyring.CommandLine

open Text (lit)

/-- Lines, each with a newline. -/
def linesOf (lines : List String) : Text :=
  lines.flatMap fun line => lit line ++ [10]

/-- The name of the program. -/
def programName : Text :=
  lit "access-keychain"

/-- The name under which the program, or one of its commands, reports a misuse. -/
def reporter : Option Verb → Text
  | none => programName
  | some verb => programName ++ lit " " ++ verb.word

/-- The usage of the program or of a command. -/
def usage : Option Verb → Text
  | none => linesOf
    ["usage: access-keychain [-h] [--keychain KEYCHAIN] [--log-dir LOG_DIR]",
     "                       [--verbose]",
     "                       \x7bcreate,list,remove,verify,stats,logs\x7d ..."]
  | some .create => linesOf ["usage: access-keychain create [-h]"]
  | some .list => linesOf ["usage: access-keychain list [-h]"]
  | some .remove => linesOf ["usage: access-keychain remove [-h] [--force] id"]
  | some .verify => linesOf ["usage: access-keychain verify [-h] [--secret SECRET] id"]
  | some .statistics => linesOf ["usage: access-keychain stats [-h]"]
  | some .logs => linesOf ["usage: access-keychain logs [-h] [--lines LINES]"]

/-- The help of the program below its usage. -/
def programHelp : List String :=
  ["",
   "Manage API access keys",
   "",
   "positional arguments:",
   "  \x7bcreate,list,remove,verify,stats,logs\x7d",
   "                        Available commands",
   "    create              Create a new access key",
   "    list                List access key ids",
   "    remove              Remove an access key",
   "    verify              Check a secret against a key",
   "    stats               Show keychain statistics",
   "    logs                View audit logs",
   "",
   "options:",
   "  -h, --help            show this help message and exit",
   "  --keychain KEYCHAIN, -k KEYCHAIN",
   "                        Keychain file",
   "  --log-dir LOG_DIR     Audit log directory (default: ~/.access_keychain/logs)",
   "  --verbose, -v         Echo audit log entries to the console",
   "",
   "Examples:",
   "  access-keychain create                  # Create a new access key",
   "  access-keychain list                    # List key ids",
   "  access-keychain remove ABC123...        # Remove a key",
   "  access-keychain verify ABC123...        # Check a secret for a key",
   "",
   "The keychain file defaults to $ACCESS_KEYCHAIN_FILE or ~/.access_keychain/access.keychain",
   "            "]

/-- The help of a command without switches of its own. -/
def plainHelp : List String :=
  ["",
   "options:",
   "  -h, --help  show this help message and exit"]

/-- The help of the command that removes. -/
def removeHelp : List String :=
  ["",
   "positional arguments:",
   "  id           Key ID",
   "",
   "options:",
   "  -h, --help   show this help message and exit",
   "  --force, -f  Skip confirmation"]

/-- The help of the command that verifies. -/
def verifyHelp : List String :=
  ["",
   "positional arguments:",
   "  id                    Key ID",
   "",
   "options:",
   "  -h, --help            show this help message and exit",
   "  --secret SECRET, -s SECRET",
   "                        Secret (will prompt if not provided)"]

/-- The help of the command that shows logs. -/
def logsHelp : List String :=
  ["",
   "options:",
   "  -h, --help            show this help message and exit",
   "  --lines LINES, -n LINES",
   "                        Number of lines to show (default: 50)"]

/-- Usage and help of the program or of a command. -/
def help (verb : Option Verb) : Text :=
  usage verb ++ linesOf
    (match verb with
      | none => programHelp
      | some .remove => removeHelp
      | some .verify => verifyHelp
      | some .logs => logsHelp
      | some _ => plainHelp)

/-- A message about an argument. -/
def about (label message : Text) : Text :=
  lit "argument " ++ label ++ lit ": " ++ message

namespace Misuse

/-- What is wrong, in words. -/
def message : Misuse → Text
  | .ambiguous argument candidates =>
    lit "ambiguous option: " ++ argument ++ lit " could match " ++ Text.join (lit ", ") candidates
  | .missingValue switch => about switch.label (lit "expected one argument")
  | .unwantedValue switch value =>
    about switch.label (lit "ignored explicit argument " ++ Text.quoted value)
  | .notNumber switch value =>
    about switch.label (lit "invalid int value: " ++ Text.quoted value)
  | .unknownCommand word =>
    about (lit "command")
      (lit "invalid choice: " ++ Text.quoted word ++ lit " (choose from " ++
        Text.join (lit ", ") (Verb.all.map fun verb => Text.quoted verb.word) ++ lit ")")
  | .missingOperand name => lit "the following arguments are required: " ++ name
  | .unrecognized arguments =>
    lit "unrecognized arguments: " ++ Text.join (lit " ") arguments

end Misuse

/-- The report of a misuse, below the usage. -/
def report (verb : Option Verb) (misuse : Misuse) : Text :=
  usage verb ++ reporter verb ++ lit ": error: " ++ misuse.message ++ [10]

end Keyring.CommandLine
