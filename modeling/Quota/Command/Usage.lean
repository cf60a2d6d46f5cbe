import Quota.Command.Basic
import Quota.Storage.Ledger
import Quota.Text.Numeral
import Quota.Word.Basic

set_option autoImplicit false

/-!
# Vocabulary of the command line

Why a command line is not run, the options it may give, the values each subcommand takes, and how numbers are read.
-/
namespace Quota

inductive Usage where
  | help
  | version
  | nothingGiven
  | missingSubcommand
  | missingArgument
  | unknownSubcommand
  | unknownArgument
  | repeated
  | noValue
  | badValue
  | valueNotTaken
deriving DecidableEq, Repr

namespace Usage

def name : Usage → String
  | .help => "DisplayHelp"
  | .version => "DisplayVersion"
  | .nothingGiven => "DisplayHelpOnMissingArgumentOrSubcommand"
  | .missingSubcommand => "MissingSubcommand"
  | .missingArgument => "MissingRequiredArgument"
  | .unknownSubcommand => "InvalidSubcommand"
  | .unknownArgument => "UnknownArgument"
  | .repeated => "ArgumentConflict"
  | .noValue => "InvalidValue"
  | .badValue => "ValueValidation"
  | .valueNotTaken => "TooManyValues"

/-- Asking for help or the version is no mistake. -/
def exitStatus : Usage → Nat
  | .help => 0
  | .version => 0
  | _ => 2

end Usage

structure Invocation where
  budget : Option Nat
  logLevel : Option String
  command : Command
deriving DecidableEq, Repr

namespace Arguments

/-- An addressable size, with an optional plus sign. -/
def size? (s : String) : Option Nat := (Numeral.natural? addressSpace s).filter fun n => decide (n < addressSpace)

def integer? (s : String) : Option Int :=
  (Numeral.integer? addressSpace s).filter fun v => (Word.ofInt? v).isSome

/-- Whether characters look like a number: digits, one point that is not first, and one exponent mark that is neither
first nor last. -/
def looksNumeric (cs : List Char) : Bool :=
  let whole := cs.takeWhile Char.isDigit
  let afterWhole := cs.dropWhile Char.isDigit
  let (pointed, rest) := match afterWhole with
    | '.' :: rest => (true, rest.dropWhile Char.isDigit)
    | rest => (false, rest)
  let exponent := match rest with
    | [] => true
    | mark :: ds => (mark == 'e' || mark == 'E') && !ds.isEmpty && ds.all Char.isDigit
  exponent && (!whole.isEmpty || (!pointed && rest.isEmpty))

inductive Slot where
  | text
  | number
deriving DecidableEq, Repr

inductive Subcommand where
  | scenarios
  | format
  | replace
  | substr
  | push
deriving DecidableEq, Repr

namespace Subcommand

def ofName? : String → Option Subcommand
  | "scenarios" => some .scenarios
  | "format" => some .format
  | "replace" => some .replace
  | "substr" => some .substr
  | "push" => some .push
  | _ => none

def slots : Subcommand → List Slot
  | .scenarios => []
  | .format => [.text]
  | .replace => [.text, .text, .text, .number]
  | .substr => [.text, .number, .number]
  | .push => [.number]

/-- The place of the value with a given number, if there is one. Formatting takes any number of texts. -/
def slot? (c : Subcommand) (i : Nat) : Option Slot :=
  match c with
  | .format => some .text
  | c => c.slots[i]?

def command? (c : Subcommand) (values : List String) : Option Command :=
  match c, values with
  | .scenarios, [] => some .scenarios
  | .format, lead :: args => some (.format lead args)
  | .replace, [text, needle, insert, count] => (integer? count).map fun n => .replace text needle insert n
  | .substr, [text, start, stop] =>
    match integer? start, integer? stop with
    | some a, some b => some (.substr text a b)
    | _, _ => none
  | .push, [count] => (integer? count).map fun n => .push n
  | _, _ => none

end Subcommand

end Arguments

end Quota
