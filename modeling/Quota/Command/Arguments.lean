import Quota.Command.Usage

set_option autoImplicit false

/-!
# Reading the command line

Words are read from left to right, first those of the program, then those of a subcommand. A value that stands apart
from its option stays pending until the next word that is understood; a word that is not understood is reported
before a pending value is looked at. What is still pending for the program is looked at after the subcommand.

This is one front end of the program. What is proved of the program holds for every other one too.
-/
namespace Quota.Arguments

inductive Flag where
  | budget
  | logLevel
deriving DecidableEq, Repr

inductive Pending where
  | option (flag : Flag) (value : Option String)
  | positional (value : String)
deriving DecidableEq, Repr

/-- Where the words stand: the whole program's, or a subcommand's. -/
inductive Place where
  | program
  | subcommand (c : Subcommand)
deriving DecidableEq, Repr

namespace Place

def slot? (p : Place) (i : Nat) : Option Slot :=
  match p with
  | .program => none
  | .subcommand c => c.slot? i

end Place

structure Reading where
  budget : Option Nat
  logLevel : Option String
  pending : Option Pending
  /-- The values looked at, latest first. -/
  values : List String
  filled : Nat
  /-- Whether all further words are values. -/
  verbatim : Bool
deriving DecidableEq, Repr

namespace Reading

def empty : Reading := ⟨none, none, none, [], 0, false⟩

/-- Store the value of an option; an option is given once. -/
def store (r : Reading) (flag : Flag) (value : String) : Except Usage Reading :=
  match flag with
  | .budget =>
    if r.budget.isSome then .error .repeated
    else
      match size? value with
      | some n => .ok { r with budget := some n }
      | none => .error .badValue
  | .logLevel => if r.logLevel.isSome then .error .repeated else .ok { r with logLevel := some value }

def settle (p : Place) (r : Reading) : Except Usage Reading :=
  let cleared := { r with pending := none }
  match r.pending with
  | none => .ok r
  | some (.option _ none) => .error .noValue
  | some (.option flag (some value)) => cleared.store flag value
  | some (.positional value) =>
    if p.slot? r.filled = some .number ∧ integer? value = none then .error .badValue
    else .ok { cleared with values := value :: r.values, filled := r.filled + 1 }

def nextValue (r : Reading) : Nat :=
  match r.pending with
  | some (.positional _) => r.filled + 1
  | _ => r.filled

def awaits (r : Reading) : Bool :=
  match r.pending with
  | some (.option _ none) => true
  | _ => false

def option (p : Place) (r : Reading) (flag : Flag) (attached : Option String) : Except Usage Reading :=
  match r.settle p with
  | .error u => .error u
  | .ok r =>
    match attached with
    | some value => r.store flag value
    | none => .ok { r with pending := some (.option flag none) }

/-- A request for help or the version, which ends the reading. -/
def request (p : Place) (r : Reading) (u : Usage) : Except Usage Reading :=
  match r.settle p with
  | .error u => .error u
  | .ok _ => .error u

def long (p : Place) (r : Reading) (cs : List Char) : Except Usage Reading :=
  let name := String.ofList (cs.takeWhile (· != '='))
  let attached := match cs.dropWhile (· != '=') with
    | [] => none
    | _ :: value => some (String.ofList value)
  match name, p with
  | "budget", _ => r.option p .budget attached
  | "log-level", _ => r.option p .logLevel attached
  | "help", _ => if attached.isSome then .error .valueNotTaken else r.request p .help
  | "version", .program => if attached.isSome then .error .valueNotTaken else r.request p .version
  | _, _ => .error .unknownArgument

/-- A word that opens with one dash: its first letter and the rest. -/
def short (p : Place) (r : Reading) (c : Char) (cs : List Char) : Except Usage Reading :=
  let attached := match cs with
    | [] => none
    | '=' :: value => some (String.ofList value)
    | value => some (String.ofList value)
  match c, p with
  | 'b', _ => r.option p .budget attached
  | 'l', _ => r.option p .logLevel attached
  | 'h', _ => r.request p .help
  | 'V', .program => r.request p .version
  | _, _ => .error .unknownArgument

/-- A word that is a value, of an option that waits for one or of the next place. -/
def value (p : Place) (r : Reading) (word : String) : Except Usage Reading :=
  match r.pending, r.verbatim with
  | some (.option flag none), false => .ok { r with pending := some (.option flag (some word)) }
  | _, _ =>
    match p.slot? r.nextValue with
    | none => .error .unknownArgument
    | some _ =>
      match r.settle p with
      | .error u => .error u
      | .ok r => .ok { r with pending := some (.positional word) }

def word (p : Place) (r : Reading) (word : String) : Except Usage Reading :=
  if r.verbatim then r.value p word
  else
    match word.toList with
    | ['-', '-'] => .ok { r with verbatim := true }
    | '-' :: '-' :: cs => r.long p cs
    | '-' :: c :: cs =>
      if p.slot? r.nextValue = some .number ∧ looksNumeric (c :: cs) then r.value p word else r.short p c cs
    | _ => r.value p word

end Reading

def readSubcommand (c : Subcommand) : Reading → List String → Except Usage Reading
  | r, [] => r.settle (.subcommand c)
  | r, word :: rest =>
    match r.word (.subcommand c) word with
    | .error u => .error u
    | .ok r => readSubcommand c r rest

/-- The invocation of a subcommand with the given words. What the subcommand's options leave open, the program's
decide. -/
def invoke (program : Reading) (c : Subcommand) (words : List String) : Except Usage Invocation :=
  match readSubcommand c .empty words with
  | .error u => .error u
  | .ok sub =>
    match c.command? sub.values.reverse, program.settle .program with
    | none, _ => .error .missingArgument
    | some _, .error u => .error u
    | some command, .ok program => .ok ⟨sub.budget.or program.budget, sub.logLevel.or program.logLevel, command⟩

/-- The subcommand of help names at most one subcommand, which may be itself. -/
def helpOn : List String → Usage
  | [] => .help
  | [name] => if name = "help" ∨ (Subcommand.ofName? name).isSome then .help else .unknownSubcommand
  | _ => .unknownSubcommand

/-- A word of the program that is neither an option nor an option's value. After two dashes even the name of a
subcommand is out of place. -/
def misplaced (r : Reading) (word : String) : Usage :=
  if r.verbatim && (word = "help" || (Subcommand.ofName? word).isSome) then .unknownArgument
  else .unknownSubcommand

/-- Whether a word of the program is to be taken as an option or an option's value. -/
def isOptional (r : Reading) (word : String) : Bool :=
  !r.verbatim && (r.awaits || (match word.toList with
    | '-' :: _ :: _ => true
    | _ => false))

def readProgram : Reading → List String → Except Usage Invocation
  | r, [] =>
    match r.settle .program with
    | .error u => .error u
    | .ok r => .error (if r.budget.isNone && r.logLevel.isNone then .nothingGiven else .missingSubcommand)
  | r, word :: rest =>
    if isOptional r word then
      match r.word .program word with
      | .error u => .error u
      | .ok r => readProgram r rest
    else if r.verbatim then .error (misplaced r word)
    else if word = "help" then .error (helpOn rest)
    else
      match Subcommand.ofName? word with
      | some c => invoke r c rest
      | none => .error (misplaced r word)

def parse (words : List String) : Except Usage Invocation := readProgram .empty words

end Quota.Arguments
