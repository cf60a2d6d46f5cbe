import Quota.Abort.Context
import Quota.Command.Execution
import Quota.Command.Usage
import Quota.Journal.Filter
import Quota.Text.Lines

set_option autoImplicit false

/-!
# The program

What a run of the program prints and how it exits. The journal, as far as the filter shows it, and the report on a
failed command go to standard error; the answer and the abort path write to standard output. How the words of the
command line and the filter are read is not the program's own business: it is given a front end that does so.
-/
namespace Quota.Program

structure FrontEnd where
  invocation : List String → Except Usage Invocation
  filter : String → Except DirectiveFault Filter

def versionLine : String := "srtd 0.1.0\n"

inductive Ending where
  | usage (u : Usage)
  | finished (status : Nat) (stdout stderr : String)
deriving DecidableEq, Repr

def start : Option Nat → Source × Books
  | none => (.heap, .ofLimits [])
  | some limit => (.budget 0, .ofLimits [limit])

def noteUsage (books : Books) : Books :=
  match books.ledgers with
  | l :: _ => books.note (.budgetUsage l.limit l.peak l.refusals)
  | [] => books

/-- Execute the command of an invocation, on books that may hold earlier events. -/
def run (alloc : Allocator) (inv : Invocation) (earlier : List Event) : Except CommandStop String × Books :=
  let (source, books) := start inv.budget
  match Execution.execute alloc source inv.command { books with journal := earlier } with
  | (.error (.abort fragments), books) => (.error (.abort fragments), books)
  | (r, books) => (r, noteUsage books)

def indent (first further : String) (text : String) : List String :=
  match text.splitOn "\n" with
  | [] => [first]
  | line :: rest => (first ++ line) :: rest.map fun l => further ++ l

/-- The report on a failure: what failed, and the causes, numbered if there are several. -/
def failureReport (title : String) (chain : List String) : List String :=
  let causes := match chain with
    | [cause] => indent "    " "    " cause
    | causes => (causes.zipIdx.map fun (cause, i) => indent s!"    {i}: " "       " cause).flatten
  ["Error: " ++ title, "", "Caused by:"] ++ causes

/-- The events up to the entry to the abort path, where the process ends. -/
def untilAbort : List Event → List Event
  | [] => []
  | e :: rest => if e.isAbort then [e] else e :: untilAbort rest

def deviceFull : String := "No space left on device (os error 28)"

/-- What the console notes where standard output has no room: one failed write and one failed flush. -/
def consoleEvents (full : Bool) : List Event :=
  if full then [.writeFailed deviceFull, .flushFailed deviceFull] else []

/-- The filter that the options and the environment ask for. One of the environment that cannot be read is passed
over. -/
def filter (front : FrontEnd) (logLevel environment : Option String) : Except DirectiveFault Filter :=
  match logLevel with
  | some s => front.filter s
  | none =>
    match environment.map front.filter with
    | some (.ok f) => .ok f
    | _ => .ok .warnings

def unprinted : Nat := 101

/-- Run the program with the given words, where `site` is the place from which a command enters the abort path,
`environment` is the filter that the environment asks for and `full` says that standard output has no room. -/
def launch (front : FrontEnd) (alloc : Allocator) (site : CallSite) (words : List String)
    (environment : Option String) (full : Bool) : Ending :=
  match front.invocation words with
  | .error .version => .finished 0 (if full then "" else versionLine) ""
  | .error u => .usage u
  | .ok inv =>
    match filter front inv.logLevel environment with
    | .error f => .finished 1 "" (Lines.join (failureReport "invalid --log-level filter" f.chain))
    | .ok filter =>
      let handler := (Handler.fresh.install .default).2
      let shown (events : List Event) : List String := (filter.select events).map Event.line
      match run alloc inv [.handlerInstalled handler.inForce.exitCode] with
      | (.ok text, books) =>
        if full then .finished unprinted "" (Lines.join (shown books.events))
        else .finished 0 (text ++ "\n") (Lines.join (shown books.events))
      | (.error (.failed chain), books) =>
        .finished 1 "" (Lines.join (shown books.events ++ failureReport (inv.command.debug ++ " failed") chain))
      | (.error (.abort fragments), books) =>
        let halt := handler.halt site fragments
        .finished halt.exitStatus (if full then "" else halt.message)
          (Lines.join (shown (untilAbort books.events ++ consoleEvents full)))

end Quota.Program
