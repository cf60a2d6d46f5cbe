import Quota.Abort.Console
import Quota.Fault.Report

set_option autoImplicit false

/-!
# Abort contexts and their handler

A context says where the abort path writes and with which code the process ends. The handler of a process takes one
context at most; the first stays in force. Without one the abort path writes to standard output and ends with code 1.

The installed context stands behind a lock, which the abort path holds until the process ends. A recording console does
not end the process but unwinds, and leaves the lock poisoned.
-/
namespace Quota

/-- A place in a program text, from which the abort path is entered. -/
structure CallSite where
  file : String
  line : Nat
  column : Nat
deriving DecidableEq, Repr

/-- A value behind a lock. The lock is poisoned when one who held it unwound. -/
structure Locked (α : Type) where
  value : α
  poisoned : Bool
deriving DecidableEq, Repr

namespace Locked

variable {α : Type}

def fresh (a : α) : Locked α := ⟨a, false⟩

/-- What one who asks for the lock is given. A poisoned lock gives its value as an error. -/
def acquire (l : Locked α) : Except α α := if l.poisoned then .error l.value else .ok l.value

/-- The value, whether the lock was poisoned or not. -/
def recover : Except α α → α
  | .ok a => a
  | .error a => a

@[simp] theorem recover_acquire (l : Locked α) : recover l.acquire = l.value := by
  unfold acquire
  cases l.poisoned with
  | false => rfl
  | true => rfl

end Locked

inductive Console where
  | standard
  | recording (r : Recording)
deriving DecidableEq, Repr

structure AbortContext where
  console : Console
  exitCode : Int
deriving DecidableEq, Repr

namespace AbortContext

def defaultExitCode : Int := 1

/-- The context in force where none is installed. -/
def default : AbortContext := ⟨.standard, defaultExitCode⟩

/-- A context with an exit code, which must not be that of success. -/
def build (console : Console) (exitCode : Int) : Except Report AbortContext :=
  if exitCode = 0 then .error (.invalidArgument "panic exit code must be nonzero") else .ok ⟨console, exitCode⟩

def header (site : CallSite) : String := s!"panic at {site.file}:{site.line}:{site.column}: "

/-- What the abort path does: it writes the header, each fragment and a newline, flushes once and ends the process. -/
def acts (c : AbortContext) (site : CallSite) (fragments : List String) : List ConsoleAct :=
  .write (header site) :: fragments.map .write ++ [.write "\n", .flush, .terminate c.exitCode]

/-- The context as a labelled record whose other fields are left out. -/
def debug (c : AbortContext) : String := s!"PanicContext \x7b exit_code: {c.exitCode}, .. \x7d"

end AbortContext

/-- How a process ended in the abort path. -/
structure Halt where
  writes : List String
  flushes : Nat
  code : Int
deriving DecidableEq, Repr

namespace Halt

def ofActs : List ConsoleAct → Halt
  | [] => ⟨[], 0, 0⟩
  | .write text :: rest => { ofActs rest with writes := text :: (ofActs rest).writes }
  | .flush :: rest => { ofActs rest with flushes := (ofActs rest).flushes + 1 }
  | .terminate code :: _ => ⟨[], 0, code⟩

def message (h : Halt) : String := String.join h.writes

/-- The exit status that the operating system keeps of a code. -/
def exitStatus (h : Halt) : Nat := (h.code % 256).toNat

end Halt

structure Handler where
  context : Option (Locked AbortContext)
deriving DecidableEq, Repr

namespace Handler

def fresh : Handler := ⟨none⟩

def isInitialized (h : Handler) : Bool := h.context.isSome

/-- Install a context, unless one is installed. -/
def install (h : Handler) (c : AbortContext) : Except Report Unit × Handler :=
  match h.context with
  | none => (.ok (), ⟨some (.fresh c)⟩)
  | some _ => (.error (.safetyViolation "panic handler already initialized"), h)

/-- The context that the abort path gets hold of. -/
def inForce (h : Handler) : AbortContext :=
  match h.context with
  | some l => Locked.recover l.acquire
  | none => .default

/-- How the process ends when it enters the abort path. -/
def halt (h : Handler) (site : CallSite) (fragments : List String) : Halt :=
  .ofActs (h.inForce.acts site fragments)

/-- Enter the abort path. With a recording console the process survives, and the answer is the message it is left
with. The lock was held until then. -/
def fatal (h : Handler) (site : CallSite) (fragments : List String) : Option String × Handler :=
  match h.inForce with
  | ⟨.recording r, code⟩ =>
    let (message, r) := r.perform (AbortContext.acts ⟨.recording r, code⟩ site fragments)
    (message, ⟨some ⟨⟨.recording r, code⟩, true⟩⟩)
  | _ => (none, h)

/-- Hand on a value, or enter the abort path with the fragments of what went wrong. -/
def orAbort {ε α : Type} (fragments : ε → List String) (h : Handler) (site : CallSite) :
    Except ε α → Except (Option String) α × Handler
  | .ok a => (.ok a, h)
  | .error e =>
    let (message, h) := h.fatal site (fragments e)
    (.error message, h)

end Handler

end Quota
