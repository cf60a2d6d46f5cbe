import Quota.Text.Utf8

set_option autoImplicit false

/-!
# Consoles of the abort path

The abort path acts on its console by writing, flushing and ending the process. A recording console keeps what was
written and, in place of ending the process, yields a message that holds all of it.
-/
namespace Quota

/-- One act on a console. -/
inductive ConsoleAct where
  | write (text : String)
  | flush
  | terminate (code : Int)
deriving DecidableEq, Repr

/-- What a recording console holds. -/
structure Recording where
  output : List UInt8
  flushes : Nat
deriving DecidableEq, Repr

namespace Recording

def empty : Recording := ⟨[], 0⟩

def write (r : Recording) (bytes : List UInt8) : Recording := { r with output := r.output ++ bytes }

def flush (r : Recording) : Recording := { r with flushes := r.flushes + 1 }

/-- The text written so far. -/
def text (r : Recording) : String := Utf8.lossy r.output

/-- The message that takes the place of ending the process; the output is drained into it. -/
def terminate (r : Recording) (code : Int) : String × Recording :=
  (s!"terminated with status {code}: {r.text}", { r with output := [] })

/-- Perform acts up to the first that terminates. The message is that of the termination. -/
def perform : List ConsoleAct → Recording → Option String × Recording
  | [], r => (none, r)
  | .write text :: rest, r => perform rest (r.write (Utf8.encode text))
  | .flush :: rest, r => perform rest r.flush
  | .terminate code :: _, r => ((r.terminate code).1 |> some, (r.terminate code).2)

end Recording

end Quota
