import Quota.Command.Arguments
import Quota.Command.Program

set_option autoImplicit false

/-!
# Entry point

Reads the command line and the environment, runs the program, prints what it printed and exits as it exited.
-/

/-- Usage texts are reduced to the name of the mistake. -/
def main (words : List String) : IO UInt32 := do
  let environment ← IO.getEnv "RUST_LOG"
  let site : Quota.CallSite := ⟨"Quota/Main.lean", 18, 8⟩
  match Quota.Program.launch ⟨Quota.Arguments.parse, Quota.Filter.parse⟩ (Quota.Allocator.machine 40) site words
      environment false with
  | .usage u =>
    IO.eprintln u.name
    return UInt32.ofNat u.exitStatus
  | .finished status stdout stderr =>
    IO.eprint stderr
    IO.print stdout
    return UInt32.ofNat status
