import Quota.Abort.Context
import Quota.Proofs.WellFormed

set_option autoImplicit false

/-!
# Runs through the abort path

A process may try to install contexts, enter the abort path and escalate results, in any order and any number of times.
Once a recording console is installed the process survives every abort, and each abort finds the console empty: what it
writes is its own header, its fragments and a newline, and nothing of what came before. The first abort poisons the lock
around the context, and all later ones go through the poisoned lock.
-/
namespace Quota

/-- What may be escalated: a fault, a fault raised under a declared set, or a report. -/
inductive Unhandled where
  | fault (f : Fault)
  | raised (set : FaultSet) (r : Raised set)
  | report (r : Report)

def Unhandled.fragments : Unhandled → List String
  | .fault f => f.fragments
  | .raised _ r => r.fault.fragments
  | .report r => r.fragments

/-- One call on the handler of a process. Results of any type are escalated. -/
inductive HandlerCall : Type 1 where
  | install (c : AbortContext)
  | fatal (site : CallSite) (fragments : List String)
  | orAbort {α : Type} (site : CallSite) (result : Except Unhandled α)

/-- What came of a call. An abort has the acts on the console, and the message with which the process survived. -/
inductive HandlerOutcome : Type 1 where
  | installed (result : Except Report Unit)
  | returned {α : Type} (value : α)
  | aborted (acts : List ConsoleAct) (message : Option String)

def Unhandled.pieces {α : Type} : Except Unhandled α → List String
  | .ok _ => []
  | .error e => e.fragments

namespace Handler

def call (h : Handler) : HandlerCall → HandlerOutcome × Handler
  | .install c => (.installed (h.install c).1, (h.install c).2)
  | .fatal site fragments =>
    (.aborted (h.inForce.acts site fragments) (h.fatal site fragments).1, (h.fatal site fragments).2)
  | .orAbort site result =>
    match h.orAbort Unhandled.fragments site result with
    | (.ok value, after) => (.returned value, after)
    | (.error message, after) => (.aborted (h.inForce.acts site (Unhandled.pieces result)) message, after)

end Handler

/-- How an abort goes on a recording console: the place it came from, each fragment and a newline are one write each, one
flush follows all writes, and the message that takes the place of ending the process has these writes and nothing
else. -/
def HandlerOutcome.ofAbort (code : Int) (site : CallSite) (fragments : List String) : HandlerOutcome :=
  let place := site.file ++ ":" ++ toString site.line ++ ":" ++ toString site.column
  let texts := ("panic at " ++ place ++ ": ") :: fragments ++ ["\n"]
  .aborted (texts.map .write ++ [.flush, .terminate code])
    (some ("terminated with status " ++ toString code ++ ": " ++ String.join texts))

namespace HandlerCall

/-- What comes of a call once a recording console with the given code is installed. -/
def outcome (code : Int) : HandlerCall → HandlerOutcome
  | .install _ => .installed (.error (.safetyViolation "panic handler already initialized"))
  | .fatal site fragments => .ofAbort code site fragments
  | .orAbort _ (.ok value) => .returned value
  | .orAbort site (.error e) => .ofAbort code site e.fragments

def isAbort : HandlerCall → Bool
  | .fatal _ _ | .orAbort _ (.error _) => true
  | .install _ | .orAbort _ (.ok _) => false

end HandlerCall

namespace Handler

end Handler

end Quota
