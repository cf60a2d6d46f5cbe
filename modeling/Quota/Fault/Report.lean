import Quota.Fault.Declared
import Quota.Text.Hex

set_option autoImplicit false

/-!
# Reports

A report is a fault without its kind: category, code and message. Its display form opens with category and code
between brackets.
-/
namespace Quota

structure Report where
  category : Category
  code : UInt16
  message : String
deriving DecidableEq, Repr

namespace Report

/-- Forget the kind of a fault. -/
def ofFault (f : Fault) : Report := ⟨f.kind.category, f.kind.code, f.message⟩

def allocationFailed (message : String) : Report := ⟨.resource, Code.allocationFailed, message⟩
def outOfBounds (message : String) : Report := ⟨.core, Code.outOfBounds, message⟩
def integerOverflow (message : String) : Report := ⟨.execution, Code.integerOverflow, message⟩
def byteOverflow (message : String) : Report := ⟨.execution, Code.byteOverflow, message⟩
def capacityExceeded (message : String) : Report := ⟨.capacity, Code.capacityExceeded, message⟩
def conversionError (message : String) : Report := ⟨.parse, Code.conversionError, message⟩
def unknownType (message : String) : Report := ⟨.typing, Code.unknownTypeName, message⟩
def safetyViolation (message : String) : Report := ⟨.safety, Code.safetyViolation, message⟩
def invalidArgument (message : String) : Report := ⟨.validation, Code.invalidArgument, message⟩

/-- A text could not be written. -/
def formatting : Report := ⟨.system, Code.unknown, "Formatting error"⟩

/-- Category and code between brackets, then the message. -/
def display (r : Report) : String :=
  "[" ++ r.category.name ++ "][E" ++ String.ofList (Hex.code r.code) ++ "] " ++ r.message

def debug (r : Report) : String :=
  Quoted.record "Error"
    [("category", r.category.name), ("code", toString r.code.toNat), ("message", Quoted.text r.message)]

/-- What the abort path writes for an unhandled report, piece by piece. -/
def fragments (r : Report) : List String := ["Error", ": ", r.message]

def isOf (r : Report) (c : Category) : Bool := decide (r.category = c)

end Report

end Quota
