import Quota.Fault.Category
import Quota.Text.Quoted

set_option autoImplicit false

/-!
# Kinds of faults, and faults

A kind fixes the name, category and code of its faults. A fault is a kind with a message.
-/
namespace Quota

/-- What all faults of one kind share. -/
structure Kind where
  name : String
  category : Category
  code : UInt16
deriving DecidableEq, Repr

namespace Kind

/-- Storage was refused. -/
def alloc : Kind := ⟨"AllocError", .resource, Code.allocationFailed⟩

/-- An index or range lies outside the live elements. -/
def index : Kind := ⟨"IndexOutOfBoundsError", .core, Code.outOfBounds⟩

/-- A checked operation left the range of words. -/
def overflow : Kind := ⟨"OverflowError", .execution, Code.integerOverflow⟩

/-- A value is not a byte. -/
def byteOverflow : Kind := ⟨"ByteOverflowError", .execution, Code.byteOverflow⟩

/-- A text does not denote a scalar. -/
def conversion : Kind := ⟨"ConversionError", .parse, Code.conversionError⟩

/-- The kinds that the operations of this library raise. -/
def all : List Kind := [alloc, index, overflow, byteOverflow, conversion]

def ofName? (s : String) : Option Kind := all.find? fun k => k.name == s

end Kind

structure Fault where
  kind : Kind
  message : String
deriving DecidableEq, Repr

namespace Fault

/-- The kind's name, then the message. -/
def display (f : Fault) : String := f.kind.name ++ ": " ++ f.message

def debug (f : Fault) : String := Quoted.record f.kind.name [("message", Quoted.text f.message)]

/-- What the abort path writes for an unhandled fault, piece by piece. -/
def fragments (f : Fault) : List String := [f.kind.name, ": ", f.message]

end Fault

end Quota
