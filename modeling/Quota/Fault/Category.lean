set_option autoImplicit false

/-!
# Categories and codes of faults

A category groups faults by the part of the system that is concerned; its rank orders the groups. Codes are fixed
sixteen-bit numbers.
-/
namespace Quota

inductive Category where
  | core
  | resource
  | memory
  | validation
  | typing
  | execution
  | system
  | unknown
  | parse
  | capacity
  | safety
deriving DecidableEq, Repr

namespace Category

/-- All categories, in rank order. -/
def all : List Category :=
  [.core, .resource, .memory, .validation, .typing, .execution, .system, .unknown, .parse, .capacity, .safety]

/-- The fixed number by which categories are ordered. -/
def rank : Category → Nat
  | .core => 1
  | .resource => 3
  | .memory => 4
  | .validation => 5
  | .typing => 6
  | .execution => 7
  | .system => 8
  | .unknown => 9
  | .parse => 10
  | .capacity => 12
  | .safety => 16

def name : Category → String
  | .core => "Core"
  | .resource => "Resource"
  | .memory => "Memory"
  | .validation => "Validation"
  | .typing => "Type"
  | .execution => "Runtime"
  | .system => "System"
  | .unknown => "Unknown"
  | .parse => "Parse"
  | .capacity => "Capacity"
  | .safety => "Safety"

def ofName? (s : String) : Option Category := all.find? fun c => c.name == s

/-- The order of ranks. -/
def compare (a b : Category) : Ordering := Ord.compare a.rank b.rank

end Category

namespace Code

def parseError : UInt16 := 1010
def outOfBounds : UInt16 := 1012
def capacityExceeded : UInt16 := 1016
def resourceExhausted : UInt16 := 3008
def allocationFailed : UInt16 := 3009
def invalidArgument : UInt16 := 5002
def invalidType : UInt16 := 6000
def unknownTypeName : UInt16 := 6001
def safetyViolation : UInt16 := 7000
def conversionError : UInt16 := 8002
def integerOverflow : UInt16 := 8606
def byteOverflow : UInt16 := 8607
def unknown : UInt16 := 9999

/-- Every code under the name by which it is published. -/
def table : List (String × UInt16) :=
  [("PARSE_ERROR", parseError), ("OUT_OF_BOUNDS_ERROR", outOfBounds), ("CAPACITY_EXCEEDED", capacityExceeded),
    ("RESOURCE_EXHAUSTED", resourceExhausted), ("ALLOCATION_FAILED", allocationFailed),
    ("INVALID_ARGUMENT", invalidArgument), ("INVALID_TYPE", invalidType),
    ("UNKNOWN_TYPE_NAME", unknownTypeName), ("SAFETY_VIOLATION", safetyViolation),
    ("CONVERSION_ERROR", conversionError), ("INTEGER_OVERFLOW", integerOverflow),
    ("BYTE_OVERFLOW", byteOverflow), ("UNKNOWN", unknown)]

end Code

end Quota
