import Quota.Fault.Report

set_option autoImplicit false

/-!
# Registered element types

Every element type has a registered name and a registered size in bytes. Storage is charged by the registered size.
-/
namespace Quota

inductive ElementType where
  | word
  | byte
  | flag
  | int32
  | nat32
  | nat64
  | string
deriving DecidableEq, Repr

namespace ElementType

def all : List ElementType := [.word, .byte, .flag, .int32, .nat32, .nat64, .string]

def name : ElementType → String
  | .word => "i64"
  | .byte => "u8"
  | .flag => "bool"
  | .int32 => "i32"
  | .nat32 => "u32"
  | .nat64 => "u64"
  | .string => "Str"

/-- The registered size in bytes. -/
def size : ElementType → Nat
  | .word => 8
  | .byte => 1
  | .flag => 1
  | .int32 => 4
  | .nat32 => 4
  | .nat64 => 8
  | .string => 16

def ofName? (s : String) : Option ElementType := all.find? fun t => t.name == s

def unknownName (s : String) : Report := Report.unknownType ("unknown type name: " ++ s)

def debug (t : ElementType) : String :=
  Quoted.record "TypeDescriptor" [("name", Quoted.text t.name), ("size", toString t.size)]

end ElementType

end Quota
