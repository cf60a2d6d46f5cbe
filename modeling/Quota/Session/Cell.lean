import Quota.ByteString.Basic
import Quota.Storage.ElementType

set_option autoImplicit false

/-!
# Cells

The elements of a session's arrays and vectors, whose type is known only while the session runs.
-/
namespace Quota

inductive Cell where
  | number (v : Int)
  | flag (b : Bool)
  | string (s : ByteString)
deriving DecidableEq, Repr

namespace Cell

def zero : ElementType → Cell
  | .flag => .flag false
  | .string => .string .empty
  | _ => .number 0

/-- End the charge of a string; numbers and flags have none. -/
def release : Cell → Books → Books
  | .string s, books => s.release books
  | _, books => books

def debug : Cell → String
  | .number v => toString v
  | .flag b => toString b
  | .string s => s.debug

def string? : Cell → Option ByteString
  | .string s => some s
  | _ => none

end Cell

namespace ElementType

def bounds? : ElementType → Option (Int × Int)
  | .word => some (minWord, maxWord)
  | .byte => some (0, 255)
  | .int32 => some (-2147483648, 2147483647)
  | .nat32 => some (0, 4294967295)
  | .nat64 => some (0, 18446744073709551615)
  | .flag => none
  | .string => none

def holds (t : ElementType) (v : Int) : Bool :=
  match t.bounds? with
  | some (lo, hi) => decide (lo ≤ v) && decide (v ≤ hi)
  | none => false

/-- The cell of a number cut down to the type's bits, for types other than strings. -/
def truncate (t : ElementType) (v : Int) : Cell :=
  match t with
  | .word => .number (v.bmod 18446744073709551616)
  | .byte => .number (v % 256)
  | .flag => .flag (decide (v % 2 = 1))
  | .int32 => .number (v.bmod 4294967296)
  | .nat32 => .number (v % 4294967296)
  | .nat64 => .number (v % 18446744073709551616)
  | .string => .number v

end ElementType

end Quota
