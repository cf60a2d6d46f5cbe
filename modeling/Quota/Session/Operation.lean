import Quota.Container.CappedVector
import Quota.Container.FixedArray
import Quota.Session.Cell

set_option autoImplicit false

/-!
# Operations of a session and its replies

Strings, arrays and vectors are named, each in a name space of their own. Operations that make a value say under which
name it is kept.
-/
namespace Quota

/-- A value as a request gives it. A name stands for a string, which is moved to where the value goes. -/
inductive Operand where
  | number (v : Int)
  | flag (b : Bool)
  | name (s : String)
deriving DecidableEq, Repr

inductive DirectOperation where
  | acquire (bytes : Nat)
  | giveBack (bytes : Nat)
deriving DecidableEq, Repr

inductive StringOperation where
  | literal (out : String) (bytes : List UInt8)
  | ofBytes (out : String) (bytes : List UInt8)
  | ofInt (out : String) (v : Int)
  | ofByte (out : String) (b : UInt8)
  | substring (out s : String) (start stop : Int)
  | concat (out s t : String)
  | replace (out s needle insert : String) (limit : Int)
  | clone (out s : String)
  | format (out s args : String)
  | toWord (s : String)
  | find (s needle : String)
  | contains (s needle : String)
  | same (s t : String)
  | describe (s : String)
  | delete (s : String)
deriving DecidableEq, Repr

inductive ArrayOperation where
  | zeros (element : ElementType) (out : String) (capacity : Int)
  | ofValues (element : ElementType) (out : String) (values : List Operand)
  | get (a : String) (index : Int)
  | set (a : String) (index : Int) (value : Operand)
  | describe (a : String)
  | delete (a : String)
deriving DecidableEq, Repr

inductive VectorOperation where
  | create (element : ElementType) (out : String)
  | push (v : String) (value : Operand)
  | pushRange (v : String) (start count : Int)
  | get (v : String) (index : Int)
  | describe (v : String)
  | delete (v : String)
deriving DecidableEq, Repr

inductive Operation where
  | direct (o : DirectOperation)
  | string (o : StringOperation)
  | array (o : ArrayOperation)
  | vector (o : VectorOperation)
deriving DecidableEq, Repr

/-- An operation, the source it names, and whether its faults enter the abort path. -/
structure Request where
  source : Nat
  escalate : Bool
  operation : Operation
deriving DecidableEq, Repr

inductive Answer where
  | nothing
  | number (v : Int)
  | flag (b : Bool)
  | string (s : ByteString)
  | description (s : ByteString)
  | cell (c : Cell)
  | array (a : FixedArray Cell)
  | vector (v : CappedVector Cell)
  | pushed (length capacity : Nat)
  | pushedRange (length : Nat) (capacities : List Nat)
deriving DecidableEq, Repr

structure PushProgress where
  pushed : Nat
  length : Nat
  capacity : Nat
deriving DecidableEq, Repr

/-- The reply to a request: an answer, a fault with its status, the abort path, or a rejection of the request itself,
which then has no effect. -/
inductive Reply where
  | answer (a : Answer)
  | fault (f : Fault) (status : UInt8) (progress : Option PushProgress)
  | abort (fragments : List String)
  | rejected
deriving DecidableEq, Repr

end Quota
