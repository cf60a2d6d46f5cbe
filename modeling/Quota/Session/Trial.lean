import Quota.ByteString.Integer
import Quota.ByteString.Transform
import Quota.Fault.Declared

set_option autoImplicit false

/-!
# Trials

A trial makes one string, from a budget if one is given, calls one operation on it, and releases everything. The other
strings of the call come from the heap. A call that cannot be read is rejected, after the string has been made.
-/
namespace Quota

inductive Call where
  | describe
  | toWord
  | search (needle : List UInt8)
  | substring (start stop : Int)
  | concat (other : List UInt8)
  | replace (needle insert : List UInt8) (limit : Int)
  | clone
  | format (args : List (List UInt8))
deriving DecidableEq, Repr

structure Trial where
  bytes : List UInt8
  literal : Bool
  budget : Option Nat
  /-- Whether a fault of the call enters the abort path. -/
  escalate : Bool
  /-- What to call; `none` if it cannot be read. -/
  call : Option Call
deriving DecidableEq, Repr

inductive TrialAnswer where
  | description (s : ByteString)
  | number (v : Int)
  | found (offset : Int) (contains same : Bool)
  | made (r : ByteString) (same : Bool)
  | fault (f : Fault) (status : UInt8)
  | abort (fragments : List String)
  | rejected
deriving DecidableEq, Repr

namespace Trial

def source (t : Trial) : Source := if t.budget.isSome then .budget 0 else .heap

def refusal (t : Trial) (set : FaultSet) (f : Fault) : TrialAnswer :=
  if t.escalate then .abort f.fragments else .fault f (set.statusOf f)

/-- The answer on a string that was made, which is released. -/
def settle {ε : Type} (t : Trial) (s : ByteString) (set : FaultSet) (toFault : ε → Fault) :
    Except ε ByteString × Books → TrialAnswer × Books
  | (.ok r, books) => (.made r (r.same s), r.release books)
  | (.error e, books) => (t.refusal set (toFault e), books)

variable (alloc : Allocator)

/-- The formatted string over an array of the arguments, which stands on the heap. -/
def formatted (t : Trial) (s : ByteString) (args : List (List UInt8)) (books : Books) : TrialAnswer × Books :=
  match FixedArray.ofList alloc .heap .string (args.map (ByteString.literal .heap)) books with
  | (.error f, books) => (t.refusal .formatting f.fault, books)
  | (.ok array, books) =>
    match t.settle s .formatting FormatFault.fault (s.format alloc array books) with
    | (a, books) => (a, array.release ByteString.release books)

def answer (t : Trial) (s : ByteString) (books : Books) : TrialAnswer × Books :=
  match t.call with
  | none => (.rejected, books)
  | some .describe => (.description s, books)
  | some .toWord =>
    match s.toWord with
    | .ok w => (.number w.toInt, books)
    | .error f => (t.refusal (.single .conversion) f.fault, books)
  | some (.search needle) =>
    let other := ByteString.literal .heap needle
    (.found (s.find other) (s.contains other) (s.same other), books)
  | some (.substring start stop) => t.settle s .substring SubstringFault.fault (s.substring alloc start stop books)
  | some (.concat other) =>
    match s.concat alloc (.literal .heap other) books with
    | (.ok r, books) => (.made r (r.same s), r.release books)
    | (.error stop, books) => (.abort stop.fragments, books)
  | some (.replace needle insert limit) =>
    t.settle s (.single .alloc) StorageFault.fault
      (s.replace alloc (.literal .heap needle) (.literal .heap insert) limit books)
  | some .clone => t.settle s (.single .alloc) StorageFault.fault (s.clone alloc books)
  | some (.format args) => t.formatted alloc s args books

def run (t : Trial) : TrialAnswer × Books :=
  let books := Books.ofLimits t.budget.toList
  let made :=
    if t.literal then (.ok (ByteString.literal t.source t.bytes), books)
    else ByteString.ofBytes alloc t.source t.bytes books
  match made with
  | (.error f, books) => (.fault f.fault ((FaultSet.single .alloc).statusOf f.fault), books)
  | (.ok s, books) =>
    match t.answer alloc s books with
    | (a, books) => (a, s.release books)

end Trial

end Quota
