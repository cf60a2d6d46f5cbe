import Quota.Fault.Declared
import Quota.Session.Operation
import Quota.Session.Shelf

set_option autoImplicit false

/-!
# Sessions

A session holds named values over several sources. A value that takes the name of another is made before the other is
released. A string that is moved into a container is gone under its name, also when the request then fails.
-/
namespace Quota

structure Session where
  books : Books
  sources : List Source
  /-- For each source the bytes acquired directly and not yet given back. -/
  direct : List Nat
  strings : Shelf ByteString
  arrays : Shelf (FixedArray Cell)
  vectors : Shelf (CappedVector Cell)
deriving DecidableEq, Repr

namespace Session

/-- The sources for a list of limits, where `none` is the heap; budgets are numbered from `next`. -/
def sourcesFrom (next : Nat) : List (Option Nat) → List Source
  | [] => []
  | none :: rest => .heap :: sourcesFrom next rest
  | some _ :: rest => .budget next :: sourcesFrom (next + 1) rest

def start (limits : List (Option Nat)) : Session where
  books := .ofLimits (limits.filterMap id)
  sources := sourcesFrom 0 limits
  direct := limits.map fun _ => 0
  strings := []
  arrays := []
  vectors := []

def ledgers (s : Session) (books : Books) : List (Option Ledger) := s.sources.map books.ledger?

/-- A fault becomes a reply, or enters the abort path if the request says so. -/
def refusal (escalate : Bool) (set : FaultSet) (f : Fault) : Reply :=
  if escalate then .abort f.fragments else .fault f (set.statusOf f) none

/-- Keep a string under a name and release what had the name. -/
def keepString (s : Session) (out : String) (t : ByteString) (books : Books) : Session :=
  let released := match s.strings.get? out with
    | some old => old.release books
    | none => books
  { s with books := released, strings := s.strings.put out t }

def keepArray (s : Session) (out : String) (a : FixedArray Cell) (books : Books) : Session :=
  let released := match s.arrays.get? out with
    | some old => old.release Cell.release books
    | none => books
  { s with books := released, arrays := s.arrays.put out a }

def keepVector (s : Session) (out : String) (v : CappedVector Cell) (books : Books) : Session :=
  let released := match s.vectors.get? out with
    | some old => old.release Cell.release books
    | none => books
  { s with books := released, vectors := s.vectors.put out v }

/-- The cell of an operand of the given type. A name takes its string off the shelf. -/
def takeOperand (element : ElementType) (strings : Shelf ByteString) : Operand → Option (Cell × Shelf ByteString)
  | .number v => if element.holds v then some (.number v, strings) else none
  | .flag b => if element = .flag then some (.flag b, strings) else none
  | .name n =>
    if element = .string then
      match strings.get? n with
      | some t => some (.string t, strings.erase n)
      | none => none
    else none

def takeOperands (element : ElementType) : Shelf ByteString → List Operand → Option (List Cell × Shelf ByteString)
  | strings, [] => some ([], strings)
  | strings, operand :: rest =>
    match takeOperand element strings operand with
    | none => none
    | some (c, strings) =>
      match takeOperands element strings rest with
      | none => none
      | some (cs, strings) => some (c :: cs, strings)

def releaseCells (cells : List Cell) (books : Books) : Books :=
  cells.foldl (fun books c => c.release books) books

def close (s : Session) : Books :=
  let books := s.strings.values.foldl (fun books t => t.release books) s.books
  let books := s.arrays.values.foldl (fun books a => a.release Cell.release books) books
  s.vectors.values.foldl (fun books v => v.release Cell.release books) books

end Session

end Quota
