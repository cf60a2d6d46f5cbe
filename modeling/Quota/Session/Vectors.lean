import Quota.Session.Basic

set_option autoImplicit false

/-!
# Vector operations of a session

Making vectors, pushing one value or a run of numbers, reading and deleting. A value that is not pushed is released.
-/
namespace Quota.Session

/-- Push a cell, or release it if it is not pushed. -/
def pushCell (alloc : Allocator) (v : CappedVector Cell) (c : Cell) (books : Books) :
    Except PushStop Unit × CappedVector Cell × Books :=
  match v.push alloc c books with
  | (.ok (), v, books) => (.ok (), v, books)
  | (.error stop, v, books) => (.error stop, v, c.release books)

/-- The cell that a run of pushes makes of a number: its decimal text for strings, else what the type keeps of it. -/
def rangeCell (alloc : Allocator) (source : Source) (element : ElementType) (v : Int) (books : Books) :
    Except StorageFault Cell × Books :=
  match element with
  | .string =>
    match ByteString.ofInt alloc source v books with
    | (.ok t, books) => (.ok (.string t), books)
    | (.error f, books) => (.error f, books)
  | element => (.ok (element.truncate v), books)

structure PushRun where
  vector : CappedVector Cell
  pushed : Nat
  /-- The capacities met, latest first. -/
  capacities : List Nat
  stop : Option PushStop
deriving DecidableEq, Repr

/-- Note a capacity that differs from the latest. -/
def addCapacity (capacities : List Nat) (capacity : Nat) : List Nat :=
  if capacities.head? = some capacity then capacities else capacity :: capacities

/-- Push `remaining` numbers from `next` on, which wraps around the range of words, up to the first that fails. -/
def pushNumbers (alloc : Allocator) (source : Source) :
    (remaining : Nat) → (next : Int) → PushRun → Books → PushRun × Books
  | 0, _, run, books => (run, books)
  | remaining + 1, next, run, books =>
    match rangeCell alloc source run.vector.element next books with
    | (.error f, books) => ({ run with stop := some (.storage f) }, books)
    | (.ok c, books) =>
      match pushCell alloc run.vector c books with
      | (.error stop, v, books) => ({ run with vector := v, stop := some stop }, books)
      | (.ok (), v, books) =>
        pushNumbers alloc source remaining ((next + 1).bmod 18446744073709551616)
          ⟨v, run.pushed + 1, addCapacity run.capacities v.capacity, none⟩ books

def pushReply (escalate : Bool) (run : PushRun) : Reply :=
  match run.stop with
  | none => .answer (.pushedRange run.vector.length run.capacities.reverse)
  | some .capped => .abort CappedVector.cappedFragments
  | some (.storage f) =>
    if escalate then .abort f.fault.fragments
    else
      .fault f.fault ((FaultSet.single .alloc).statusOf f.fault)
        (some ⟨run.pushed, run.vector.length, run.vector.capacity⟩)

def vectorStep (alloc : Allocator) (s : Session) (source : Source) (escalate : Bool) :
    VectorOperation → Option (Reply × Session)
  | .create element out =>
    match CappedVector.create alloc source element s.books with
    | (.ok v, books) => some (.answer (.number v.capacity), s.keepVector out v books)
    | (.error f, books) => some (refusal escalate (.single .alloc) f.fault, { s with books := books })
  | .push n operand => do
    let v ← s.vectors.get? n
    let (c, strings) ← takeOperand v.element s.strings operand
    let (done, w, books) := pushCell alloc v c s.books
    let after := { s with strings := strings, vectors := s.vectors.put n w, books := books }
    match done with
    | .ok () => some (.answer (.pushed w.length w.capacity), after)
    | .error .capped => some (.abort CappedVector.cappedFragments, after)
    | .error (.storage f) => some (refusal escalate (.single .alloc) f.fault, after)
  | .pushRange n start count => do
    let v ← s.vectors.get? n
    let (run, books) := pushNumbers alloc source count.toNat start ⟨v, 0, [v.capacity], none⟩ s.books
    some (pushReply escalate run, { s with vectors := s.vectors.put n run.vector, books := books })
  | .get n index => do
    let v ← s.vectors.get? n
    match v.get index with
    | .ok c => some (.answer (.cell c), s)
    | .error f => some (refusal escalate (.single .index) f.fault, s)
  | .describe n => do
    let v ← s.vectors.get? n
    some (.answer (.vector v), s)
  | .delete n => do
    let v ← s.vectors.get? n
    some (.answer .nothing, { s with books := v.release Cell.release s.books, vectors := s.vectors.erase n })

end Quota.Session
