import Quota.Container.Index
import Quota.Fault.Report
import Quota.Storage.Block

set_option autoImplicit false

/-!
# Capped vectors

A vector starts with sixteen slots and doubles them when it is full, up to 1024. While it grows, the old and the new
block are charged together. A push that would pass the cap cannot be answered and enters the abort path, before any
storage is asked for.
-/
namespace Quota

structure CappedVector (α : Type) where
  element : ElementType
  block : Block
  items : Array α
deriving DecidableEq, Repr

inductive PushStop where
  | storage (f : StorageFault)
  | capped
deriving DecidableEq, Repr

namespace CappedVector

variable {α : Type}

def initialCapacity : Nat := 16

def maxCapacity : Nat := 1024

/-- The report on a vector that cannot grow further. -/
def cappedReport : Report :=
  Report.capacityExceeded s!"vector capacity exceeded: cannot grow beyond {maxCapacity} elements"

/-- What the abort path writes for a vector that cannot grow further. -/
def cappedFragments : List String := [cappedReport.message]

def create (alloc : Allocator) (source : Source) (element : ElementType) (books : Books) :
    Except StorageFault (CappedVector α) × Books :=
  match Block.reserve alloc source element initialCapacity books with
  | (.error f, books) => (.error f, books)
  | (.ok block, books) => (.ok ⟨element, block, #[]⟩, books)

def toList (v : CappedVector α) : List α := v.items.toList

def length (v : CappedVector α) : Nat := v.items.size

def capacity (v : CappedVector α) : Nat := v.block.slots

/-- Whether the next element needs a larger block. -/
def isFull (v : CappedVector α) : Bool := decide (v.length = v.capacity)

/-- Move the elements to a block of twice the size and release the old one. The answer has the vector as it stands
afterwards, also where it could not grow. -/
def grow (alloc : Allocator) (v : CappedVector α) (books : Books) :
    Except PushStop Unit × CappedVector α × Books :=
  let doubled := 2 * v.capacity
  if maxCapacity < doubled then
    (.error .capped, v,
      (books.note (.vectorCapped v.capacity cappedReport.display)).note (.abortEntered cappedFragments.length))
  else
    match Block.reserve alloc v.block.source v.element doubled books with
    | (.error f, books) => (.error (.storage f), v, books)
    | (.ok next, books) =>
      (.ok (), ⟨v.element, next, v.items⟩,
        (v.block.release books).note (.vectorGrown v.element.name v.capacity doubled))

/-- Put an element at the end of a vector that has room for it. -/
def append (v : CappedVector α) (x : α) : CappedVector α := ⟨v.element, v.block, v.items.push x⟩

/-- Append an element, growing first if the vector is full. The answer has the vector as it stands afterwards. -/
def push (alloc : Allocator) (v : CappedVector α) (x : α) (books : Books) :
    Except PushStop Unit × CappedVector α × Books :=
  if v.isFull then
    match v.grow alloc books with
    | (.error stop, v, books) => (.error stop, v, books)
    | (.ok (), v, books) => (.ok (), v.append x, books)
  else (.ok (), v.append x, books)

def get (v : CappedVector α) (index : Int) : Except IndexFault α := elementAt v.length (fun i => v.items[i]?) index

/-- Release the block, then every element in push order. -/
def release (releaseItem : α → Books → Books) (v : CappedVector α) (books : Books) : Books :=
  v.items.foldl (fun books x => releaseItem x books) (v.block.release books)

def debug (showItem : α → String) (v : CappedVector α) : String :=
  Quoted.record "BoundedVec"
    [("element", Quoted.text v.element.name), ("capacity", toString v.capacity),
      ("items", Quoted.list (v.toList.map showItem))]

end CappedVector

end Quota
