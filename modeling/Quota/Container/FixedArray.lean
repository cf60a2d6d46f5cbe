import Quota.Container.Index
import Quota.Container.Rows
import Quota.Storage.Block

set_option autoImplicit false

/-!
# Fixed arrays

An array is filled when it is made and keeps its length to its release. Its block has a slot for each element.
-/
namespace Quota

structure FixedArray (α : Type) where
  element : ElementType
  block : Block
  items : Rows α
deriving DecidableEq, Repr

namespace FixedArray

variable {α : Type}

/-- An array of `capacity` copies of a zero value. A negative capacity is refused before anything else. -/
def zeros (alloc : Allocator) (source : Source) (element : ElementType) (zero : α) (capacity : Int)
    (books : Books) : Except StorageFault (FixedArray α) × Books :=
  if capacity < 0 then (.error (.negativeCapacity capacity), books)
  else
    match Block.reserve alloc source element capacity.toNat books with
    | (.error f, books) => (.error f, books)
    | (.ok block, books) => (.ok ⟨element, block, Rows.replicate block.slots zero⟩, books)

/-- An array of values that come one by one, after it was reported how many will come. So many slots are reserved, and
no more values are taken. -/
def ofReported (alloc : Allocator) (source : Source) (element : ElementType) (reported : Nat) (values : List α)
    (books : Books) : Except StorageFault (FixedArray α) × Books :=
  match Block.reserve alloc source element reported books with
  | (.error f, books) => (.error f, books)
  | (.ok block, books) => (.ok ⟨element, block, Rows.ofArray (values.take block.slots).toArray⟩, books)

/-- An array of values whose number is reported as it is. -/
def ofList (alloc : Allocator) (source : Source) (element : ElementType) (values : List α) (books : Books) :
    Except StorageFault (FixedArray α) × Books :=
  ofReported alloc source element values.length values books

theorem ofList_eq (alloc : Allocator) (source : Source) (element : ElementType) (values : List α) (books : Books) :
    ofList alloc source element values books =
      match Block.reserve alloc source element values.length books with
      | (.error f, books) => (.error f, books)
      | (.ok block, books) => (.ok ⟨element, block, Rows.ofArray values.toArray⟩, books) := by
  rcases reserved : Block.reserve alloc source element values.length books with ⟨f | block, after⟩
  · simp only [ofList, ofReported, reserved]
  · have slots : block.slots = values.length := by rw [Block.eq_of_reserve reserved]
    simp only [ofList, ofReported, reserved, slots, List.take_length]

def toList (a : FixedArray α) : List α := a.items.toList

def length (a : FixedArray α) : Nat := a.items.size

theorem length_toList (a : FixedArray α) : a.toList.length = a.length := Rows.length_toList a.items

def get (a : FixedArray α) (index : Int) : Except IndexFault α := elementAt a.length a.items.get? index

theorem get_eq_ok_iff (a : FixedArray α) (index : Int) (x : α) :
    a.get index = .ok x ↔ 0 ≤ index ∧ a.toList[index.toNat]? = some x := by
  rw [get, elementAt_eq_ok_iff]
  constructor
  · rintro ⟨i, rfl, _, found⟩
    rw [Rows.get?_eq_getElem?] at found
    exact ⟨Int.natCast_nonneg i, found⟩
  · rintro ⟨natural, found⟩
    have inside := (List.getElem?_eq_some_iff.mp found).1
    rw [length_toList] at inside
    exact ⟨index.toNat, (Int.toNat_of_nonneg natural).symm, inside, by rw [Rows.get?_eq_getElem?]; exact found⟩

/-- Overwrite the element at an index. The answer has the new array and the element that was replaced. -/
def set (a : FixedArray α) (index : Int) (x : α) : Except IndexFault (FixedArray α × Option α) :=
  match slotIndex index a.length with
  | .error f => .error f
  | .ok i => .ok (⟨a.element, a.block, a.items.set i x⟩, a.items.get? i)

theorem set_eq_ok_iff (a b : FixedArray α) (index : Int) (x : α) (old : Option α) :
    a.set index x = .ok (b, old) ↔ ∃ i : Nat, index = i ∧ i < a.length ∧
      b = ⟨a.element, a.block, a.items.set i x⟩ ∧ old = a.toList[i]? := by
  unfold set
  cases slot : slotIndex index a.length with
  | error f =>
    refine iff_of_false (by rintro ⟨⟩) ?_
    rintro ⟨i, place, inside, _⟩
    exact not_lt_of_slotIndex_error slot place inside
  | ok i =>
    obtain ⟨rfl, inside⟩ := (slotIndex_eq_ok_iff index a.length i).mp slot
    rw [toList]
    simp only [Rows.get?_eq_getElem?]
    constructor
    · rintro ⟨⟩
      exact ⟨i, rfl, inside, rfl, rfl⟩
    · rintro ⟨j, place, _, rfl, rfl⟩
      rw [Int.ofNat.inj place]

@[simp] theorem toList_set (a : FixedArray α) (i : Nat) (x : α) :
    toList ⟨a.element, a.block, a.items.set i x⟩ = a.toList.set i x := Rows.toList_set a.items i x

/-- The array seen through a function on its elements. -/
def map {β : Type} (f : α → β) (a : FixedArray α) : FixedArray β :=
  ⟨a.element, a.block, a.items.map f⟩

/-- Release the block, then every element in index order. -/
def release (releaseItem : α → Books → Books) (a : FixedArray α) (books : Books) : Books :=
  a.items.foldl (fun books x => releaseItem x books) (a.block.release books)

def debug (showItem : α → String) (a : FixedArray α) : String :=
  Quoted.record "Array"
    [("element", Quoted.text a.element.name), ("items", Quoted.list (a.toList.map showItem))]

end FixedArray

end Quota
