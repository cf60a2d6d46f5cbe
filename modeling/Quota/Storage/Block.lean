import Quota.Storage.Books

set_option autoImplicit false

/-!
# Blocks

A block is room for a fixed number of elements, charged to one source from the time it is reserved until it is
released. What stands in it is kept by the container that owns it. A reservation is tested in a fixed order: the size
must be addressable, the source must grant the bytes, and the allocator must grant the slots. When the allocator
refuses, the bytes are given back.
-/
namespace Quota

structure Block where
  source : Source
  slots : Nat
  /-- How many bytes are charged. -/
  bytes : Nat
deriving DecidableEq, Repr

namespace Block

def reserve (alloc : Allocator) (source : Source) (element : ElementType) (slots : Nat) (books : Books) :
    Except StorageFault Block × Books :=
  let bytes := slots * element.size
  if addressSpace ≤ bytes then (.error (.oversized slots element.size), books)
  else
    match books.acquire source bytes with
    | (.error f, books) => (.error f, books)
    | (.ok (), books) =>
      match alloc books.asked element slots with
      | some cause => (.error (.refused bytes cause), books.ask.credit source bytes)
      | none => (.ok ⟨source, slots, bytes⟩, books.ask.note (.blockAcquired slots bytes))

/-- A block that is granted has the slots that were asked for, and gives back what they cost. -/
theorem eq_of_reserve {alloc : Allocator} {source : Source} {element : ElementType} {slots : Nat}
    {books after : Books} {b : Block} (h : reserve alloc source element slots books = (.ok b, after)) :
    b = ⟨source, slots, slots * element.size⟩ := by
  simp only [reserve] at h
  split at h
  · cases h
  · split at h
    · cases h
    · split at h
      · cases h
      · cases h
        rfl

def release (b : Block) (books : Books) : Books :=
  (books.credit b.source b.bytes).note (.blockReleased b.slots b.bytes)

end Block

end Quota
