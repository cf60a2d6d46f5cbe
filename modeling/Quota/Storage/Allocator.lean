import Quota.Fault.Kind
import Quota.Storage.ElementType

set_option autoImplicit false

/-!
# Allocators and refusals of storage

Below the budgets stands an allocator that may refuse any reservation. It is a parameter of every operation that
reserves storage: a verdict on the number of slots of an element type, which may be another one each time it is asked.
-/
namespace Quota

inductive AllocatorRefusal where
  | capacityExceeded
  | outOfMemory
deriving DecidableEq, Repr

def AllocatorRefusal.message : AllocatorRefusal → String
  | .capacityExceeded => "memory allocation failed because the computed capacity exceeded the collection's maximum"
  | .outOfMemory => "memory allocation failed because the memory allocator returned an error"

/-- The verdict on a reservation of slots, after so many earlier ones: `none` grants it. -/
abbrev Allocator := (earlier : Nat) → (element : ElementType) → (slots : Nat) → Option AllocatorRefusal

namespace Allocator

def granting : Allocator := fun _ _ _ => none

/-- The bytes that one slot really takes: the registered size, or that of a string's handle. -/
def slotBytes (handle : Nat) : ElementType → Nat
  | .string => handle
  | t => t.size

/-- The allocator of a 64-bit machine on which a string's handle takes `handle` bytes: a reservation of 2^63 bytes or
more is no legal capacity, and one of 2^47 bytes or more cannot be mapped. -/
def machine (handle : Nat) : Allocator := fun _ element slots =>
  let bytes := slots * slotBytes handle element
  if bytes > 9223372036854775807 then some .capacityExceeded
  else if bytes ≥ 140737488355328 then some .outOfMemory
  else none

end Allocator

inductive StorageFault where
  | negativeCapacity (capacity : Int)
  | oversized (slots size : Nat)
  | exhausted (requested inUse limit : Nat)
  | refused (bytes : Nat) (cause : AllocatorRefusal)
  | replacementOverflow
deriving DecidableEq, Repr

namespace StorageFault

def message : StorageFault → String
  | .negativeCapacity capacity => s!"cannot allocate array with negative capacity {capacity}"
  | .oversized slots size => s!"{slots} elements of {size} bytes overflow the address space"
  | .exhausted requested inUse limit =>
    s!"budget exhausted: requested {requested} bytes with {inUse} of {limit} in use"
  | .refused bytes cause => s!"allocator refused {bytes} bytes: {cause.message}"
  | .replacementOverflow => "replacement length overflows the address space"

def fault (f : StorageFault) : Fault := ⟨.alloc, f.message⟩

end StorageFault

end Quota
