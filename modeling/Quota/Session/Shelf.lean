set_option autoImplicit false

/-!
# Shelves

Values under names. A name has one value at most.
-/
namespace Quota

/-- Values under names, the latest first. -/
abbrev Shelf (α : Type) := List (String × α)

namespace Shelf

variable {α : Type}

def get? (shelf : Shelf α) (name : String) : Option α :=
  match shelf with
  | [] => none
  | (n, x) :: rest => if n = name then some x else get? rest name

def erase (shelf : Shelf α) (name : String) : Shelf α := shelf.filter fun p => decide (p.1 ≠ name)

def put (shelf : Shelf α) (name : String) (x : α) : Shelf α := (name, x) :: shelf.erase name

theorem get?_erase (shelf : Shelf α) (name other : String) :
    (shelf.erase name).get? other = if other = name then none else shelf.get? other := by
  induction shelf with
  | nil => simp [erase, get?]
  | cons p rest ih =>
    obtain ⟨n, x⟩ := p
    simp only [erase] at ih
    by_cases hn : n = name <;> by_cases ho : n = other <;> simp_all [erase, get?]

theorem get?_put (shelf : Shelf α) (name other : String) (x : α) :
    (shelf.put name x).get? other = if other = name then some x else shelf.get? other := by
  by_cases h : other = name
  · simp [put, get?, h]
  · simp [put, get?, get?_erase, h, Ne.symm h]

def values (shelf : Shelf α) : List α := shelf.map Prod.snd

end Shelf

end Quota
