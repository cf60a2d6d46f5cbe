set_option autoImplicit false

/-!
# Rows

A sequence cut into rows of one width, of which only the last may be shorter. Two sequences that differ in one element
share all rows but one, so a write costs a row and not the whole sequence. The main statements say what each operation
does to the list of the elements.
-/
namespace Quota

abbrev rowWidth : Nat := 1024

/-- Every row has the full width, but the last may have less. -/
def IsCut {α : Type} (rows : Array (Array α)) : Prop :=
  ∀ k row, rows[k]? = some row → row.size ≤ rowWidth ∧ (k + 1 < rows.size → row.size = rowWidth)

/-- The elements of the rows from the first to the last. -/
def joinRows {α : Type} (rows : Array (Array α)) : List α := rows.toList.flatMap Array.toList

/-- The element at a position of the joined rows stands in the row that division gives, at the remainder. -/
theorem getElem?_joinRows {α : Type} (rows : List (Array α)) (cut : IsCut rows.toArray) (i : Nat) :
    (joinRows rows.toArray)[i]? = rows[i / rowWidth]?.bind fun row => row[i % rowWidth]? := by
  induction rows generalizing i with
  | nil => simp [joinRows]
  | cons row rest ih =>
    have head := cut 0 row (by simp)
    have tail : IsCut rest.toArray := fun k r h => by
      simpa using cut (k + 1) r (by simpa using h)
    simp only [joinRows, List.flatMap_cons] at ih ⊢
    by_cases small : i < rowWidth
    · rw [Nat.div_eq_of_lt small, Nat.mod_eq_of_lt small, List.getElem?_append]
      by_cases inside : i < row.size
      · simp [inside]
      · cases rest with
        | nil => simp [inside]
        | cons next others =>
          have full := head.2 (by simp)
          omega
    · obtain ⟨j, rfl⟩ : ∃ j, i = j + rowWidth := ⟨i - rowWidth, by omega⟩
      rw [Nat.add_div_right j (by decide), Nat.add_mod_right, List.getElem?_append_right (by simp; omega)]
      cases rest with
      | nil => simp
      | cons next others =>
        have full := head.2 (by simp)
        simpa [full] using ih tail j

structure Rows (α : Type) where
  size : Nat
  rows : Array (Array α)
  isCut : IsCut rows
  length_joinRows : (joinRows rows).length = size
deriving DecidableEq, Repr

namespace Rows

variable {α β : Type}

def toList (r : Rows α) : List α := joinRows r.rows

@[simp]
theorem length_toList (r : Rows α) : r.toList.length = r.size := r.length_joinRows

def get? (r : Rows α) (i : Nat) : Option α := r.rows[i / rowWidth]?.bind fun row => row[i % rowWidth]?

theorem get?_eq_getElem? (r : Rows α) (i : Nat) : r.get? i = r.toList[i]? := by
  have := getElem?_joinRows r.rows.toList (by simpa using r.isCut) i
  simpa [toList, get?] using this.symm

/-- Rows of one element over and over. All full rows are one value. -/
def replicate (size : Nat) (x : α) : Rows α where
  size := size
  rows := (Array.replicate (size / rowWidth) (Array.replicate rowWidth x)).push (Array.replicate (size % rowWidth) x)
  isCut := fun k row h => by
    have small := Nat.mod_lt size (show 0 < rowWidth by decide)
    rw [Array.getElem?_push, Array.getElem?_replicate] at h
    simp only [Array.size_push, Array.size_replicate] at h ⊢
    grind
  length_joinRows := by
    have := Nat.div_add_mod' size rowWidth
    simpa [joinRows, List.flatMap_replicate] using this

@[simp]
theorem toList_replicate (size : Nat) (x : α) : (replicate size x).toList = List.replicate size x := by
  have whole : size / rowWidth * rowWidth + size % rowWidth = size := Nat.div_add_mod' size rowWidth
  simp only [toList, replicate, joinRows, List.flatMap_def]
  simp [List.replicate_append_replicate, whole]

def cut (items : Array α) : Array (Array α) :=
  Array.ofFn fun k : Fin (items.size / rowWidth + 1) => items.extract (k * rowWidth) ((k + 1) * rowWidth)

theorem isCut_cut (items : Array α) : IsCut (cut items) := fun k row h => by
  simp only [cut, Array.getElem?_ofFn, Array.size_ofFn, rowWidth] at h ⊢
  split at h
  · cases h
    rw [Array.size_extract]
    omega
  · simp at h

theorem joinRows_cut (items : Array α) : joinRows (cut items) = items.toList := by
  apply List.ext_getElem?
  intro i
  have found := getElem?_joinRows (cut items).toList (by simpa using isCut_cut items) i
  simp only [Array.toArray_toList, Array.getElem?_toList, cut, Array.getElem?_ofFn, rowWidth] at found ⊢
  rw [found]
  split
  · simp only [Option.bind_some, Array.getElem?_extract]
    grind
  · rw [Array.getElem?_eq_none (by omega)]
    rfl

def ofArray (items : Array α) : Rows α where
  size := items.size
  rows := cut items
  isCut := isCut_cut items
  length_joinRows := by simp [joinRows_cut]

@[simp]
theorem toList_ofArray (items : Array α) : (ofArray items).toList = items.toList := joinRows_cut items

/-- Overwrite the element at a position, which changes nothing if there is none. -/
def set (r : Rows α) (i : Nat) (x : α) : Rows α where
  size := r.size
  rows := r.rows.modify (i / rowWidth) fun row => row.setIfInBounds (i % rowWidth) x
  isCut := fun k row h => by
    rw [Array.getElem?_modify] at h
    have old := r.isCut k
    rw [Array.size_modify]
    split at h
    · obtain ⟨row, found, rfl⟩ := Option.map_eq_some_iff.1 h
      simpa using old row found
    · exact old row h
  length_joinRows := by
    have sizes : (r.rows.modify (i / rowWidth) fun row => row.setIfInBounds (i % rowWidth) x).toList.map Array.size
        = r.rows.toList.map Array.size := by
      apply List.ext_getElem?
      intro k
      simp only [List.getElem?_map, Array.getElem?_toList, Array.getElem?_modify]
      split <;> cases r.rows[k]? <;> simp
    have := r.length_joinRows
    simp only [joinRows, List.length_flatMap, Array.length_toList] at this ⊢
    rw [sizes, this]

theorem get?_set (r : Rows α) (i : Nat) (x : α) (j : Nat) :
    (r.set i x).get? j = if i = j then (r.get? j).map fun _ => x else r.get? j := by
  simp only [get?, set, Array.getElem?_modify]
  by_cases same : i / rowWidth = j / rowWidth
  · have position : i % rowWidth = j % rowWidth ↔ i = j := by simp only [rowWidth] at same ⊢; omega
    rw [same]
    cases r.rows[j / rowWidth]? with
    | none => simp
    | some row =>
      simp only [if_true, Option.map_some, Option.bind_some, Array.getElem?_setIfInBounds, position]
      grind
  · have different : i ≠ j := fun h => same (by rw [h])
    simp [same, different]

@[simp]
theorem toList_set (r : Rows α) (i : Nat) (x : α) : (r.set i x).toList = r.toList.set i x := by
  apply List.ext_getElem?
  intro j
  rw [← get?_eq_getElem?, get?_set, get?_eq_getElem?, List.getElem?_set']
  rfl

def map (f : α → β) (r : Rows α) : Rows β where
  size := r.size
  rows := r.rows.map (Array.map f)
  isCut := fun k row h => by
    have := r.isCut k
    simp only [Array.getElem?_map, Option.map_eq_some_iff] at h
    obtain ⟨old, found, rfl⟩ := h
    simpa using this old found
  length_joinRows := by
    have := r.length_joinRows
    simp only [joinRows, List.length_flatMap, Array.length_toList] at this ⊢
    simpa [List.map_map, Function.comp_def] using this

@[simp]
theorem toList_map (f : α → β) (r : Rows α) : (r.map f).toList = r.toList.map f := by
  simp [toList, map, joinRows, List.flatMap_map, List.map_flatMap]

/-- Combine the elements from the first to the last. -/
def foldl (f : β → α → β) (init : β) (r : Rows α) : β :=
  r.rows.foldl (fun b row => row.foldl f b) init

theorem foldl_eq_foldl_toList (f : β → α → β) (init : β) (r : Rows α) :
    r.foldl f init = r.toList.foldl f init := by
  simp [foldl, toList, joinRows, List.foldl_flatMap]

end Rows

end Quota
