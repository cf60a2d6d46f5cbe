import Mathlib.Data.List.TakeWhile
import Quota.Fault.Report

set_option autoImplicit false

/-!
# Reports told apart by their display form

The display form of a report can be read back whatever the message is: no category name has a closing bracket, a code
has four digits, and the message is all that follows. The kinds that the library raises differ in category or code, so
the form that is left of a fault without its kind still has the kind in it.
-/
namespace Quota

theorem Category.ofName?_name (c : Category) : ofName? c.name = some c := by
  cases c <;> decide

theorem Category.bracket_not_mem_name (c : Category) : ']' ∉ c.name.toList := by
  cases c <;> decide

namespace Report

/-- Category name, code digits and message, where they stand in a display form. -/
def readParts (form : List Char) : List Char × List Char × List Char :=
  let name := (form.drop 1).takeWhile (· != ']')
  let rest := form.drop (name.length + 4)
  (name, rest.take 4, rest.drop 6)

theorem readParts_of_closed {name code : List Char} (closed : ']' ∉ name) (four : code.length = 4)
    (message : List Char) :
    readParts ('[' :: (name ++ ']' :: '[' :: 'E' :: (code ++ ']' :: ' ' :: message))) = (name, code, message) := by
  have inside : ∀ c ∈ name, (c != ']') = true := by
    intro c member
    exact bne_iff_ne.mpr fun same => closed (same ▸ member)
  have first : (name ++ ']' :: '[' :: 'E' :: (code ++ ']' :: ' ' :: message)).takeWhile (· != ']') = name := by
    rw [List.takeWhile_append_of_pos inside, List.takeWhile_cons_of_neg (by decide), List.append_nil]
  have rest : (name ++ ']' :: '[' :: 'E' :: (code ++ ']' :: ' ' :: message)).drop (name.length + 3) =
      code ++ ']' :: ' ' :: message := by
    rw [List.drop_length_add_append]
    rfl
  simp only [readParts, List.drop_succ_cons, List.drop_zero, first, rest]
  rw [List.take_left' four, show 6 = code.length + 2 by omega, List.drop_length_add_append]
  rfl

theorem readParts_display (r : Report) :
    readParts r.display.toList = (r.category.name.toList, Hex.code r.code, r.message.toList) := by
  have form : r.display.toList = '[' :: (r.category.name.toList ++
      ']' :: '[' :: 'E' :: (Hex.code r.code ++ ']' :: ' ' :: r.message.toList)) := by
    simp [display]
  rw [form, readParts_of_closed r.category.bracket_not_mem_name rfl]

theorem eq_of_display_eq {r r' : Report} (h : r.display = r'.display) : r = r' := by
  have parts := congrArg (fun form => readParts form.toList) h
  simp only [readParts_display, Prod.mk.injEq, String.toList_inj] at parts
  obtain ⟨name, code, message⟩ := parts
  have category : r.category = r'.category := by
    have known := Category.ofName?_name r.category
    rw [name, Category.ofName?_name] at known
    exact (Option.some.inj known).symm
  cases r
  cases r'
  simp only [mk.injEq]
  exact ⟨category, Hex.code_inj code, message⟩

end Report

namespace Kind

/-- Category and code tell the kinds of the library apart, though two of them have one category. -/
theorem eq_of_code_eq {k k' : Kind} (known : k ∈ all) (known' : k' ∈ all) (category : k.category = k'.category)
    (code : k.code = k'.code) : k = k' := by
  have distinct : ∀ k ∈ all, ∀ k' ∈ all, k.category = k'.category → k.code = k'.code → k = k' := by decide
  exact distinct k known k' known' category code

end Kind

namespace Report

theorem eq_of_display_ofFault_eq {f f' : Fault} (known : f.kind ∈ Kind.all) (known' : f'.kind ∈ Kind.all)
    (h : (ofFault f).display = (ofFault f').display) : f = f' := by
  have same := eq_of_display_eq h
  simp only [ofFault, mk.injEq] at same
  obtain ⟨category, code, message⟩ := same
  have kind := Kind.eq_of_code_eq known known' category code
  cases f
  cases f'
  simp only [Fault.mk.injEq]
  exact ⟨kind, message⟩

/-- The display form identifies a report, whatever its category, code and message are. The form of a widened fault
identifies the fault, if its kind is one that the library raises; so does that of a fault raised under a set, also where
the sets are not the same. -/
theorem display_identifies :
    (∀ r r' : Report, r.display = r'.display → r.category = r'.category ∧ r.code = r'.code ∧ r.message = r'.message) ∧
    (∀ f f' : Fault, f.kind ∈ Kind.all → f'.kind ∈ Kind.all → (ofFault f).display = (ofFault f').display →
      f.kind = f'.kind ∧ f.message = f'.message) ∧
    ∀ (set set' : FaultSet) (r : Raised set) (r' : Raised set'), r.entry.kind ∈ Kind.all → r'.entry.kind ∈ Kind.all →
      (ofFault r.fault).display = (ofFault r'.fault).display →
      r.entry.kind = r'.entry.kind ∧ r.message = r'.message := by
  refine ⟨?_, ?_, ?_⟩
  · intro r r' same
    rw [eq_of_display_eq same]
    exact ⟨rfl, rfl, rfl⟩
  · intro f f' known known' same
    rw [eq_of_display_ofFault_eq known known' same]
    exact ⟨rfl, rfl⟩
  · intro set set' r r' known known' same
    have fault : r.fault = r'.fault := eq_of_display_ofFault_eq known known' same
    exact ⟨congrArg Fault.kind fault, congrArg Fault.message fault⟩

/-- Two kinds of one category, with the same message. -/
theorem arithmetic_kinds_displayed_apart :
    Kind.overflow ∈ Kind.all ∧ Kind.byteOverflow ∈ Kind.all ∧ Kind.overflow.category = Kind.byteOverflow.category ∧
      (ofFault ⟨.overflow, "[Runtime][E219F] 256"⟩).display ≠
        (ofFault ⟨.byteOverflow, "[Runtime][E219F] 256"⟩).display := by
  refine ⟨by decide, by decide, rfl, fun same => ?_⟩
  exact absurd (display_identifies.2.1 _ _ (by decide) (by decide) same).1 (by decide)

end Report

end Quota
