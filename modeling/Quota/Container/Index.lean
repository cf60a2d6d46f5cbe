import Quota.Fault.Kind

set_option autoImplicit false

/-!
# Signed indices

Containers are indexed by integers. An index is good if it is not negative and less than the length.
-/
namespace Quota

inductive IndexFault where
  | negative (index : Int)
  | beyond (index : Int) (length : Nat)
  | unaddressable (index : Int)
deriving DecidableEq, Repr

namespace IndexFault

def message : IndexFault → String
  | .negative index => s!"index {index} is negative"
  | .beyond index length => s!"index {index} >= length {length}"
  | .unaddressable index => s!"index {index} exceeds the address space"

def fault (f : IndexFault) : Fault := ⟨.index, f.message⟩

end IndexFault

/-- The position of a good index. -/
def slotIndex (index : Int) (length : Nat) : Except IndexFault Nat :=
  if index < 0 then .error (.negative index)
  else if index ≥ length then .error (.beyond index length)
  else
    match index.toNat? with
    | some i => .ok i
    | none => .error (.unaddressable index)

theorem toNat?_of_nonneg {v : Int} (natural : 0 ≤ v) : v.toNat? = some v.toNat := by
  obtain ⟨n, rfl⟩ := Int.eq_ofNat_of_zero_le natural
  rfl

/-- What is not negative can be taken for a position. -/
theorem slotIndex_of_nonneg {index : Int} (natural : 0 ≤ index) (length : Nat) :
    slotIndex index length = if index ≥ length then .error (.beyond index length) else .ok index.toNat := by
  have addressed : index.toNat? = some index.toNat := toNat?_of_nonneg natural
  simp only [slotIndex, if_neg (Int.not_lt.mpr natural), addressed]

theorem slotIndex_ne_unaddressable (index other : Int) (length : Nat) :
    slotIndex index length ≠ .error (.unaddressable other) := by
  by_cases negative : index < 0
  · rw [slotIndex, if_pos negative]
    rintro ⟨⟩
  · rw [slotIndex_of_nonneg (Int.not_lt.mp negative)]
    split <;> rintro ⟨⟩

theorem slotIndex_eq_ok_iff (index : Int) (length i : Nat) :
    slotIndex index length = .ok i ↔ index = i ∧ i < length := by
  by_cases negative : index < 0
  · rw [slotIndex, if_pos negative]
    simp only [reduceCtorEq, false_iff]
    omega
  · rw [slotIndex_of_nonneg (Int.not_lt.mp negative)]
    split
    · simp only [reduceCtorEq, false_iff]
      omega
    · simp only [Except.ok.injEq]
      omega

theorem not_lt_of_slotIndex_error {index : Int} {length i : Nat} {f : IndexFault}
    (h : slotIndex index length = .error f) (place : index = i) : ¬ i < length := by
  intro inside
  have good := (slotIndex_eq_ok_iff index length i).mpr ⟨place, inside⟩
  rw [h] at good
  cases good

/-- The element at an index of a container of the given length, which is read by position. -/
def elementAt {α : Type} (length : Nat) (read : Nat → Option α) (index : Int) : Except IndexFault α :=
  match slotIndex index length with
  | .error f => .error f
  | .ok i =>
    match read i with
    | some x => .ok x
    | none => .error (.beyond index length)

theorem elementAt_eq_ok_iff {α : Type} (length : Nat) (read : Nat → Option α) (index : Int) (x : α) :
    elementAt length read index = .ok x ↔ ∃ i : Nat, index = i ∧ i < length ∧ read i = some x := by
  unfold elementAt
  cases slot : slotIndex index length with
  | error f =>
    refine iff_of_false (by rintro ⟨⟩) ?_
    rintro ⟨i, place, inside, _⟩
    exact not_lt_of_slotIndex_error slot place inside
  | ok i =>
    obtain ⟨rfl, inside⟩ := (slotIndex_eq_ok_iff index length i).mp slot
    constructor
    · intro found
      refine ⟨i, rfl, inside, ?_⟩
      cases item : read i with
      | none =>
        simp only [item] at found
        cases found
      | some y =>
        simp only [item] at found
        cases found
        rfl
    · rintro ⟨j, place, _, found⟩
      rw [← Int.ofNat.inj place] at found
      simp only [found]

end Quota
