import Mathlib.Algebra.Group.Int.Defs
import Mathlib.Algebra.Group.Nat.Defs
import Quota.Word.Chain

set_option autoImplicit false

/-!
# Chains of exact steps

A chain is compared with two others: with the same steps over the integers, where nothing is out of range, and with the
same steps on machine integers of 64 bits, where nothing is tested and what is too long is cut off. A step succeeds just
where the other two agree, so the accumulator of a chain is at every point what its successful steps come to in both.
-/
namespace Quota

namespace Word

/-- The machine integer of 64 bits. -/
def toInt64 (w : Word) : Int64 := Int64.ofInt w.toInt

theorem bounds (w : Word) : -2 ^ 63 ≤ w.toInt ∧ w.toInt ≤ 2 ^ 63 - 1 := ⟨w.min_le, w.le_max⟩

theorem toInt_toInt64 (w : Word) : w.toInt64.toInt = w.toInt := by
  obtain ⟨low, high⟩ := w.bounds
  exact Int64.toInt_ofInt_of_le (by omega) (by omega)

theorem ofByte_eq_iff (b : UInt8) (w : Word) : ofByte b = w ↔ w.toInt = b.toNat := by
  cases w
  simp only [ofByte, mk.injEq]
  exact eq_comm

end Word

/-- An integer is left as it is by 64 bits if it is in their range. -/
theorem bmod_eq_self_iff (v : Int) : v.bmod (2 ^ 64) = v ↔ -2 ^ 63 ≤ v ∧ v ≤ 2 ^ 63 - 1 := by
  constructor
  · intro same
    have low := Int.le_bmod (x := v) (m := 2 ^ 64) (by decide)
    have high := Int.bmod_lt (x := v) (m := 2 ^ 64) (by decide)
    omega
  · rintro ⟨low, high⟩
    exact Int.bmod_eq_of_le (by omega) (by omega)

theorem toInt_toInt64_toUInt64 (b : UInt8) : b.toUInt64.toInt64.toInt = b.toNat := by
  have small := b.toNat_lt
  have same : b.toUInt64.toBitVec.toNat = b.toNat := rfl
  change b.toUInt64.toBitVec.toInt = b.toNat
  rw [BitVec.toInt_eq_toNat_of_lt (by omega), same]

namespace ChainStep

/-- What the step makes of an integer. -/
def exact (v : Int) : ChainStep → Int
  | .add w => v + w.toInt
  | .sub w => v - w.toInt
  | .mul w => v * w.toInt
  | .neg => -v
  | .narrow => v

/-- Where the result must be: among the bytes for narrowing, else among the integers of 64 bits. -/
def Admits (v : Int) : ChainStep → Prop
  | .narrow => 0 ≤ v ∧ v ≤ 255
  | _ => -2 ^ 63 ≤ v ∧ v ≤ 2 ^ 63 - 1

/-- What the step makes of a machine integer without a test; narrowing keeps the last eight bits. -/
def wrapping (x : Int64) : ChainStep → Int64
  | .add w => x + w.toInt64
  | .sub w => x - w.toInt64
  | .mul w => x * w.toInt64
  | .neg => -x
  | .narrow => x.toUInt64.toUInt8.toUInt64.toInt64

theorem checked_eq_ok_iff_admits (v : Int) (f : ArithmeticFault) (w : Word) :
    Word.checked v f = .ok w ↔ (-2 ^ 63 ≤ v ∧ v ≤ 2 ^ 63 - 1) ∧ w.toInt = v := by
  have bounds := w.bounds
  rw [Word.checked_eq_ok_iff]
  omega

theorem apply_eq_ok_iff (s : ChainStep) (acc w : Word) :
    s.apply acc = .ok w ↔ s.Admits (s.exact acc.toInt) ∧ w.toInt = s.exact acc.toInt := by
  cases s with
  | add v => exact checked_eq_ok_iff_admits _ _ w
  | sub v => exact checked_eq_ok_iff_admits _ _ w
  | mul v => exact checked_eq_ok_iff_admits _ _ w
  | neg => exact checked_eq_ok_iff_admits _ _ w
  | narrow =>
    simp only [apply, Admits, exact, Word.toByte]
    split
    · rename_i outside
      simp only [Except.map, reduceCtorEq, false_iff]
      omega
    · rename_i inside
      simp only [Except.map, Except.ok.injEq]
      rw [Word.ofByte_eq_iff, UInt8.toNat_ofNat']
      omega

theorem exists_apply_iff (s : ChainStep) (acc : Word) :
    (∃ w, s.apply acc = .ok w) ↔ s.Admits (s.exact acc.toInt) := by
  constructor
  · rintro ⟨w, applied⟩
    exact ((apply_eq_ok_iff s acc w).mp applied).1
  · intro admitted
    have word : minWord ≤ s.exact acc.toInt ∧ s.exact acc.toInt ≤ maxWord := by
      unfold minWord maxWord
      cases s <;> simp only [Admits] at admitted <;> omega
    exact ⟨⟨_, word.1, word.2⟩, (apply_eq_ok_iff s acc _).mpr ⟨admitted, rfl⟩⟩

/-- The machine integer is not cut off just where the exact result is admitted. -/
theorem toInt_wrapping_eq_iff (s : ChainStep) (acc : Word) :
    (s.wrapping acc.toInt64).toInt = s.exact acc.toInt ↔ s.Admits (s.exact acc.toInt) := by
  cases s with
  | add w =>
    simp only [wrapping, exact, Admits, Int64.toInt_add, Word.toInt_toInt64]
    exact bmod_eq_self_iff _
  | sub w =>
    simp only [wrapping, exact, Admits, Int64.toInt_sub, Word.toInt_toInt64]
    exact bmod_eq_self_iff _
  | mul w =>
    simp only [wrapping, exact, Admits, Int64.toInt_mul, Word.toInt_toInt64]
    exact bmod_eq_self_iff _
  | neg =>
    simp only [wrapping, exact, Admits, Int64.toInt_neg, Word.toInt_toInt64]
    exact bmod_eq_self_iff _
  | narrow =>
    simp only [wrapping, exact, Admits, toInt_toInt64_toUInt64]
    constructor
    · intro same
      have small := acc.toInt64.toUInt64.toUInt8.toNat_lt
      omega
    · rintro ⟨low, high⟩
      have natural : 0 ≤ acc.toInt64 := by
        rw [Int64.le_iff_toInt_le, acc.toInt_toInt64]
        exact low
      have value : acc.toInt64.toNatClampNeg = acc.toInt.toNat := congrArg Int.toNat acc.toInt_toInt64
      rw [UInt64.toNat_toUInt8, Int64.toNat_toUInt64_of_le natural, value]
      omega

theorem toInt_of_apply {s : ChainStep} {acc w : Word} (h : s.apply acc = .ok w) : w.toInt = s.exact acc.toInt :=
  ((apply_eq_ok_iff s acc w).mp h).2

theorem toInt64_of_apply {s : ChainStep} {acc w : Word} (h : s.apply acc = .ok w) :
    w.toInt64 = s.wrapping acc.toInt64 := by
  obtain ⟨admitted, value⟩ := (apply_eq_ok_iff s acc w).mp h
  rw [← Int64.toInt_inj, Word.toInt_toInt64, value, (toInt_wrapping_eq_iff s acc).mpr admitted]

/-- What a step answers and what is left in the accumulator, said by the exact result. -/
structure Settles (s : ChainStep) (acc : Word) (answer : Except ArithmeticFault Word) (next : Word) : Prop where
  succeeds : (∃ w, answer = .ok w) ↔ s.Admits (s.exact acc.toInt)
  unwrapped : (∃ w, answer = .ok w) ↔ (s.wrapping acc.toInt64).toInt = s.exact acc.toInt
  result : ∀ w, answer = .ok w → w.toInt = s.exact acc.toInt ∧ next = w
  kept : ∀ f, answer = .error f → next = acc

theorem settles (s : ChainStep) (acc : Word) : s.Settles acc (s.apply acc) (s.advance acc) where
  succeeds := exists_apply_iff s acc
  unwrapped := (exists_apply_iff s acc).trans (toInt_wrapping_eq_iff s acc).symm
  result w applied := ⟨toInt_of_apply applied, by rw [advance, applied]⟩
  kept f failed := by rw [advance, failed]

/-- The steps of a chain that are answered with a result. -/
def succeeding (start : Word) (steps : List ChainStep) : List ChainStep :=
  ((steps.zip (runChain start steps).1).filter fun p => p.2.isOk).map Prod.fst

theorem succeeding_of_ok {s : ChainStep} {acc w : Word} (applied : s.apply acc = .ok w) (later : List ChainStep) :
    succeeding acc (s :: later) = s :: succeeding w later := by
  simp only [succeeding, runChain, advance, applied]
  rfl

theorem succeeding_of_error {s : ChainStep} {acc : Word} {f : ArithmeticFault} (failed : s.apply acc = .error f)
    (later : List ChainStep) : succeeding acc (s :: later) = succeeding acc later := by
  simp only [succeeding, runChain, advance, failed]
  rfl

/-- What keeps up with every successful step keeps up with a chain, by the steps that succeed. -/
theorem view_runChain {β : Type} {view : Word → β} {step : β → ChainStep → β}
    (keepsUp : ∀ (s : ChainStep) (acc w : Word), s.apply acc = .ok w → view w = step (view acc) s)
    (acc : Word) (steps : List ChainStep) :
    view (runChain acc steps).2 = (succeeding acc steps).foldl step (view acc) := by
  induction steps generalizing acc with
  | nil => rfl
  | cons s later ih =>
    change view (runChain (s.advance acc) later).2 = _
    rw [ih, advance]
    cases applied : s.apply acc with
    | error f => rw [succeeding_of_error applied]
    | ok w => rw [succeeding_of_ok applied, List.foldl_cons, keepsUp s acc w applied]

theorem runChain_append (acc : Word) (front back : List ChainStep) :
    runChain acc (front ++ back) =
      ((runChain acc front).1 ++ (runChain (runChain acc front).2 back).1,
        (runChain (runChain acc front).2 back).2) := by
  induction front generalizing acc with
  | nil => rfl
  | cons s front ih => simp only [List.cons_append, runChain, ih]

theorem length_runChain (acc : Word) (steps : List ChainStep) : (runChain acc steps).1.length = steps.length := by
  induction steps generalizing acc with
  | nil => rfl
  | cons s later ih => simp only [runChain, List.length_cons, ih]

end ChainStep

open ChainStep

/-- Checked arithmetic is exact along every chain. Each step succeeds if and only if its result over the integers is
admitted, which is where machine arithmetic does not wrap, and then leaves that result; a step that fails leaves the
accumulator. So the accumulator is at the end what the successful steps come to over the integers, and also what they
come to on machine integers. The comparisons that are built from the strict ones are those of the integers. -/
theorem runChain_exact_throughout (start : Word) (steps : List ChainStep) :
    (runChain start steps).1.length = steps.length ∧
    (∀ front s back, steps = front ++ s :: back →
      ∃ answer, (runChain start steps).1[front.length]? = some answer ∧
        s.Settles (runChain start front).2 answer (runChain start (front ++ [s])).2) ∧
    (runChain start steps).2.toInt = (succeeding start steps).foldl exact start.toInt ∧
    (runChain start steps).2.toInt64 = (succeeding start steps).foldl wrapping start.toInt64 ∧
    (∀ a b : Word, (a.eq b = true ↔ a.toInt = b.toInt) ∧ (a.ne b = true ↔ a.toInt ≠ b.toInt) ∧
      (a.ge b = true ↔ b.toInt ≤ a.toInt) ∧ (a.le b = true ↔ a.toInt ≤ b.toInt)) ∧
    ∀ b c : UInt8, Byte.eq b c = true ↔ b = c := by
  refine ⟨length_runChain start steps, ?_, view_runChain (fun _ _ _ => toInt_of_apply) start steps,
    view_runChain (fun _ _ _ => toInt64_of_apply) start steps,
    fun a b => ⟨Word.eq_iff, Word.ne_iff, Word.ge_iff, Word.le_iff⟩, Byte.eq_iff⟩
  rintro front s back rfl
  refine ⟨s.apply (runChain start front).2, ?_, ?_⟩
  · rw [runChain_append, List.getElem?_append_right (Nat.le_of_eq (length_runChain _ _)), length_runChain, Nat.sub_self]
    rfl
  · rw [runChain_append]
    exact settles s (runChain start front).2

/-- The least word can neither be negated nor narrowed nor lowered, and after one step up it can be negated. -/
example :
    (runChain ⟨minWord, by decide, by decide⟩ [.neg, .narrow, .sub ⟨1, by decide, by decide⟩,
      .mul ⟨-1, by decide, by decide⟩, .add ⟨1, by decide, by decide⟩, .neg]).2.toInt = maxWord := by
  decide

end Quota
