import Quota.Proofs.Runs
import Quota.Proofs.Transparency

set_option autoImplicit false

/-!
# The least budgets of a run

The same requests under other limits: either some budget refuses, or every reply and every figure but the limit is the
same. Which of the two it is, the peaks tell.
-/
namespace Quota

theorem Books.refusals_ofLimits (limits : List Nat) (source : Source) (n : Nat)
    (h : (Books.ofLimits limits).refusals source = some n) : n = 0 := by
  obtain ⟨l, found, rfl⟩ := Option.map_eq_some_iff.mp h
  obtain ⟨limit, rfl⟩ := Books.eq_empty_of_ofLimits found
  rfl

theorem Books.mem_ledgers_iff (books : Books) (l : Ledger) :
    l ∈ books.ledgers ↔ ∃ i, books.ledger? (.budget i) = some l := List.mem_iff_getElem?

namespace Session

variable (alloc : Allocator)

/-- The same session under other limits. -/
def relimit (limits : Nat → Nat) (s : Session) : Session := s.withBooks (s.books.relimit limits)

theorem step_relimit (limits : Nat → Nat) (s : Session) (request : Option Request)
    (calm : (s.step alloc request).2.books.refusals = s.books.refusals)
    (within : (s.step alloc request).2.books.Within limits) :
    (s.relimit limits).step alloc request = ((s.step alloc request).1, (s.step alloc request).2.relimit limits) := by
  obtain ⟨script, follows⟩ := s.scripted_step request
  have before : (((s.step alloc request).1, (s.step alloc request).2.withBooks blank), (s.step alloc request).2.books) =
      script.exec alloc s.books := follows alloc s.books
  have after : ((((s.relimit limits).step alloc request).1, ((s.relimit limits).step alloc request).2.withBooks blank),
      ((s.relimit limits).step alloc request).2.books) = script.exec alloc (s.books.relimit limits) :=
    follows alloc (s.books.relimit limits)
  have same := script.exec_relimit alloc limits s.books (by rw [← before]; exact calm) (by rw [← before]; exact within)
  rw [← before, ← after] at same
  simp only [Prod.mk.injEq] at same
  obtain ⟨⟨reply, values⟩, books⟩ := same
  have whole : ((s.relimit limits).step alloc request).2 = (s.step alloc request).2.relimit limits := by
    calc ((s.relimit limits).step alloc request).2
        = (((s.relimit limits).step alloc request).2.withBooks blank).withBooks
            ((s.relimit limits).step alloc request).2.books := rfl
      _ = ((s.step alloc request).2.withBooks blank).withBooks ((s.step alloc request).2.books.relimit limits) := by
          rw [values, books]
      _ = (s.step alloc request).2.relimit limits := rfl
  exact Prod.ext reply whole

/-- A run that meets no refusal gives the same replies under all limits that its peaks allow. -/
theorem run_relimit (limits : Nat → Nat) (s : Session) (requests : List (Option Request))
    (calm : (s.run alloc requests).2.books.refusals = s.books.refusals)
    (within : (s.run alloc requests).2.books.Within limits) :
    (s.relimit limits).run alloc requests =
      ((s.run alloc requests).1.map fun p => (p.1, p.2.relimit limits), (s.run alloc requests).2.relimit limits) := by
  induction requests generalizing s with
  | nil => rfl
  | cons request rest ih =>
    rw [run_cons] at calm within
    rw [run_cons, run_cons]
    by_cases aborted : (s.step alloc request).1.isAbort
    · rw [if_pos aborted] at calm within
      rw [step_relimit alloc limits s request calm within, if_pos aborted, if_pos aborted]
      rfl
    · rw [if_neg aborted] at calm within
      have later := run_related alloc Ledger.persistent_refusals (s.step alloc request).2 rest
      have calmStep := Books.refusals_eq_of_le (s.step_related alloc Ledger.persistent_refusals request) later calm
      have withinStep := Books.Within.of_peak_le
        (run_related alloc Ledger.persistent_peak (s.step alloc request).2 rest) within
      have goesOn := ih (s.step alloc request).2 (calm.trans calmStep.symm) within
      rw [step_relimit alloc limits s request calmStep withinStep, if_neg aborted, if_neg aborted, goesOn]
      rfl

/-- After no request has a budget counted a refusal. -/
def NeverRefused (replies : List (Reply × Books)) : Prop := ∀ p ∈ replies, ∀ l ∈ p.2.ledgers, l.refusals = 0

instance (replies : List (Reply × Books)) : Decidable (NeverRefused replies) :=
  inferInstanceAs (Decidable (∀ p ∈ replies, ∀ l ∈ p.2.ledgers, l.refusals = 0))

/-- The reply, and of each budget what is in use after it and the most that was. -/
def usage (p : Reply × Books) : Reply × List (Nat × Nat) := (p.1, p.2.ledgers.map fun l => (l.inUse, l.peak))

theorem usage_relimit (limits : Nat → Nat) (p : Reply × Books) : usage (p.1, p.2.relimit limits) = usage p := by
  simp only [usage, Books.relimit, Prod.mk.injEq, true_and]
  apply List.ext_getElem?
  intro i
  simp [Option.map_map, Function.comp_def]

section Start

variable (limits others : List (Option Nat))

/-- The limit of each budget in turn. -/
def limitOf (i : Nat) : Nat := (limits.filterMap id).getD i 0

theorem length_filterMap_id : (limits.filterMap id).length = (limits.map Option.isSome).count true := by
  induction limits with
  | nil => rfl
  | cons limit rest ih => cases limit <;> simpa using ih

theorem sourcesFrom_congr (next : Nat) (shape : others.map Option.isSome = limits.map Option.isSome) :
    sourcesFrom next others = sourcesFrom next limits := by
  induction limits generalizing others next with
  | nil =>
    cases others with
    | nil => rfl
    | cons other others => simp at shape
  | cons limit limits ih =>
    cases others with
    | nil => simp at shape
    | cons other others =>
      simp only [List.map_cons, List.cons.injEq] at shape
      cases limit <;> cases other <;>
        simp only [Option.isSome_none, Option.isSome_some, reduceCtorEq, false_and] at shape
      · rw [sourcesFrom, sourcesFrom, ih others next shape.2]
      · rw [sourcesFrom, sourcesFrom, ih others (next + 1) shape.2]

/-- Sessions over as many budgets and in the same places start alike but for the limits. -/
theorem start_eq_relimit (shape : others.map Option.isSome = limits.map Option.isSome) :
    start others = (start limits).relimit (limitOf others) := by
  have lengths : (others.filterMap id).length = (limits.filterMap id).length := by
    rw [length_filterMap_id, length_filterMap_id, shape]
  have books : (start others).books = (start limits).books.relimit (limitOf others) := by
    simp only [start, Books.ofLimits, Books.relimit, Books.mk.injEq, and_true]
    apply List.ext_getElem?
    intro i
    simp only [List.getElem?_map, List.getElem?_mapIdx, limitOf, List.getD_eq_getElem?_getD]
    by_cases inside : i < (limits.filterMap id).length
    · rw [List.getElem?_eq_getElem (lengths ▸ inside), List.getElem?_eq_getElem inside]
      rfl
    · rw [List.getElem?_eq_none (by omega), List.getElem?_eq_none (by omega)]
      rfl
  have direct : others.map (fun _ => 0) = limits.map fun _ => 0 := by
    have lengths : others.length = limits.length := by simpa using congrArg List.length shape
    rw [List.map_const', List.map_const', lengths]
  simp only [relimit, withBooks, ← books]
  simp only [start, sourcesFrom_congr limits others 0 shape, direct]

end Start

section Refusals

variable (limits : List (Option Nat)) (requests : List (Option Request))

theorem refusals_eq_of_neverRefused (calm : NeverRefused ((start limits).run alloc requests).1) :
    ((start limits).run alloc requests).2.books.refusals = (start limits).books.refusals := by
  rcases books_run_eq alloc (start limits) requests with same | ⟨p, member, last⟩
  · rw [same]
  funext source
  have related := run_related alloc Ledger.persistent_refusals (start limits) requests
  cases before : (start limits).books.ledger? source with
  | none => rw [Books.refusals, Books.refusals, before, related.later_of_none before]
  | some l =>
    obtain ⟨l', after, _⟩ := related.later_of_some before
    have first := Books.refusals_ofLimits (limits.filterMap id) source l.refusals
      (congrArg (Option.map Ledger.refusals) before)
    have final : l'.refusals = 0 := by
      cases source with
      | heap => cases after
      | budget i => exact calm p member l' ((p.2.mem_ledgers_iff l').mpr ⟨i, last ▸ after⟩)
    rw [Books.refusals, Books.refusals, before, after, Option.map_some, Option.map_some, first, final]

theorem neverRefused_of_refusals_eq
    (calm : ((start limits).run alloc requests).2.books.refusals = (start limits).books.refusals) :
    NeverRefused ((start limits).run alloc requests).1 := by
  intro p member l inside
  obtain ⟨i, found⟩ := (p.2.mem_ledgers_iff l).mp inside
  have related := related_run_of_mem alloc Ledger.persistent_refusals (start limits) requests p member
  obtain ⟨l', after, le⟩ := related.later_of_some found
  have same := congrFun calm (.budget i)
  rw [Books.refusals, after] at same
  have zero := Books.refusals_ofLimits (limits.filterMap id) (.budget i) l'.refusals same.symm
  omega

/-- In a session that started without values no peak is above its limit. -/
theorem peak_le_limitOf (i : Nat) (l : Ledger)
    (h : ((start limits).run alloc requests).2.books.ledger? (.budget i) = some l) : l.peak ≤ limitOf limits i := by
  have related := run_related alloc Ledger.persistent_limit (start limits) requests
  obtain ⟨first, before, same, within⟩ := related.earlier_of_some h
  simp only [start, Books.ofLimits, Books.ledger?, List.getElem?_map] at before
  obtain ⟨limit, found, rfl⟩ := Option.map_eq_some_iff.mp before
  have named : limitOf limits i = limit := by
    rw [limitOf, List.getD_eq_getElem?_getD, found]
    rfl
  rw [named]
  exact (within (Nat.zero_le limit)).trans_eq same

end Refusals

section Comparison

variable (limits others : List (Option Nat)) (requests : List (Option Request))

/-- Two runs without refusals have the same peaks: both go as the run does under limits that suit both. -/
theorem within_of_neverRefused (shape : others.map Option.isSome = limits.map Option.isSome)
    (calm : NeverRefused ((start limits).run alloc requests).1)
    (otherCalm : NeverRefused ((start others).run alloc requests).1) :
    ((start limits).run alloc requests).2.books.Within (limitOf others) := by
  let ceiling : Nat → Nat := fun i => max (limitOf limits i) (limitOf others i)
  have oneWithin : ((start limits).run alloc requests).2.books.Within ceiling := fun i l found =>
    (peak_le_limitOf alloc limits requests i l found).trans (Nat.le_max_left _ _)
  have otherWithin : ((start others).run alloc requests).2.books.Within ceiling := fun i l found =>
    (peak_le_limitOf alloc others requests i l found).trans (Nat.le_max_right _ _)
  have one := run_relimit alloc ceiling (start limits) requests
    (refusals_eq_of_neverRefused alloc limits requests calm) oneWithin
  have other := run_relimit alloc ceiling (start others) requests
    (refusals_eq_of_neverRefused alloc others requests otherCalm) otherWithin
  have common : (start others).relimit ceiling = (start limits).relimit ceiling := by
    rw [start_eq_relimit limits others shape]
    simp only [relimit, withBooks_withBooks, books_withBooks, Books.relimit_relimit]
  rw [common, one] at other
  have books := congrArg (fun r => r.2.books) other
  simp only [relimit, books_withBooks] at books
  intro i l found
  have same := congrArg (fun b : Books => (b.ledger? (.budget i)).map Ledger.peak) books
  simp only [Books.ledger?_relimit, found, Option.map_map, Option.map_some] at same
  obtain ⟨l', found', equal⟩ := Option.map_eq_some_iff.mp same.symm
  have bound := peak_le_limitOf alloc others requests i l' found'
  simp only [Function.comp_apply] at equal
  omega

/-- Where the peaks of a run without refusals keep within other limits, the run under those is the same. -/
theorem run_start_eq_relimit (shape : others.map Option.isSome = limits.map Option.isSome)
    (calm : NeverRefused ((start limits).run alloc requests).1)
    (within : ((start limits).run alloc requests).2.books.Within (limitOf others)) :
    (start others).run alloc requests =
      (((start limits).run alloc requests).1.map fun p => (p.1, p.2.relimit (limitOf others)),
        ((start limits).run alloc requests).2.relimit (limitOf others)) := by
  rw [start_eq_relimit limits others shape]
  exact run_relimit alloc (limitOf others) (start limits) requests
    (refusals_eq_of_neverRefused alloc limits requests calm) within

theorem within_iff_forall₂ (shape : others.map Option.isSome = limits.map Option.isSome) :
    ((start limits).run alloc requests).2.books.Within (limitOf others) ↔
      List.Forall₂ (fun (l : Ledger) limit => l.peak ≤ limit) ((start limits).run alloc requests).2.books.ledgers
        (others.filterMap id) := by
  have lengths : ((start limits).run alloc requests).2.books.ledgers.length = (others.filterMap id).length := by
    rw [length_ledgers_run, length_filterMap_id, length_filterMap_id, shape]
  rw [List.forall₂_iff_get]
  constructor
  · intro within
    refine ⟨lengths, fun i inside inside' => ?_⟩
    have bound := within i _ (List.getElem?_eq_getElem inside)
    rwa [limitOf, List.getD_eq_getElem?_getD, List.getElem?_eq_getElem inside'] at bound
  · rintro ⟨_, bounds⟩ i l found
    obtain ⟨inside, rfl⟩ := List.getElem?_eq_some_iff.mp found
    rw [limitOf, List.getD_eq_getElem?_getD, List.getElem?_eq_getElem (lengths ▸ inside)]
    exact bounds i inside (lengths ▸ inside)

/-- Limits are transparent and peaks are the least limits. Let a run meet no refusal. Under other limits the same
requests meet no refusal if and only if no limit is below the peak of its budget, and then every reply is the same and
after every request every budget has the same in use and the same peak. -/
theorem neverRefused_iff_peaks_le (shape : others.map Option.isSome = limits.map Option.isSome)
    (calm : NeverRefused ((start limits).run alloc requests).1) :
    (NeverRefused ((start others).run alloc requests).1 ↔
      List.Forall₂ (fun (l : Ledger) limit => l.peak ≤ limit) ((start limits).run alloc requests).2.books.ledgers
        (others.filterMap id)) ∧
    (NeverRefused ((start others).run alloc requests).1 →
      ((start others).run alloc requests).1.map usage = ((start limits).run alloc requests).1.map usage) := by
  rw [← within_iff_forall₂ alloc limits others requests shape]
  refine ⟨⟨within_of_neverRefused alloc limits others requests shape calm, fun within => ?_⟩, fun otherCalm => ?_⟩
  · apply neverRefused_of_refusals_eq
    have same := congrArg (fun r => r.2.books.refusals)
      (run_start_eq_relimit alloc limits others requests shape calm within)
    simp only [relimit, books_withBooks, Books.refusals_relimit] at same
    rw [same, refusals_eq_of_neverRefused alloc limits requests calm, start_eq_relimit limits others shape, relimit,
      books_withBooks, Books.refusals_relimit]
  · have within := within_of_neverRefused alloc limits others requests shape calm otherCalm
    rw [run_start_eq_relimit alloc limits others requests shape calm within, List.map_map]
    exact List.map_congr_left fun p _ => usage_relimit (limitOf others) p

end Comparison

/-- A vector outgrows its first block, and on another budget a string is doubled and replaced by its double. -/
def growing : List (Option Request) :=
  [some ⟨0, false, .vector (.create .byte "v")⟩, some ⟨1, false, .string (.ofBytes "s" [7, 8])⟩,
    some ⟨0, false, .vector (.pushRange "v" 0 17)⟩, some ⟨1, false, .string (.concat "s" "s" "s")⟩]

/-- Both blocks of the vector, and both strings, have to fit at once, and one byte less does not do. -/
theorem growing_neverRefused_iff :
    NeverRefused ((start [some 100, some 10]).run .granting growing).1 ∧
      NeverRefused ((start [some 48, some 6]).run .granting growing).1 ∧
      ¬ NeverRefused ((start [some 47, some 6]).run .granting growing).1 := by
  have calm : NeverRefused ((start [some 100, some 10]).run .granting growing).1 := by decide +kernel
  have enough := neverRefused_iff_peaks_le .granting [some 100, some 10] [some 48, some 6] growing rfl calm
  have less := neverRefused_iff_peaks_le .granting [some 100, some 10] [some 47, some 6] growing rfl calm
  exact ⟨calm, enough.1.mpr (by decide +kernel), fun h => absurd (less.1.mp h) (by decide +kernel)⟩

end Session

end Quota
