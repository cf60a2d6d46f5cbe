import Mathlib.Data.List.Forall2
import Mathlib.Order.Nat
import Quota.Proofs.ScriptedSession

set_option autoImplicit false

/-!
# Limits decide refusals and nothing else

A run that meets no refusal goes the same way under all limits that its peaks allow. So the peak of a budget is the
least limit under which the run meets no refusal.
-/
namespace Quota

namespace Books

/-- The same books under other limits, one for each budget. -/
def relimit (limits : Nat → Nat) (books : Books) : Books :=
  { books with ledgers := books.ledgers.mapIdx fun i l => { l with limit := limits i } }

/-- How many requests a source refused, if it has a ledger. -/
def refusals (books : Books) (source : Source) : Option Nat := (books.ledger? source).map Ledger.refusals

/-- No budget ever had more in use than the limit that is meant for it. -/
def Within (limits : Nat → Nat) (books : Books) : Prop :=
  ∀ i l, books.ledger? (.budget i) = some l → l.peak ≤ limits i

theorem ledger?_relimit (limits : Nat → Nat) (books : Books) (i : Nat) :
    (books.relimit limits).ledger? (.budget i) =
      (books.ledger? (.budget i)).map fun l => { l with limit := limits i } := by
  simp [relimit, ledger?]

theorem relimit_adjust (limits : Nat → Nat) (source : Source) (f : Ledger → Ledger) (books : Books)
    (blind : ∀ (l : Ledger) (limit : Nat), f { l with limit := limit } = { f l with limit := limit }) :
    (books.adjust source f).relimit limits = (books.relimit limits).adjust source f := by
  cases source with
  | heap => rfl
  | budget j =>
    simp only [adjust, relimit, Books.mk.injEq, and_true]
    apply List.ext_getElem?
    intro i
    simp only [List.getElem?_mapIdx, List.getElem?_modify]
    cases books.ledgers[i]? with
    | none => rfl
    | some l =>
      by_cases same : j = i
      · simp only [if_pos same, Option.map_some]
        exact congrArg some (blind l _).symm
      · simp only [if_neg same, Option.map_some]
        rfl

theorem relimit_relimit (first second : Nat → Nat) (books : Books) :
    (books.relimit first).relimit second = books.relimit second := by
  simp only [relimit, Books.mk.injEq, and_true]
  apply List.ext_getElem?
  intro i
  simp [List.getElem?_mapIdx, Function.comp_def]

theorem refusals_relimit (limits : Nat → Nat) (books : Books) :
    (books.relimit limits).refusals = books.refusals := by
  funext source
  cases source with
  | heap => rfl
  | budget i => simp [refusals, ledger?_relimit, Option.map_map, Function.comp_def]

theorem refusals_adjust (source : Source) (f : Ledger → Ledger) (books : Books)
    (h : ∀ l, (f l).refusals = l.refusals) : (books.adjust source f).refusals = books.refusals := by
  funext other
  simp only [refusals, ledger?_adjust, Option.map_map]
  cases books.ledger? other with
  | none => rfl
  | some l =>
    simp only [Option.map_some, Function.comp_apply]
    split
    · rw [h]
    · rfl

/-- A request that was granted is granted under every limit that the later peak allows. -/
theorem acquire_relimit {limits : Nat → Nat} {source : Source} {bytes : Nat} {books after : Books}
    (taken : books.acquire source bytes = (.ok (), after)) (within : after.Within limits) :
    (books.relimit limits).acquire source bytes = (.ok (), after.relimit limits) := by
  obtain ⟨rfl, allowed⟩ := acquire_ok taken
  rw [relimit_adjust limits source _ books fun _ _ => rfl, acquire_eq]
  cases source with
  | heap => rfl
  | budget i =>
    cases found : books.ledger? (.budget i) with
    | none =>
      have none : (books.relimit limits).ledger? (.budget i) = none := by rw [ledger?_relimit, found]; rfl
      rw [none, adjust_of_none _ _ _ none]
    | some l =>
      have room := within i (l.grant bytes) (by rw [ledger?_adjust, found]; simp)
      have fits : Ledger.Allows { l with limit := limits i } bytes :=
        ⟨(allowed l found).1, (Nat.le_max_right l.peak _).trans room⟩
      rw [ledger?_relimit, found, Option.map_some]
      exact if_pos fits

end Books

namespace Books

theorem Within.of_peak_le {limits : Nat → Nat} {books later : Books}
    (h : books.Related (fun l l' => l.peak ≤ l'.peak) later) (within : later.Within limits) : books.Within limits := by
  intro i l found
  obtain ⟨l', after, le⟩ := h.later_of_some found
  exact Nat.le_trans le (within i l' after)

/-- Refusals that did not grow over two stretches did not grow over the first. -/
theorem refusals_eq_of_le {books middle later : Books}
    (first : books.Related (fun l l' => l.refusals ≤ l'.refusals) middle)
    (second : middle.Related (fun l l' => l.refusals ≤ l'.refusals) later)
    (calm : later.refusals = books.refusals) : middle.refusals = books.refusals := by
  funext source
  have same := congrFun calm source
  simp only [refusals] at same ⊢
  cases before : books.ledger? source with
  | none => rw [first.later_of_none before]
  | some a =>
    obtain ⟨b, between, ab⟩ := first.later_of_some before
    obtain ⟨c, after, bc⟩ := second.later_of_some between
    rw [before, after] at same
    rw [between]
    simp only [Option.map_some, Option.some.injEq] at same ⊢
    omega

end Books

/-- A script that meets no refusal does under other limits what it did, if its peaks keep within them. -/
theorem Script.exec_relimit {α : Type} (alloc : Allocator) (limits : Nat → Nat) (script : Script α) (books : Books)
    (calm : (script.exec alloc books).2.refusals = books.refusals)
    (within : (script.exec alloc books).2.Within limits) :
    script.exec alloc (books.relimit limits) =
      ((script.exec alloc books).1, (script.exec alloc books).2.relimit limits) := by
  induction script generalizing books with
  | done x => rfl
  | note e next ih =>
    refine ih (books.note e) ?_ within
    rw [exec] at calm
    rw [calm]
    funext source
    simp [Books.refusals]
  | credit source bytes next ih =>
    have blind : (books.relimit limits).credit source bytes = (books.credit source bytes).relimit limits := by
      rw [Books.credit_eq, Books.credit_eq, Books.relimit_adjust limits source _ books fun _ _ => rfl]
    rw [exec, blind]
    refine ih (books.credit source bytes) ?_ within
    rw [exec] at calm
    rw [calm, Books.credit_eq, Books.refusals_adjust source (·.release bytes) books fun _ => rfl]
  | acquire source bytes next ih =>
    rw [exec] at calm within ⊢
    have grows := (next (books.acquire source bytes).1).exec_related Ledger.persistent_peak alloc
      (books.acquire source bytes).2
    have counts := (next (books.acquire source bytes).1).exec_related Ledger.persistent_refusals alloc
      (books.acquire source bytes).2
    rcases taken : books.acquire source bytes with ⟨f | ⟨⟩, after⟩
    · -- a refusal is counted, and no later step takes it back
      obtain ⟨l, found, _, _, rfl⟩ := Books.acquire_error taken
      rw [taken] at calm counts
      have refused : ((books.adjust source Ledger.refuse).note (.budgetRefused bytes l.inUse l.limit)).ledger? source =
          some l.refuse := by
        rw [Books.ledger?_note, Books.ledger?_adjust, found]
        simp
      obtain ⟨l', after, le⟩ := counts.later_of_some refused
      have same := congrFun calm source
      simp only [Books.refusals, found, after, Option.map_some, Option.some.injEq] at same
      simp only [Ledger.refuse] at le
      omega
    · rw [taken] at calm within grows
      rw [Books.acquire_relimit taken (.of_peak_le grows within), exec, taken]
      refine ih (.ok ()) after ?_ within
      rw [calm, (Books.acquire_ok taken).1, Books.refusals_adjust source (·.grant bytes) books fun _ => rfl]
  | ask element slots next ih => exact ih _ books.ask calm within

end Quota
