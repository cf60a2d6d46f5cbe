import Mathlib.Algebra.Ring.Nat
import Quota.Proofs.OrderlyCommands
import Quota.Proofs.SingleReservation

set_option autoImplicit false

/-!
# Steps that reserve in stages

A step of a command may make several reservations, each on top of all before it. Then a budget is enough if it covers
the total. If it does not, the step stops at the first stage that goes beyond it, and what it had made is given back.
Such steps can be put together.
-/
namespace Quota

/-- A reservation of a command, with the context in which the command reports that it was refused. -/
structure Stage where
  context : String
  element : ElementType
  slots : Nat

namespace Stage

def bytes (stage : Stage) : Nat := stage.slots * stage.element.size

/-- The block that is had when the stage is passed. -/
def block (stage : Stage) (source : Source) : Block := ⟨source, stage.slots, stage.bytes⟩

/-- The report that the stage went beyond a limit. -/
def refusal (stage : Stage) (used limit : Nat) : CommandStop :=
  Execution.failure stage.context (StorageFault.exhausted stage.bytes used limit).fault

def total (stages : List Stage) : Nat := (stages.map bytes).sum

theorem total_nil : total [] = 0 := rfl

theorem total_cons (stage : Stage) (rest : List Stage) : total (stage :: rest) = stage.bytes + total rest :=
  List.sum_cons

theorem total_append (front back : List Stage) : total (front ++ back) = total front + total back := by
  rw [total, List.map_append, List.sum_append]
  rfl

/-- The report on the first stage that goes beyond the budget. -/
def shortfall? (budget : Option Nat) : (used : Nat) → List Stage → Option CommandStop
  | _, [] => none
  | used, stage :: rest =>
    match budget.filter (· < used + stage.bytes) with
    | some limit => some (stage.refusal used limit)
    | none => shortfall? budget (used + stage.bytes) rest

theorem shortfall?_append (budget : Option Nat) (used : Nat) (front back : List Stage) :
    shortfall? budget used (front ++ back) =
      (shortfall? budget used front).or (shortfall? budget (used + total front) back) := by
  induction front generalizing used with
  | nil => rfl
  | cons stage rest ih =>
    rw [List.cons_append, shortfall?, shortfall?, total_cons, ← Nat.add_assoc]
    cases budget.filter (· < used + stage.bytes) with
    | some limit => rfl
    | none => exact ih (used + stage.bytes)

theorem shortfall?_one (budget : Option Nat) (used : Nat) (stage : Stage) :
    shortfall? budget used [stage] = (budget.filter (· < used + stage.bytes)).map (stage.refusal used) := by
  rw [shortfall?]
  cases budget.filter (· < used + stage.bytes) with
  | some limit => rfl
  | none => rfl

theorem shortfall?_unlimited (used : Nat) (stages : List Stage) : shortfall? none used stages = none := by
  induction stages generalizing used with
  | nil => rfl
  | cons stage rest ih => exact ih (used + stage.bytes)

theorem shortfall?_of_le {limit used : Nat} {stages : List Stage} (enough : used + total stages ≤ limit) :
    shortfall? (some limit) used stages = none := by
  induction stages generalizing used with
  | nil => rfl
  | cons stage rest ih =>
    rw [total_cons] at enough
    have fits : ¬ limit < used + stage.bytes := by omega
    rw [shortfall?, Option.filter_some, if_neg (by simpa using fits)]
    exact ih (by omega)

/-- Beyond the limit there is a first stage that goes beyond it. -/
theorem shortfall?_of_lt {limit used : Nat} {stages : List Stage} (within : used ≤ limit)
    (beyond : limit < used + total stages) :
    ∃ before stage after, stages = before ++ stage :: after ∧ used + total before ≤ limit ∧
      limit < used + total before + stage.bytes ∧
      shortfall? (some limit) used stages = some (stage.refusal (used + total before) limit) := by
  induction stages generalizing used with
  | nil => exact absurd beyond (Nat.not_lt_of_le within)
  | cons stage rest ih =>
    rw [shortfall?, Option.filter_some]
    by_cases fits : used + stage.bytes ≤ limit
    · rw [total_cons, ← Nat.add_assoc] at beyond
      obtain ⟨before, failing, after, rfl, passed, exceeded, report⟩ := ih fits beyond
      refine ⟨stage :: before, failing, after, rfl, ?_⟩
      rw [total_cons, ← Nat.add_assoc, if_neg (by simpa using fits)]
      exact ⟨passed, exceeded, report⟩
    · refine ⟨[], stage, rest, rfl, within, Nat.lt_of_not_le fits, ?_⟩
      rw [if_pos (by simpa using fits)]
      rfl

end Stage

/-- The allocator grants the storage of all stages. -/
def Allocator.Grants (alloc : Allocator) (stages : List Stage) : Prop :=
  ∀ stage ∈ stages, ∀ earlier, alloc earlier stage.element stage.slots = none

namespace Books

/-- With a budget, the ledger of the source has its limit, so many bytes in use and so many refusals; without one, there
is no ledger. -/
def Stands (books : Books) (source : Source) (budget : Option Nat) (used refusals : Nat) : Prop :=
  (books.ledger? source).map (fun l => (l.limit, l.inUse, l.refusals)) =
    budget.map fun limit => (limit, used, refusals)

namespace Stands

variable {books later : Books} {source : Source} {budget : Option Nat} {used refusals : Nat}

theorem of_ledger?_eq (h : books.Stands source budget used refusals)
    (same : later.ledger? source = books.ledger? source) : later.Stands source budget used refusals := by
  rw [Stands, same]
  exact h

theorem exists_ledger {limit : Nat} (h : books.Stands source (some limit) used refusals) :
    ∃ l, books.ledger? source = some l ∧ l.limit = limit ∧ l.inUse = used ∧ l.refusals = refusals := by
  obtain ⟨l, found, figures⟩ := Option.map_eq_some_iff.mp h
  simp only [Prod.mk.injEq] at figures
  exact ⟨l, found, figures⟩

theorem adjust {f : Ledger → Ledger} {used' refusals' : Nat} (h : books.Stands source budget used refusals)
    (shift : ∀ l, l.inUse = used → l.refusals = refusals →
      (f l).limit = l.limit ∧ (f l).inUse = used' ∧ (f l).refusals = refusals') :
    (books.adjust source f).Stands source budget used' refusals' := by
  rw [Stands, ledger?_adjust, Option.map_map]
  cases budget with
  | none =>
    rw [Option.map_eq_none_iff.mp h]
    rfl
  | some limit =>
    obtain ⟨l, found, rfl, rfl, rfl⟩ := h.exists_ledger
    obtain ⟨sameLimit, inUse, counted⟩ := shift l rfl rfl
    rw [found, Option.map_some, Function.comp_apply, if_pos rfl, sameLimit, inUse, counted]
    rfl

theorem release {b : Block} (h : books.Stands b.source budget (used + b.bytes) refusals) :
    (b.release books).Stands b.source budget used refusals := by
  have credited : (books.credit b.source b.bytes).Stands b.source budget used refusals := by
    rw [credit_eq]
    apply h.adjust
    intro l inUse counted
    refine ⟨rfl, ?_, counted⟩
    rw [Ledger.release, inUse, Nat.add_sub_cancel]
  exact credited.of_ledger?_eq (ledger?_note _ _ _)

variable {alloc : Allocator} {stage : Stage}

theorem reserve_covered (h : books.Stands source budget used refusals) (small : used + stage.bytes < addressSpace)
    (covered : ∀ limit, budget = some limit → used + stage.bytes ≤ limit)
    (granted : ∀ earlier, alloc earlier stage.element stage.slots = none) :
    ∃ after, Block.reserve alloc source stage.element stage.slots books = (.ok (stage.block source), after) ∧
      after.Stands source budget (used + stage.bytes) refusals := by
  have allowed : ∀ l, books.ledger? source = some l → l.Allows stage.bytes := by
    intro l found
    cases budget with
    | none =>
      rw [Option.map_eq_none_iff.mp h] at found
      cases found
    | some limit =>
      obtain ⟨l', found', rfl, rfl, rfl⟩ := h.exists_ledger
      rw [found'] at found
      cases found
      exact ⟨small, covered _ rfl⟩
  refine ⟨_, Block.reserve_granted (Nat.lt_of_le_of_lt (Nat.le_add_left _ _) small) allowed (granted _), ?_⟩
  have taken : (books.adjust source (·.grant stage.bytes)).Stands source budget (used + stage.bytes) refusals := by
    apply h.adjust
    intro l inUse counted
    exact ⟨rfl, congrArg (· + stage.bytes) inUse, counted⟩
  exact taken.of_ledger?_eq ((ledger?_note _ _ _).trans (ledger?_ask _ _))

theorem reserve_short {limit : Nat} (h : books.Stands source (some limit) used refusals)
    (small : used + stage.bytes < addressSpace) (beyond : limit < used + stage.bytes) :
    ∃ after, Block.reserve alloc source stage.element stage.slots books =
        (.error (.exhausted stage.bytes used limit), after) ∧
      after.Stands source (some limit) used (refusals + 1) := by
  obtain ⟨l, found, rfl, rfl, rfl⟩ := h.exists_ledger
  have denied : ¬ l.Allows stage.bytes := by
    intro allowed
    exact absurd allowed.2 (Nat.not_le_of_lt beyond)
  refine ⟨_, Block.reserve_denied (Nat.lt_of_le_of_lt (Nat.le_add_left _ _) small) found denied, ?_⟩
  have counted : (books.adjust source Ledger.refuse).Stands source (some l.limit) l.inUse (l.refusals + 1) := by
    apply h.adjust
    intro l' inUse refused
    exact ⟨rfl, inUse, congrArg (· + 1) refused⟩
  exact counted.of_ledger?_eq (ledger?_note _ _ _)

end Stands

end Books

namespace Execution

open Stage

/-- The change gives so many bytes back to the source. -/
def Returns (source : Source) (bytes : Nat) (f : Books → Books) : Prop :=
  ∀ (books : Books) (budget : Option Nat) (used refusals : Nat),
    books.Stands source budget (used + bytes) refusals → (f books).Stands source budget used refusals

theorem returns_block (stage : Stage) (source : Source) : Returns source stage.bytes (stage.block source).release := by
  intro books budget used refusals stands
  exact Books.Stands.release (b := stage.block source) stands

theorem Returns.comp {source : Source} {n m : Nat} {f g : Books → Books} (hf : Returns source n f)
    (hg : Returns source m g) : Returns source (n + m) fun books => g (f books) := by
  intro books budget used refusals stands
  rw [Nat.add_comm n m, ← Nat.add_assoc] at stands
  exact hg _ _ _ _ (hf _ _ _ _ stands)

/-- The step, which begins with `had` bytes in use, takes the stages in turn. If the budget covers them all, it gives
the answer and leaves `owed` bytes in use. If not, it reports the first that is not covered, and leaves none in use. -/
structure Takes {α : Type} (source : Source) (had : Nat) (stages : List Stage) (answer : Except CommandStop α)
    (owed : Nat) (step : Action α) : Prop where
  covered : ∀ (used : Nat) {books : Books} {budget : Option Nat} {refusals : Nat},
    books.Stands source budget (used + had) refusals → used + had + total stages < addressSpace →
    shortfall? budget (used + had) stages = none →
    ∃ after, step books = (answer, after) ∧ after.Stands source budget (used + owed) refusals
  short : ∀ (used : Nat) {books : Books} {budget : Option Nat} {refusals : Nat} {stop : CommandStop},
    books.Stands source budget (used + had) refusals → used + had + total stages < addressSpace →
    shortfall? budget (used + had) stages = some stop →
    ∃ after, step books = (.error stop, after) ∧ after.Stands source budget used (refusals + 1)

section

variable {α β : Type} {alloc : Allocator} {source : Source} {had owed : Nat} {stages front back : List Stage}
variable {answer : Except CommandStop α} {step : Action α}

theorem Takes.congr {step' : Action α} (h : Takes source had stages answer owed step)
    (same : ∀ books, step' books = step books) : Takes source had stages answer owed step' := by
  rw [funext same]
  exact h

theorem takes_nothing (source : Source) (had : Nat) (answer : Except CommandStop α) :
    Takes source had [] answer had fun books => (answer, books) where
  covered _ _ _ _ stands _ _ := ⟨_, rfl, stands⟩
  short _ _ _ _ _ _ _ failed := by cases failed

/-- A step that reserves one block and makes its value of it. -/
theorem takes_of_reserve {stage : Stage} {a : α} (granted : ∀ earlier, alloc earlier stage.element stage.slots = none)
    (made : ∀ {books middle}, Block.reserve alloc source stage.element stage.slots books =
        (.ok (stage.block source), middle) →
      ∃ after, step books = (.ok a, after) ∧ after.ledger? source = middle.ledger? source)
    (failed : ∀ {books middle f}, Block.reserve alloc source stage.element stage.slots books = (.error f, middle) →
      ∃ after, step books = (.error (failure stage.context f.fault), after) ∧
        after.ledger? source = middle.ledger? source) :
    Takes source 0 [stage] (.ok a) stage.bytes step where
  covered used {books budget refusals} stands small enough := by
    rw [shortfall?_one, Option.map_eq_none_iff, Option.filter_eq_none_iff] at enough
    have covered : ∀ limit, budget = some limit → used + stage.bytes ≤ limit := by
      intro limit given
      have fits := enough limit given
      simpa using fits
    obtain ⟨middle, reserved, taken⟩ := stands.reserve_covered small covered granted
    obtain ⟨after, done, same⟩ := made reserved
    exact ⟨after, done, taken.of_ledger?_eq same⟩
  short used {books budget refusals stop} stands small report := by
    rw [shortfall?_one, Option.map_eq_some_iff] at report
    obtain ⟨limit, filtered, rfl⟩ := report
    obtain ⟨rfl, beyond⟩ := Option.filter_eq_some_iff.mp filtered
    obtain ⟨middle, refused, counted⟩ := stands.reserve_short small (by simpa using beyond)
    obtain ⟨after, done, same⟩ := failed refused
    exact ⟨after, done, counted.of_ledger?_eq same⟩

/-- One step after another, which begins with all that the first has taken. -/
theorem Takes.andThen {make : Action β} {b : β} {held : Nat} (first : Takes source had front (.ok b) held make)
    (whole : held = had + total front) (body : β → Action α)
    (second : Takes source held back answer owed (body b)) :
    Takes source had (front ++ back) answer owed fun books =>
      followed (make books) (fun stop books => (.error stop, books)) body where
  covered used {books budget refusals} stands small enough := by
    subst whole
    rw [total_append, ← Nat.add_assoc] at small
    rw [shortfall?_append, Option.or_eq_none_iff] at enough
    obtain ⟨middle, made, taken⟩ := first.covered used stands (by omega) enough.1
    rw [made, followed]
    exact second.covered used taken (by omega) (by rw [← Nat.add_assoc]; exact enough.2)
  short used {books budget refusals stop} stands small report := by
    subst whole
    rw [total_append, ← Nat.add_assoc] at small
    rw [shortfall?_append] at report
    -- either the first step goes beyond the budget, or it is covered and what it has taken is in use for the second
    cases early : shortfall? budget (used + had) front with
    | some stop' =>
      rw [early] at report
      cases report
      obtain ⟨after, failed, counted⟩ := first.short used stands (by omega) early
      exact ⟨after, by rw [failed, followed], counted⟩
    | none =>
      rw [early] at report
      obtain ⟨middle, made, taken⟩ := first.covered used stands (by omega) early
      rw [made, followed]
      exact second.short used taken (by omega) (by rw [← Nat.add_assoc]; exact report)

/-- A step beside values that are released if it fails. -/
theorem Takes.orUndo {a : α} {undo : Books → Books} (h : Takes source 0 stages (.ok a) owed step)
    (undone : Returns source had undo) :
    Takes source had stages (.ok a) (had + owed) fun books =>
      followed (step books) (fun stop books => (.error stop, undo books)) fun a books => (.ok a, books) where
  covered used {books budget refusals} stands small enough := by
    obtain ⟨after, made, taken⟩ := h.covered _ stands small enough
    exact ⟨after, by rw [made, followed], by rwa [← Nat.add_assoc]⟩
  short used {books budget refusals stop} stands small report := by
    obtain ⟨after, failed, counted⟩ := h.short _ stands small report
    exact ⟨undo after, by rw [failed, followed], undone _ _ _ _ counted⟩

theorem Takes.afterNote (h : Takes source had stages answer owed step) (e : Event) :
    Takes source had stages answer owed fun books => step (books.note e) where
  covered used {books _ _} stands small enough :=
    h.covered used (stands.of_ledger?_eq (Books.ledger?_note e books source)) small enough
  short used {books _ _ _} stands small report :=
    h.short used (stands.of_ledger?_eq (Books.ledger?_note e books source)) small report

/-- A step whose value is released once the answer is read off it. -/
theorem Takes.finish {a : α} {release : α → Books → Books} (h : Takes source had stages (.ok a) owed step)
    (returned : Returns source owed (release a)) (answer : α → β) :
    Takes source had stages (.ok (answer a)) 0 fun books =>
      followed (step books) (fun stop books => (.error stop, books)) fun a books =>
        (.ok (answer a), release a books) where
  covered used {books budget refusals} stands small enough := by
    obtain ⟨after, made, taken⟩ := h.covered _ stands small enough
    exact ⟨release a after, by rw [made, followed], returned _ _ _ _ taken⟩
  short used {books budget refusals stop} stands small report := by
    obtain ⟨after, failed, counted⟩ := h.short _ stands small report
    exact ⟨after, by rw [failed, followed], counted⟩

/-- A step beside a value that is released after it, however it ends. -/
theorem Takes.thenReturn {f : Books → Books} (h : Takes source 0 stages answer owed step)
    (returned : Returns source had f) :
    Takes source had stages answer owed fun books => ((step books).1, f (step books).2) where
  covered used {books budget refusals} stands small enough := by
    obtain ⟨after, made, taken⟩ := h.covered (used + had) stands small enough
    rw [Nat.add_right_comm] at taken
    exact ⟨f after, by rw [made], returned _ _ _ _ taken⟩
  short used {books budget refusals stop} stands small report := by
    obtain ⟨after, failed, counted⟩ := h.short _ stands small report
    exact ⟨f after, by rw [failed], returned _ _ _ _ counted⟩

theorem Takes.holding {make : Action β} {b : β} {release : β → Books → Books} {body : β → Action α} {held : Nat}
    (first : Takes source 0 front (.ok b) held make) (whole : held = total front)
    (second : Takes source 0 back answer owed (body b)) (returned : Returns source held (release b)) :
    Takes source 0 (front ++ back) answer owed (holding make release body) := by
  have both := first.andThen (by rw [whole, Nat.zero_add])
    (fun b books => ((body b books).1, release b (body b books).2)) (second.thenReturn returned)
  refine both.congr fun books => ?_
  rw [Execution.holding]
  rcases make books with ⟨_ | _, _⟩ <;> rfl

end

end Execution

end Quota
