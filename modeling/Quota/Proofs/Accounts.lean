import Mathlib.Data.List.Basic
import Quota.Storage.Block

set_option autoImplicit false

/-!
# What dealings with a source do to the ledgers

Every dealing changes the ledger of its own source by one of three functions: a granted request, a refused request, or
bytes given back. The other ledgers stay as they are.
-/
namespace Quota

namespace Ledger

/-- The ledger after a request that was granted. -/
def grant (l : Ledger) (bytes : Nat) : Ledger :=
  { l with inUse := l.inUse + bytes, peak := max l.peak (l.inUse + bytes) }

/-- The total stays addressable and within the limit. -/
def Allows (l : Ledger) (bytes : Nat) : Prop := l.inUse + bytes < addressSpace ∧ l.inUse + bytes ≤ l.limit

instance (l : Ledger) (bytes : Nat) : Decidable (l.Allows bytes) := inferInstanceAs (Decidable (_ ∧ _))

theorem acquire?_eq (l : Ledger) (bytes : Nat) :
    l.acquire? bytes = if l.Allows bytes then some (l.grant bytes) else none := rfl

/-- A relation between a ledger and what becomes of it, which holds over any number of dealings. -/
structure Persistent (R : Ledger → Ledger → Prop) : Prop where
  refl : ∀ l, R l l
  trans : ∀ a b c, R a b → R b c → R a c
  grant : ∀ l bytes, l.Allows bytes → R l (l.grant bytes)
  refuse : ∀ l, R l l.refuse
  release : ∀ l bytes, R l (l.release bytes)

/-- A figure that no single dealing lowers. -/
theorem Persistent.of_le (f : Ledger → Nat) (grant : ∀ l bytes, f l ≤ f (l.grant bytes))
    (refuse : ∀ l, f l ≤ f l.refuse) (release : ∀ l bytes, f l ≤ f (l.release bytes)) :
    Persistent fun l l' => f l ≤ f l' where
  refl l := Nat.le_refl (f l)
  trans _ _ _ := Nat.le_trans
  grant l bytes _ := grant l bytes
  refuse := refuse
  release := release

theorem persistent_refusals : Persistent fun l l' => l.refusals ≤ l'.refusals :=
  .of_le refusals (fun _ _ => Nat.le_refl _) (fun _ => Nat.le_succ _) fun _ _ => Nat.le_refl _

theorem persistent_peak : Persistent fun l l' => l.peak ≤ l'.peak :=
  .of_le peak (fun _ _ => Nat.le_max_left _ _) (fun _ => Nat.le_refl _) fun _ _ => Nat.le_refl _

/-- The limit stays, and a peak within it stays within it. -/
theorem persistent_limit : Persistent fun l l' => l'.limit = l.limit ∧ (l.peak ≤ l.limit → l'.peak ≤ l'.limit) where
  refl _ := ⟨rfl, id⟩
  trans _ _ _ first second := ⟨second.1.trans first.1, second.2 ∘ first.2⟩
  grant _ _ allowed := ⟨rfl, fun h => Nat.max_le.mpr ⟨h, allowed.2⟩⟩
  refuse _ := ⟨rfl, id⟩
  release _ _ := ⟨rfl, id⟩

end Ledger

namespace Books

/-- Change the ledger of one source. -/
def adjust (source : Source) (f : Ledger → Ledger) (books : Books) : Books :=
  match source with
  | .heap => books
  | .budget i => { books with ledgers := books.ledgers.modify i f }

@[simp] theorem ledger?_note (e : Event) (books : Books) (source : Source) :
    (books.note e).ledger? source = books.ledger? source := by
  cases source <;> rfl

@[simp] theorem ledger?_ask (books : Books) (source : Source) : books.ask.ledger? source = books.ledger? source := by
  cases source <;> rfl

theorem eq_empty_of_ofLimits {limits : List Nat} {source : Source} {l : Ledger}
    (found : (ofLimits limits).ledger? source = some l) : ∃ limit, l = .empty limit := by
  cases source with
  | heap => cases found
  | budget i =>
    simp only [ofLimits, ledger?, List.getElem?_map] at found
    obtain ⟨limit, _, rfl⟩ := Option.map_eq_some_iff.mp found
    exact ⟨limit, rfl⟩

theorem ledger?_adjust (source other : Source) (f : Ledger → Ledger) (books : Books) :
    (books.adjust source f).ledger? other = (books.ledger? other).map fun l => if other = source then f l else l := by
  cases other with
  | heap => cases source <;> rfl
  | budget i =>
    cases source with
    | heap => simp [adjust]
    | budget j =>
      simp only [adjust, ledger?, List.getElem?_modify, Source.budget.injEq]
      by_cases same : j = i
      · simp [same]
      · simp [same, Ne.symm same]

theorem asked_adjust (source : Source) (f : Ledger → Ledger) (books : Books) :
    (books.adjust source f).asked = books.asked := by
  cases source <;> rfl

/-- A source without a ledger has nothing to change. -/
theorem adjust_of_none (source : Source) (f : Ledger → Ledger) (books : Books) (h : books.ledger? source = none) :
    books.adjust source f = books := by
  cases source with
  | heap => rfl
  | budget i =>
    have outside : books.ledgers.length ≤ i := List.getElem?_eq_none_iff.mp h
    simp [adjust, List.modify_eq_self outside]

theorem set_ledgers_eq_adjust (i : Nat) (f : Ledger → Ledger) (books : Books) (l : Ledger)
    (h : books.ledgers[i]? = some l) :
    { books with ledgers := books.ledgers.set i (f l) } = books.adjust (.budget i) f := by
  simp only [adjust, List.modify_eq_set_getElem?, h]
  rfl

/-- A request either is granted, which adds it to the ledger of its source, or it is refused, which is counted there. -/
theorem acquire_eq (source : Source) (bytes : Nat) (books : Books) :
    books.acquire source bytes =
      match books.ledger? source with
      | none => (.ok (), books)
      | some l =>
        if l.Allows bytes then (.ok (), books.adjust source (·.grant bytes))
        else
          (.error (.exhausted bytes l.inUse l.limit),
            (books.adjust source Ledger.refuse).note (.budgetRefused bytes l.inUse l.limit)) := by
  cases source with
  | heap => rfl
  | budget i =>
    simp only [acquire, ledger?]
    cases h : books.ledgers[i]? with
    | none => rfl
    | some l =>
      simp only [Ledger.acquire?_eq]
      split
      · rename_i l' granted
        split at granted
        · rename_i allowed
          cases granted
          rw [if_pos allowed, set_ledgers_eq_adjust i (·.grant bytes) books l h]
        · cases granted
      · rename_i refused
        split at refused
        · cases refused
        · rename_i denied
          rw [if_neg denied, set_ledgers_eq_adjust i Ledger.refuse books l h]

theorem acquire_ok {source : Source} {bytes : Nat} {books after : Books}
    (h : books.acquire source bytes = (.ok (), after)) :
    after = books.adjust source (·.grant bytes) ∧ ∀ l, books.ledger? source = some l → l.Allows bytes := by
  rw [acquire_eq] at h
  cases found : books.ledger? source with
  | none =>
    simp only [found, Prod.mk.injEq, true_and] at h
    exact ⟨by rw [adjust_of_none source _ books found, h], by simp⟩
  | some l =>
    simp only [found] at h
    split at h
    · rename_i allowed
      cases h
      refine ⟨rfl, fun l' same => ?_⟩
      cases same
      exact allowed
    · simp at h

theorem acquire_error {source : Source} {bytes : Nat} {books after : Books} {f : StorageFault}
    (h : books.acquire source bytes = (.error f, after)) :
    ∃ l, books.ledger? source = some l ∧ ¬ l.Allows bytes ∧ f = .exhausted bytes l.inUse l.limit ∧
      after = (books.adjust source Ledger.refuse).note (.budgetRefused bytes l.inUse l.limit) := by
  rw [acquire_eq] at h
  cases found : books.ledger? source with
  | none => simp [found] at h
  | some l =>
    simp only [found] at h
    split at h
    · simp at h
    · rename_i denied
      cases h
      exact ⟨l, rfl, denied, rfl, rfl⟩

theorem credit_eq (source : Source) (bytes : Nat) (books : Books) :
    books.credit source bytes = books.adjust source (·.release bytes) := by
  cases source with
  | heap => rfl
  | budget i =>
    simp only [credit]
    cases h : books.ledgers[i]? with
    | none => exact (adjust_of_none (.budget i) _ books h).symm
    | some l => exact set_ledgers_eq_adjust i (·.release bytes) books l h

/-- Every source has a ledger in both books or in none, and the two ledgers are related. -/
def Related (R : Ledger → Ledger → Prop) (books later : Books) : Prop :=
  ∀ source, Option.Rel R (books.ledger? source) (later.ledger? source)

namespace Related

variable {R : Ledger → Ledger → Prop} {books middle later : Books}

theorem refl (h : ∀ l, R l l) (books : Books) : Related R books books := by
  intro source
  cases books.ledger? source with
  | none => exact .none
  | some l => exact .some (h l)

theorem later_of_some {source : Source} {l : Ledger} (h : Related R books later)
    (found : books.ledger? source = some l) : ∃ l', later.ledger? source = some l' ∧ R l l' := by
  have pair := h source
  rw [found] at pair
  cases after : later.ledger? source with
  | none =>
    rw [after] at pair
    cases pair
  | some l' =>
    rw [after] at pair
    cases pair with
    | some so => exact ⟨l', rfl, so⟩

theorem earlier_of_some {source : Source} {l' : Ledger} (h : Related R books later)
    (found : later.ledger? source = some l') : ∃ l, books.ledger? source = some l ∧ R l l' := by
  have pair := h source
  rw [found] at pair
  cases before : books.ledger? source with
  | none =>
    rw [before] at pair
    cases pair
  | some l =>
    rw [before] at pair
    cases pair with
    | some so => exact ⟨l, rfl, so⟩

theorem later_of_none {source : Source} (h : Related R books later) (found : books.ledger? source = none) :
    later.ledger? source = none := by
  cases after : later.ledger? source with
  | none => rfl
  | some l' =>
    obtain ⟨l, before, _⟩ := h.earlier_of_some after
    rw [found] at before
    cases before

theorem imp {S : Ledger → Ledger → Prop} (related : Related R books later) (h : ∀ l l', R l l' → S l l') :
    Related S books later := by
  intro source
  cases before : books.ledger? source with
  | none =>
    rw [related.later_of_none before]
    exact .none
  | some l =>
    obtain ⟨l', after, pair⟩ := related.later_of_some before
    rw [after]
    exact .some (h l l' pair)

theorem trans (h : ∀ a b c, R a b → R b c → R a c) (first : Related R books middle) (second : Related R middle later) :
    Related R books later := by
  intro source
  cases before : books.ledger? source with
  | none =>
    rw [second.later_of_none (first.later_of_none before)]
    exact .none
  | some a =>
    obtain ⟨b, between, ab⟩ := first.later_of_some before
    obtain ⟨c, after, bc⟩ := second.later_of_some between
    rw [after]
    exact .some (h a b c ab bc)

theorem length_eq (h : Related R books later) : later.ledgers.length = books.ledgers.length := by
  have outside : ∀ i, books.ledgers.length ≤ i ↔ later.ledgers.length ≤ i := by
    intro i
    rw [← List.getElem?_eq_none_iff, ← List.getElem?_eq_none_iff]
    change books.ledger? (.budget i) = none ↔ later.ledger? (.budget i) = none
    refine ⟨h.later_of_none, fun none => ?_⟩
    cases before : books.ledger? (.budget i) with
    | none => rfl
    | some l =>
      obtain ⟨l', after, _⟩ := h.later_of_some before
      rw [none] at after
      cases after
  have first := (outside books.ledgers.length).mp (Nat.le_refl _)
  have second := (outside later.ledgers.length).mpr (Nat.le_refl _)
  omega

theorem adjust (target : Source) (f : Ledger → Ledger) (h : ∀ l, R l l)
    (step : ∀ l, books.ledger? target = some l → R l (f l)) : Related R books (books.adjust target f) := by
  intro source
  rw [ledger?_adjust]
  cases found : books.ledger? source with
  | none => exact .none
  | some l =>
    refine .some ?_
    change R l (if source = target then f l else l)
    by_cases same : source = target
    · rw [if_pos same]
      exact step l (same ▸ found)
    · rw [if_neg same]
      exact h l

end Related

end Books

end Quota
