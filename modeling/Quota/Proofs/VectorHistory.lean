import Mathlib.Algebra.Group.Nat.Defs
import Mathlib.Order.Bounds.Basic
import Mathlib.Order.Nat
import Quota.Container.CappedVector
import Quota.Proofs.Accounts

set_option autoImplicit false

/-!
# Histories of a vector

Over any number of pushes, of which any may be refused, a vector is the list of the values it accepted, and its capacity
is a function of their number. Between two pushes the books may change in any way.
-/
namespace Quota.CappedVector

variable {α : Type}

/-- A push: the value, and the allocator and the books it meets. -/
structure Attempt (α : Type) where
  value : α
  alloc : Allocator
  books : Books

def attempt (v : CappedVector α) (a : Attempt α) : Except PushStop Unit × CappedVector α × Books :=
  v.push a.alloc a.value a.books

/-- The vector after a history of pushes. -/
def pushAll (v : CappedVector α) : List (Attempt α) → CappedVector α
  | [] => v
  | a :: later => (v.attempt a).2.1.pushAll later

/-- The values whose pushes were answered. -/
def accepted (v : CappedVector α) : List (Attempt α) → List α
  | [] => []
  | a :: later =>
    match v.attempt a with
    | (.ok (), w, _) => a.value :: w.accepted later
    | (.error _, w, _) => w.accepted later

/-- What a push does, by the four ways it can go. -/
theorem attempt_cases (v : CappedVector α) (a : Attempt α) :
    (v.length ≠ v.capacity ∧ v.attempt a = (.ok (), v.append a.value, a.books)) ∨
    (v.length = v.capacity ∧ maxCapacity < 2 * v.capacity ∧
      v.attempt a = (.error .capped, v, (a.books.note (.vectorCapped v.capacity cappedReport.display)).note
        (.abortEntered cappedFragments.length))) ∨
    (v.length = v.capacity ∧ 2 * v.capacity ≤ maxCapacity ∧ ∃ f after,
      Block.reserve a.alloc v.block.source v.element (2 * v.capacity) a.books = (.error f, after) ∧
      v.attempt a = (.error (.storage f), v, after)) ∨
    (v.length = v.capacity ∧ 2 * v.capacity ≤ maxCapacity ∧ ∃ next middle after,
      Block.reserve a.alloc v.block.source v.element (2 * v.capacity) a.books = (.ok next, middle) ∧
      next.slots = 2 * v.capacity ∧ v.attempt a = (.ok (), append ⟨v.element, next, v.items⟩ a.value, after)) := by
  by_cases full : v.length = v.capacity
  · have isFull : v.isFull = true := decide_eq_true full
    by_cases beyond : maxCapacity < 2 * v.capacity
    · refine .inr (.inl ⟨full, beyond, ?_⟩)
      simp only [attempt, push, isFull, if_true, grow, if_pos beyond]
    · rcases reserved : Block.reserve a.alloc v.block.source v.element (2 * v.capacity) a.books with ⟨f | next, middle⟩
      · refine .inr (.inr (.inl ⟨full, Nat.le_of_not_lt beyond, f, middle, rfl, ?_⟩))
        simp only [attempt, push, isFull, if_true, grow, if_neg beyond, reserved]
      · have slots : next.slots = 2 * v.capacity := by rw [Block.eq_of_reserve reserved]
        refine .inr (.inr (.inr ⟨full, Nat.le_of_not_lt beyond, next, middle,
          (v.block.release middle).note (.vectorGrown v.element.name v.capacity (2 * v.capacity)), rfl, slots, ?_⟩))
        simp only [attempt, push, isFull, if_true, grow, if_neg beyond, reserved]
  · have notFull : v.isFull = false := decide_eq_false full
    refine .inl ⟨full, ?_⟩
    simp only [attempt, push, notFull, Bool.false_eq_true, if_false]

@[simp] theorem toList_append (v : CappedVector α) (x : α) : (v.append x).toList = v.toList ++ [x] := by
  simp [append, toList]

@[simp] theorem length_append (v : CappedVector α) (x : α) : (v.append x).length = v.length + 1 := by
  simp [append, length]

@[simp] theorem capacity_append (v : CappedVector α) (x : α) : (v.append x).capacity = v.capacity := rfl

theorem length_toList (v : CappedVector α) : v.toList.length = v.length := by simp [toList, length]

/-- A push that is not answered leaves the vector. -/
theorem eq_of_attempt_error {v w : CappedVector α} {a : Attempt α} {stop : PushStop} {after : Books}
    (h : v.attempt a = (.error stop, w, after)) : w = v := by
  rcases v.attempt_cases a with ⟨_, did⟩ | ⟨_, _, did⟩ | ⟨_, _, f, middle, _, did⟩ |
    ⟨_, _, next, middle, last, _, _, did⟩
  all_goals
    rw [did] at h
    cases h
  · rfl
  · rfl

theorem toList_of_attempt_ok {v w : CappedVector α} {a : Attempt α} {after : Books}
    (h : v.attempt a = (.ok (), w, after)) : w.toList = v.toList ++ [a.value] := by
  rcases v.attempt_cases a with ⟨_, did⟩ | ⟨_, _, did⟩ | ⟨_, _, f, middle, _, did⟩ |
    ⟨_, _, next, middle, last, _, _, did⟩
  all_goals
    rw [did] at h
    cases h
  · exact toList_append v a.value
  · exact toList_append _ a.value

theorem toList_pushAll (v : CappedVector α) (history : List (Attempt α)) :
    (v.pushAll history).toList = v.toList ++ v.accepted history := by
  induction history generalizing v with
  | nil => simp [pushAll, accepted]
  | cons a later ih =>
    rw [pushAll, accepted, ih]
    rcases did : v.attempt a with ⟨stop | ⟨⟩, w, after⟩
    · rw [eq_of_attempt_error did]
    · rw [toList_of_attempt_ok did, List.append_assoc, List.singleton_append]

/-- The capacity came about by doubling, and only when the elements needed it. -/
def Doubled (v : CappedVector α) (k : Nat) : Prop :=
  v.capacity = initialCapacity * 2 ^ k ∧ v.capacity ≤ maxCapacity ∧ v.length ≤ v.capacity ∧
    (k = 0 ∨ v.capacity < 2 * v.length)

theorem doubled_attempt {v : CappedVector α} {k : Nat} (h : v.Doubled k) (a : Attempt α) :
    ∃ j, (v.attempt a).2.1.Doubled j ∧ v.capacity ≤ (v.attempt a).2.1.capacity := by
  obtain ⟨power, capped, room, needed⟩ := h
  rcases v.attempt_cases a with ⟨roomy, did⟩ | ⟨_, _, did⟩ | ⟨_, _, f, after, _, did⟩ |
    ⟨full, fits, next, middle, after, _, slots, did⟩
  · rw [did]
    refine ⟨k, ⟨power, capped, ?_, ?_⟩, Nat.le_refl _⟩
    · rw [length_append, capacity_append]
      omega
    · rw [length_append, capacity_append]
      omega
  · rw [did]
    exact ⟨k, ⟨power, capped, room, needed⟩, Nat.le_refl _⟩
  · rw [did]
    exact ⟨k, ⟨power, capped, room, needed⟩, Nat.le_refl _⟩
  · rw [did]
    -- the vector was full, so one more element needs the doubled block
    have capacity : (append ⟨v.element, next, v.items⟩ a.value).capacity = 2 * v.capacity := slots
    have length : (append ⟨v.element, next, v.items⟩ a.value).length = v.length + 1 := length_append _ _
    have positive : 0 < v.capacity := by
      rw [power]
      exact Nat.mul_pos (by decide) (Nat.two_pow_pos k)
    have doubled : 2 * v.capacity = initialCapacity * 2 ^ (k + 1) := by
      rw [power, Nat.pow_succ, Nat.mul_comm (2 ^ k), Nat.mul_left_comm]
    refine ⟨k + 1, ⟨?_, ?_, ?_, ?_⟩, ?_⟩ <;> simp only [capacity, length] <;> omega

theorem doubled_pushAll {v : CappedVector α} {k : Nat} (h : v.Doubled k) (history : List (Attempt α)) :
    ∃ j, (v.pushAll history).Doubled j ∧ v.capacity ≤ (v.pushAll history).capacity := by
  induction history generalizing v k with
  | nil => exact ⟨k, h, Nat.le_refl _⟩
  | cons a later ih =>
    obtain ⟨j, step, grown⟩ := doubled_attempt h a
    obtain ⟨i, run, more⟩ := ih step
    exact ⟨i, run, Nat.le_trans grown more⟩

/-- Of all capacities that doubling reaches, the vector has the least that holds its elements. -/
theorem Doubled.isLeast {v : CappedVector α} {k : Nat} (h : v.Doubled k) :
    IsLeast {c | (∃ j, c = initialCapacity * 2 ^ j) ∧ v.length ≤ c} v.capacity := by
  obtain ⟨power, _, room, needed⟩ := h
  refine ⟨⟨⟨k, power⟩, room⟩, ?_⟩
  rintro c ⟨⟨j, rfl⟩, holds⟩
  by_cases le : k ≤ j
  · rw [power]
    exact Nat.mul_le_mul_left _ (Nat.pow_le_pow_right (by decide) le)
  · have twice : 2 ^ (j + 1) ≤ 2 ^ k := Nat.pow_le_pow_right (by decide) (by omega)
    rw [Nat.pow_succ] at twice
    have above : initialCapacity * 2 ^ j * 2 ≤ v.capacity := by
      rw [power, Nat.mul_assoc]
      exact Nat.mul_le_mul_left _ twice
    omega

/-- A vector that cannot double its capacity has all the slots there can be. -/
theorem Doubled.capacity_eq {v : CappedVector α} {k : Nat} (h : v.Doubled k) (beyond : maxCapacity < 2 * v.capacity) :
    v.capacity = maxCapacity := by
  obtain ⟨power, capped, _, _⟩ := h
  have most : maxCapacity = initialCapacity * 2 ^ 6 := rfl
  have atLeast : 6 ≤ k := by
    by_contra less
    have bound : 2 ^ (k + 1) ≤ 2 ^ 6 := Nat.pow_le_pow_right (by decide) (by omega)
    have twice := Nat.mul_le_mul_left initialCapacity bound
    rw [Nat.pow_succ, ← Nat.mul_assoc, ← power] at twice
    omega
  have reached := Nat.mul_le_mul_left initialCapacity (Nat.pow_le_pow_right (n := 2) (by decide) atLeast)
  omega

theorem pushAll_append (v : CappedVector α) (history later : List (Attempt α)) :
    v.pushAll (history ++ later) = (v.pushAll history).pushAll later := by
  induction history generalizing v with
  | nil => rfl
  | cons a rest ih => exact ih _

/-- The vector is the given list: it has the values in order, reads them back at their positions and nothing elsewhere,
and its capacity is the least that holds them. -/
structure Represents (v : CappedVector α) (values : List α) : Prop where
  contents : v.toList = values
  read : ∀ (i : Nat) (x : α), values[i]? = some x → v.get i = .ok x
  negative : ∀ index : Int, index < 0 → v.get index = .error (.negative index)
  beyond : ∀ index : Int, values.length ≤ index → v.get index = .error (.beyond index values.length)
  capacity : IsLeast {c | (∃ k, c = initialCapacity * 2 ^ k) ∧ values.length ≤ c} v.capacity
  capped : v.capacity ≤ maxCapacity

theorem Doubled.represents {v : CappedVector α} {k : Nat} (h : v.Doubled k) : v.Represents v.toList where
  contents := rfl
  read i x found := by
    have inside : i < v.length := by
      obtain ⟨bound, _⟩ := List.getElem?_eq_some_iff.mp found
      rwa [length_toList] at bound
    have item : v.items[i]? = some x := by rwa [toList, Array.getElem?_toList] at found
    exact (elementAt_eq_ok_iff v.length _ i x).mpr ⟨i, rfl, inside, item⟩
  negative index below := by simp only [get, elementAt, slotIndex, if_pos below]
  beyond index above := by
    rw [length_toList] at above ⊢
    have notBelow : ¬ index < 0 := by omega
    simp only [get, elementAt, slotIndex, if_neg notBelow, if_pos above]
  capacity := by
    rw [length_toList]
    exact h.isLeast
  capped := h.2.1

/-- How the next push goes: what is refused changes nothing, a vector with room asks for nothing, a full one asks for a
block of twice the size, and one at the cap cannot be answered and has asked for nothing. -/
structure Takes (v : CappedVector α) (a : Attempt α) : Prop where
  refused : ∀ stop w after, v.attempt a = (.error stop, w, after) → w = v
  roomy : v.length ≠ v.capacity → v.attempt a = (.ok (), v.append a.value, a.books)
  full : v.length = v.capacity → v.length ≠ maxCapacity →
    match (Block.reserve a.alloc v.block.source v.element (2 * v.capacity) a.books).1 with
    | .ok _ => (v.attempt a).1 = .ok ()
    | .error f => (v.attempt a).1 = .error (.storage f)
  capped : v.length = maxCapacity → ∃ after, v.attempt a = (.error .capped, v, after) ∧
    after.ledgers = a.books.ledgers ∧ after.asked = a.books.asked ∧
    after.events = a.books.events ++
      [.vectorCapped maxCapacity cappedReport.display, .abortEntered cappedFragments.length]

theorem Doubled.takes {v : CappedVector α} {k : Nat} (h : v.Doubled k) (a : Attempt α) : v.Takes a where
  refused _ _ _ failed := eq_of_attempt_error failed
  roomy room := by
    rcases v.attempt_cases a with ⟨_, did⟩ | ⟨full, _⟩ | ⟨full, _⟩ | ⟨full, _⟩
    · exact did
    all_goals exact absurd full room
  full full below := by
    rcases v.attempt_cases a with ⟨room, _⟩ | ⟨_, beyond, _⟩ | ⟨_, _, f, after, reserved, did⟩ |
      ⟨_, _, next, middle, after, reserved, _, did⟩
    · exact absurd full room
    · exact absurd (full.trans (h.capacity_eq beyond)) below
    · rw [reserved, did]
    · rw [reserved, did]
  capped most := by
    obtain ⟨_, le, room, _⟩ := h
    have full : v.capacity = maxCapacity := by omega
    rcases v.attempt_cases a with ⟨room, _⟩ | ⟨_, _, did⟩ | ⟨_, fits, _⟩ | ⟨_, fits, _⟩
    · exact absurd (most.trans full.symm) room
    · refine ⟨_, did, rfl, rfl, ?_⟩
      rw [Books.events_note, Books.events_note, full, List.append_assoc]
      rfl
    all_goals
      rw [full] at fits
      exact absurd fits (by decide)

theorem doubled_create {alloc : Allocator} {source : Source} {element : ElementType} {books after : Books}
    {v : CappedVector α} (h : create alloc source element books = (.ok v, after)) : v.Doubled 0 ∧ v.toList = [] := by
  rw [create] at h
  rcases reserved : Block.reserve alloc source element initialCapacity books with ⟨f | block, middle⟩
  · simp [reserved] at h
  · simp only [reserved, Prod.mk.injEq, Except.ok.injEq] at h
    have slots : block.slots = initialCapacity := by rw [Block.eq_of_reserve reserved]
    obtain ⟨rfl, _⟩ := h
    refine ⟨⟨?_, ?_, Nat.zero_le _, .inl rfl⟩, rfl⟩
    · rw [capacity, slots]
      rfl
    · rw [capacity, slots]
      decide

/-- A vector is a capped list over its whole history. From a successful creation, and whatever the allocator and the
books are at each push, it represents the values whose pushes were answered, its capacity never shrinks, and every
further push goes as `Takes` says. -/
theorem represents_accepted {alloc : Allocator} {source : Source} {element : ElementType} {books after : Books}
    {v : CappedVector α} (created : create alloc source element books = (.ok v, after)) (history : List (Attempt α)) :
    (v.pushAll history).Represents (v.accepted history) ∧
      (∀ later, (v.pushAll history).capacity ≤ (v.pushAll (history ++ later)).capacity) ∧
      ∀ next, (v.pushAll history).Takes next := by
  obtain ⟨start, empty⟩ := doubled_create created
  obtain ⟨k, run, _⟩ := doubled_pushAll start history
  have contents := v.toList_pushAll history
  rw [empty, List.nil_append] at contents
  refine ⟨contents ▸ run.represents, fun later => ?_, run.takes⟩
  obtain ⟨_, _, grown⟩ := doubled_pushAll run later
  rwa [pushAll_append]

/-- Sixteen values fit; the next is refused, for the budget has nothing to give, and the one after it is accepted. -/
def outgrowing : List (Attempt Nat) :=
  (List.range 16).map (⟨·, .granting, .ofLimits []⟩) ++
    [⟨16, .granting, .ofLimits [0]⟩, ⟨17, .granting, .ofLimits [64]⟩]

/-- The vector with which that history starts. -/
def unused : CappedVector Nat := ⟨.byte, ⟨.budget 0, 16, 16⟩, #[]⟩

theorem outgrowing_represents : (unused.pushAll outgrowing).Represents (List.range 16 ++ [17]) := by
  have created : create .granting (.budget 0) .byte (.ofLimits [64]) =
      (.ok unused, ⟨[⟨64, 16, 16, 0, 0⟩], [.blockAcquired 16 16], 1⟩) := by decide +kernel
  have represents := (represents_accepted created outgrowing).1
  have values : unused.accepted outgrowing = List.range 16 ++ [17] := by decide +kernel
  rwa [values] at represents

end Quota.CappedVector
