import Quota.Proofs.Holdings
import Quota.Proofs.SingleReservation
import Quota.Session.Arrays

set_option autoImplicit false

/-!
# A reservation takes everything or nothing

Four tests stand before a block, and the first that finds a fault decides. The last of them is made after the bytes were
charged, so its fault is reported only once the charge has been taken back; the peak is all that remembers it.
-/
namespace Quota

/-- The tests before a block of so many slots, in their order, each with the fault that it finds. -/
def reservationTests (alloc : Allocator) (source : Source) (element : ElementType) (capacity : Int) (books : Books) :
    List (Option StorageFault) :=
  let slots := capacity.toNat
  let bytes := slots * element.size
  [if capacity < 0 then some (.negativeCapacity capacity) else none,
    if addressSpace ≤ bytes then some (.oversized slots element.size) else none,
    (books.ledger? source).bind fun l =>
      if l.limit < l.inUse + bytes then some (.exhausted bytes l.inUse l.limit) else none,
    (alloc books.asked element slots).map (.refused bytes)]

/-- What a reservation makes of the ledger at its source, by how it ended. -/
def Ledger.afterReserving {α : Type} (bytes : Nat) (l : Ledger) : Except StorageFault α → Ledger
  | .ok _ => { l with inUse := l.inUse + bytes, peak := max l.peak (l.inUse + bytes) }
  | .error (.exhausted _ _ _) => { l with refusals := l.refusals + 1 }
  | .error (.refused _ _) => { l with peak := max l.peak (l.inUse + bytes) }
  | .error _ => l

/-- The first test that finds a fault decides, the ledgers say no more than that, and where there is a fault all that
was held before is still accounted for. -/
structure AllOrNothing {α : Type} (alloc : Allocator) (source : Source) (element : ElementType) (capacity : Int)
    (books : Books) (r : Except StorageFault α × Books) : Prop where
  failed : ∀ f, r.1 = .error f ↔ (reservationTests alloc source element capacity books).findSome? id = some f
  ledgers : ∀ p, r.2.ledger? p = (books.ledger? p).map fun l =>
    if p = source then l.afterReserving (capacity.toNat * element.size) r.1 else l
  held : ∀ f, r.1 = .error f → ∀ direct held, books.Backs direct held → r.2.Backs direct held

theorem Ledger.afterReserving_map {α β : Type} (g : α → β) (bytes : Nat) (l : Ledger) (r : Except StorageFault α) :
    l.afterReserving bytes (r.map g) = l.afterReserving bytes r := by
  cases r with
  | ok x => rfl
  | error f => cases f <;> rfl

/-- What is made of the block does not matter. -/
theorem AllOrNothing.map {α β : Type} {alloc : Allocator} {source : Source} {element : ElementType} {capacity : Int}
    {books : Books} {r : Except StorageFault α × Books} (h : AllOrNothing alloc source element capacity books r)
    (g : α → β) : AllOrNothing alloc source element capacity books (r.1.map g, r.2) := by
  have same : ∀ f, r.1.map g = .error f ↔ r.1 = .error f := by
    intro f
    cases r.1 with
    | ok x => exact ⟨by rintro ⟨⟩, by rintro ⟨⟩⟩
    | error f' => exact ⟨by rintro ⟨⟩; rfl, by rintro ⟨⟩; rfl⟩
  constructor
  · intro f
    exact (same f).trans (h.failed f)
  · intro p
    simp only [h.ledgers p, Ledger.afterReserving_map]
  · intro f error
    exact h.held f ((same f).mp error)

section

variable {alloc : Allocator} {source : Source} {element : ElementType} {slots : Nat} {books : Books}

theorem findSome?_tests_of_big (big : addressSpace ≤ slots * element.size) :
    (reservationTests alloc source element slots books).findSome? id = some (.oversized slots element.size) := by
  have natural : ¬ (slots : Int) < 0 := by omega
  simp [reservationTests, natural, big]

theorem findSome?_tests_of_beyond (small : slots * element.size < addressSpace) {l : Ledger}
    (found : books.ledger? source = some l) (beyond : l.limit < l.inUse + slots * element.size) :
    (reservationTests alloc source element slots books).findSome? id =
      some (.exhausted (slots * element.size) l.inUse l.limit) := by
  have natural : ¬ (slots : Int) < 0 := by omega
  simp [reservationTests, natural, Nat.not_le_of_lt small, found, beyond]

theorem findSome?_tests_of_room (alloc : Allocator) (small : slots * element.size < addressSpace)
    (room : ∀ l, books.ledger? source = some l → l.inUse + slots * element.size ≤ l.limit) :
    (reservationTests alloc source element slots books).findSome? id =
      (alloc books.asked element slots).map (.refused (slots * element.size)) := by
  have natural : ¬ (slots : Int) < 0 := by omega
  cases found : books.ledger? source with
  | none => simp [reservationTests, natural, Nat.not_le_of_lt small, found]
  | some l => simp [reservationTests, natural, Nat.not_le_of_lt small, found, Nat.not_lt_of_le (room l found)]

theorem allOrNothing_of_fault {α : Type} {f : StorageFault} {after : Books}
    (found : (reservationTests alloc source element slots books).findSome? id = some f)
    (reserved : Block.reserve alloc source element slots books = (.error f, after))
    (ledgers : ∀ p, after.ledger? p = (books.ledger? p).map fun l =>
      if p = source then l.afterReserving (slots * element.size) (.error f : Except StorageFault α) else l) :
    AllOrNothing alloc source element slots books ((.error f, after) : Except StorageFault α × Books) := by
  constructor
  · intro f'
    rw [found, Except.error.injEq, Option.some.injEq]
  · exact ledgers
  · intro _ _ direct held backs
    exact (Block.yields_reserve alloc source element slots).failed backs reserved

theorem allOrNothing_of_beyond (small : slots * element.size < addressSpace) {l : Ledger}
    (found : books.ledger? source = some l) (beyond : l.limit < l.inUse + slots * element.size) :
    AllOrNothing alloc source element slots books (Block.reserve alloc source element slots books) := by
  have denied : ¬ l.Allows (slots * element.size) := by
    intro allowed
    have fits := allowed.2
    omega
  have reserved : Block.reserve alloc source element slots books = _ := Block.reserve_denied small found denied
  rw [reserved]
  apply allOrNothing_of_fault (findSome?_tests_of_beyond small found beyond) reserved
  intro p
  rw [Books.ledger?_note, Books.ledger?_adjust]
  rfl

/-- Where the source has room, the allocator decides. -/
theorem allOrNothing_of_room (small : slots * element.size < addressSpace)
    (allowed : ∀ l, books.ledger? source = some l → l.Allows (slots * element.size)) :
    AllOrNothing alloc source element slots books (Block.reserve alloc source element slots books) := by
  have tests := findSome?_tests_of_room alloc small fun l found => (allowed l found).2
  cases verdict : alloc books.asked element slots with
  | none =>
    rw [verdict] at tests
    rw [Block.reserve_granted small allowed verdict]
    constructor
    · intro f
      rw [tests]
      exact ⟨by rintro ⟨⟩, by rintro ⟨⟩⟩
    · intro p
      rw [Books.ledger?_note, Books.ledger?_ask, Books.ledger?_adjust]
      rfl
    · rintro f ⟨⟩
  | some cause =>
    rw [verdict] at tests
    have reserved := Block.reserve_unbacked small allowed verdict
    rw [reserved]
    apply allOrNothing_of_fault tests reserved
    intro p
    -- the charge is taken and given back on the same ledger
    rw [Books.ledger?_adjust, Books.ledger?_ask, Books.ledger?_adjust, Option.map_map]
    congr 1
    funext l
    by_cases here : p = source
    · simp only [Function.comp_apply, if_pos here, Ledger.release_grant]
      rfl
    · simp only [Function.comp_apply, if_neg here]

theorem allOrNothing_reserve (limited : ∀ l, books.ledger? source = some l → l.limit < addressSpace) :
    AllOrNothing alloc source element slots books (Block.reserve alloc source element slots books) := by
  by_cases big : addressSpace ≤ slots * element.size
  · rw [Block.reserve_oversized big]
    apply allOrNothing_of_fault (findSome?_tests_of_big big) (Block.reserve_oversized big)
    intro p
    simp [Ledger.afterReserving]
  have small : slots * element.size < addressSpace := Nat.lt_of_not_le big
  by_cases room : ∀ l, books.ledger? source = some l → l.inUse + slots * element.size ≤ l.limit
  · apply allOrNothing_of_room small
    intro l found
    exact ⟨Nat.lt_of_le_of_lt (room l found) (limited l found), room l found⟩
  · simp only [not_forall, Nat.not_le] at room
    obtain ⟨l, found, beyond⟩ := room
    exact allOrNothing_of_beyond small found beyond

theorem FixedArray.zeros_eq {α : Type} (zero : α) :
    zeros alloc source element zero slots books =
      ((Block.reserve alloc source element slots books).1.map fun block =>
        ⟨element, block, Rows.replicate block.slots zero⟩, (Block.reserve alloc source element slots books).2) := by
  have natural : ¬ (slots : Int) < 0 := by omega
  rw [zeros, if_neg natural, Int.toNat_natCast]
  rcases Block.reserve alloc source element slots books with ⟨_ | _, _⟩ <;> rfl

end

section

variable {alloc : Allocator} {source : Source} {element : ElementType} {books : Books}

theorem allOrNothing_zeros (limited : ∀ l, books.ledger? source = some l → l.limit < addressSpace) {α : Type} (zero : α)
    (capacity : Int) :
    AllOrNothing alloc source element capacity books (FixedArray.zeros alloc source element zero capacity books) := by
  by_cases negative : capacity < 0
  · rw [FixedArray.zeros, if_pos negative]
    constructor
    · intro f
      simp [reservationTests, negative]
    · intro p
      simp [Ledger.afterReserving]
    · intro _ _ _ _ backs
      exact backs
  · obtain ⟨slots, rfl⟩ := Int.eq_ofNat_of_zero_le (Int.not_lt.mp negative)
    rw [FixedArray.zeros_eq]
    exact (allOrNothing_reserve limited).map _

theorem toList_of_zeros {α : Type} {zero : α} {capacity : Int} {a : FixedArray α} {after : Books}
    (made : FixedArray.zeros alloc source element zero capacity books = (.ok a, after)) :
    a.toList = List.replicate capacity.toNat zero ∧ (a.length : Int) = capacity := by
  by_cases negative : capacity < 0
  · rw [FixedArray.zeros, if_pos negative] at made
    cases made
  · obtain ⟨slots, rfl⟩ := Int.eq_ofNat_of_zero_le (Int.not_lt.mp negative)
    rw [FixedArray.zeros_eq] at made
    rcases reserved : Block.reserve alloc source element slots books with ⟨f | block, later⟩
    · rw [reserved] at made
      cases made
    · rw [reserved] at made
      cases made
      have elements : (Rows.replicate block.slots zero).toList = List.replicate slots zero := by
        rw [Block.eq_of_reserve reserved, Rows.toList_replicate]
      constructor
      · exact elements
      · rw [FixedArray.length, ← Rows.length_toList, elements, List.length_replicate]

end

/-- Whatever the ledgers, the slots and the allocator are, a block is had or refused as the tests say in their order,
and a refusal leaves the bytes in use, the limits and all that is held as they were. So it is for arrays, which come
filled with zeros, and a session that is refused one keeps its values. -/
theorem reserving_takes_all_or_nothing (alloc : Allocator) (source : Source) (element : ElementType) (books : Books)
    (limited : ∀ l, books.ledger? source = some l → l.limit < addressSpace) :
    (∀ slots : Nat, AllOrNothing alloc source element slots books (Block.reserve alloc source element slots books)) ∧
    (∀ (α : Type) (zero : α) (capacity : Int),
      AllOrNothing alloc source element capacity books (FixedArray.zeros alloc source element zero capacity books) ∧
      ∀ a after, FixedArray.zeros alloc source element zero capacity books = (.ok a, after) →
        a.toList = List.replicate capacity.toNat zero ∧ (a.length : Int) = capacity) ∧
    ∀ (s : Session) (escalate : Bool) (out : String) (capacity : Int), s.books = books →
      ∃ reply after, s.arrayStep alloc source escalate (.zeros element out capacity) = some (reply, after) ∧
        after.strings = s.strings ∧ after.vectors = s.vectors ∧ after.direct = s.direct ∧
        match (reservationTests alloc source element capacity books).findSome? id with
        | some f => reply = Session.refusal escalate (.single .alloc) f.fault ∧ after.arrays = s.arrays
        | none => reply = .answer (.number capacity) ∧ ∃ a, after.arrays = s.arrays.put out a ∧
            a.toList = List.replicate capacity.toNat (Cell.zero element) := by
  refine ⟨fun slots => allOrNothing_reserve limited, fun α zero capacity => ⟨allOrNothing_zeros limited zero capacity,
    fun a after made => toList_of_zeros made⟩, ?_⟩
  rintro s escalate out capacity rfl
  have whole : AllOrNothing alloc source element capacity s.books
      (FixedArray.zeros alloc source element (Cell.zero element) capacity s.books) := allOrNothing_zeros limited _ _
  have verdict := whole.failed
  rcases made : FixedArray.zeros alloc source element (Cell.zero element) capacity s.books with ⟨f | a, after⟩
  · rw [made] at verdict
    rw [(verdict f).mp rfl]
    refine ⟨_, { s with books := after }, ?_, rfl, rfl, rfl, rfl, rfl⟩
    rw [Session.arrayStep, made]
  · have none : (reservationTests alloc source element capacity s.books).findSome? id = none := by
      rw [made] at verdict
      cases found : (reservationTests alloc source element capacity s.books).findSome? id with
      | none => rfl
      | some f => cases (verdict f).mpr found
    obtain ⟨elements, length⟩ := toList_of_zeros made
    rw [none]
    refine ⟨_, s.keepArray out a after, ?_, rfl, rfl, rfl, rfl, a, rfl, elements⟩
    rw [Session.arrayStep, made]
    exact congrArg (fun n => some (Reply.answer (.number n), s.keepArray out a after)) length

/-- Half of the address space for 2^59 strings is within the budget, but no allocator has it. The charge is gone, and
the peak has kept it. -/
theorem strings_refused_after_charge :
    (FixedArray.zeros (.machine 40) (.budget 0) .string ByteString.empty 576460752303423488
      (.ofLimits [18446744073709551615])).1 = .error (.refused 9223372036854775808 .capacityExceeded) ∧
    (FixedArray.zeros (.machine 40) (.budget 0) .string ByteString.empty 576460752303423488
      (.ofLimits [18446744073709551615])).2.ledger? (.budget 0) =
        some ⟨18446744073709551615, 0, 9223372036854775808, 0, 0⟩ := by
  have zeros := ((reserving_takes_all_or_nothing (.machine 40) (.budget 0) .string (.ofLimits [18446744073709551615])
    (by rintro l ⟨⟩; decide)).2.1 ByteString .empty 576460752303423488).1
  have refused := (zeros.failed (.refused 9223372036854775808 .capacityExceeded)).mpr (by decide +kernel)
  refine ⟨refused, ?_⟩
  rw [zeros.ledgers, refused]
  decide +kernel

end Quota
