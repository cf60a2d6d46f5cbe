import Quota.Proofs.Holdings
import Quota.Proofs.SingleReservation
import Quota.Proofs.VectorHistory

set_option autoImplicit false

/-!
# How blocks are filled

A block has room for as many elements as it has slots. Strings and arrays fill theirs to the last slot, by runs that are
put in one after another; a vector puts one element behind the others, after it has moved them to a larger block if
there was no room. No run ever finds less room than it needs.
-/
namespace Quota

/-- The allocator grants no more slots than the greatest word counts, as no legal capacity is larger. -/
def Allocator.Countable (alloc : Allocator) : Prop :=
  ∀ earlier element slots, alloc earlier element slots = none → (slots : Int) ≤ maxWord

namespace Block

/-- Put runs of elements one after another behind those that are in a block; `none` if one of them finds no room. -/
def fill? {α : Type} (slots : Nat) : (items : List α) → (runs : List (List α)) → Option (List α)
  | items, [] => some items
  | items, run :: runs => if items.length + run.length ≤ slots then fill? slots (items ++ run) runs else none

theorem fill?_eq_some {α : Type} {slots : Nat} {items : List α} {runs : List (List α)}
    (room : items.length + runs.flatten.length ≤ slots) : fill? slots items runs = some (items ++ runs.flatten) := by
  induction runs generalizing items with
  | nil => rw [fill?, List.flatten_nil, List.append_nil]
  | cons run runs ih =>
    rw [List.flatten_cons, List.length_append] at room
    rw [fill?, if_pos (by omega), ih (by rw [List.length_append]; omega), List.flatten_cons, List.append_assoc]

theorem eq_of_fill? {α : Type} {slots : Nat} {items all : List α} {runs : List (List α)}
    (h : fill? slots items runs = some all) : all = items ++ runs.flatten := by
  induction runs generalizing items with
  | nil =>
    cases h
    rw [List.flatten_nil, List.append_nil]
  | cons run runs ih =>
    rw [fill?] at h
    split at h
    · rw [ih h, List.flatten_cons, List.append_assoc]
    · cases h

/-- What is charged for a block is the registered size of its slots, and both are countable. -/
structure Charged (b : Block) (element : ElementType) : Prop where
  bytes_eq : b.bytes = b.slots * element.size
  addressable : b.bytes < addressSpace
  countable : (b.slots : Int) ≤ maxWord

/-- The block has as many elements as slots, and its value reports that number as its length. -/
structure Full (b : Block) (element : ElementType) (length : Nat) : Prop extends b.Charged element where
  length_eq : length = b.slots
  reported : (Word.ofLength length).toInt = b.slots

/-- The elements are what the runs put into the empty block, and they fill it. -/
structure FilledBy {α : Type} (b : Block) (element : ElementType) (runs : List (List α)) (items : List α) : Prop where
  full : b.Full element items.length
  fits : fill? b.slots [] runs = some items

section

variable {alloc : Allocator} {source : Source} {element : ElementType} {books after : Books} {b : Block}

theorem charged_of_reserve (countable : alloc.Countable) {slots : Nat}
    (h : reserve alloc source element slots books = (.ok b, after)) : b.Charged element ∧ b.slots = slots := by
  simp only [reserve] at h
  split at h
  · cases h
  · rename_i small
    split at h
    · cases h
    · split at h
      · cases h
      · rename_i backed
        cases h
        exact ⟨⟨rfl, Nat.lt_of_not_le small, countable _ _ _ backed⟩, rfl⟩

theorem filledBy_of_reserve (countable : alloc.Countable) {α : Type} {runs : List (List α)} {items : List α}
    (joined : runs.flatten = items) (h : reserve alloc source element items.length books = (.ok b, after)) :
    b.FilledBy element runs items := by
  subst joined
  obtain ⟨charged, slots⟩ := charged_of_reserve countable h
  have counted := charged.countable
  rw [slots] at counted
  refine ⟨⟨charged, slots.symm, ?_⟩, ?_⟩
  · rw [Word.toInt_ofLength counted, slots]
  · rw [fill?_eq_some, List.nil_append]
    rw [List.length_nil, Nat.zero_add, slots]

end

end Block

namespace ByteString

/-- A string owns a full block, or is a literal, whose length every word can hold. -/
def Filled : ByteString → Prop
  | .literal _ bytes => (bytes.length : Int) ≤ maxWord
  | .owned b bytes => b.Full .byte bytes.length

theorem filled_empty : empty.Filled := (by decide : (0 : Int) ≤ maxWord)

def FilledBy (runs : List (List UInt8)) (t : ByteString) : Prop :=
  ∃ b bytes, t = .owned b bytes ∧ b.FilledBy .byte runs bytes

theorem FilledBy.filled {runs : List (List UInt8)} {t : ByteString} (h : t.FilledBy runs) : t.Filled := by
  obtain ⟨b, bytes, rfl, filled⟩ := h
  exact filled.full

theorem Filled.length_le {t : ByteString} (h : t.Filled) : (t.length : Int) ≤ maxWord := by
  cases t with
  | literal source bytes => exact h
  | owned b bytes =>
    have counted := h.countable
    rwa [← h.length_eq] at counted

/-- Whatever the computation makes, the runs filled. -/
def Fills {ε : Type} (runs : List (List UInt8)) (c : Except ε ByteString × Books) : Prop :=
  ∀ t, c.1 = .ok t → t.FilledBy runs

section

variable {ε : Type} {alloc : Allocator} {books : Books}

theorem NotMade.fills {fault : ε} {c : Except ε ByteString × Books} (h : NotMade books fault c)
    (runs : List (List UInt8)) : Fills runs c := by
  intro t made
  rw [h.failed] at made
  cases made

theorem MadeOnce.fills (countable : alloc.Countable) {source : Source} {result : List UInt8}
    {storage : StorageFault → ε} {c : Except ε ByteString × Books} (h : MadeOnce alloc source books result storage c)
    {runs : List (List UInt8)} (joined : runs.flatten = result) : Fills runs c := by
  intro t made
  rcases reserved : Block.reserve alloc source .byte result.length books with ⟨f | b, after⟩
  · rw [h.refused f (congrArg Prod.fst reserved)] at made
    cases made
  · rw [h.granted b (congrArg Prod.fst reserved)] at made
    cases made
    exact ⟨b, result, rfl, Block.filledBy_of_reserve countable joined reserved⟩

variable (countable : alloc.Countable) (books)
include countable

theorem fills_ofBytes (source : Source) (bytes : List UInt8) : Fills [bytes] (ofBytes alloc source bytes books) :=
  (madeOnce_ofBytes alloc books source bytes).fills countable List.flatten_singleton

theorem fills_substring (t : ByteString) (start stop : Int) :
    Fills [(t.bytes.drop start.toNat).take (stop - start).toNat] (t.substring alloc start stop books) := by
  by_cases range : 0 ≤ start ∧ start < stop ∧ stop ≤ t.length
  · exact (madeOnce_substring alloc books t range).fills countable List.flatten_singleton
  · obtain ⟨f, refused⟩ := exists_range_fault t range
    intro r made
    rw [refused] at made
    cases made

theorem fills_concat {t u : ByteString} (ht : t.Filled) (hu : u.Filled) :
    Fills [t.bytes, u.bytes] (t.concat alloc u books) := by
  by_cases fits : ((t.bytes ++ u.bytes).length : Int) ≤ maxWord
  · exact (madeOnce_concat alloc books t u fits).fills countable (by simp)
  -- a sum beyond the greatest word is noticed, for neither length was cut down to a word
  · exact (notMade_concat alloc books t u ht.length_le hu.length_le (Int.lt_of_not_ge fits)).fills _

theorem fills_format {lead : ByteString} {args : FixedArray ByteString} (hlead : lead.Filled)
    (hargs : ∀ t ∈ args.toList, (t.length : Int) ≤ maxWord) :
    Fills (lead.bytes :: args.toList.map bytes) (lead.format alloc args books) := by
  by_cases fits : ((lead.bytes ++ args.toList.flatMap bytes).length : Int) ≤ maxWord
  · exact (madeOnce_format alloc books lead args fits).fills countable (by simp [List.flatMap_def])
  · obtain ⟨_, _, stopped⟩ := notMade_format alloc books lead args hlead.length_le hargs (Int.lt_of_not_ge fits)
    exact stopped.fills _

theorem fills_replace {t : ByteString} (ht : t.Filled) (needle insert : ByteString) (limit : Int) :
    Fills (Search.pieces insert.bytes needle.length 0 t.bytes (Search.leftmost t.bytes needle.bytes limit))
      (t.replace alloc needle insert limit books) := by
  -- the total is computed from the number of occurrences, the pieces from the occurrences themselves
  have replaced := Search.replaced_leftmost needle.bytes insert.bytes limit t.bytes
  by_cases fits : (Search.pieces insert.bytes needle.length 0 t.bytes
      (Search.leftmost t.bytes needle.bytes limit)).flatten.length < addressSpace
  · exact (madeOnce_replace alloc books replaced fits).fills countable rfl
  · exact (notMade_replace alloc books replaced ht.length_le (Nat.le_of_not_lt fits)).fills _

end

end ByteString

def Cell.Filled : Cell → Prop
  | .string t => t.Filled
  | _ => True

theorem Cell.filled_zero (element : ElementType) : (Cell.zero element).Filled := by
  cases element with
  | string => exact ByteString.filled_empty
  | word | byte | flag | int32 | nat32 | nat64 => trivial

theorem ElementType.filled_truncate (element : ElementType) (v : Int) : (element.truncate v).Filled := by
  cases element <;> trivial

namespace FixedArray

/-- The array's block is full, and so is that of every string in it. -/
structure Filled (a : FixedArray Cell) : Prop where
  full : a.block.Full a.element a.length
  cells : ∀ c ∈ a.toList, c.Filled

section

variable {α : Type} {alloc : Allocator} {source : Source} {element : ElementType} {books after : Books}
  {a : FixedArray α}

theorem filledBy_of_zeros (countable : alloc.Countable) {zero : α} {capacity : Int}
    (h : zeros alloc source element zero capacity books = (.ok a, after)) :
    a.element = element ∧ a.block.FilledBy element (List.replicate capacity.toNat [zero]) a.toList := by
  rw [zeros] at h
  split at h
  · cases h
  · rcases reserved : Block.reserve alloc source element capacity.toNat books with ⟨f | b, middle⟩
    · simp [reserved] at h
    · simp only [reserved, Prod.mk.injEq, Except.ok.injEq] at h
      obtain ⟨rfl, _⟩ := h
      have slots := (Block.charged_of_reserve countable reserved).2
      have zeros : toList ⟨element, b, Rows.replicate b.slots zero⟩ = List.replicate capacity.toNat zero := by
        rw [toList, Rows.toList_replicate, slots]
      rw [← List.length_replicate (n := capacity.toNat) (a := zero)] at reserved
      rw [zeros]
      exact ⟨rfl, Block.filledBy_of_reserve countable List.flatten_replicate_singleton reserved⟩

theorem flatten_singletons (values : List α) : (values.map ([·])).flatten = values := by
  rw [← List.flatMap_def, List.flatMap_singleton']

theorem filledBy_of_ofList (countable : alloc.Countable) {values : List α}
    (h : ofList alloc source element values books = (.ok a, after)) :
    a.element = element ∧ a.block.FilledBy element (values.map ([·])) a.toList := by
  rw [toList_of_ofList h]
  rw [ofList_eq] at h
  rcases reserved : Block.reserve alloc source element values.length books with ⟨f | b, middle⟩
  · simp [reserved] at h
  · simp only [reserved, Prod.mk.injEq, Except.ok.injEq] at h
    obtain ⟨rfl, _⟩ := h
    exact ⟨rfl, Block.filledBy_of_reserve countable (flatten_singletons values) reserved⟩

end

theorem filled_of_filledBy {a : FixedArray Cell} {runs : List (List Cell)}
    (h : a.block.FilledBy a.element runs a.toList) (cells : ∀ c ∈ runs.flatten, c.Filled) : a.Filled := by
  have full := h.full
  have items := Block.eq_of_fill? h.fits
  rw [length_toList] at full
  exact ⟨full, items ▸ cells⟩

theorem filled_of_set {a b : FixedArray Cell} {index : Int} {c : Cell} {old : Option Cell} (ha : a.Filled)
    (hc : c.Filled) (h : a.set index c = .ok (b, old)) : b.Filled := by
  obtain ⟨i, _, _, rfl, _⟩ := (set_eq_ok_iff a b index c old).mp h
  refine ⟨?_, ?_⟩
  · rw [← length_toList, toList_set, List.length_set, length_toList]
    exact ha.full
  · intro x member
    rw [toList_set] at member
    rcases List.mem_or_eq_of_mem_set member with kept | rfl
    · exact ha.cells x kept
    · exact hc

end FixedArray

namespace CappedVector

/-- The vector's block has room for all its elements and was charged as it stands; the strings in it are full. -/
structure Filled (v : CappedVector Cell) : Prop where
  charged : v.block.Charged v.element
  positive : 0 < v.block.slots
  within : v.length ≤ v.block.slots
  cells : ∀ c ∈ v.toList, c.Filled

/-- An element is put behind the others where they are, or behind them in another block to which they were moved. -/
inductive Puts {α : Type} (v : CappedVector α) (x : α) (w : CappedVector α) : Prop
  | within (same : w.block = v.block) (fits : Block.fill? v.block.slots v.toList [[x]] = some w.toList)
  | moved (fits : Block.fill? w.block.slots [] [v.toList, [x]] = some w.toList)

section

variable {α : Type} {alloc : Allocator} {books after : Books} {v w : CappedVector α} {x : α}

theorem eq_of_push_error {stop : PushStop} (h : v.push alloc x books = (.error stop, w, after)) : w = v :=
  eq_of_attempt_error (a := ⟨x, alloc, books⟩) h

theorem toList_of_push_ok (h : v.push alloc x books = (.ok (), w, after)) : w.toList = v.toList ++ [x] :=
  toList_of_attempt_ok (a := ⟨x, alloc, books⟩) h

theorem block_of_push_ok (h : v.push alloc x books = (.ok (), w, after)) :
    w.element = v.element ∧ ((v.length ≠ v.capacity ∧ w.block = v.block) ∨
      (v.length = v.capacity ∧ ∃ middle,
        Block.reserve alloc v.block.source v.element (2 * v.capacity) books = (.ok w.block, middle))) := by
  rcases v.attempt_cases ⟨x, alloc, books⟩ with ⟨room, did⟩ | ⟨_, _, did⟩ | ⟨_, _, f, middle, _, did⟩ |
    ⟨full, _, next, middle, last, reserved, _, did⟩
  all_goals
    rw [attempt, h] at did
    cases did
  · exact ⟨rfl, .inl ⟨room, rfl⟩⟩
  · exact ⟨rfl, .inr ⟨full, middle, reserved⟩⟩

theorem puts_of_push (positive : 0 < v.block.slots) (within : v.length ≤ v.block.slots)
    (h : v.push alloc x books = (.ok (), w, after)) : v.Puts x w := by
  have items := toList_of_push_ok h
  have length := v.length_toList
  rcases (block_of_push_ok h).2 with ⟨room, same⟩ | ⟨full, middle, reserved⟩
  · refine .within same ?_
    rw [Block.fill?_eq_some, items]
    · rfl
    · have less : v.length < v.block.slots := Nat.lt_of_le_of_ne within room
      rw [length]
      exact less
  · -- twice the slots are enough for one element more because there is at least one slot
    refine .moved ?_
    have slots : w.block.slots = 2 * v.capacity := by rw [Block.eq_of_reserve reserved]
    rw [Block.fill?_eq_some, items]
    · rfl
    · have capacity : v.capacity = v.block.slots := rfl
      simp only [List.length_nil, List.flatten_cons, List.length_append, List.length_singleton, List.flatten_nil]
      omega

end

section

variable {alloc : Allocator} (countable : alloc.Countable) {books after : Books}
include countable

theorem filled_of_create {source : Source} {element : ElementType} {v : CappedVector Cell}
    (h : create alloc source element books = (.ok v, after)) : v.Filled := by
  rw [create] at h
  rcases reserved : Block.reserve alloc source element initialCapacity books with ⟨f | b, middle⟩
  · simp [reserved] at h
  · simp only [reserved, Prod.mk.injEq, Except.ok.injEq] at h
    obtain ⟨rfl, _⟩ := h
    obtain ⟨charged, slots⟩ := Block.charged_of_reserve countable reserved
    refine ⟨charged, ?_, Nat.zero_le _, ?_⟩
    · rw [slots]
      decide
    · intro c member
      cases member

theorem filled_of_push {v w : CappedVector Cell} {c : Cell} (hv : v.Filled) (hc : c.Filled)
    (h : v.push alloc c books = (.ok (), w, after)) : w.Filled := by
  obtain ⟨element, block⟩ := block_of_push_ok h
  have length : w.length = v.length + 1 := by
    rw [← w.length_toList, toList_of_push_ok h, List.length_append, v.length_toList]
    rfl
  have cells : ∀ x ∈ w.toList, x.Filled := by
    intro x member
    rw [toList_of_push_ok h, List.mem_append, List.mem_singleton] at member
    rcases member with kept | rfl
    · exact hv.cells x kept
    · exact hc
  have positive := hv.positive
  have within := hv.within
  rcases block with ⟨room, same⟩ | ⟨full, middle, reserved⟩
  · rw [capacity] at room
    have charged := hv.charged
    rw [← same] at room charged positive within
    exact ⟨element ▸ charged, positive, by omega, cells⟩
  · obtain ⟨charged, slots⟩ := Block.charged_of_reserve countable reserved
    rw [capacity] at full slots
    exact ⟨element ▸ charged, by omega, by omega, cells⟩

end

end CappedVector

end Quota
