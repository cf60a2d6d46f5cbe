import Mathlib.Algebra.Group.Nat.Defs
import Mathlib.Data.Nat.Find
import Quota.Command.Program
import Quota.Proofs.SingleReservation
import Quota.Proofs.VectorHistory

set_option autoImplicit false

/-!
# How the push command ends

The command pushes the numbers below a count into a vector of words, which doubles from sixteen slots as far as the
budget and the cap let it. While it doubles, the old and the new block are charged together, so the doubling number `k`
needs a budget of `192 * 2 ^ k` bytes. Count and budget alone decide how the command ends.
-/
namespace Quota

/-- The allocator grants all blocks of words that a vector can ask for. -/
def Allocator.GrantsVectors (alloc : Allocator) : Prop := ∀ earlier k, k ≤ 6 → alloc earlier .word (16 * 2 ^ k) = none

namespace Books

/-- The high-water mark of a source, if the source is metered. -/
def peak? (books : Books) (source : Source) : Option Nat := (books.ledger? source).map Ledger.peak

theorem peak?_note (e : Event) (books : Books) (source : Source) : (books.note e).peak? source = books.peak? source :=
  congrArg (Option.map Ledger.peak) (ledger?_note e books source)

theorem peak?_adjust {f : Ledger → Ledger} (keeps : ∀ l, (f l).peak = l.peak) (books : Books) (source other : Source) :
    (books.adjust source f).peak? other = books.peak? other := by
  rw [peak?, peak?, ledger?_adjust, Option.map_map]
  congr 1
  funext l
  rw [Function.comp_apply]
  split
  · exact keeps l
  · rfl

theorem peak?_release (b : Block) (books : Books) (source : Source) :
    (b.release books).peak? source = books.peak? source := by
  rw [Block.release, peak?_note, credit_eq]
  apply peak?_adjust
  intro l
  rfl

end Books

namespace CappedVector

variable {α : Type} {alloc : Allocator} {v : CappedVector α} {books middle : Books}

theorem push_of_granted (full : v.length = v.capacity) (below : ¬ maxCapacity < 2 * v.capacity) {next : Block}
    (reserved : Block.reserve alloc v.block.source v.element (2 * v.capacity) books = (.ok next, middle)) (x : α) :
    v.push alloc x books = (.ok (), append ⟨v.element, next, v.items⟩ x,
      (v.block.release middle).note (.vectorGrown v.element.name v.capacity (2 * v.capacity))) := by
  simp only [push, isFull, full, decide_true, if_true, grow, if_neg below, reserved]

theorem push_of_denied (full : v.length = v.capacity) (below : ¬ maxCapacity < 2 * v.capacity) {f : StorageFault}
    (reserved : Block.reserve alloc v.block.source v.element (2 * v.capacity) books = (.error f, middle)) (x : α) :
    v.push alloc x books = (.error (.storage f), v, middle) := by
  simp only [push, isFull, full, decide_true, if_true, grow, if_neg below, reserved]

theorem push_of_beyond (full : v.length = v.capacity) (beyond : maxCapacity < 2 * v.capacity) (x : α) :
    v.push alloc x books = (.error .capped, v,
      (books.note (.vectorCapped v.capacity cappedReport.display)).note (.abortEntered cappedFragments.length)) := by
  simp only [push, isFull, full, decide_true, if_true, grow, if_pos beyond]

end CappedVector

namespace Execution

/-- How often a vector of words can double. Without a budget only the cap limits it. -/
def doublings : Option Nat → Nat
  | none => 6
  | some limit => Nat.findGreatest (fun k => k = 0 ∨ 192 * 2 ^ k ≤ limit) 6

theorem doublings_le (budget : Option Nat) : doublings budget ≤ 6 := by
  cases budget with
  | none => exact Nat.le_refl 6
  | some limit => exact Nat.findGreatest_le (P := fun k => k = 0 ∨ 192 * 2 ^ k ≤ limit) 6

theorem le_doublings_iff (limit k : Nat) (positive : 0 < k) (capped : k ≤ 6) :
    k ≤ doublings (some limit) ↔ 192 * 2 ^ k ≤ limit := by
  have reached : doublings (some limit) = 0 ∨ 192 * 2 ^ doublings (some limit) ≤ limit :=
    Nat.findGreatest_spec (P := fun k => k = 0 ∨ 192 * 2 ^ k ≤ limit) (Nat.zero_le 6) (.inl rfl)
  constructor
  · intro below
    have power : 2 ^ k ≤ 2 ^ doublings (some limit) := Nat.pow_le_pow_right (by decide) below
    omega
  · intro enough
    exact Nat.le_findGreatest capped (.inr enough)

/-- The vector of the numbers below `m` after `k` doublings. -/
def grown (source : Source) (k m : Nat) : CappedVector Int :=
  ⟨.word, ⟨source, 16 * 2 ^ k, 128 * 2 ^ k⟩, ((List.range m).map Int.ofNat).toArray⟩

/-- The ledger while a vector stands that has doubled `k` times. -/
def account (k limit : Nat) : Ledger := ⟨limit, 128 * 2 ^ k, if k = 0 then 128 else 192 * 2 ^ k, 0, 0⟩

theorem length_grown (source : Source) (k m : Nat) : (grown source k m).length = m := by
  simp [grown, CappedVector.length]

theorem capacity_grown (source : Source) (k m : Nat) : (grown source k m).capacity = 16 * 2 ^ k := rfl

theorem full_grown (source : Source) (k : Nat) :
    (grown source k (16 * 2 ^ k)).length = (grown source k (16 * 2 ^ k)).capacity :=
  length_grown source k (16 * 2 ^ k)

theorem append_grown (source : Source) (k m : Nat) : (grown source k m).append m = grown source k (m + 1) := by
  simp [grown, CappedVector.append, List.range_succ]

section

variable {alloc : Allocator} {source : Source} {budget : Option Nat} {k m : Nat} {books : Books}

theorem push_roomy (room : m ≠ 16 * 2 ^ k) :
    (grown source k m).push alloc m books = (.ok (), grown source k (m + 1), books) := by
  have notFull : (grown source k m).isFull = false := by
    rw [CappedVector.isFull, length_grown, capacity_grown, decide_eq_false room]
  rw [CappedVector.push, notFull, append_grown]
  rfl

theorem push_capped (alloc : Allocator) (source : Source) (books : Books) (capped : 6 ≤ k) :
    ∃ after, (grown source k (16 * 2 ^ k)).push alloc ((16 * 2 ^ k : Nat) : Int) books =
        (.error .capped, grown source k (16 * 2 ^ k), after) ∧
      after.peak? source = books.peak? source := by
  have power : 2 ^ 6 ≤ 2 ^ k := Nat.pow_le_pow_right (by decide) capped
  have beyond : CappedVector.maxCapacity < 2 * (grown source k (16 * 2 ^ k)).capacity := by
    rw [capacity_grown, CappedVector.maxCapacity]
    omega
  refine ⟨_, CappedVector.push_of_beyond (full_grown source k) beyond _, ?_⟩
  rw [Books.peak?_note, Books.peak?_note]

theorem not_maxCapacity_lt (uncapped : k < 6) (source : Source) (m : Nat) :
    ¬ CappedVector.maxCapacity < 2 * (grown source k m).capacity := by
  have power : 2 ^ (k + 1) ≤ 2 ^ 6 := Nat.pow_le_pow_right (by decide) uncapped
  rw [capacity_grown, CappedVector.maxCapacity]
  omega

theorem double_capacity_grown (source : Source) (k m : Nat) : 2 * (grown source k m).capacity = 16 * 2 ^ (k + 1) := by
  rw [capacity_grown]
  omega

theorem lt_addressSpace_of_level (uncapped : k < 6) : 192 * 2 ^ (k + 1) < addressSpace := by
  have power : 2 ^ (k + 1) ≤ 2 ^ 6 := Nat.pow_le_pow_right (by decide) uncapped
  rw [addressSpace]
  omega

/-- The request for the doubled block decides; while it stands, the old block is still charged. -/
theorem allows_account_iff (uncapped : k < 6) (limit : Nat) :
    (account k limit).Allows (16 * 2 ^ (k + 1) * ElementType.word.size) ↔ 192 * 2 ^ (k + 1) ≤ limit := by
  have small := lt_addressSpace_of_level uncapped
  simp only [Ledger.Allows, account, ElementType.size]
  omega

theorem release_grant_account (k limit : Nat) :
    ((account k limit).grant (16 * 2 ^ (k + 1) * ElementType.word.size)).release (128 * 2 ^ k) =
      account (k + 1) limit := by
  -- the doubled block is charged before the old one is released, so that the peak is that of both
  have positive : 0 < 2 ^ k := Nat.two_pow_pos k
  simp only [account, Ledger.grant, Ledger.release, ElementType.size, Nat.add_eq_zero_iff, Nat.one_ne_zero, and_false,
    if_false, Ledger.mk.injEq, true_and]
  split <;> omega

theorem push_doubling (ledger : books.ledger? source = budget.map (account k)) (uncapped : k < 6)
    (granted : alloc books.asked .word (16 * 2 ^ (k + 1)) = none)
    (affordable : ∀ limit, budget = some limit → 192 * 2 ^ (k + 1) ≤ limit) :
    ∃ after, (grown source k (16 * 2 ^ k)).push alloc ((16 * 2 ^ k : Nat) : Int) books =
        (.ok (), grown source (k + 1) (16 * 2 ^ k + 1), after) ∧
      after.ledger? source = budget.map (account (k + 1)) := by
  have small := lt_addressSpace_of_level uncapped
  have bytes : 16 * 2 ^ (k + 1) * ElementType.word.size = 128 * 2 ^ (k + 1) := by
    rw [ElementType.size]
    omega
  have allowed : ∀ l, books.ledger? source = some l → l.Allows (16 * 2 ^ (k + 1) * ElementType.word.size) := by
    intro l found
    rw [ledger] at found
    obtain ⟨limit, given, rfl⟩ := Option.map_eq_some_iff.mp found
    exact (allows_account_iff uncapped limit).mpr (affordable limit given)
  have reserved := Block.reserve_granted (by omega) allowed granted
  rw [← double_capacity_grown source k (16 * 2 ^ k)] at reserved
  have pushed := CappedVector.push_of_granted (full_grown source k) (not_maxCapacity_lt uncapped source _) reserved
    ((16 * 2 ^ k : Nat) : Int)
  rw [double_capacity_grown, bytes] at pushed
  have appended : CappedVector.append ⟨(grown source k (16 * 2 ^ k)).element,
      ⟨source, 16 * 2 ^ (k + 1), 128 * 2 ^ (k + 1)⟩, (grown source k (16 * 2 ^ k)).items⟩ ((16 * 2 ^ k : Nat) : Int) =
      grown source (k + 1) (16 * 2 ^ k + 1) := append_grown source (k + 1) (16 * 2 ^ k)
  rw [appended] at pushed
  refine ⟨_, pushed, ?_⟩
  rw [Books.ledger?_note, Block.release, Books.ledger?_note, Books.credit_eq, Books.ledger?_adjust, Books.ledger?_note,
    Books.ledger?_ask, Books.ledger?_adjust, ledger, Option.map_map, Option.map_map]
  congr 1
  funext limit
  rw [← release_grant_account k limit, bytes]
  exact (if_pos rfl).trans (congrArg (Ledger.release · _) (if_pos rfl))

theorem push_denied (alloc : Allocator) {limit : Nat} (ledger : books.ledger? source = some (account k limit))
    (uncapped : k < 6) (beyond : limit < 192 * 2 ^ (k + 1)) :
    ∃ after, (grown source k (16 * 2 ^ k)).push alloc ((16 * 2 ^ k : Nat) : Int) books =
        (.error (.storage (.exhausted (256 * 2 ^ k) (128 * 2 ^ k) limit)), grown source k (16 * 2 ^ k), after) ∧
      after.peak? source = books.peak? source := by
  have small := lt_addressSpace_of_level uncapped
  have bytes : 16 * 2 ^ (k + 1) * ElementType.word.size = 256 * 2 ^ k := by
    rw [ElementType.size]
    omega
  have denied : ¬ (account k limit).Allows (16 * 2 ^ (k + 1) * ElementType.word.size) := by
    rw [allows_account_iff uncapped]
    omega
  have reserved : Block.reserve alloc source .word (16 * 2 ^ (k + 1)) books = _ :=
    Block.reserve_denied (by omega) ledger denied
  rw [← double_capacity_grown source k (16 * 2 ^ k)] at reserved
  have pushed := CappedVector.push_of_denied (full_grown source k) (not_maxCapacity_lt uncapped source _) reserved
    ((16 * 2 ^ k : Nat) : Int)
  rw [double_capacity_grown, bytes] at pushed
  refine ⟨_, pushed, ?_⟩
  rw [Books.peak?_note]
  apply Books.peak?_adjust
  intro l
  rfl

end

/-- After `m` pushes the vector has doubled `k` times, no more often than it can and only when the values needed it. -/
structure Reaches (budget : Option Nat) (k m : Nat) : Prop where
  affordable : k ≤ doublings budget
  room : m ≤ 16 * 2 ^ k
  needed : k = 0 ∨ 8 * 2 ^ k < m

theorem Reaches.held {budget : Option Nat} {k m : Nat} (h : Reaches budget k m) : m ≤ 16 * 2 ^ doublings budget := by
  have power : 2 ^ k ≤ 2 ^ doublings budget := Nat.pow_le_pow_right (by decide) h.affordable
  have room := h.room
  omega

theorem Reaches.capped {budget : Option Nat} {k m : Nat} (h : Reaches budget k m) : m ≤ 1024 := by
  have power : 2 ^ doublings budget ≤ 2 ^ 6 := Nat.pow_le_pow_right (by decide) (doublings_le budget)
  have held := h.held
  omega

/-- Why no value is pushed once the vector has doubled as often as it can and is full. -/
def Exhausts (budget : Option Nat) (stop : PushStop) : Prop :=
  (doublings budget = 6 ∧ stop = .capped) ∨
    (doublings budget < 6 ∧ ∃ limit, budget = some limit ∧
      stop = .storage (.exhausted (256 * 2 ^ doublings budget) (128 * 2 ^ doublings budget) limit))

section

variable {alloc : Allocator} {source : Source} {budget : Option Nat} {k m : Nat} {books : Books}

theorem push_exhausts (alloc : Allocator) (ledger : books.ledger? source = budget.map (account k))
    (last : k = doublings budget) :
    ∃ stop after, (grown source k (16 * 2 ^ k)).push alloc ((16 * 2 ^ k : Nat) : Int) books =
        (.error stop, grown source k (16 * 2 ^ k), after) ∧
      after.peak? source = books.peak? source ∧ Exhausts budget stop := by
  have most := doublings_le budget
  by_cases capped : k = 6
  · obtain ⟨after, pushed, peak⟩ := push_capped alloc source books (Nat.le_of_eq capped.symm)
    exact ⟨.capped, after, pushed, peak, .inl ⟨by omega, rfl⟩⟩
  · cases budget with
    | none => exact absurd last capped
    | some limit =>
      have beyond : ¬ 192 * 2 ^ (k + 1) ≤ limit := by
        rw [← le_doublings_iff limit (k + 1) (by omega) (by omega)]
        omega
      obtain ⟨after, pushed, peak⟩ := push_denied alloc ledger (by omega) (Nat.lt_of_not_le beyond)
      refine ⟨_, after, pushed, peak, .inr ⟨by omega, limit, rfl, ?_⟩⟩
      rw [last]

/-- The run of pushes: either all values are in the vector, or the first that is not stopped the run. -/
theorem pushFrom_grown (grants : alloc.GrantsVectors) (remaining : Nat)
    (ledger : books.ledger? source = budget.map (account k)) (reaches : Reaches budget k m) :
    (∃ j after, pushFrom alloc remaining m (grown source k m) books = ((grown source j (m + remaining), none), after) ∧
      after.ledger? source = budget.map (account j) ∧ Reaches budget j (m + remaining)) ∨
    (∃ w stop after, pushFrom alloc remaining m (grown source k m) books =
        ((w, some (16 * 2 ^ doublings budget, stop)), after) ∧
      16 * 2 ^ doublings budget < m + remaining ∧ Exhausts budget stop ∧
      after.peak? source = budget.map fun limit => (account (doublings budget) limit).peak) := by
  induction remaining generalizing k m books with
  | zero => exact .inl ⟨k, books, rfl, ledger, reaches⟩
  | succ remaining ih =>
    obtain ⟨affordable, room, needed⟩ := reaches
    have most := doublings_le budget
    have positive := Nat.two_pow_pos k
    have later : m + (remaining + 1) = m + 1 + remaining := by omega
    rw [later]
    by_cases full : m = 16 * 2 ^ k
    · -- a full vector doubles if it can; that it could so far is what the ledger after `k` doublings says
      subst full
      by_cases more : k < doublings budget
      · have enough : ∀ limit, budget = some limit → 192 * 2 ^ (k + 1) ≤ limit := by
          rintro limit rfl
          exact (le_doublings_iff limit (k + 1) (by omega) (by omega)).mp more
        obtain ⟨after, pushed, charged⟩ := push_doubling ledger (by omega) (grants _ _ (by omega)) enough
        rw [pushFrom, pushed]
        exact ih charged ⟨more, by omega, .inr (by omega)⟩
      · have last : k = doublings budget := by omega
        obtain ⟨stop, after, failed, peak, exhausts⟩ := push_exhausts alloc ledger last
        refine .inr ⟨grown source k (16 * 2 ^ k), stop, after, ?_, by rw [← last]; omega, exhausts, ?_⟩
        · rw [pushFrom, failed, ← last]
        · rw [peak, Books.peak?, ledger, Option.map_map, ← last]
          rfl
    · rw [pushFrom, push_roomy full]
      exact ih ledger ⟨affordable, by omega, by omega⟩

end

/-- The budget, if there is one, has room for the first block. -/
def Suffices (budget : Option Nat) : Prop := ∀ limit, budget = some limit → 128 ≤ limit

theorem ledger?_start (budget : Option Nat) :
    (Program.start budget).2.ledger? (Program.start budget).1 = budget.map Ledger.empty := by
  cases budget with
  | none => rfl
  | some limit => rfl

theorem create_granted {alloc : Allocator} (grants : alloc.GrantsVectors) {budget : Option Nat}
    (enough : Suffices budget) :
    ∃ after, CappedVector.create alloc (Program.start budget).1 .word (Program.start budget).2 =
        (.ok (grown (Program.start budget).1 0 0), after) ∧
      after.ledger? (Program.start budget).1 = budget.map (account 0) := by
  have found := ledger?_start budget
  have allowed : ∀ l, (Program.start budget).2.ledger? (Program.start budget).1 = some l →
      l.Allows (CappedVector.initialCapacity * ElementType.word.size) := by
    intro l here
    rw [found] at here
    obtain ⟨limit, given, rfl⟩ := Option.map_eq_some_iff.mp here
    exact ⟨(by decide : 0 + 128 < addressSpace), enough limit given⟩
  have reserved := Block.reserve_granted (by decide) allowed (grants _ 0 (by decide))
  refine ⟨_, by rw [CappedVector.create, reserved]; rfl, ?_⟩
  rw [Books.ledger?_note, Books.ledger?_ask, Books.ledger?_adjust, found, Option.map_map]
  congr 1
  funext limit
  exact if_pos rfl

theorem create_denied (alloc : Allocator) {limit : Nat} (small : limit < 128) :
    (CappedVector.create alloc (.budget 0) .word (.ofLimits [limit]) : Except StorageFault (CappedVector Int) × Books) =
      (.error (.exhausted 128 0 limit),
        (Books.adjust (.budget 0) Ledger.refuse (.ofLimits [limit])).note (.budgetRefused 128 0 limit)) := by
  have denied : ¬ (Ledger.empty limit).Allows (CappedVector.initialCapacity * ElementType.word.size) := by
    intro allowed
    exact absurd allowed.2 (Nat.not_le_of_lt small)
  have reserved : Block.reserve alloc (.budget 0) .word CappedVector.initialCapacity (.ofLimits [limit]) = _ :=
    Block.reserve_denied (by decide) rfl denied
  rw [CappedVector.create, reserved]
  rfl

def summary (count : Int) (capacity : Nat) : String :=
  let last := if count = 0 then "none" else toString (count - 1)
  s!"len={count} capacity={capacity} last={last}"

theorem get_grown (source : Source) (k m : Nat) : (grown source k (m + 1)).get m = .ok (m : Int) := by
  rw [CappedVector.get, elementAt_eq_ok_iff, length_grown]
  exact ⟨m, rfl, Nat.lt_succ_self m, by simp [grown]⟩

/-- The last element is there to be read. -/
theorem shape_grown (source : Source) (k m : Nat) : shape (grown source k m) = .ok (summary m (16 * 2 ^ k)) := by
  cases m with
  | zero => rfl
  | succ m =>
    have nonzero : ((m + 1 : Nat) : Int) ≠ 0 := by omega
    have pred : ((m + 1 : Nat) : Int) - 1 = m := by omega
    simp only [shape, length_grown, capacity_grown, get_grown, summary, if_neg nonzero, pred]
    rfl

theorem peak?_releaseVector (v : CappedVector Int) (books : Books) (source : Source) :
    (releaseVector v books).peak? source = books.peak? source := by
  rw [releaseVector, CappedVector.release, ← Array.foldl_toList, List.foldl_fixed, Books.peak?_release]

/-- The mark at the source of the command is that of a vector which doubled `k` times. -/
def Peaked (budget : Option Nat) (k : Nat) (after : Books) : Prop :=
  after.peak? (Program.start budget).1 = budget.map fun limit => (account k limit).peak

/-- The ways in which the command ends, with what it answers and leaves on the books. -/
inductive Ends (budget : Option Nat) (count : Int) : Except CommandStop String × Books → Prop
  | negative (below : count < 0) :
    Ends budget count (.error (.failed [s!"count must not be negative, got {count}"]), (Program.start budget).2)
  | unallocated {limit : Nat} (given : budget = some limit) (small : limit < 128) (natural : 0 ≤ count) :
    Ends budget count (.error (failure "allocating vector" (StorageFault.exhausted 128 0 limit).fault),
      (Books.adjust (.budget 0) Ledger.refuse (.ofLimits [limit])).note (.budgetRefused 128 0 limit))
  | answered {k m : Nat} {after : Books} (enough : Suffices budget) (counted : count = m) (reaches : Reaches budget k m)
    (peak : Peaked budget k after) :
    Ends budget count (.ok (summary count (16 * 2 ^ k)), after)
  | refused {limit : Nat} {after : Books} (enough : Suffices budget) (given : budget = some limit)
    (beyond : ((16 * 2 ^ doublings budget : Nat) : Int) < count) (uncapped : doublings budget < 6)
    (peak : Peaked budget (doublings budget) after) :
    Ends budget count (.error (failure s!"push {16 * 2 ^ doublings budget} failed with status 1"
      (StorageFault.exhausted (256 * 2 ^ doublings budget) (128 * 2 ^ doublings budget) limit).fault), after)
  | aborted {after : Books} (enough : Suffices budget) (beyond : ((16 * 2 ^ doublings budget : Nat) : Int) < count)
    (capped : doublings budget = 6) (peak : Peaked budget (doublings budget) after) :
    Ends budget count (.error (.abort CappedVector.cappedFragments), after)

theorem ends_push {alloc : Allocator} (grants : alloc.GrantsVectors) (budget : Option Nat) (count : Int) :
    Ends budget count (push alloc (Program.start budget).1 count (Program.start budget).2) := by
  by_cases below : count < 0
  · rw [push, if_pos below]
    exact .negative below
  have counted : count = count.toNat := by omega
  rw [push, if_neg below]
  by_cases enough : Suffices budget
  · obtain ⟨middle, created, ledger⟩ := create_granted grants enough
    have begun : Reaches budget 0 0 := ⟨Nat.zero_le _, Nat.zero_le _, .inl rfl⟩
    have run := pushFrom_grown grants count.toNat ledger begun
    rw [Nat.zero_add] at run
    rw [created, inContext]
    rcases run with ⟨k, after, pushed, charged, reaches⟩ | ⟨w, stop, after, pushed, beyond, exhausts, peak⟩
    · simp only [pushed, shape_grown, ← counted]
      refine .answered enough counted reaches ?_
      rw [Peaked, peak?_releaseVector, Books.peak?, charged, Option.map_map]
      rfl
    · rcases exhausts with ⟨capped, rfl⟩ | ⟨uncapped, limit, rfl, rfl⟩
      · simp only [pushed]
        exact .aborted enough (by omega) capped (by rw [Peaked, peak?_releaseVector, peak])
      · simp only [pushed]
        exact .refused enough rfl (by omega) uncapped (by rw [Peaked, peak?_releaseVector, peak])
  · simp only [Suffices, not_forall] at enough
    obtain ⟨limit, rfl, small⟩ := enough
    rw [Program.start, create_denied alloc (Nat.lt_of_not_le small)]
    exact .unallocated rfl (Nat.lt_of_not_le small) (by omega)

theorem pushFrom_add {v : CappedVector Int} {k remaining : Nat} (doubled : v.Doubled k)
    (beyond : CappedVector.maxCapacity < v.length + remaining) (alloc : Allocator) (extra next : Nat) (books : Books) :
    pushFrom alloc (remaining + extra) next v books = pushFrom alloc remaining next v books := by
  induction remaining generalizing v k next books with
  | zero =>
    -- the run is never this long: a vector has no room for as many values
    obtain ⟨_, capped, room, _⟩ := doubled
    omega
  | succ remaining ih =>
    obtain ⟨j, after, _⟩ := CappedVector.doubled_attempt doubled ⟨(next : Int), alloc, books⟩
    rw [Nat.add_right_comm, pushFrom, pushFrom]
    rcases pushed : v.attempt ⟨(next : Int), alloc, books⟩ with ⟨stop | ⟨⟩, w, later⟩
    · rw [CappedVector.attempt] at pushed
      rw [pushed]
    · have more : w.length = v.length + 1 := by
        rw [← w.length_toList, CappedVector.toList_of_attempt_ok pushed, List.length_append, v.length_toList]
        rfl
      simp only [pushed] at after
      rw [CappedVector.attempt] at pushed
      rw [pushed]
      exact ih after (by omega) (next + 1) later

theorem push_min (alloc : Allocator) (source : Source) (count : Int) (books : Books) :
    push alloc source count books = push alloc source (min count 1025) books := by
  by_cases few : count ≤ 1025
  · rw [Int.min_eq_left few]
  · have least : min count 1025 = 1025 := Int.min_eq_right (by omega)
    have split : count.toNat = 1025 + (count.toNat - 1025) := by omega
    rw [least, push, push, if_neg (by omega), if_neg (by decide)]
    rcases created : CappedVector.create alloc source .word books with ⟨f | v, after⟩
    · rfl
    · have start := (CappedVector.doubled_create created).1
      have many : CappedVector.maxCapacity < v.length + 1025 := Nat.lt_of_lt_of_le (by decide) (Nat.le_add_left _ _)
      simp only [inContext]
      rw [split, pushFrom_add start many]
      rfl

/-- How a count and a budget decide the end of the command: what each of its ends is, and exactly when it comes. -/
structure Decided (limit : Nat) (count : Int) (r : Except CommandStop String × Books) : Prop where
  /-- The command fails before it has asked for anything. -/
  untouched : ((∃ stop, r.1 = .error stop) ∧ r.2 = .ofLimits [limit]) ↔ count < 0
  negative : r.1 = .error (.failed [s!"count must not be negative, got {count}"]) ↔ count < 0
  unallocated : (∃ causes, r.1 = .error (.failed ("allocating vector" :: causes))) ↔ 0 ≤ count ∧ limit < 128
  answered : (∃ text, r.1 = .ok text) ↔ 128 ≤ limit ∧ 0 ≤ count ∧ count ≤ (16 * 2 ^ doublings (some limit) : Nat)
  described : ∀ text, r.1 = .ok text → ∃ capacity,
    IsLeast {c : Nat | (∃ k, c = 16 * 2 ^ k) ∧ count ≤ c} capacity ∧ text = summary count capacity ∧
      r.2.peak? (.budget 0) = some (if count ≤ 16 then 128 else 12 * capacity)
  refused : (∃ causes, r.1 =
      .error (.failed (s!"push {16 * 2 ^ doublings (some limit)} failed with status 1" :: causes))) ↔
    128 ≤ limit ∧ (16 * 2 ^ doublings (some limit) : Nat) < count ∧ doublings (some limit) < 6
  aborted : (∃ fragments, r.1 = .error (.abort fragments)) ↔ 1024 < count ∧ 12288 ≤ limit

theorem doublings_eq_six_iff (limit : Nat) : doublings (some limit) = 6 ↔ 12288 ≤ limit := by
  have most := doublings_le (some limit)
  have level := le_doublings_iff limit 6 (by decide) (by decide)
  omega

theorem suffices_iff (limit : Nat) : Suffices (some limit) ↔ 128 ≤ limit := by
  simp [Suffices]

theorem head?_negative (count : Int) : s!"count must not be negative, got {count}".toList.head? = some 'c' := by
  rw [String.toList_append]
  rfl

theorem head?_refused (next : Nat) : s!"push {next} failed with status 1".toList.head? = some 'p' := by
  rw [String.toList_append, String.toList_append, List.append_assoc]
  rfl

/-- Reports that open with different letters are different. -/
theorem not_exists_failed {a b : String} {causes : List String} (h : a.toList.head? ≠ b.toList.head?) :
    ¬ ∃ others, (.error (.failed (a :: causes)) : Except CommandStop String) = .error (.failed (b :: others)) := by
  rintro ⟨others, ⟨⟩⟩
  exact h rfl

section

variable {limit : Nat} {count : Int}

theorem decided_negative (below : count < 0) :
    Decided limit count (.error (.failed [s!"count must not be negative, got {count}"]), .ofLimits [limit]) where
  untouched := iff_of_true ⟨⟨_, rfl⟩, rfl⟩ below
  negative := iff_of_true rfl below
  unallocated := iff_of_false (not_exists_failed (by rw [head?_negative]; decide)) (by omega)
  answered := iff_of_false (by rintro ⟨_, ⟨⟩⟩) (by omega)
  described := by rintro _ ⟨⟩
  refused := iff_of_false (not_exists_failed (by rw [head?_negative, head?_refused]; decide)) (by omega)
  aborted := iff_of_false (by rintro ⟨_, ⟨⟩⟩) (by omega)

theorem decided_unallocated (small : limit < 128) (natural : 0 ≤ count) :
    Decided limit count (.error (failure "allocating vector" (StorageFault.exhausted 128 0 limit).fault),
      (Books.adjust (.budget 0) Ledger.refuse (.ofLimits [limit])).note (.budgetRefused 128 0 limit)) where
  untouched := by
    refine iff_of_false ?_ (by omega)
    rintro ⟨_, same⟩
    cases congrArg Books.journal same
  negative := by
    refine iff_of_false ?_ (by omega)
    intro same
    exact not_exists_failed (by rw [head?_negative]; decide) ⟨_, same⟩
  unallocated := iff_of_true ⟨_, rfl⟩ ⟨natural, small⟩
  answered := iff_of_false (by rintro ⟨_, ⟨⟩⟩) (by omega)
  described := by rintro _ ⟨⟩
  refused := iff_of_false (not_exists_failed (by rw [head?_refused]; decide)) (by omega)
  aborted := iff_of_false (by rintro ⟨_, ⟨⟩⟩) (by omega)

theorem ne_ofLimits {after : Books} {k : Nat} (peak : after.peak? (.budget 0) = some (account k limit).peak) :
    after ≠ .ofLimits [limit] := by
  rintro rfl
  have positive := Nat.two_pow_pos k
  simp only [Books.peak?, Books.ledger?, Books.ofLimits, List.map, List.getElem?_cons_zero, Option.map_some,
    Ledger.empty, account, Option.some.injEq] at peak
  split at peak <;> omega

theorem Reaches.doubled {budget : Option Nat} {k m : Nat} (h : Reaches budget k m) (source : Source) :
    (grown source k m).Doubled k := by
  obtain ⟨affordable, room, needed⟩ := h
  have power : 2 ^ k ≤ 2 ^ 6 := Nat.pow_le_pow_right (by decide) (Nat.le_trans affordable (doublings_le budget))
  refine ⟨rfl, ?_, ?_, ?_⟩
  · rw [capacity_grown, CappedVector.maxCapacity]
    omega
  · rwa [length_grown]
  · rw [length_grown, capacity_grown]
    omega

theorem Reaches.peak_eq {budget : Option Nat} {k m : Nat} (h : Reaches budget k m) (limit : Nat) :
    (account k limit).peak = if m ≤ 16 then 128 else 12 * (16 * 2 ^ k) := by
  obtain ⟨_, room, needed⟩ := h
  have positive := Nat.two_pow_pos k
  simp only [account]
  by_cases first : k = 0
  · subst first
    rw [if_pos rfl, if_pos (show m ≤ 16 from room)]
  · have above : ¬ m ≤ 16 := by
      have twice : 2 ^ 1 ≤ 2 ^ k := Nat.pow_le_pow_right (by decide) (Nat.pos_of_ne_zero first)
      omega
    rw [if_neg first, if_neg above]
    omega

theorem decided_answered {k m : Nat} {after : Books} (enough : 128 ≤ limit) (reaches : Reaches (some limit) k m)
    (peak : after.peak? (.budget 0) = some (account k limit).peak) :
    Decided limit m (.ok (summary m (16 * 2 ^ k)), after) where
  untouched := iff_of_false (by rintro ⟨⟨_, ⟨⟩⟩, _⟩) (by omega)
  negative := iff_of_false (by rintro ⟨⟩) (by omega)
  unallocated := iff_of_false (by rintro ⟨_, ⟨⟩⟩) (by omega)
  answered := by
    have held := reaches.held
    exact iff_of_true ⟨_, rfl⟩ ⟨enough, by omega, by omega⟩
  described := by
    rintro _ ⟨⟩
    refine ⟨16 * 2 ^ k, ?_, rfl, ?_⟩
    · have least := (reaches.doubled .heap).isLeast
      rw [length_grown] at least
      simp only [Int.ofNat_le]
      exact least
    · have same : (m : Int) ≤ 16 ↔ m ≤ 16 := by omega
      simp only [peak, reaches.peak_eq, same]
  refused := by
    have held := reaches.held
    exact iff_of_false (by rintro ⟨_, ⟨⟩⟩) (by omega)
  aborted := by
    have capped := reaches.capped
    exact iff_of_false (by rintro ⟨_, ⟨⟩⟩) (by omega)

theorem decided_refused {after : Books} {causes : List String} (enough : 128 ≤ limit)
    (beyond : (16 * 2 ^ doublings (some limit) : Nat) < count) (uncapped : doublings (some limit) < 6)
    (peak : after.peak? (.budget 0) = some (account (doublings (some limit)) limit).peak) :
    Decided limit count
      (.error (.failed (s!"push {16 * 2 ^ doublings (some limit)} failed with status 1" :: causes)), after) where
  untouched := iff_of_false (fun h => ne_ofLimits peak h.2) (by omega)
  negative := by
    refine iff_of_false ?_ (by omega)
    intro same
    exact not_exists_failed (by rw [head?_refused, head?_negative]; decide) ⟨_, same⟩
  unallocated := iff_of_false (not_exists_failed (by rw [head?_refused]; decide)) (by omega)
  answered := iff_of_false (by rintro ⟨_, ⟨⟩⟩) (by omega)
  described := by rintro _ ⟨⟩
  refused := iff_of_true ⟨causes, rfl⟩ ⟨enough, beyond, uncapped⟩
  aborted := by
    have six := doublings_eq_six_iff limit
    exact iff_of_false (by rintro ⟨_, ⟨⟩⟩) (by omega)

theorem decided_aborted {after : Books} {fragments : List String}
    (beyond : (16 * 2 ^ doublings (some limit) : Nat) < count) (capped : doublings (some limit) = 6)
    (peak : after.peak? (.budget 0) = some (account (doublings (some limit)) limit).peak) :
    Decided limit count (.error (.abort fragments), after) where
  untouched := iff_of_false (fun h => ne_ofLimits peak h.2) (by omega)
  negative := iff_of_false (by rintro ⟨⟩) (by omega)
  unallocated := by
    have six := doublings_eq_six_iff limit
    exact iff_of_false (by rintro ⟨_, ⟨⟩⟩) (by omega)
  answered := iff_of_false (by rintro ⟨_, ⟨⟩⟩) (by omega)
  described := by rintro _ ⟨⟩
  refused := iff_of_false (by rintro ⟨_, ⟨⟩⟩) (by omega)
  aborted := by
    rw [capped] at beyond
    exact iff_of_true ⟨_, rfl⟩ ⟨by omega, (doublings_eq_six_iff limit).mp capped⟩

theorem Ends.decided {r : Except CommandStop String × Books} (h : Ends (some limit) count r) :
    Decided limit count r := by
  cases h with
  | negative below => exact decided_negative below
  | unallocated given small natural =>
    cases given
    exact decided_unallocated small natural
  | answered enough counted reaches peak =>
    subst counted
    exact decided_answered ((suffices_iff limit).mp enough) reaches peak
  | refused enough given beyond uncapped peak =>
    cases given
    exact decided_refused ((suffices_iff limit).mp enough) beyond uncapped peak
  | aborted enough beyond capped peak => exact decided_aborted beyond capped peak

end

theorem Ends.ok_iff_of_heap {count : Int} {r : Except CommandStop String × Books} (h : Ends none count r) :
    (∃ text, r.1 = .ok text) ↔ 0 ≤ count ∧ count ≤ 1024 := by
  cases h with
  | negative below => exact iff_of_false (by rintro ⟨_, ⟨⟩⟩) (by omega)
  | unallocated given => cases given
  | answered enough counted reaches peak =>
    have capped := reaches.capped
    exact iff_of_true ⟨_, rfl⟩ (by omega)
  | refused enough given => cases given
  | aborted enough beyond capped peak =>
    rw [capped] at beyond
    exact iff_of_false (by rintro ⟨_, ⟨⟩⟩) (by omega)

theorem Ends.abort_iff_of_heap {count : Int} {r : Except CommandStop String × Books} (h : Ends none count r) :
    (∃ fragments, r.1 = .error (.abort fragments)) ↔ 1024 < count := by
  cases h with
  | negative below => exact iff_of_false (by rintro ⟨_, ⟨⟩⟩) (by omega)
  | unallocated given => cases given
  | answered enough counted reaches peak =>
    have capped := reaches.capped
    exact iff_of_false (by rintro ⟨_, ⟨⟩⟩) (by omega)
  | refused enough given => cases given
  | aborted enough beyond capped peak =>
    rw [capped] at beyond
    exact iff_of_true ⟨_, rfl⟩ (by omega)

/-- Count and budget decide how the command ends. Under a budget each of its ends comes exactly in the cases that
`Decided` names; on the heap only the sign of the count and the cap decide. Whatever the allocator and the books are,
the command makes at most 1025 pushes. -/
theorem push_decided {alloc : Allocator} (grants : alloc.GrantsVectors) (count : Int) :
    (∀ limit, Decided limit count (push alloc (.budget 0) count (.ofLimits [limit]))) ∧
      ((∃ text, (push alloc .heap count (.ofLimits [])).1 = .ok text) ↔ 0 ≤ count ∧ count ≤ 1024) ∧
      ((∃ fragments, (push alloc .heap count (.ofLimits [])).1 = .error (.abort fragments)) ↔ 1024 < count) ∧
      ∀ alloc source books, push alloc source count books = push alloc source (min count 1025) books := by
  have heap : Ends none count (push alloc .heap count (.ofLimits [])) := ends_push grants none count
  refine ⟨?_, heap.ok_iff_of_heap, heap.abort_iff_of_heap, ?_⟩
  · intro limit
    exact (ends_push grants (some limit) count).decided
  · intro alloc source books
    exact push_min alloc source count books

theorem grantsVectors_machine (handle : Nat) : (Allocator.machine handle).GrantsVectors := by
  intro earlier k le
  have power : 2 ^ k ≤ 2 ^ 6 := Nat.pow_le_pow_right (by decide) le
  have bytes : 16 * 2 ^ k * Allocator.slotBytes handle .word = 128 * 2 ^ k := by
    rw [Allocator.slotBytes, ElementType.size]
    · omega
    · rintro ⟨⟩
  simp only [Allocator.machine, bytes]
  rw [if_neg (by omega), if_neg (by omega)]

/-- Seventeen values need a budget of 384 bytes: with one byte less, the last is refused. -/
theorem push_seventeen :
    (∃ causes, (push (.machine 40) (.budget 0) 17 (.ofLimits [383])).1 =
      .error (.failed ("push 16 failed with status 1" :: causes))) ∧
    (∃ capacity, (push (.machine 40) (.budget 0) 17 (.ofLimits [384])).1 = .ok (summary 17 capacity) ∧
      (push (.machine 40) (.budget 0) 17 (.ofLimits [384])).2.peak? (.budget 0) = some (12 * capacity)) := by
  have decided := (push_decided (grantsVectors_machine 40) 17).1
  have short : doublings (some 383) = 0 := by decide +kernel
  have enough : doublings (some 384) = 1 := by decide +kernel
  have refused := (decided 383).refused
  have answered := (decided 384).answered
  rw [short] at refused
  rw [enough] at answered
  obtain ⟨text, ended⟩ := answered.mpr (by decide)
  obtain ⟨capacity, _, rfl, peak⟩ := (decided 384).described text ended
  exact ⟨refused.mpr (by decide), capacity, ended, peak⟩

end Execution

end Quota
