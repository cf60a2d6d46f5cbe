import Mathlib.Data.Finset.Card
import Mathlib.Order.Bounds.Basic
import Quota.Proofs.FirstOccurrence
import Quota.Proofs.Replacement

set_option autoImplicit false

/-!
# Greedy matches

Of all ways to choose occurrences that do not overlap, taking the leftmost that is left, again and again, chooses the
most. The search does so until its limit is reached or no occurrence is left, and it comes to an end.
-/
namespace Quota.Search

variable {needle text : List UInt8}

/-- The least offset from `start` on at which the needle occurs. -/
structure FirstFrom (needle text : List UInt8) (start k : Nat) : Prop where
  start_le : start ≤ k
  occurs : OccursAt needle text k
  least : ∀ m, start ≤ m → m < k → ¬ OccursAt needle text m

/-- Offsets from `start` on, each the least that is not before the end of the one before. -/
inductive Greedy (needle text : List UInt8) : (start : Nat) → List Nat → Prop
  | nil (start : Nat) : Greedy needle text start []
  | cons {start k : Nat} {ks : List Nat} (first : FirstFrom needle text start k)
    (later : Greedy needle text (k + needle.length) ks) : Greedy needle text start (k :: ks)

/-- Where the last of the given occurrences ends; `start` if there is none. -/
def endOf (width : Nat) : (start : Nat) → List Nat → Nat
  | start, [] => start
  | _, k :: ks => endOf width (k + width) ks

/-- Occurrences that do not overlap. -/
structure NonOverlapping (needle text : List UInt8) (offsets : Finset Nat) : Prop where
  occurs : ∀ k ∈ offsets, OccursAt needle text k
  apart : ∀ j ∈ offsets, ∀ k ∈ offsets, j < k → j + needle.length ≤ k

theorem occursAt_drop (nonempty : needle ≠ []) (start k : Nat) :
    OccursAt needle (text.drop start) k ↔ OccursAt needle text (start + k) := by
  have positive := List.length_pos_iff.mpr nonempty
  have inside : k + needle.length ≤ (text.drop start).length ↔ start + k + needle.length ≤ text.length := by
    rw [List.length_drop]
    omega
  rw [OccursAt, OccursAt, List.drop_drop, inside]

theorem firstFrom_of_find {start k : Nat} (found : find (text.drop start) needle = some k) :
    FirstFrom needle text start (start + k) := by
  obtain ⟨nonempty, here, first⟩ := (find_eq_some_iff k).mp found
  refine ⟨Nat.le_add_right start k, (occursAt_drop nonempty start k).mp here, ?_⟩
  intro m after before there
  refine first (m - start) (by omega) ((occursAt_drop nonempty start (m - start)).mpr ?_)
  rwa [Nat.add_sub_cancel' after]

theorem not_occursAt_of_find {start m : Nat} (nonempty : needle ≠ []) (missing : find (text.drop start) needle = none)
    (after : start ≤ m) : ¬ OccursAt needle text m := by
  intro there
  rcases find_eq_none_iff.mp missing with empty | nowhere
  · exact nonempty empty
  · refine nowhere (m - start) ((occursAt_drop nonempty start (m - start)).mpr ?_)
    rwa [Nat.add_sub_cancel' after]

theorem matchesFrom_of_none {start : Nat} (missing : find (text.drop start) needle = none) (limit : Nat) :
    matchesFrom needle (limit + 1) start (text.drop start) = [] := by
  rw [matchesFrom, missing]

/-- One step of the search, in terms of the whole text. -/
theorem matchesFrom_of_some {start k : Nat} (found : find (text.drop start) needle = some k) (limit : Nat) :
    matchesFrom needle (limit + 1) start (text.drop start) = (start + k) ::
      matchesFrom needle limit (start + k + needle.length) (text.drop (start + k + needle.length)) := by
  rw [matchesFrom, found]
  simp only [List.drop_drop, Nat.add_assoc]

theorem greedy_matchesFrom (limit start : Nat) :
    Greedy needle text start (matchesFrom needle limit start (text.drop start)) := by
  induction limit generalizing start with
  | zero => exact .nil start
  | succ limit ih =>
    cases found : find (text.drop start) needle with
    | none =>
      rw [matchesFrom_of_none found]
      exact .nil start
    | some k =>
      rw [matchesFrom_of_some found]
      exact .cons (firstFrom_of_find found) (ih _)

theorem length_matchesFrom_le (needle : List UInt8) (limit start : Nat) (text : List UInt8) :
    (matchesFrom needle limit start text).length ≤ limit := by
  induction limit generalizing start text with
  | zero => exact Nat.le_refl 0
  | succ limit ih =>
    rw [matchesFrom]
    cases find text needle with
    | none => exact Nat.zero_le _
    | some k => exact Nat.succ_le_succ (ih _ _)

/-- The search stops at its limit, or where no occurrence is left. -/
theorem matchesFrom_spent (nonempty : needle ≠ []) (text : List UInt8) (limit start : Nat) :
    (matchesFrom needle limit start (text.drop start)).length = limit ∨
      ∀ m, endOf needle.length start (matchesFrom needle limit start (text.drop start)) ≤ m →
        ¬ OccursAt needle text m := by
  induction limit generalizing start with
  | zero => exact .inl rfl
  | succ limit ih =>
    cases found : find (text.drop start) needle with
    | none =>
      rw [matchesFrom_of_none found]
      exact .inr fun m after => not_occursAt_of_find nonempty found after
    | some k =>
      rw [matchesFrom_of_some found]
      rcases ih (start + k + needle.length) with reached | spent
      · exact .inl (congrArg Nat.succ reached)
      · exact .inr spent

theorem Greedy.start_le {start : Nat} {ks : List Nat} (h : Greedy needle text start ks) : ∀ k ∈ ks, start ≤ k := by
  induction h with
  | nil start => simp
  | cons first later ih =>
    intro k member
    rcases List.mem_cons.mp member with rfl | further
    · exact first.start_le
    · have after := ih k further
      have before := first.start_le
      omega

theorem Greedy.occursAt {start : Nat} {ks : List Nat} (h : Greedy needle text start ks) :
    ∀ k ∈ ks, OccursAt needle text k := by
  induction h with
  | nil start => simp
  | cons first later ih => exact List.forall_mem_cons.mpr ⟨first.occurs, ih⟩

theorem Greedy.pairwise {start : Nat} {ks : List Nat} (h : Greedy needle text start ks) :
    ks.Pairwise fun j k => j + needle.length ≤ k := by
  induction h with
  | nil start => exact .nil
  | cons first later ih => exact .cons later.start_le ih

/-- Between the end of one and the next there is no occurrence. -/
theorem Greedy.firstFrom {start k : Nat} {front back : List Nat} (h : Greedy needle text start (front ++ k :: back)) :
    FirstFrom needle text (endOf needle.length start front) k := by
  induction front generalizing start with
  | nil =>
    cases h with
    | cons first later => exact first
  | cons j front ih =>
    cases h with
    | cons first later => exact ih later

theorem Greedy.apart {start : Nat} {ks : List Nat} (h : Greedy needle text start ks) :
    ∀ j ∈ ks, ∀ k ∈ ks, j < k → j + needle.length ≤ k := by
  induction h with
  | nil start => simp
  | cons first later ih =>
    intro j member k member' before
    rcases List.mem_cons.mp member with rfl | further
    · rcases List.mem_cons.mp member' with rfl | further'
      · omega
      · exact later.start_le k further'
    · rcases List.mem_cons.mp member' with rfl | further'
      · have after := later.start_le j further
        omega
      · exact ih j further k further' before

theorem Greedy.nonOverlapping {start : Nat} {ks : List Nat} (h : Greedy needle text start ks) :
    NonOverlapping needle text ks.toFinset where
  occurs k member := h.occursAt k (List.mem_toFinset.mp member)
  apart j member k member' := h.apart j (List.mem_toFinset.mp member) k (List.mem_toFinset.mp member')

theorem Greedy.card_toFinset (nonempty : needle ≠ []) {start : Nat} {ks : List Nat} (h : Greedy needle text start ks) :
    ks.toFinset.card = ks.length := by
  have positive := List.length_pos_iff.mpr nonempty
  apply List.toFinset_card_of_nodup
  exact h.pairwise.imp fun apart => by omega

/-- Occurrences that all start within the width of one are one at most. -/
theorem NonOverlapping.card_le_one {offsets : Finset Nat} (h : NonOverlapping needle text offsets) {k : Nat}
    (near : ∀ m ∈ offsets, k ≤ m ∧ m < k + needle.length) : offsets.card ≤ 1 := by
  rw [Finset.card_le_one]
  intro i member j member'
  have bounds := near i member
  have bounds' := near j member'
  have forward := h.apart i member j member'
  have backward := h.apart j member' i member
  omega

theorem NonOverlapping.subset {offsets part : Finset Nat} (h : NonOverlapping needle text offsets)
    (inside : part ⊆ offsets) : NonOverlapping needle text part where
  occurs k member := h.occurs k (inside member)
  apart j member k member' := h.apart j (inside member) k (inside member')

/-- The exchange argument. Of any other choice, what is before the end of the first greedy match is one occurrence at
most, as none is before its start; and what is behind its end competes with the later matches. -/
theorem Greedy.card_filter_le {start : Nat} {ks : List Nat} (h : Greedy needle text start ks)
    (spent : ∀ m, endOf needle.length start ks ≤ m → ¬ OccursAt needle text m) {offsets : Finset Nat}
    (other : NonOverlapping needle text offsets) : (offsets.filter (start ≤ ·)).card ≤ ks.length := by
  induction h with
  | nil start =>
    rw [List.length_nil, Nat.le_zero, Finset.card_eq_zero, Finset.filter_eq_empty_iff]
    intro k member after
    exact spent k after (other.occurs k member)
  | @cons start k ks first later ih =>
    have behind : ((offsets.filter (start ≤ ·)).filter (k + needle.length ≤ ·)).card ≤ ks.length := by
      refine Nat.le_trans (Finset.card_le_card ?_) (ih spent)
      exact Finset.filter_subset_filter _ (Finset.filter_subset _ _)
    have near : ((offsets.filter (start ≤ ·)).filter (¬ k + needle.length ≤ ·)).card ≤ 1 := by
      refine (other.subset ?_).card_le_one (k := k) fun m member => ?_
      · exact (Finset.filter_subset _ _).trans (Finset.filter_subset _ _)
      · rw [Finset.mem_filter, Finset.mem_filter] at member
        obtain ⟨⟨chosen, after⟩, before⟩ := member
        have notEarlier : ¬ m < k := fun earlier => first.least m after earlier (other.occurs m chosen)
        omega
    have split := Finset.card_filter_add_card_filter_not (s := offsets.filter (start ≤ ·)) (k + needle.length ≤ ·)
    rw [List.length_cons]
    omega

theorem Greedy.card_le {ks : List Nat} (h : Greedy needle text 0 ks)
    (spent : ∀ m, endOf needle.length 0 ks ≤ m → ¬ OccursAt needle text m) {offsets : Finset Nat}
    (other : NonOverlapping needle text offsets) : offsets.card ≤ ks.length := by
  have bound := h.card_filter_le spent other
  rwa [Finset.filter_true_of_mem fun k _ => Nat.zero_le k] at bound

theorem length_matchesFrom_mul_le (needle text : List UInt8) (limit : Nat) :
    (matchesFrom needle limit 0 text).length * needle.length ≤ text.length := by
  have bound := (cuts_matchesFrom needle limit 0 text).length_le
  omega

/-- The most occurrences that can be chosen without an overlap are found by a search whose limit is out of reach. -/
theorem exists_isGreatest (nonempty : needle ≠ []) (text : List UInt8) :
    ∃ most, IsGreatest {n | ∃ offsets, NonOverlapping needle text offsets ∧ offsets.card = n} most := by
  have greedy : Greedy needle text 0 (matchesFrom needle (text.length + 1) 0 text) := greedy_matchesFrom _ 0
  refine ⟨_, ⟨_, greedy.nonOverlapping, greedy.card_toFinset nonempty⟩, ?_⟩
  rintro n ⟨offsets, other, rfl⟩
  refine greedy.card_le ?_ other
  rcases matchesFrom_spent nonempty text (text.length + 1) 0 with reached | spent
  · have bound := length_matchesFrom_mul_le needle text (text.length + 1)
    have positive := List.length_pos_iff.mpr nonempty
    have count : text.length + 1 ≤ (text.length + 1) * needle.length := Nat.le_mul_of_pos_right _ positive
    rw [List.drop_zero] at reached
    rw [reached] at bound
    omega
  · exact spent

theorem length_matchesFrom (nonempty : needle ≠ []) {most : Nat}
    (greatest : IsGreatest {n | ∃ offsets, NonOverlapping needle text offsets ∧ offsets.card = n} most) (limit : Nat) :
    (matchesFrom needle limit 0 text).length = min limit most := by
  have greedy : Greedy needle text 0 (matchesFrom needle limit 0 text) := greedy_matchesFrom limit 0
  have few := length_matchesFrom_le needle limit 0 text
  have possible := greatest.2 ⟨_, greedy.nonOverlapping, greedy.card_toFinset nonempty⟩
  rcases matchesFrom_spent nonempty text limit 0 with reached | spent
  · rw [List.drop_zero] at reached
    omega
  · obtain ⟨offsets, other, count⟩ := greatest.1
    have best := greedy.card_le spent other
    omega

/-- Where a search stands, and how many occurrences it may still report. -/
structure Walk where
  cursor : Nat
  remaining : Int

namespace Walk

/-- The next occurrence and the search after it. -/
def next? (text needle : List UInt8) (w : Walk) : Option (Nat × Walk) :=
  if w.remaining ≤ 0 ∨ text.length < w.cursor then none
  else
    match find (text.drop w.cursor) needle with
    | none => none
    | some k => some (w.cursor + k, ⟨w.cursor + k + needle.length, w.remaining - 1⟩)

/-- The search ends after it has reported the given offsets. -/
inductive Reports (text needle : List UInt8) : Walk → List Nat → Prop
  | done {w : Walk} (ended : w.next? text needle = none) : Reports text needle w []
  | next {w later : Walk} {k : Nat} {ks : List Nat} (found : w.next? text needle = some (k, later))
    (rest : Reports text needle later ks) : Reports text needle w (k :: ks)

theorem Reports.unique {w : Walk} {ks ls : List Nat} (h : Reports text needle w ks) (h' : Reports text needle w ls) :
    ls = ks := by
  induction h generalizing ls with
  | done ended =>
    cases h' with
    | done _ => rfl
    | next found _ =>
      rw [ended] at found
      cases found
  | next found _ ih =>
    cases h' with
    | done ended =>
      rw [ended] at found
      cases found
    | next found' rest =>
      rw [found] at found'
      cases found'
      rw [ih rest]

theorem next?_of_nonpos {w : Walk} (h : w.remaining ≤ 0) : w.next? text needle = none := if_pos (.inl h)

theorem reports_matchesFrom (limit : Nat) {start : Nat} (inside : start ≤ text.length) :
    Reports text needle ⟨start, limit⟩ (matchesFrom needle limit start (text.drop start)) := by
  induction limit generalizing start with
  | zero => exact .done (next?_of_nonpos (Int.le_refl 0))
  | succ limit ih =>
    have going : ¬ (((limit + 1 : Nat) : Int) ≤ 0 ∨ text.length < start) := by omega
    cases found : find (text.drop start) needle with
    | none =>
      rw [matchesFrom_of_none found]
      refine .done ?_
      rw [next?, if_neg going, found]
    | some k =>
      have fits := (firstFrom_of_find found).occurs.1
      have fewer : ((limit + 1 : Nat) : Int) - 1 = limit := by omega
      rw [matchesFrom_of_some found]
      refine .next ?_ (ih fits)
      rw [next?, if_neg going, found]
      simp only [fewer]

end Walk

theorem leftmost_of_nonpos {limit : Int} (h : limit ≤ 0) (text needle : List UInt8) :
    leftmost text needle limit = [] := by
  rw [leftmost, Int.toNat_of_nonpos h, matchesFrom]

theorem reports_leftmost (text needle : List UInt8) (limit : Int) :
    Walk.Reports text needle ⟨0, limit⟩ (leftmost text needle limit) := by
  rcases Int.le_total limit 0 with spent | natural
  · rw [leftmost_of_nonpos spent]
    exact .done (Walk.next?_of_nonpos spent)
  · have reports : Walk.Reports text needle ⟨0, limit.toNat⟩ (leftmost text needle limit) :=
      Walk.reports_matchesFrom limit.toNat (Nat.zero_le text.length)
    rwa [Int.toNat_of_nonneg natural] at reports

/-- The search for leftmost occurrences ends, with one list of offsets, which is empty if the limit is not positive or
the needle is empty. Else each offset is an occurrence, no two overlap, none is passed over between the end of one and
the next, and there are as many as the limit allows of the most that any choice without an overlap has. -/
theorem leftmost_greedy_and_maximal (text needle : List UInt8) (limit : Int) :
    (∀ ks, Walk.Reports text needle ⟨0, limit⟩ ks ↔ ks = leftmost text needle limit) ∧
    (limit ≤ 0 ∨ needle = [] → leftmost text needle limit = []) ∧
    (0 < limit → needle ≠ [] →
      (∀ k ∈ leftmost text needle limit, OccursAt needle text k) ∧
      ((leftmost text needle limit).Pairwise fun j k => j + needle.length ≤ k) ∧
      (∀ front k back, leftmost text needle limit = front ++ k :: back →
        ∀ m, endOf needle.length 0 front ≤ m → m < k → ¬ OccursAt needle text m) ∧
      ∃ most, IsGreatest {n | ∃ offsets, NonOverlapping needle text offsets ∧ offsets.card = n} most ∧
        ((leftmost text needle limit).length : Int) = min limit most) ∧
    (leftmost text needle limit).length * needle.length ≤ text.length := by
  have greedy : Greedy needle text 0 (leftmost text needle limit) := greedy_matchesFrom limit.toNat 0
  have reports := reports_leftmost text needle limit
  refine ⟨fun ks => ⟨reports.unique, fun same => same ▸ reports⟩, ?_, ?_, length_matchesFrom_mul_le needle text _⟩
  · rintro (spent | rfl)
    · exact leftmost_of_nonpos spent text needle
    · have missing : find (text.drop 0) [] = none := rfl
      cases count : limit.toNat with
      | zero => rw [leftmost, count, matchesFrom]
      | succ n =>
        rw [leftmost, count]
        exact matchesFrom_of_none missing n
  · intro positive nonempty
    obtain ⟨most, greatest⟩ := exists_isGreatest nonempty text
    refine ⟨greedy.occursAt, greedy.pairwise, ?_, most, greatest, ?_⟩
    · intro front k back split m after before
      rw [split] at greedy
      exact greedy.firstFrom.least m after before
    · have count := length_matchesFrom nonempty greatest limit.toNat
      rw [leftmost]
      omega

/-- Five letters hold four overlapping pairs, of which two can be chosen. -/
theorem pairs_in_run :
    leftmost [97, 97, 97, 97, 97] [97, 97] 3 = [0, 2] ∧
      IsGreatest {n | ∃ offsets, NonOverlapping [97, 97] [97, 97, 97, 97, 97] offsets ∧ offsets.card = n} 2 := by
  have found : leftmost [97, 97, 97, 97, 97] [97, 97] 3 = [0, 2] := by decide +kernel
  obtain ⟨_, _, chosen, _⟩ := leftmost_greedy_and_maximal [97, 97, 97, 97, 97] [97, 97] 3
  obtain ⟨_, _, _, most, greatest, count⟩ := chosen (by decide) (by decide)
  rw [found] at count
  obtain rfl : most = 2 := by
    rw [List.length_cons, List.length_cons, List.length_nil] at count
    omega
  exact ⟨found, greatest⟩

end Quota.Search
