import Quota.Proofs.Occurrence
import Quota.Proofs.Substrings

set_option autoImplicit false

/-!
# The first occurrence

What is found is the least offset from which the needle can be read. It is also what comes of trying the windows of the
needle's length one after the other, where every window is inside the text, and the substring at the offset that was
found is the needle.
-/
namespace Quota

namespace ByteString

theorem sameBytes_iff (bs cs : List UInt8) : sameBytes bs cs = true ↔ bs = cs := by
  induction bs generalizing cs with
  | nil => cases cs <;> simp [sameBytes]
  | cons b bs ih =>
    cases cs with
    | nil => simp [sameBytes]
    | cons c cs => simp [sameBytes, Byte.eq_iff, ih]

end ByteString

namespace Search

open ByteString

/-- The needle can be read from an offset of the text. -/
def OccursAt (needle text : List UInt8) (k : Nat) : Prop :=
  k + needle.length ≤ text.length ∧ (text.drop k).take needle.length = needle

variable {needle text : List UInt8}

theorem occursAt_iff_split (k : Nat) : OccursAt needle text k ↔ ∃ p q, text = p ++ needle ++ q ∧ p.length = k := by
  constructor
  · rintro ⟨inside, same⟩
    have rest := List.take_append_drop needle.length (text.drop k)
    rw [same] at rest
    refine ⟨text.take k, (text.drop k).drop needle.length, ?_, ?_⟩
    · rw [List.append_assoc, rest, List.take_append_drop]
    · rw [List.length_take]
      omega
  · rintro ⟨p, q, rfl, rfl⟩
    constructor
    · rw [List.length_append, List.length_append]
      omega
    · rw [List.append_assoc, List.drop_left, List.take_left]

theorem Leftmost.occursAt {p q : List UInt8} (h : Leftmost needle text p q) :
    OccursAt needle text p.length ∧ ∀ m < p.length, ¬ OccursAt needle text m := by
  constructor
  · exact (occursAt_iff_split p.length).mpr ⟨p, q, h.split, rfl⟩
  · intro m before here
    obtain ⟨p', q', split, rfl⟩ := (occursAt_iff_split m).mp here
    have least := h.first p' q' split
    omega

theorem find_eq_none_iff : find text needle = none ↔ needle = [] ∨ ∀ k, ¬ OccursAt needle text k := by
  constructor
  · intro missing
    rcases not_isInfix_of_find missing with empty | absent
    · exact .inl empty
    · refine .inr fun k here => absent ?_
      obtain ⟨p, q, split, _⟩ := (occursAt_iff_split k).mp here
      exact ⟨p, q, split.symm⟩
  · intro nowhere
    cases found : find text needle with
    | none => rfl
    | some k =>
      obtain ⟨nonempty, p, q, leftmost, _⟩ := leftmost_of_find found
      rcases nowhere with empty | absent
      · exact absurd empty nonempty
      · exact absurd leftmost.occursAt.1 (absent p.length)

theorem find_eq_some_iff (k : Nat) :
    find text needle = some k ↔ needle ≠ [] ∧ OccursAt needle text k ∧ ∀ m < k, ¬ OccursAt needle text m := by
  constructor
  · intro found
    obtain ⟨nonempty, p, q, leftmost, rfl⟩ := leftmost_of_find found
    exact ⟨nonempty, leftmost.occursAt⟩
  · rintro ⟨nonempty, here, first⟩
    cases found : find text needle with
    | none =>
      rcases find_eq_none_iff.mp found with empty | absent
      · exact absurd empty nonempty
      · exact absurd here (absent k)
    | some j =>
      obtain ⟨_, p, q, leftmost, rfl⟩ := leftmost_of_find found
      obtain ⟨there, least⟩ := leftmost.occursAt
      -- neither offset is before the other, as the needle occurs at both
      have notAfter : ¬ k < p.length := fun before => least k before here
      have notBefore : ¬ p.length < k := fun before => first p.length before there
      congr 1
      omega

/-- The first of the given offsets at which the window has the bytes of the needle. There is no answer if a window is
not inside the text. -/
def firstWindow? (text needle : List UInt8) : List Nat → Option (Option Nat)
  | [] => some none
  | k :: rest =>
    match slice? text k (k + needle.length) with
    | none => none
    | some window => if sameBytes window needle then some (some k) else firstWindow? text needle rest

/-- The difference of two sizes, if it is a size. -/
def difference? (a b : Nat) : Option Nat := if b ≤ a then some (a - b) else none

/-- The search that tries one window after the other. -/
def searchWindows? (text needle : List UInt8) : Option (Option Nat) :=
  if needle.isEmpty || decide (text.length < needle.length) then some none
  else
    match difference? text.length needle.length with
    | none => none
    | some last => firstWindow? text needle (List.range (last + 1))

theorem firstWindow?_eq {offsets : List Nat} (inside : ∀ k ∈ offsets, k + needle.length ≤ text.length) :
    firstWindow? text needle offsets =
      some (offsets.find? fun k => sameBytes ((text.drop k).take needle.length) needle) := by
  induction offsets with
  | nil => rfl
  | cons k rest ih =>
    have bounds : k ≤ k + needle.length ∧ k + needle.length ≤ text.length :=
      ⟨Nat.le_add_right k _, inside k List.mem_cons_self⟩
    have later := ih fun j member => inside j (List.mem_cons_of_mem k member)
    rw [firstWindow?, slice?, if_pos bounds, Nat.add_sub_cancel_left, List.find?_cons]
    cases same : sameBytes ((text.drop k).take needle.length) needle with
    | true => simp [same]
    | false => simp [same, later]

/-- The offsets at which a window is inside the text are all that need to be tried. -/
theorem find?_windows (nonempty : needle ≠ []) (long : needle.length ≤ text.length) :
    ((List.range (text.length - needle.length + 1)).find? fun k =>
      sameBytes ((text.drop k).take needle.length) needle) = find text needle := by
  have window : ∀ k, OccursAt needle text k ↔ k < text.length - needle.length + 1 ∧
      sameBytes ((text.drop k).take needle.length) needle = true := by
    intro k
    have inside : k + needle.length ≤ text.length ↔ k < text.length - needle.length + 1 := by omega
    rw [sameBytes_iff, OccursAt, inside]
  cases found : find text needle with
  | none =>
    rcases find_eq_none_iff.mp found with empty | absent
    · exact absurd empty nonempty
    rw [List.find?_eq_none]
    intro k member same
    exact absent k ((window k).mpr ⟨List.mem_range.mp member, same⟩)
  | some k =>
    obtain ⟨_, here, first⟩ := (find_eq_some_iff k).mp found
    obtain ⟨inside, same⟩ := (window k).mp here
    rw [List.find?_range_eq_some]
    refine ⟨same, List.mem_range.mpr inside, fun m before => ?_⟩
    rw [Bool.not_eq_true', Bool.eq_false_iff]
    intro earlier
    exact first m before ((window m).mpr ⟨Nat.lt_trans before inside, earlier⟩)

/-- No difference is negative and no window leaves the text, and the answer is the same. -/
theorem searchWindows?_eq (text needle : List UInt8) : searchWindows? text needle = some (find text needle) := by
  unfold searchWindows?
  split
  · rename_i trivially
    rw [Bool.or_eq_true, List.isEmpty_iff, decide_eq_true_iff] at trivially
    congr 1
    symm
    rw [find_eq_none_iff]
    rcases trivially with empty | short
    · exact .inl empty
    · refine .inr fun k here => ?_
      have inside := here.1
      omega
  · rename_i nontrivial
    rw [Bool.or_eq_true, List.isEmpty_iff, decide_eq_true_iff, not_or, Nat.not_lt] at nontrivial
    obtain ⟨nonempty, long⟩ := nontrivial
    have inside : ∀ k ∈ List.range (text.length - needle.length + 1), k + needle.length ≤ text.length := by
      intro k member
      have below := List.mem_range.mp member
      omega
    simp only [difference?, if_pos long, firstWindow?_eq inside, find?_windows nonempty long]

end Search

namespace ByteString

open Search

variable (s needle : ByteString)

theorem find_eq_neg_one_iff : s.find needle = -1 ↔ Search.find s.bytes needle.bytes = none := by
  unfold find
  cases Search.find s.bytes needle.bytes with
  | none => exact iff_of_true rfl rfl
  | some k => exact iff_of_false (by rintro ⟨⟩) (by rintro ⟨⟩)

theorem find_eq_natCast_iff (k : Nat) : s.find needle = k ↔ Search.find s.bytes needle.bytes = some k := by
  unfold find
  cases Search.find s.bytes needle.bytes with
  | none => exact iff_of_false (by rintro ⟨⟩) (by rintro ⟨⟩)
  | some j => rw [Int.natCast_inj, Option.some.injEq]

theorem contains_iff : s.contains needle = true ↔ 0 ≤ s.find needle := by
  unfold contains find
  cases Search.find s.bytes needle.bytes with
  | none => simp
  | some k => simp

/-- The window at an occurrence is the needle. -/
theorem substring_of_occursAt {k : Nat} (nonempty : needle.bytes ≠ []) (here : OccursAt needle.bytes s.bytes k)
    (alloc : Allocator) (books : Books) :
    s.substring alloc k (k + needle.length) books =
      match Block.reserve alloc s.source .byte needle.length books with
      | (.ok block, later) => (.ok (.owned block needle.bytes), later)
      | (.error f, later) => (.error (.storage f), later) := by
  have positive : 0 < needle.length := List.length_pos_iff.mpr nonempty
  have fits : k + needle.length ≤ s.length := here.1
  have good : checkRange s.length k (k + needle.length) = .ok () := by
    rw [checkRange_eq_ok_iff]
    omega
  have width : ((k : Int) + needle.length - k).toNat = needle.length := by omega
  have window : (s.bytes.drop (k : Int).toNat).take ((k : Int) + needle.length - k).toNat = needle.bytes := by
    rw [width, Int.toNat_natCast]
    exact here.2
  exact substring_eq_reserve good window alloc books

/-- The search finds the least offset at which the needle occurs, and -1 if there is none or the needle is empty.
Whether there is one is what `contains` answers, and the substring there is the needle, if storage for it is had. Trying
one window after the other gives the same answer, and never asks for a window that is not inside. -/
theorem find_least_occurrence :
    (s.find needle = -1 ↔ needle.bytes = [] ∨ ∀ k, ¬ OccursAt needle.bytes s.bytes k) ∧
    (∀ k : Nat, s.find needle = k ↔
      needle.bytes ≠ [] ∧ OccursAt needle.bytes s.bytes k ∧ ∀ m < k, ¬ OccursAt needle.bytes s.bytes m) ∧
    (s.find needle = -1 ∨ ∃ k : Nat, s.find needle = k) ∧
    (s.contains needle = true ↔ 0 ≤ s.find needle) ∧
    (s.contains needle = true → ∀ alloc books,
      match Block.reserve alloc s.source .byte needle.length books with
      | (.ok _, later) => ∃ t,
        s.substring alloc (s.find needle) (s.find needle + needle.length) books = (.ok t, later) ∧ t.same needle = true
      | (.error f, later) =>
        s.substring alloc (s.find needle) (s.find needle + needle.length) books = (.error (.storage f), later)) ∧
    searchWindows? s.bytes needle.bytes = some (Search.find s.bytes needle.bytes) := by
  refine ⟨(find_eq_neg_one_iff s needle).trans find_eq_none_iff, fun k =>
    (find_eq_natCast_iff s needle k).trans (find_eq_some_iff k), ?_, contains_iff s needle, ?_,
    searchWindows?_eq s.bytes needle.bytes⟩
  · cases found : Search.find s.bytes needle.bytes with
    | none => exact .inl ((find_eq_neg_one_iff s needle).mpr found)
    | some k => exact .inr ⟨k, (find_eq_natCast_iff s needle k).mpr found⟩
  · intro contained alloc books
    obtain ⟨k, found⟩ := Option.isSome_iff_exists.mp contained
    obtain ⟨nonempty, here, _⟩ := (find_eq_some_iff k).mp found
    rw [(find_eq_natCast_iff s needle k).mpr found, substring_of_occursAt s needle nonempty here alloc books]
    rcases Block.reserve alloc s.source .byte needle.length books with ⟨f | block, later⟩
    · rfl
    · exact ⟨_, rfl, (sameBytes_iff _ _).mpr rfl⟩

end ByteString

end Quota
