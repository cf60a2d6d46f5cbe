import Mathlib.Data.List.Lattice
import Quota.Proofs.CutAndJoin

set_option autoImplicit false

/-!
# Replacement by foreign bytes

What is put into a text is found again if its bytes are foreign to the text: then replacing can be taken back. If they
are foreign to the needle, none of the needle is left where every occurrence was replaced, for the needle can stand
neither in what was kept nor across a seam.
-/
namespace Quota

namespace Search

variable {needle insert text before after : List UInt8}

theorem not_isInfix_of_disjoint (nonempty : needle ≠ []) (foreign : needle.Disjoint text) : ¬ needle <:+: text := by
  intro inside
  obtain ⟨x, member⟩ := List.exists_mem_of_ne_nil needle nonempty
  exact foreign member (inside.subset member)

/-- A foreign insert is first found where it was put in, also if more of it follows. -/
theorem leftmost_of_disjoint (nonempty : insert ≠ []) (foreign : insert.Disjoint before) (after : List UInt8) :
    Leftmost insert (before ++ insert ++ after) before after where
  split := rfl
  first p q split := by
    rw [List.append_assoc, List.append_assoc] at split
    rcases List.append_eq_append_iff.mp split with ⟨more, rfl, _⟩ | ⟨more, rfl, rest⟩
    · rw [List.length_append]
      omega
    · cases more with
      | nil => rw [List.append_nil]
      | cons y more =>
        -- further left, the insert would start with a byte of what stands before it
        obtain ⟨x, insert, rfl⟩ := List.exists_cons_of_ne_nil nonempty
        obtain ⟨rfl, _⟩ := List.cons.inj rest
        exact absurd (List.mem_append_right p List.mem_cons_self) (foreign List.mem_cons_self)

/-- Replacing by a foreign insert is taken back by replacing the insert, with the same limit. -/
theorem Replaced.swap {limit : Int} {result : List UInt8} (h : Replaced needle insert limit text result)
    (nonempty : insert ≠ []) (foreign : insert.Disjoint text) : Replaced insert needle limit result text := by
  induction h with
  | unchanged _ => exact .unchanged (.inr (.inr (not_isInfix_of_disjoint nonempty foreign)))
  | replaced positive _ leftmost _ ih =>
    rw [leftmost.split, List.disjoint_append_right, List.disjoint_append_right] at foreign
    obtain ⟨⟨front, _⟩, back⟩ := foreign
    rw [leftmost.split]
    exact .replaced positive nonempty (leftmost_of_disjoint nonempty front _) (ih back)

theorem Leftmost.not_isInfix_before (h : Leftmost needle text before after) (nonempty : needle ≠ []) :
    ¬ needle <:+: before := by
  rintro ⟨p, q, rfl⟩
  have least := h.first p (q ++ needle ++ after) (by rw [h.split]; simp only [List.append_assoc])
  have positive := List.length_pos_iff.mpr nonempty
  rw [List.length_append, List.length_append] at least
  omega

/-- The needle cannot stand across a byte that it does not have. -/
theorem isInfix_around {x : UInt8} (absent : x ∉ needle) (h : needle <:+: before ++ x :: after) :
    needle <:+: before ∨ needle <:+: after := by
  -- of the needle, nothing but an empty part can start at the byte
  have apart : ∀ part, part <+: x :: after → part ⊆ needle → part = [] := by
    intro part fits subset
    rcases List.prefix_cons_iff.mp fits with empty | ⟨rest, rfl, _⟩
    · exact empty
    · exact absurd (subset List.mem_cons_self) absent
  rcases List.infix_append_iff.mp h with front | back | ⟨first, last, rfl, front, back⟩
  · exact .inl front
  · rcases List.infix_cons_iff.mp back with start | later
    · rw [apart needle start (List.Subset.refl needle)]
      exact .inl List.nil_infix
    · exact .inr later
  · rw [apart last back (List.subset_append_right first last), List.append_nil]
    exact .inl front.isInfix

theorem isInfix_of_foreign (nonempty : insert ≠ []) (foreign : insert.Disjoint needle)
    (h : needle <:+: before ++ insert ++ after) : needle <:+: before ∨ needle <:+: after := by
  induction insert generalizing before with
  | nil => exact absurd rfl nonempty
  | cons x rest ih =>
    obtain ⟨absent, others⟩ := List.disjoint_cons_left.mp foreign
    rw [List.append_assoc, List.cons_append] at h
    rcases isInfix_around absent h with front | back
    · exact .inl front
    · by_cases last : rest = []
      · rw [last] at back
        exact .inr back
      · have onward : needle <:+: [] ++ rest ++ after := back
        rcases ih last others onward with empty | later
        · rw [List.infix_nil.mp empty]
          exact .inl List.nil_infix
        · exact .inr later

theorem not_isInfix_intercalate (some : needle ≠ []) (nonempty : insert ≠ []) (foreign : insert.Disjoint needle)
    {parts : List (List UInt8)} (free : ∀ p ∈ parts, ¬ needle <:+: p) : ¬ needle <:+: insert.intercalate parts := by
  induction parts with
  | nil => exact mt List.infix_nil.mp some
  | cons p rest ih =>
    have later := ih fun q member => free q (List.mem_cons_of_mem p member)
    cases rest with
    | nil =>
      rw [List.intercalate_singleton]
      exact free p List.mem_cons_self
    | cons q rest =>
      rw [List.intercalate_cons_cons]
      intro inside
      rcases isInfix_of_foreign nonempty foreign inside with front | back
      · exact free p List.mem_cons_self front
      · exact later back

/-- The text falls into parts with the needle between them, and in the result the insert stands between the same parts.
If the limit is no less than the length of the text, the needle is in none of the parts. -/
theorem exists_parts (needle insert : List UInt8) (limit offset : Nat) (text : List UInt8) :
    ∃ parts : List (List UInt8), parts.length = (matchesFrom needle limit offset text).length + 1 ∧
      needle.intercalate parts = text ∧ insert.intercalate parts =
        (pieces insert needle.length offset text (matchesFrom needle limit offset text)).flatten ∧
      (needle ≠ [] → text.length ≤ limit → ∀ p ∈ parts, ¬ needle <:+: p) := by
  induction limit generalizing offset text with
  | zero =>
    refine ⟨[text], rfl, List.intercalate_singleton, by simp [matchesFrom, pieces], ?_⟩
    intro some short p member
    rw [List.mem_singleton.mp member, List.eq_nil_of_length_eq_zero (Nat.le_zero.mp short)]
    exact mt List.infix_nil.mp some
  | succ limit ih =>
    rw [matchesFrom]
    cases found : find text needle with
    | none =>
      refine ⟨[text], rfl, List.intercalate_singleton, by simp [pieces], ?_⟩
      intro some _ p member
      rw [List.mem_singleton.mp member]
      exact (not_isInfix_of_find found).resolve_left some
    | some k =>
      obtain ⟨nonempty, p, q, leftmost, rfl⟩ := leftmost_of_find found
      obtain ⟨parts, count, joined, replaced, free⟩ := ih (offset + p.length + needle.length) q
      obtain ⟨first, parts, rfl⟩ := List.exists_cons_of_length_eq_add_one count
      refine ⟨p :: first :: parts, ?_, ?_, ?_, ?_⟩
      · simp only [leftmost.drop_eq]
        rw [List.length_cons, count, List.length_cons]
      · rw [List.intercalate_cons_cons, joined, leftmost.split]
      · simp only [leftmost.drop_eq, leftmost.pieces_eq, List.flatten_cons]
        rw [List.intercalate_cons_cons, replaced, List.append_assoc]
      · -- at least one byte of the text goes with each step of the limit, so the limit stays enough for the rest
        intro some short
        have positive := List.length_pos_iff.mpr some
        rw [leftmost.split, List.length_append, List.length_append] at short
        rw [List.forall_mem_cons]
        exact ⟨leftmost.not_isInfix_before some, free some (by omega)⟩

theorem Replaced.exists_parts {limit : Int} {result : List UInt8} (h : Replaced needle insert limit text result) :
    ∃ parts : List (List UInt8), parts.length = (leftmost text needle limit).length + 1 ∧
      needle.intercalate parts = text ∧ insert.intercalate parts = result ∧
      (needle ≠ [] → (text.length : Int) ≤ limit → ∀ p ∈ parts, ¬ needle <:+: p) := by
  obtain ⟨parts, count, joined, replaced, free⟩ := Search.exists_parts needle insert limit.toNat 0 text
  rw [h.unique (replaced_leftmost needle insert limit text)]
  exact ⟨parts, count, joined, replaced, fun some whole => free some (by omega)⟩

end Search

namespace ByteString

open Search

/-- Replacement by a marker whose bytes are foreign to the string is taken back by replacing the marker with the same
limit, whatever the limit is and however the marker overlaps with itself. -/
theorem replace_undone (s needle marker : ByteString) (limit : Int) (nonempty : marker.bytes ≠ [])
    (foreign : marker.bytes.Disjoint s.bytes) :
    (∃ marked, Replaced needle.bytes marker.bytes limit s.bytes marked ∧
      Delivers s.source marked fun alloc => s.replace alloc needle marker limit) ∧
    ∀ alloc books t, (s.replace alloc needle marker limit books).1 = .ok t →
      Regains t.source s fun alloc => t.replace alloc marker needle limit := by
  have replaced := replaced_leftmost needle.bytes marker.bytes limit s.bytes
  have first := delivers_replace replaced
  refine ⟨⟨_, replaced, first⟩, ?_⟩
  intro alloc books t made
  have back := replaced.swap nonempty foreign
  rw [← first.bytes_eq made] at back
  exact (delivers_replace back).regains

/-- The limit leaves the third letter, and the two markers beside each other could also be read one byte further. -/
theorem pair_undone :
    ∃ t r, ((literal .heap [97, 98, 98, 97, 98]).replace .granting (.literal .heap [98]) (.literal .heap [120, 120]) 2
        (.ofLimits [])).1 = .ok t ∧ t.bytes = [97, 120, 120, 120, 120, 97, 98] ∧
      (t.replace .granting (.literal .heap [120, 120]) (.literal .heap [98]) 2 (.ofLimits [])).1 = .ok r ∧
      r.same (.literal .heap [97, 98, 98, 97, 98]) = true := by
  have marked : ((literal .heap [97, 98, 98, 97, 98]).replace .granting (.literal .heap [98])
      (.literal .heap [120, 120]) 2 (.ofLimits [])).1 =
        .ok (.owned ⟨.heap, 7, 7⟩ [97, 120, 120, 120, 120, 97, 98]) := by decide +kernel
  have back : ((owned ⟨.heap, 7, 7⟩ [97, 120, 120, 120, 120, 97, 98]).replace .granting (.literal .heap [120, 120])
      (.literal .heap [98]) 2 (.ofLimits [])).1 = .ok (.owned ⟨.heap, 5, 5⟩ [97, 98, 98, 97, 98]) := by decide +kernel
  have undone := replace_undone (.literal .heap [97, 98, 98, 97, 98]) (.literal .heap [98]) (.literal .heap [120, 120]) 2
    (by decide) (by simp [bytes])
  exact ⟨_, _, marked, rfl, back, (undone.2 _ _ _ marked).same _ _ _ back⟩

/-- Where no occurrence is beyond the limit and the insert is foreign to the needle, the result does not have the needle.
The string falls into parts without the needle and with the needle between them, and the result is the same parts with
the insert between them, so its length changes by as much for each occurrence. -/
theorem replace_removes_needle (s needle insert : ByteString) (limit : Int) (nonempty : insert.bytes ≠ [])
    (foreign : insert.bytes.Disjoint needle.bytes) (whole : (s.length : Int) ≤ limit) :
    ∃ parts : List (List UInt8), needle.bytes.intercalate parts = s.bytes ∧
      (needle.bytes ≠ [] → ∀ p ∈ parts, ¬ needle.bytes <:+: p) ∧
      parts.length = (leftmost s.bytes needle.bytes limit).length + 1 ∧
      (Delivers s.source (insert.bytes.intercalate parts) fun alloc => s.replace alloc needle insert limit) ∧
      ∀ alloc books r, (s.replace alloc needle insert limit books).1 = .ok r →
        r.contains needle = false ∧ r.find needle = -1 ∧
        (r.length : Int) =
          s.length + (leftmost s.bytes needle.bytes limit).length * ((insert.length : Int) - needle.length) := by
  have replaced := replaced_leftmost needle.bytes insert.bytes limit s.bytes
  obtain ⟨parts, count, joined, result, free⟩ := replaced.exists_parts
  rw [← result] at replaced
  have delivers := delivers_replace replaced
  refine ⟨parts, joined, fun some => free some whole, count, delivers, ?_⟩
  intro alloc books r made
  have bytes := delivers.bytes_eq made
  have none : Search.find r.bytes needle.bytes = none := by
    rw [bytes]
    by_cases some : needle.bytes = []
    · rw [some]
      rfl
    · exact find_eq_none_of_not_isInfix (not_isInfix_intercalate some nonempty foreign (free some whole))
  refine ⟨?_, (find_eq_neg_one_iff r needle).mpr none, ?_⟩
  · rw [contains, none]
    rfl
  · have total := replaced.length_eq
    rw [← bytes] at total
    rw [Int.mul_sub, ← Int.natCast_mul, ← Int.natCast_mul]
    simp only [length]
    omega

theorem letters_removed :
    ∃ r, ((literal .heap [97, 98, 99, 97, 98]).replace .granting (.literal .heap [97, 98]) (.literal .heap [45]) 5
        (.ofLimits [])).1 = .ok r ∧ r.bytes = [45, 99, 45] ∧ r.contains (.literal .heap [97, 98]) = false := by
  have made : ((literal .heap [97, 98, 99, 97, 98]).replace .granting (.literal .heap [97, 98]) (.literal .heap [45]) 5
      (.ofLimits [])).1 = .ok (.owned ⟨.heap, 3, 3⟩ [45, 99, 45]) := by decide +kernel
  obtain ⟨_, _, _, _, _, removed⟩ := replace_removes_needle (.literal .heap [97, 98, 99, 97, 98])
    (.literal .heap [97, 98]) (.literal .heap [45]) 5 (by decide) (by simp [bytes]) (by decide)
  exact ⟨_, made, rfl, (removed _ _ _ made).1⟩

end ByteString

end Quota
