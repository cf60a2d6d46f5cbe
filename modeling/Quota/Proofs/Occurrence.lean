import Mathlib.Data.List.Infix
import Quota.Text.Search

set_option autoImplicit false

/-!
# Occurrences

What the search finds, said of the text itself: the leftmost of all ways to split the text around the needle.
-/
namespace Quota.Search

/-- The text splits around the needle, and nowhere further left. -/
structure Leftmost (needle text before after : List UInt8) : Prop where
  split : text = before ++ needle ++ after
  first : ∀ p q, text = p ++ needle ++ q → before.length ≤ p.length

variable {needle text : List UInt8}

theorem Leftmost.unique {p q p' q' : List UInt8} (h : Leftmost needle text p q) (h' : Leftmost needle text p' q') :
    p = p' ∧ q = q' := by
  have lengths : p.length = p'.length := Nat.le_antisymm (h.first p' q' h'.split) (h'.first p q h.split)
  have same : p ++ needle ++ q = p' ++ needle ++ q' := h.split.symm.trans h'.split
  obtain ⟨front, back⟩ := List.append_inj same (by simp [lengths])
  exact ⟨(List.append_inj front lengths).1, back⟩

theorem Leftmost.isInfix {p q : List UInt8} (h : Leftmost needle text p q) : needle <:+: text := ⟨p, q, h.split.symm⟩

/-- A split further right in a text whose first place does not fit. -/
theorem Leftmost.cons {b : UInt8} {p q : List UInt8} (h : Leftmost needle text p q) (misses : ¬ needle <+: b :: text) :
    Leftmost needle (b :: text) (b :: p) q where
  split := by rw [h.split, List.cons_append, List.cons_append]
  first p' q' split := by
    cases p' with
    | nil => exact absurd ⟨q', split.symm⟩ misses
    | cons c p' =>
      obtain ⟨_, rest⟩ := List.cons.inj (split.trans (by rw [List.cons_append, List.cons_append]))
      exact Nat.succ_le_succ (h.first p' q' rest)

theorem leftmost_of_scan {offset k : Nat} (h : scan needle text offset = some k) :
    ∃ p q, Leftmost needle text p q ∧ k = offset + p.length := by
  induction text generalizing offset with
  | nil => cases h
  | cons b rest ih =>
    rw [scan] at h
    split at h
    · rename_i fits
      cases h
      obtain ⟨q, split⟩ := List.isPrefixOf_iff_prefix.mp fits
      exact ⟨[], q, ⟨split.symm, fun p q _ => Nat.zero_le _⟩, rfl⟩
    · rename_i misses
      obtain ⟨p, q, leftmost, place⟩ := ih h
      refine ⟨b :: p, q, leftmost.cons fun fits => misses (List.isPrefixOf_iff_prefix.mpr fits), ?_⟩
      rw [place, List.length_cons]
      omega

theorem not_isInfix_of_scan {offset : Nat} (nonempty : needle ≠ []) (h : scan needle text offset = none) :
    ¬ needle <:+: text := by
  induction text generalizing offset with
  | nil => exact fun inside => nonempty (List.infix_nil.mp inside)
  | cons b rest ih =>
    rw [scan] at h
    split at h
    · cases h
    · rename_i misses
      intro inside
      rcases List.infix_cons_iff.mp inside with fits | later
      · exact misses (List.isPrefixOf_iff_prefix.mpr fits)
      · exact ih h later

/-- What is found is the leftmost split. -/
theorem leftmost_of_find {k : Nat} (h : find text needle = some k) :
    needle ≠ [] ∧ ∃ p q, Leftmost needle text p q ∧ k = p.length := by
  rw [find_eq_scan] at h
  split at h
  · cases h
  · rename_i nonempty
    obtain ⟨p, q, leftmost, place⟩ := leftmost_of_scan h
    exact ⟨fun empty => nonempty (List.isEmpty_iff.mpr empty), p, q, leftmost, by omega⟩

theorem not_isInfix_of_find (h : find text needle = none) : needle = [] ∨ ¬ needle <:+: text := by
  rw [find_eq_scan] at h
  split at h
  · rename_i empty
    exact .inl (List.isEmpty_iff.mp empty)
  · rename_i nonempty
    exact .inr (not_isInfix_of_scan (fun empty => nonempty (List.isEmpty_iff.mpr empty)) h)

theorem find_eq_none_of_not_isInfix (absent : ¬ needle <:+: text) : find text needle = none := by
  cases found : find text needle with
  | none => rfl
  | some k =>
    obtain ⟨_, p, q, leftmost, _⟩ := leftmost_of_find found
    exact absurd leftmost.isInfix absent

end Quota.Search
