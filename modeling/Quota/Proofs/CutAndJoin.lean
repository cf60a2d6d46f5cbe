import Quota.Proofs.FirstOccurrence
import Quota.Proofs.TextResults

set_option autoImplicit false

/-!
# Cutting and joining

Substring and concatenation undo each other at every place where a string can be cut, and a substring of a substring is
a substring of the whole. No part can be cut out that is empty.
-/
namespace Quota.ByteString

/-- The computation comes to the same string again, wherever there is a block for it and nowhere else. -/
structure Regains {ε : Type} (source : Source) (t : ByteString)
    (c : Allocator → Books → Except ε ByteString × Books) : Prop where
  granted : ∀ alloc books, (∃ r, (c alloc books).1 = .ok r) ↔
    ∃ block, (Block.reserve alloc source .byte t.length books).1 = .ok block
  same : ∀ alloc books r, (c alloc books).1 = .ok r → r.same t = true

section

variable {ε : Type} {source : Source} {result : List UInt8} {c : Allocator → Books → Except ε ByteString × Books}

theorem Delivers.exists_iff (h : Delivers source result c) (alloc : Allocator) (books : Books) :
    (∃ r, (c alloc books).1 = .ok r) ↔
      ∃ block, (Block.reserve alloc source .byte result.length books).1 = .ok block := by
  simp only [h alloc books]
  constructor
  · rintro ⟨_, block, granted, _⟩
    exact ⟨block, granted⟩
  · rintro ⟨block, granted⟩
    exact ⟨_, block, granted, rfl⟩

theorem Delivers.bytes_eq (h : Delivers source result c) {alloc : Allocator} {books : Books} {r : ByteString}
    (made : (c alloc books).1 = .ok r) : r.bytes = result := by
  obtain ⟨block, _, rfl⟩ := (h alloc books r).mp made
  rfl

theorem Delivers.source_eq (h : Delivers source result c) {alloc : Allocator} {books : Books} {r : ByteString}
    (made : (c alloc books).1 = .ok r) : r.source = source := by
  obtain ⟨block, granted, rfl⟩ := (h alloc books r).mp made
  exact congrArg Block.source (Block.eq_of_reserve (Prod.ext granted rfl))

theorem Delivers.regains {t : ByteString} (h : Delivers source t.bytes c) : Regains source t c where
  granted := h.exists_iff
  same alloc books r made := by
    rw [ByteString.same, sameBytes_iff]
    exact h.bytes_eq made

end

/-- What stands between two parts of a string can be cut out. -/
theorem delivers_between {t : ByteString} (front window back : List UInt8) (split : t.bytes = front ++ window ++ back)
    (some : window ≠ []) {start stop : Int} (first : start = front.length) (last : stop = start + window.length) :
    Delivers t.source window fun alloc => t.substring alloc start stop := by
  subst first last
  have positive := List.length_pos_iff.mpr some
  have whole : t.length = front.length + window.length + back.length := by
    rw [length, split, List.length_append, List.length_append]
  have range : (0 : Int) ≤ front.length ∧ (front.length : Int) < front.length + window.length ∧
      (front.length : Int) + window.length ≤ t.length := by omega
  have width : ((front.length : Int) + window.length - front.length).toNat = window.length := by omega
  have cut := delivers_substring t range
  rwa [width, Int.toNat_natCast, split, List.append_assoc, List.drop_left, List.take_left] at cut

/-- Cut at an offset, the string is had again by joining what was cut. -/
structure RejoinedAt (s : ByteString) (k : Int) : Prop where
  front : Delivers s.source (s.bytes.take k.toNat) fun alloc => s.substring alloc 0 k
  back : Delivers s.source (s.bytes.drop k.toNat) fun alloc => s.substring alloc k s.length
  same : ∀ t u, (∃ alloc books, (s.substring alloc 0 k books).1 = .ok t) →
    (∃ alloc books, (s.substring alloc k s.length books).1 = .ok u) →
    ∀ alloc books r, (t.concat alloc u books).1 = .ok r → r.same s = true
  -- a total that is no word ends in the abort path before anything is reserved
  granted : ∀ t u, (∃ alloc books, (s.substring alloc 0 k books).1 = .ok t) →
    (∃ alloc books, (s.substring alloc k s.length books).1 = .ok u) →
    (s.length : Int) ≤ maxWord → Regains t.source s fun alloc => t.concat alloc u

theorem rejoinedAt (s : ByteString) {k : Int} (positive : 0 < k) (inside : k < s.length) : s.RejoinedAt k := by
  have whole := List.take_append_drop k.toNat s.bytes
  have first : (s.bytes.take k.toNat).length = k.toNat := List.length_take_of_le (by rw [length] at inside; omega)
  have last : (s.bytes.drop k.toNat).length = s.length - k.toNat := List.length_drop
  have front : Delivers s.source (s.bytes.take k.toNat) fun alloc => s.substring alloc 0 k :=
    delivers_between [] _ _ whole.symm (List.ne_nil_of_length_pos (by omega)) rfl (by omega)
  have back : Delivers s.source (s.bytes.drop k.toNat) fun alloc => s.substring alloc k s.length := by
    have split : s.bytes = s.bytes.take k.toNat ++ s.bytes.drop k.toNat ++ [] := by rw [List.append_nil, whole]
    exact delivers_between _ _ [] split (List.ne_nil_of_length_pos (by omega)) (by omega) (by omega)
  have joined : ∀ t u, (∃ alloc books, (s.substring alloc 0 k books).1 = .ok t) →
      (∃ alloc books, (s.substring alloc k s.length books).1 = .ok u) → t.bytes ++ u.bytes = s.bytes := by
    rintro t u ⟨alloc, books, made⟩ ⟨alloc', books', made'⟩
    rw [front.bytes_eq made, back.bytes_eq made', whole]
  refine ⟨front, back, ?_, ?_⟩
  · intro t u made made' alloc books r concatenated
    rw [same, sameBytes_iff, bytes_of_concat (Prod.ext concatenated rfl), joined t u made made']
  · intro t u made made' fits
    have bytes := joined t u made made'
    have delivers := delivers_concat t u (by rw [bytes]; exact fits)
    rw [bytes] at delivers
    exact delivers.regains

/-- The string is one joined to another, and each that is not empty can be cut out again. -/
structure Joins (a b c : ByteString) : Prop where
  length : c.length = a.length + b.length
  front : a.isEmpty = false → Regains c.source a fun alloc => c.substring alloc 0 a.length
  back : b.isEmpty = false → Regains c.source b fun alloc => c.substring alloc a.length (a.length + b.length)

theorem joins_of_concat {alloc : Allocator} {books : Books} {a b c : ByteString}
    (h : (a.concat alloc b books).1 = .ok c) : Joins a b c := by
  have bytes : c.bytes = a.bytes ++ b.bytes := bytes_of_concat (Prod.ext h rfl)
  constructor
  · rw [ByteString.length, bytes, List.length_append]
    rfl
  · intro some
    have delivers : Delivers c.source a.bytes fun alloc => c.substring alloc 0 a.length :=
      delivers_between [] a.bytes b.bytes bytes (List.isEmpty_eq_false_iff.mp some) rfl (Int.zero_add _).symm
    exact delivers.regains
  · intro some
    have delivers : Delivers c.source b.bytes fun alloc => c.substring alloc a.length (a.length + b.length) :=
      delivers_between a.bytes b.bytes [] (by rw [List.append_nil, bytes]) (List.isEmpty_eq_false_iff.mp some) rfl rfl
    exact delivers.regains

/-- A range inside a window is a range of the whole. -/
theorem window_window (bytes : List UInt8) {i j k l : Int} (start : 0 ≤ i) (natural : 0 ≤ k) (inside : l ≤ j - i) :
    (((bytes.drop i.toNat).take (j - i).toNat).drop k.toNat).take (l - k).toNat =
      (bytes.drop (i + k).toNat).take ((i + l) - (i + k)).toNat := by
  have place : (i + k).toNat = i.toNat + k.toNat := by omega
  have width : ((i + l) - (i + k)).toNat = (l - k).toNat := by omega
  rw [List.drop_take, List.take_take, List.drop_drop, place, width]
  congr 1
  omega

/-- Ranges of the window from `i` up to `j` are ranges of the string: they are good if they are inside the window, and
then what is cut from either is the same, down to the books. -/
structure CutsWithin (s : ByteString) (i j : Int) (w : ByteString) : Prop where
  granted : ∀ (k l : Int) alloc books, (∃ r, (w.substring alloc k l books).1 = .ok r) ↔
    (0 ≤ k ∧ k < l ∧ l ≤ j - i) ∧ ∃ block, (Block.reserve alloc s.source .byte (l - k).toNat books).1 = .ok block
  same : ∀ (k l : Int) alloc books, 0 ≤ k ∧ k < l ∧ l ≤ j - i →
    w.substring alloc k l books = s.substring alloc (i + k) (i + l) books

theorem cutsWithin_of_substring {alloc : Allocator} {books : Books} {s w : ByteString} {i j : Int}
    (range : 0 ≤ i ∧ i < j ∧ j ≤ s.length) (h : (s.substring alloc i j books).1 = .ok w) : CutsWithin s i j w := by
  have delivers := delivers_substring s range
  have bytes := delivers.bytes_eq h
  have source := delivers.source_eq h
  have whole : (w.length : Int) = j - i := by
    rw [length, bytes, List.length_take, List.length_drop]
    rw [length] at range
    omega
  constructor
  · intro k l alloc books
    by_cases inner : 0 ≤ k ∧ k < l ∧ l ≤ j - i
    · have good : 0 ≤ k ∧ k < l ∧ l ≤ w.length := by rwa [whole]
      have cut := (delivers_substring w good).exists_iff alloc books
      have width : ((w.bytes.drop k.toNat).take (l - k).toNat).length = (l - k).toNat := by
        rw [List.length_take, List.length_drop]
        rw [length] at whole
        omega
      rw [cut, width, source]
      exact ⟨fun granted => ⟨inner, granted⟩, And.right⟩
    · obtain ⟨f, refused⟩ := exists_range_fault w (by rwa [whole])
      rw [refused]
      exact iff_of_false (by rintro ⟨r, ⟨⟩⟩) fun good => inner good.1
  · intro k l alloc books inner
    have window := window_window s.bytes range.1 inner.1 inner.2.2
    rw [← bytes] at window
    rw [substring_eq_reserve ((checkRange_eq_ok_iff w.length k l).mpr (by rwa [whole])) window,
      substring_eq_reserve ((checkRange_eq_ok_iff s.length (i + k) (i + l)).mpr (by omega)) rfl, source]

/-- Cutting and joining are inverse and compose: a string cut at any inner offset is had again from its parts, what was
joined is cut apart again at the seam, and a substring of a substring is one of the whole. -/
theorem cutting_and_joining_inverse :
    (∀ (s : ByteString) (k : Int), 0 < k → k < s.length → s.RejoinedAt k) ∧
    (∀ a b : ByteString,
      (((a.length + b.length : Nat) : Int) ≤ maxWord →
        Delivers a.source (a.bytes ++ b.bytes) fun alloc => a.concat alloc b) ∧
      ∀ alloc books c, (a.concat alloc b books).1 = .ok c → Joins a b c) ∧
    ∀ (s : ByteString) (i j : Int), 0 ≤ i → i < j → j ≤ s.length → ∀ alloc books w,
      (s.substring alloc i j books).1 = .ok w → CutsWithin s i j w := by
  refine ⟨?_, ?_, ?_⟩
  · intro s k positive inside
    exact rejoinedAt s positive inside
  · intro a b
    refine ⟨?_, ?_⟩
    · intro fits
      exact delivers_concat a b (by rwa [List.length_append])
    · intro alloc books c made
      exact joins_of_concat made
  · intro s i j natural forward inside alloc books w made
    exact cutsWithin_of_substring ⟨natural, forward, inside⟩ made

theorem word_rejoined :
    ∃ front back r, ((literal .heap [119, 111, 114, 100]).substring .granting 0 1 (.ofLimits [])).1 = .ok front ∧
      ((literal .heap [119, 111, 114, 100]).substring .granting 1 4 (.ofLimits [])).1 = .ok back ∧
      (front.concat .granting back (.ofLimits [])).1 = .ok r ∧ r.same (.literal .heap [119, 111, 114, 100]) = true := by
  have first : ((literal .heap [119, 111, 114, 100]).substring .granting 0 1 (.ofLimits [])).1 =
      .ok (.owned ⟨.heap, 1, 1⟩ [119]) := by decide +kernel
  have second : ((literal .heap [119, 111, 114, 100]).substring .granting 1 4 (.ofLimits [])).1 =
      .ok (.owned ⟨.heap, 3, 3⟩ [111, 114, 100]) := by decide +kernel
  have joined : ((owned ⟨.heap, 1, 1⟩ [119]).concat .granting (.owned ⟨.heap, 3, 3⟩ [111, 114, 100])
      (.ofLimits [])).1 = .ok (.owned ⟨.heap, 4, 4⟩ [119, 111, 114, 100]) := by decide +kernel
  have rejoined := cutting_and_joining_inverse.1 (.literal .heap [119, 111, 114, 100]) 1 (by decide) (by decide)
  exact ⟨_, _, _, first, second, joined, rejoined.same _ _ ⟨_, _, first⟩ ⟨_, _, second⟩ _ _ _ joined⟩

end Quota.ByteString
