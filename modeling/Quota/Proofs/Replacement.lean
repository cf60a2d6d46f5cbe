import Quota.ByteString.Transform
import Quota.Proofs.Accounts
import Quota.Proofs.Occurrence

set_option autoImplicit false

/-!
# Replacement

Replacing is specified by recursion on what follows the leftmost occurrence. The search for all occurrences, the length
computed from their number, and the pieces cut at their offsets meet that specification.
-/
namespace Quota

namespace Search

variable (needle insert : List UInt8)

/-- Up to so many leftmost occurrences of the needle replaced, one after the other. -/
inductive Replaced : Int → List UInt8 → List UInt8 → Prop
  | unchanged {limit : Int} {text : List UInt8} (h : limit ≤ 0 ∨ needle = [] ∨ ¬ needle <:+: text) :
    Replaced limit text text
  | replaced {limit : Int} {text before after rest : List UInt8} (positive : 0 < limit) (nonempty : needle ≠ [])
    (leftmost : Leftmost needle text before after) (later : Replaced (limit - 1) after rest) :
    Replaced limit text (before ++ insert ++ rest)

variable {needle insert}

theorem Replaced.unique {limit : Int} {text one other : List UInt8} (h : Replaced needle insert limit text one)
    (h' : Replaced needle insert limit text other) : one = other := by
  induction h generalizing other with
  | unchanged stays =>
    cases h' with
    | unchanged _ => rfl
    | replaced positive nonempty leftmost _ =>
      rcases stays with done | empty | absent
      · omega
      · exact absurd empty nonempty
      · exact absurd leftmost.isInfix absent
  | replaced positive nonempty leftmost _ ih =>
    cases h' with
    | unchanged stays =>
      rcases stays with done | empty | absent
      · omega
      · exact absurd empty nonempty
      · exact absurd leftmost.isInfix absent
    | replaced _ _ leftmost' later' =>
      obtain ⟨rfl, rfl⟩ := leftmost.unique leftmost'
      rw [ih later']

theorem Leftmost.drop_eq {text p q : List UInt8} (h : Leftmost needle text p q) :
    text.drop (p.length + needle.length) = q := by
  rw [h.split, ← List.length_append, List.drop_left]

/-- Where the leftmost occurrence was found, the text is cut there and what follows it is cut next. -/
theorem Leftmost.pieces_eq {text p q : List UInt8} (h : Leftmost needle text p q) (insert : List UInt8) (offset : Nat)
    (rest : List Nat) :
    pieces insert needle.length offset text ((offset + p.length) :: rest) =
      p :: insert :: pieces insert needle.length (offset + p.length + needle.length) q rest := by
  have front : text.take p.length = p := by rw [h.split, List.append_assoc, List.take_left]
  rw [pieces, Nat.add_sub_cancel_left, front, h.drop_eq]

/-- The pieces at the occurrences that were found make up the replaced text. -/
theorem replaced_pieces (needle insert : List UInt8) (limit offset : Nat) (text : List UInt8) :
    Replaced needle insert limit text
      (pieces insert needle.length offset text (matchesFrom needle limit offset text)).flatten := by
  induction limit generalizing offset text with
  | zero =>
    have whole : (pieces insert needle.length offset text (matchesFrom needle 0 offset text)).flatten = text := by
      simp [matchesFrom, pieces]
    rw [whole]
    exact .unchanged (.inl (by simp))
  | succ limit ih =>
    rw [matchesFrom]
    cases found : find text needle with
    | none =>
      have whole : (pieces insert needle.length offset text []).flatten = text := by simp [pieces]
      simp only [whole]
      exact .unchanged (.inr (not_isInfix_of_find found))
    | some k =>
      obtain ⟨nonempty, p, q, leftmost, rfl⟩ := leftmost_of_find found
      simp only [leftmost.pieces_eq, leftmost.drop_eq, List.flatten_cons, ← List.append_assoc]
      refine .replaced (by omega) nonempty leftmost ?_
      have later := ih (offset + p.length + needle.length) q
      rwa [show ((limit + 1 : Nat) : Int) - 1 = limit by omega]

theorem replaced_leftmost (needle insert : List UInt8) (limit : Int) (text : List UInt8) :
    Replaced needle insert limit text
      (pieces insert needle.length 0 text (leftmost text needle limit)).flatten := by
  rw [leftmost]
  by_cases positive : 0 < limit
  · have replaced := replaced_pieces needle insert limit.toNat 0 text
    rwa [Int.toNat_of_nonneg (Int.le_of_lt positive)] at replaced
  · have none : limit.toNat = 0 := Int.toNat_of_nonpos (Int.not_lt.mp positive)
    have whole : (pieces insert needle.length 0 text (matchesFrom needle limit.toNat 0 text)).flatten = text := by
      simp [none, matchesFrom, pieces]
    rw [whole]
    exact .unchanged (.inl (Int.not_lt.mp positive))

/-- Offsets at which a text of the given length can be cut in turn: each slice from the last cut to the next is inside
the text, and so is the occurrence that follows it. -/
def Cuts (width length : Nat) : (copied : Nat) → List Nat → Prop
  | copied, [] => copied ≤ length
  | copied, k :: rest => copied ≤ k ∧ k + width ≤ length ∧ Cuts width length (k + width) rest

theorem cuts_matchesFrom (needle : List UInt8) (limit offset : Nat) (text : List UInt8) :
    Cuts needle.length (offset + text.length) offset (matchesFrom needle limit offset text) := by
  induction limit generalizing offset text with
  | zero => exact Nat.le_add_right _ _
  | succ limit ih =>
    rw [matchesFrom]
    cases found : find text needle with
    | none => exact Nat.le_add_right _ _
    | some k =>
      obtain ⟨_, p, q, leftmost, rfl⟩ := leftmost_of_find found
      have length : text.length = p.length + needle.length + q.length := by
        rw [leftmost.split, List.length_append, List.length_append]
      have later := ih (offset + p.length + needle.length) q
      rw [show offset + p.length + needle.length + q.length = offset + text.length by omega] at later
      simp only [leftmost.drop_eq]
      exact ⟨by omega, by omega, later⟩

/-- What is cut out fits into the text. -/
theorem Cuts.length_le {width length copied : Nat} {found : List Nat} (h : Cuts width length copied found) :
    copied + found.length * width ≤ length := by
  induction found generalizing copied with
  | nil => simpa [Cuts] using h
  | cons k rest ih =>
    obtain ⟨forward, _, later⟩ := h
    have bound := ih later
    rw [List.length_cons, Nat.succ_mul]
    omega

/-- The pieces together are as long as the text less what is cut out and with what is put in. -/
theorem length_pieces (insert : List UInt8) {width : Nat} (offset : Nat) (text : List UInt8) {found : List Nat}
    (h : Cuts width (offset + text.length) offset found) :
    (pieces insert width offset text found).flatten.length + found.length * width =
      text.length + found.length * insert.length := by
  induction found generalizing offset text with
  | nil => simp [pieces]
  | cons k rest ih =>
    obtain ⟨forward, inside, later⟩ := h
    have behind : (text.drop (k - offset + width)).length = text.length - (k - offset + width) := List.length_drop
    rw [show offset + text.length = k + width + (text.drop (k - offset + width)).length by omega] at later
    have total := ih (k + width) (text.drop (k - offset + width)) later
    have front : (text.take (k - offset)).length = k - offset := List.length_take_of_le (by omega)
    rw [pieces, List.flatten_cons, List.flatten_cons, List.length_append, List.length_append, List.length_cons,
      Nat.succ_mul, Nat.succ_mul, front]
    omega

theorem Replaced.length_eq {limit : Int} {text result : List UInt8} (h : Replaced needle insert limit text result) :
    result.length + (leftmost text needle limit).length * needle.length =
      text.length + (leftmost text needle limit).length * insert.length := by
  rw [h.unique (replaced_leftmost needle insert limit text)]
  exact length_pieces insert 0 text (cuts_matchesFrom needle limit.toNat 0 text)

end Search

namespace ByteString

open Search

theorem replacedLength?_eq_some {length count width insert total : Nat}
    (h : length - count * width + count * insert = total) (fits : total < addressSpace) :
    replacedLength? length count width insert = some total := by
  rw [replacedLength?, if_pos ⟨by omega, by omega⟩, h]

/-- Whether or not an occurrence was found, one block of the result's length is asked for. -/
theorem fst_replace (alloc : Allocator) (s needle insert : ByteString) (limit : Int) (books : Books) {out : List UInt8}
    (joined : (pieces insert.bytes needle.length 0 s.bytes (leftmost s.bytes needle.bytes limit)).flatten = out)
    (length : s.length - (leftmost s.bytes needle.bytes limit).length * needle.length +
      (leftmost s.bytes needle.bytes limit).length * insert.length = out.length) (fits : out.length < addressSpace) :
    (s.replace alloc needle insert limit books).1 =
      match Block.reserve alloc s.source .byte out.length books with
      | (.ok block, _) => .ok (.owned block out)
      | (.error f, _) => .error f := by
  rw [replace]
  generalize leftmost s.bytes needle.bytes limit = found at joined length
  cases found with
  | nil =>
    have copy : s.bytes = out := by simpa [pieces] using joined
    rw [← copy]
    simp only [List.isEmpty_nil, if_true, clone, ofBytes]
    rcases Block.reserve alloc s.source .byte s.bytes.length books with ⟨_ | _, _⟩ <;> rfl
  | cons k rest =>
    have total := replacedLength?_eq_some length fits
    simp only [List.isEmpty_cons, Bool.false_eq_true, if_false, total, assemble, joined]
    rcases Block.reserve alloc s.source .byte out.length books with ⟨_ | _, _⟩ <;> rfl

/-- Replacement meets its recursive specification, for every limit. The specification has one result; the length
computed from the number of occurrences is its length, what is taken away is never more than there is, and every slice
is inside the text. The result is that text in a block of just so many slots, if the block is granted. -/
theorem replace_meets_specification (alloc : Allocator) (s needle insert : ByteString) (limit : Int) (books : Books) :
    ∃ out, (∀ t, Replaced needle.bytes insert.bytes limit s.bytes t ↔ t = out) ∧
      (leftmost s.bytes needle.bytes limit).length * needle.length ≤ s.length ∧
      s.length - (leftmost s.bytes needle.bytes limit).length * needle.length +
        (leftmost s.bytes needle.bytes limit).length * insert.length = out.length ∧
      Cuts needle.length s.length 0 (leftmost s.bytes needle.bytes limit) ∧
      (out.length < addressSpace →
        match Block.reserve alloc s.source .byte out.length books with
        | (.ok block, _) =>
          block.slots = out.length ∧ (s.replace alloc needle insert limit books).1 = .ok (.owned block out)
        | (.error f, _) => (s.replace alloc needle insert limit books).1 = .error f) := by
  have cuts : Cuts needle.length s.length 0 (leftmost s.bytes needle.bytes limit) := by
    have cuts := cuts_matchesFrom needle.bytes limit.toNat 0 s.bytes
    rwa [Nat.zero_add] at cuts
  have less := cuts.length_le
  rw [Nat.zero_add] at less
  obtain ⟨out, joined⟩ : ∃ out,
      (pieces insert.bytes needle.length 0 s.bytes (leftmost s.bytes needle.bytes limit)).flatten = out := ⟨_, rfl⟩
  have replaced := replaced_leftmost needle.bytes insert.bytes limit s.bytes
  have total := length_pieces insert.bytes 0 s.bytes (by rwa [Nat.zero_add])
  rw [show needle.bytes.length = needle.length from rfl, joined] at replaced
  rw [joined] at total
  have length : s.length - (leftmost s.bytes needle.bytes limit).length * needle.length +
      (leftmost s.bytes needle.bytes limit).length * insert.length = out.length := by
    simp only [ByteString.length] at less total ⊢
    omega
  refine ⟨out, fun t => ⟨fun h => h.unique replaced, fun h => h ▸ replaced⟩, less, length, cuts, fun fits => ?_⟩
  rw [fst_replace alloc s needle insert limit books joined length fits]
  rcases reserved : Block.reserve alloc s.source .byte out.length books with ⟨f | block, after⟩
  · rfl
  · exact ⟨by rw [Block.eq_of_reserve reserved], rfl⟩

end ByteString

end Quota
