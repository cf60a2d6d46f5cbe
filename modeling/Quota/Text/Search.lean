import Quota.Text.Fingerprint

set_option autoImplicit false

/-!
# Search in octets

Leftmost occurrences of a needle, and the pieces of a text in which some of them are replaced. An empty needle occurs
nowhere. Offsets count octets from the start of the text. The search slides a window of the needle's length along the
text and compares octets only where the fingerprints agree; it finds what `scan` finds.
-/
namespace Quota.Search

/-- The offset of the first place from which the needle can be read, counted from `offset`. -/
def scan (needle : List UInt8) : List UInt8 → Nat → Option Nat
  | [], _ => none
  | b :: rest, offset =>
    if needle.isPrefixOf (b :: rest) then some offset else scan needle rest (offset + 1)

/-- Slides the window at the start of `text`, of which the fingerprint is given; `ahead` is what follows the window. -/
def roll (needle : List UInt8) (target weight : UInt64) :
    (ahead text : List UInt8) → (print : UInt64) → (offset : Nat) → Option Nat
  | [], text, print, offset => if print == target && needle.isPrefixOf text then some offset else none
  | c :: ahead, text, print, offset =>
    if print == target && needle.isPrefixOf text then some offset
    else
      match text with
      | [] => none
      | b :: rest => roll needle target weight ahead rest (Fingerprint.slide weight print b c) (offset + 1)

/-- The offset of the leftmost occurrence. -/
def find (text needle : List UInt8) : Option Nat :=
  if needle.isEmpty then none
  else
    let n := needle.length
    roll needle (Fingerprint.ofList needle) (Fingerprint.weight n) (text.drop n) text
      (Fingerprint.ofList (text.take n)) 0

/-- A text that is too short has no occurrence. -/
theorem scan_eq_none_of_length_lt (needle text : List UInt8) (offset : Nat) (short : text.length < needle.length) :
    scan needle text offset = none := by
  induction text generalizing offset with
  | nil => rfl
  | cons b rest ih =>
    have misses : needle.isPrefixOf (b :: rest) = false := by
      rw [Bool.eq_false_iff]
      intro h
      have := (List.isPrefixOf_iff_prefix.mp h).length_le
      omega
    rw [scan, misses]
    exact ih (offset + 1) (by simp at short; omega)

/-- Where the needle can be read the fingerprints agree. -/
theorem print_and_isPrefixOf (needle text : List UInt8) :
    (Fingerprint.ofList (text.take needle.length) == Fingerprint.ofList needle && needle.isPrefixOf text) =
      needle.isPrefixOf text := by
  cases h : needle.isPrefixOf text with
  | false => simp
  | true =>
    have window := List.prefix_iff_eq_take.mp (List.isPrefixOf_iff_prefix.mp h)
    rw [← window]
    simp

theorem roll_eq_scan (b : UInt8) (needle ahead text : List UInt8) (offset : Nat)
    (rest : ahead = text.drop (b :: needle).length) :
    roll (b :: needle) (Fingerprint.ofList (b :: needle)) (Fingerprint.weight (b :: needle).length) ahead text
        (Fingerprint.ofList (text.take (b :: needle).length)) offset =
      scan (b :: needle) text offset := by
  induction ahead generalizing text offset with
  | nil =>
    rw [roll, print_and_isPrefixOf]
    cases text with
    | nil => rfl
    | cons first text =>
      have short := List.drop_eq_nil_iff.mp rest.symm
      rw [scan, scan_eq_none_of_length_lt (b :: needle) text]
      simp at short ⊢
      omega
  | cons c ahead ih =>
    rw [roll.eq_def]
    simp only [print_and_isPrefixOf]
    cases text with
    | nil => simp at rest
    | cons first text =>
      have behind : text.drop needle.length = c :: ahead := by simpa using rest.symm
      have next : text[needle.length]? = some c := by
        rw [← List.head?_drop, behind]
        rfl
      have long : needle.length < text.length := by
        rw [List.getElem?_eq_some_iff] at next
        exact next.1
      have window : (text.take needle.length).length = needle.length := by
        rw [List.length_take]
        omega
      have slid := Fingerprint.slide_ofList first c (text.take needle.length)
      rw [window] at slid
      have grown : text.take needle.length ++ [c] = text.take (b :: needle).length := by
        rw [List.length_cons, List.take_add_one, next]
        rfl
      rw [grown] at slid
      rw [scan]
      split
      · rfl
      · rw [List.length_cons, List.take_succ_cons]
        dsimp only
        rw [slid]
        refine ih text (offset + 1) ?_
        rw [List.length_cons, ← List.drop_drop, behind]
        rfl

/-- The search finds what trying every place in turn finds. -/
theorem find_eq_scan (text needle : List UInt8) :
    find text needle = if needle.isEmpty then none else scan needle text 0 := by
  cases needle with
  | nil => rfl
  | cons b needle => exact roll_eq_scan b needle _ text 0 rfl

/-- Up to `limit` occurrences in a text that stands at `offset`, each sought from the end of the one before. -/
def matchesFrom (needle : List UInt8) : (limit : Nat) → (offset : Nat) → (text : List UInt8) → List Nat
  | 0, _, _ => []
  | limit + 1, offset, text =>
    match find text needle with
    | none => []
    | some k => (offset + k) :: matchesFrom needle limit (offset + k + needle.length) (text.drop (k + needle.length))

/-- Up to `limit` leftmost occurrences that do not overlap; none if the limit is not positive. -/
def leftmost (text needle : List UInt8) (limit : Int) : List Nat :=
  matchesFrom needle limit.toNat 0 text

/-- A text that stands at `offset`, cut at the given occurrences: what stands before each of them, what takes its place,
and last what follows. -/
def pieces (insert : List UInt8) (width : Nat) : (offset : Nat) → (text : List UInt8) → List Nat → List (List UInt8)
  | _, text, [] => [text]
  | offset, text, k :: rest =>
    text.take (k - offset) :: insert :: pieces insert width (k + width) (text.drop (k - offset + width)) rest

end Quota.Search
