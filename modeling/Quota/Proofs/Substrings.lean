import Quota.Fault.Declared
import Quota.Proofs.SingleReservation

set_option autoImplicit false

/-!
# Substrings

Five tests are made on a range, by comparisons of words, and the first that fails is reported. They are all that can be
wrong with a range: after them its bounds are offsets, in order and inside the string. Only then is storage asked for.
-/
namespace Quota.ByteString

/-- The tests on a range in their order, each with what it reports where it is true. -/
def rangeTests (length : Nat) (start stop : Word) : List (Bool × String) :=
  [(start.lt .zero, s!"substring start {start.toInt} is negative"),
    (stop.lt .zero, s!"substring end {stop.toInt} is negative"),
    (start.gt stop, s!"substring start {start.toInt} is greater than end {stop.toInt}"),
    (stop.gt (.ofLength length), s!"substring end {stop.toInt} exceeds length {(Word.ofLength length).toInt}"),
    (start.eq stop, s!"substring range {start.toInt}..{stop.toInt} is empty")]

/-- What the first test reports that is true. -/
def rangeObjection? (length : Nat) (start stop : Word) : Option String :=
  ((rangeTests length start stop).find? Prod.fst).map Prod.snd

section

variable {length : Nat} {start stop : Word}

/-- A length that is cut down to a word is still exceeded by the same words. -/
theorem gt_ofLength_iff : stop.gt (.ofLength length) = true ↔ stop.toInt > length := by
  have most := stop.le_max
  rw [Word.gt_iff]
  simp only [Word.ofLength]
  omega

/-- The tests on words find what the tests on integers find. -/
theorem rangeObjection?_eq (length : Nat) (start stop : Word) :
    rangeObjection? length start stop =
      match checkRange length start.toInt stop.toInt with
      | .error f => some f.message
      | .ok () => none := by
  unfold checkRange rangeObjection? rangeTests
  by_cases first : start.toInt < 0
  · rw [if_pos first, List.find?_cons_of_pos (p := Prod.fst) (Word.lt_iff.mpr first)]
    rfl
  rw [if_neg first, List.find?_cons_of_neg (p := Prod.fst) (mt Word.lt_iff.mp first)]
  by_cases second : stop.toInt < 0
  · rw [if_pos second, List.find?_cons_of_pos (p := Prod.fst) (Word.lt_iff.mpr second)]
    rfl
  rw [if_neg second, List.find?_cons_of_neg (p := Prod.fst) (mt Word.lt_iff.mp second)]
  by_cases third : start.toInt > stop.toInt
  · rw [if_pos third, List.find?_cons_of_pos (p := Prod.fst) (Word.gt_iff.mpr third)]
    rfl
  rw [if_neg third, List.find?_cons_of_neg (p := Prod.fst) (mt Word.gt_iff.mp third)]
  by_cases fourth : stop.toInt > length
  · have most := stop.le_max
    have shown : (Word.ofLength length).toInt = length := Word.toInt_ofLength (by omega)
    rw [if_pos fourth, List.find?_cons_of_pos (p := Prod.fst) (gt_ofLength_iff.mpr fourth), shown]
    rfl
  rw [if_neg fourth, List.find?_cons_of_neg (p := Prod.fst) (mt gt_ofLength_iff.mp fourth)]
  by_cases fifth : start.toInt = stop.toInt
  · rw [if_pos fifth, List.find?_cons_of_pos (p := Prod.fst) (Word.eq_iff.mpr fifth)]
    rfl
  · rw [if_neg fifth, List.find?_cons_of_neg (p := Prod.fst) (mt Word.eq_iff.mp fifth)]
    rfl

end

/-- None of the five tests is the one that follows them. -/
theorem checkRange_ne_unaddressable (length : Nat) (start stop i j : Int) :
    checkRange length start stop ≠ .error (.unaddressable i j) := by
  unfold checkRange
  split
  · rintro ⟨⟩
  · split
    · rintro ⟨⟩
    · split
      · rintro ⟨⟩
      · split
        · rintro ⟨⟩
        · split <;> rintro ⟨⟩

theorem rangeObjection?_eq_none_iff (length : Nat) (start stop : Word) :
    rangeObjection? length start stop = none ↔ 0 ≤ start.toInt ∧ start.toInt < stop.toInt ∧ stop.toInt ≤ length := by
  rw [rangeObjection?_eq, ← checkRange_eq_ok_iff]
  cases checkRange length start.toInt stop.toInt with
  | ok _ => simp
  | error f => simp

theorem substringStatus_range (f : RangeFault) :
    FaultSet.substring.statusOf (SubstringFault.range f).fault = 1 := rfl

theorem substringStatus_storage (f : StorageFault) :
    FaultSet.substring.statusOf (SubstringFault.storage f).fault = 2 := rfl

theorem substring_of_objection {s : ByteString} {start stop : Word} {m : String}
    (h : rangeObjection? s.length start stop = some m) (alloc : Allocator) (books : Books) :
    ∃ f, s.substring alloc start.toInt stop.toInt books = (.error (.range f), books) ∧ f.message = m ∧
      ∀ i j, f ≠ .unaddressable i j := by
  rw [rangeObjection?_eq] at h
  cases checked : checkRange s.length start.toInt stop.toInt with
  | ok _ =>
    rw [checked] at h
    cases h
  | error f =>
    rw [checked] at h
    refine ⟨f, by rw [substring, checked], Option.some.inj h, ?_⟩
    rintro i j rfl
    exact checkRange_ne_unaddressable _ _ _ i j checked

theorem substring_eq_reserve {s : ByteString} {start stop : Int} (good : checkRange s.length start stop = .ok ())
    {window : List UInt8} (cut : (s.bytes.drop start.toNat).take (stop - start).toNat = window) (alloc : Allocator)
    (books : Books) :
    s.substring alloc start stop books =
      match Block.reserve alloc s.source .byte window.length books with
      | (.ok block, later) => (.ok (.owned block window), later)
      | (.error f, later) => (.error (.storage f), later) := by
  rw [substring_of_checked good, cut]
  unfold ofBytes
  rcases Block.reserve alloc s.source .byte window.length books with ⟨_ | _, _⟩ <;> rfl

/-- A good range splits the string, and what becomes of it is up to the storage. -/
theorem substring_of_range {s : ByteString} {start stop : Int} (natural : 0 ≤ start) (forward : start < stop)
    (inside : stop ≤ s.length) :
    ∃ before window after, s.bytes = before ++ window ++ after ∧ (before.length : Int) = start ∧
      (window.length : Int) = stop - start ∧ window? s.bytes start stop = some window ∧
      ∀ alloc books, s.substring alloc start stop books =
        match Block.reserve alloc s.source .byte window.length books with
        | (.ok block, later) => (.ok (.owned block window), later)
        | (.error f, later) => (.error (.storage f), later) := by
  have good := (checkRange_eq_ok_iff s.length start stop).mpr ⟨natural, forward, inside⟩
  rw [length] at inside
  refine ⟨s.bytes.take start.toNat, (s.bytes.drop start.toNat).take (stop - start).toNat,
    (s.bytes.drop start.toNat).drop (stop - start).toNat, ?_, ?_, ?_,
    window?_eq_some natural (Int.le_of_lt forward) inside, substring_eq_reserve good rfl⟩
  · rw [List.append_assoc, List.take_append_drop, List.take_append_drop]
  · rw [List.length_take]
    omega
  · rw [List.length_take, List.length_drop]
    omega

/-- What the answer to a request for a range has to be, by the range and by what a reservation of its length gives. -/
structure AnswersRange (alloc : Allocator) (s : ByteString) (start stop : Word) (books : Books)
    (r : Except SubstringFault ByteString × Books) : Prop where
  misplaced : (∃ f, r.1 = .error (.range f)) ↔ ¬ (0 ≤ start.toInt ∧ start.toInt < stop.toInt ∧ stop.toInt ≤ s.length)
  reported : ∀ m, rangeObjection? s.length start stop = some m ↔ ∃ f, r = (.error (.range f), books) ∧ f.message = m
  addressed : ∀ i j, r.1 ≠ .error (.range (.unaddressable i j))
  cut : 0 ≤ start.toInt ∧ start.toInt < stop.toInt ∧ stop.toInt ≤ s.length →
    ∃ before window after, s.bytes = before ++ window ++ after ∧ (before.length : Int) = start.toInt ∧
      (window.length : Int) = stop.toInt - start.toInt ∧ window? s.bytes start.toInt stop.toInt = some window ∧
      r = match Block.reserve alloc s.source .byte window.length books with
        | (.ok block, later) => (.ok (.owned block window), later)
        | (.error f, later) => (.error (.storage f), later)
  denied : ∀ f, r.1 = .error (.storage f) ↔
    (0 ≤ start.toInt ∧ start.toInt < stop.toInt ∧ stop.toInt ≤ s.length) ∧
      (Block.reserve alloc s.source .byte (stop.toInt - start.toInt).toNat books).1 = .error f
  status : ∀ f, r.1 = .error f → FaultSet.substring.statusOf f.fault = 1 ∧ (∃ g, f = .range g) ∨
    FaultSet.substring.statusOf f.fault = 2 ∧ ∃ g, f = .storage g

theorem substringStatus_cases (f : SubstringFault) :
    FaultSet.substring.statusOf f.fault = 1 ∧ (∃ g, f = .range g) ∨
      FaultSet.substring.statusOf f.fault = 2 ∧ ∃ g, f = .storage g := by
  cases f with
  | range g => exact .inl ⟨substringStatus_range g, g, rfl⟩
  | storage g => exact .inr ⟨substringStatus_storage g, g, rfl⟩

section

variable {s : ByteString} {start stop : Word}

theorem answersRange_of_objection {m : String} (objection : rangeObjection? s.length start stop = some m)
    (alloc : Allocator) (books : Books) :
    AnswersRange alloc s start stop books (s.substring alloc start.toInt stop.toInt books) := by
  have bad : ¬ (0 ≤ start.toInt ∧ start.toInt < stop.toInt ∧ stop.toInt ≤ s.length) := by
    rw [← rangeObjection?_eq_none_iff, objection]
    rintro ⟨⟩
  obtain ⟨f, refused, rfl, addressed⟩ := substring_of_objection objection alloc books
  rw [refused]
  constructor
  · exact iff_of_true ⟨f, rfl⟩ bad
  · intro m
    rw [objection, Option.some.injEq]
    exact ⟨fun same => ⟨f, rfl, same⟩, by rintro ⟨g, ⟨⟩, same⟩; exact same⟩
  · rintro i j ⟨⟩
    exact addressed i j rfl
  · intro range
    exact absurd range bad
  · intro g
    exact iff_of_false (by rintro ⟨⟩) (fun h => bad h.1)
  · intro g _
    exact substringStatus_cases g

theorem answersRange_of_range (range : 0 ≤ start.toInt ∧ start.toInt < stop.toInt ∧ stop.toInt ≤ s.length)
    (alloc : Allocator) (books : Books) :
    AnswersRange alloc s start stop books (s.substring alloc start.toInt stop.toInt books) := by
  have unobjected := (rangeObjection?_eq_none_iff s.length start stop).mpr range
  obtain ⟨before, window, after, split, front, width, offsets, answered⟩ :=
    substring_of_range range.1 range.2.1 range.2.2
  have wide : (stop.toInt - start.toInt).toNat = window.length := by omega
  have made := answered alloc books
  have placed : ∀ f, (s.substring alloc start.toInt stop.toInt books).1 ≠ .error (.range f) := by
    intro f
    rw [made]
    rcases Block.reserve alloc s.source .byte window.length books with ⟨_ | _, _⟩ <;> rintro ⟨⟩
  have passed : ∀ f, (s.substring alloc start.toInt stop.toInt books).1 = .error (.storage f) ↔
      (Block.reserve alloc s.source .byte window.length books).1 = .error f := by
    intro f
    rw [made]
    rcases Block.reserve alloc s.source .byte window.length books with ⟨_ | _, _⟩ <;> simp
  constructor
  · exact iff_of_false (by rintro ⟨f, failed⟩; exact placed f failed) (not_not_intro range)
  · intro m
    rw [unobjected]
    exact iff_of_false (by rintro ⟨⟩) (by rintro ⟨f, failed, _⟩; exact placed f (congrArg Prod.fst failed))
  · intro i j
    exact placed _
  · intro _
    exact ⟨before, window, after, split, front, width, offsets, made⟩
  · intro f
    rw [passed, wide]
    exact ⟨fun refused => ⟨range, refused⟩, And.right⟩
  · intro f _
    exact substringStatus_cases f

end

/-- A range is refused exactly if it is empty or not inside the string, with the report of the first test that fails and
before anything is asked for, so that neither the allocator nor the books have a say. From a good range the string of
just those bytes is made, unless the storage for them is refused. No bound that passes the tests fails to be an
offset. -/
theorem substring_answers_range (alloc : Allocator) (s : ByteString) (start stop : Word) (books : Books) :
    AnswersRange alloc s start stop books (s.substring alloc start.toInt stop.toInt books) := by
  cases objection : rangeObjection? s.length start stop with
  | some m => exact answersRange_of_objection objection alloc books
  | none =>
    have range := (rangeObjection?_eq_none_iff s.length start stop).mp objection
    exact answersRange_of_range range alloc books

end Quota.ByteString
