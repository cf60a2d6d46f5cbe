import Quota.Proofs.Replacement

set_option autoImplicit false

/-!
# One reservation for one result

A transform of byte strings reserves one block, of its result's length, from the source of the string it transforms, and
deals with the books in no other way. What one reservation does to them is said here case by case.
-/
namespace Quota

/-- Whether the event is about blocks or budgets. -/
def Event.concernsStorage (e : Event) : Bool :=
  decide (e.shape.component = .block) || decide (e.shape.component = .budget)

namespace Books

/-- Nothing is added but at most one event, and that is not about storage. -/
def Remarked (books later : Books) : Prop :=
  later = books ∨ ∃ e : Event, e.concernsStorage = false ∧ later = books.note e

theorem Remarked.refl (books : Books) : books.Remarked books := .inl rfl

theorem Remarked.note {e : Event} (h : e.concernsStorage = false) (books : Books) : books.Remarked (books.note e) :=
  .inr ⟨e, h, rfl⟩

theorem Remarked.ledger?_eq {books later : Books} (h : books.Remarked later) (source : Source) :
    later.ledger? source = books.ledger? source := by
  rcases h with rfl | ⟨e, _, rfl⟩
  · rfl
  · exact ledger?_note e books source

theorem acquire_of_allows {source : Source} {bytes : Nat} {books : Books}
    (h : ∀ l, books.ledger? source = some l → l.Allows bytes) :
    books.acquire source bytes = (.ok (), books.adjust source (·.grant bytes)) := by
  rw [acquire_eq]
  cases found : books.ledger? source with
  | none => rw [adjust_of_none source _ books found]
  | some l => simp only [if_pos (h l found)]

theorem acquire_of_not_allows {source : Source} {bytes : Nat} {books : Books} {l : Ledger}
    (found : books.ledger? source = some l) (h : ¬ l.Allows bytes) :
    books.acquire source bytes =
      (.error (.exhausted bytes l.inUse l.limit),
        (books.adjust source Ledger.refuse).note (.budgetRefused bytes l.inUse l.limit)) := by
  rw [acquire_eq, found]
  simp only [if_neg h]

end Books

namespace Block

variable {alloc : Allocator} {source : Source} {element : ElementType} {slots : Nat} {books : Books}

theorem reserve_oversized (big : addressSpace ≤ slots * element.size) :
    reserve alloc source element slots books = (.error (.oversized slots element.size), books) := by
  simp only [reserve, if_pos big]

theorem reserve_granted (small : slots * element.size < addressSpace)
    (allowed : ∀ l, books.ledger? source = some l → l.Allows (slots * element.size))
    (backed : alloc books.asked element slots = none) :
    reserve alloc source element slots books =
      (.ok ⟨source, slots, slots * element.size⟩,
        (books.adjust source (·.grant (slots * element.size))).ask.note
          (.blockAcquired slots (slots * element.size))) := by
  simp only [reserve, if_neg (Nat.not_le_of_lt small), Books.acquire_of_allows allowed, Books.asked_adjust, backed]

theorem reserve_denied (small : slots * element.size < addressSpace) {l : Ledger}
    (found : books.ledger? source = some l) (denied : ¬ l.Allows (slots * element.size)) :
    reserve alloc source element slots books =
      (.error (.exhausted (slots * element.size) l.inUse l.limit),
        (books.adjust source Ledger.refuse).note (.budgetRefused (slots * element.size) l.inUse l.limit)) := by
  simp only [reserve, if_neg (Nat.not_le_of_lt small), Books.acquire_of_not_allows found denied]

/-- What the allocator refuses is given back at once. -/
theorem reserve_unbacked (small : slots * element.size < addressSpace)
    (allowed : ∀ l, books.ledger? source = some l → l.Allows (slots * element.size)) {cause : AllocatorRefusal}
    (refused : alloc books.asked element slots = some cause) :
    reserve alloc source element slots books =
      (.error (.refused (slots * element.size) cause),
        (books.adjust source (·.grant (slots * element.size))).ask.adjust source
          (·.release (slots * element.size))) := by
  simp only [reserve, if_neg (Nat.not_le_of_lt small), Books.acquire_of_allows allowed, Books.asked_adjust, refused,
    Books.credit_eq]

/-- A reservation has to do with one source. -/
theorem ledger?_reserve_of_ne {other : Source} (h : other ≠ source) :
    (reserve alloc source element slots books).2.ledger? other = books.ledger? other := by
  have untouched : ∀ (f : Ledger → Ledger) (b : Books), (b.adjust source f).ledger? other = b.ledger? other := by
    intro f b
    rw [Books.ledger?_adjust]
    simp only [if_neg h, Option.map_id']
  simp only [reserve]
  split
  · rfl
  · split
    · rename_i refused
      obtain ⟨l, _, _, _, rfl⟩ := Books.acquire_error refused
      rw [Books.ledger?_note, untouched]
    · rename_i taken
      obtain ⟨rfl, _⟩ := Books.acquire_ok taken
      split
      · rw [Books.credit_eq, untouched, Books.ledger?_ask, untouched]
      · rw [Books.ledger?_note, Books.ledger?_ask, untouched]

end Block

theorem Ledger.release_grant (l : Ledger) (bytes : Nat) :
    (l.grant bytes).release bytes = { l with peak := max l.peak (l.inUse + bytes) } := by
  simp [grant, release]

namespace Word

theorem toInt_ofLength {n : Nat} (h : (n : Int) ≤ maxWord) : (ofLength n).toInt = n := Int.min_eq_left h

theorem ofLength_add {a b : Nat} (ha : (a : Int) ≤ maxWord) (hb : (b : Int) ≤ maxWord) :
    (ofLength a).add (ofLength b) =
      if ((a + b : Nat) : Int) ≤ maxWord then .ok (ofLength (a + b))
      else .error (.addition (ofLength a) (ofLength b)) := by
  have sum : (ofLength a).toInt + (ofLength b).toInt = ((a + b : Nat) : Int) := by
    rw [toInt_ofLength ha, toInt_ofLength hb, Int.natCast_add]
  rw [add, checked, sum]
  by_cases fits : ((a + b : Nat) : Int) ≤ maxWord
  · have range : minWord ≤ ((a + b : Nat) : Int) ∧ ((a + b : Nat) : Int) ≤ maxWord := by
      unfold minWord
      omega
    have same : ofLength (a + b) = ⟨((a + b : Nat) : Int), range.1, range.2⟩ := by
      simp only [ofLength, Int.min_eq_left fits]
    simp only [ofInt?, dif_pos range, if_pos fits, same]
  · have range : ¬ (minWord ≤ ((a + b : Nat) : Int) ∧ ((a + b : Nat) : Int) ≤ maxWord) := fun h => fits h.2
    simp only [ofInt?, dif_neg range, if_neg fits]

end Word

namespace ByteString

open Search

/-- The computation reserves one block for a result and follows the verdict on it. -/
structure MadeOnce {ε : Type} (alloc : Allocator) (source : Source) (books : Books) (result : List UInt8)
    (storage : StorageFault → ε) (c : Except ε ByteString × Books) : Prop where
  remarked : (Block.reserve alloc source .byte result.length books).2.Remarked c.2
  granted : ∀ block, (Block.reserve alloc source .byte result.length books).1 = .ok block →
    c.1 = .ok (.owned block result)
  refused : ∀ f, (Block.reserve alloc source .byte result.length books).1 = .error f → c.1 = .error (storage f)

/-- The computation fails with a fault before anything is reserved. -/
structure NotMade {ε : Type} (books : Books) (fault : ε) (c : Except ε ByteString × Books) : Prop where
  remarked : books.Remarked c.2
  failed : c.1 = .error fault

section

variable {ε : Type} (alloc : Allocator) (books : Books)

theorem madeOnce_of_reserve {source : Source} {result : List UInt8} {storage : StorageFault → ε}
    {c : Except ε ByteString × Books} (onError onOk : Books → Books) (hError : ∀ b, Books.Remarked b (onError b))
    (hOk : ∀ b, Books.Remarked b (onOk b))
    (h : c =
      match Block.reserve alloc source .byte result.length books with
      | (.error f, b) => (.error (storage f), onError b)
      | (.ok block, b) => (.ok (.owned block result), onOk b)) : MadeOnce alloc source books result storage c := by
  rcases reserved : Block.reserve alloc source .byte result.length books with ⟨f | block, after⟩
  · rw [reserved] at h
    subst h
    refine ⟨?_, fun block granted => ?_, fun g refused => ?_⟩
    · rw [reserved]
      exact hError after
    · rw [reserved] at granted
      cases granted
    · rw [reserved] at refused
      cases refused
      rfl
  · rw [reserved] at h
    subst h
    refine ⟨?_, fun b granted => ?_, fun f refused => ?_⟩
    · rw [reserved]
      exact hOk after
    · rw [reserved] at granted
      cases granted
      rfl
    · rw [reserved] at refused
      cases refused

theorem madeOnce_ofBytes (source : Source) (bytes : List UInt8) :
    MadeOnce alloc source books bytes id (ofBytes alloc source bytes books) := by
  refine madeOnce_of_reserve alloc books id id .refl .refl ?_
  rw [ofBytes]
  rcases Block.reserve alloc source .byte bytes.length books with ⟨_ | _, _⟩ <;> rfl

theorem madeOnce_substring (t : ByteString) {start stop : Int}
    (range : 0 ≤ start ∧ start < stop ∧ stop ≤ t.length) :
    MadeOnce alloc t.source books ((t.bytes.drop start.toNat).take (stop - start).toNat) SubstringFault.storage
      (t.substring alloc start stop books) := by
  refine madeOnce_of_reserve alloc books id id .refl .refl ?_
  rw [substring_of_checked ((checkRange_eq_ok_iff _ _ _).mpr range)]
  simp only [ofBytes]
  rcases Block.reserve alloc t.source .byte _ books with ⟨_ | _, _⟩ <;> rfl

/-- A bad range is refused whatever the allocator and the books are. -/
theorem exists_range_fault (t : ByteString) {start stop : Int}
    (bad : ¬ (0 ≤ start ∧ start < stop ∧ stop ≤ t.length)) :
    ∃ f, ∀ alloc books, t.substring alloc start stop books = (.error (.range f), books) := by
  cases checked : checkRange t.length start stop with
  | ok _ => exact absurd ((checkRange_eq_ok_iff _ _ _).mp checked) bad
  | error f => exact ⟨f, fun alloc books => by rw [substring, checked]⟩

theorem madeOnce_concat (t u : ByteString) (fits : ((t.bytes ++ u.bytes).length : Int) ≤ maxWord) :
    MadeOnce alloc t.source books (t.bytes ++ u.bytes) ConcatStop.storage (t.concat alloc u books) := by
  have lengths : (t.bytes ++ u.bytes).length = t.length + u.length := List.length_append
  rw [lengths] at fits
  have sum := Word.ofLength_add (a := t.length) (b := u.length) (by omega) (by omega)
  rw [if_pos fits] at sum
  have total : (Word.ofLength (t.length + u.length)).toInt.toNat = (t.bytes ++ u.bytes).length := by
    rw [Word.toInt_ofLength fits, Int.toNat_natCast, lengths]
  refine madeOnce_of_reserve alloc books (·.note (.abortEntered 2)) id (.note rfl) .refl ?_
  rw [concat_of_ok sum, total]
  simp only [assemble]
  rcases Block.reserve alloc t.source .byte (t.bytes ++ u.bytes).length books with ⟨_ | _, _⟩
  · rfl
  · simp

theorem notMade_concat (t u : ByteString) (ht : (t.length : Int) ≤ maxWord) (hu : (u.length : Int) ≤ maxWord)
    (beyond : maxWord < (t.bytes ++ u.bytes).length) :
    NotMade books (.length (.addition (.ofLength t.length) (.ofLength u.length))) (t.concat alloc u books) := by
  have lengths : (t.bytes ++ u.bytes).length = t.length + u.length := List.length_append
  have sum := Word.ofLength_add ht hu
  rw [if_neg (by omega)] at sum
  rw [concat_of_error sum]
  exact ⟨.note rfl books, rfl⟩

theorem get_of_drop {args : FixedArray ByteString} {index : Nat} {t : ByteString} {rest : List ByteString}
    (h : args.toList.drop index = t :: rest) : args.get index = .ok t := by
  have found : args.toList[index]? = some t := by rw [← List.head?_drop, h, List.head?_cons]
  exact (args.get_eq_ok_iff index t).mpr ⟨Int.natCast_nonneg index, found⟩

/-- The lengths are added up to the first argument whose length takes the total beyond the greatest word. -/
theorem formatLength_cases (args : FixedArray ByteString) (measured : ∀ t ∈ args.toList, (t.length : Int) ≤ maxWord)
    (remaining index total : Nat) (whole : remaining = (args.toList.drop index).length)
    (small : (total : Int) ≤ maxWord) :
    (((total + ((args.toList.drop index).flatMap bytes).length : Nat) : Int) ≤ maxWord ∧
      formatLength args remaining index (Word.ofLength total) =
        .ok (Word.ofLength (total + ((args.toList.drop index).flatMap bytes).length))) ∨
    (maxWord < (total + ((args.toList.drop index).flatMap bytes).length : Nat) ∧
      ∃ i f, formatLength args remaining index (Word.ofLength total) = .error (.length i f)) := by
  induction remaining generalizing index total with
  | zero =>
    have none : args.toList.drop index = [] := List.eq_nil_of_length_eq_zero whole.symm
    rw [none]
    exact .inl ⟨small, rfl⟩
  | succ remaining ih =>
    obtain ⟨t, rest, split⟩ := List.exists_cons_of_length_eq_add_one whole.symm
    have next : args.toList.drop (index + 1) = rest := by rw [← List.drop_drop, split, List.drop_one, List.tail_cons]
    have member : t ∈ args.toList := List.mem_of_mem_drop (split ▸ List.mem_cons_self)
    have lengths : ((args.toList.drop index).flatMap bytes).length = t.length + (rest.flatMap bytes).length := by
      rw [split, List.flatMap_cons, List.length_append]
      rfl
    rw [formatLength, get_of_drop split]
    simp only [Word.ofLength_add small (measured t member), lengths]
    by_cases fits : ((total + t.length : Nat) : Int) ≤ maxWord
    · have later := ih (index + 1) (total + t.length) (by rw [next]; rw [split] at whole; exact Nat.succ.inj whole) fits
      rw [next, Nat.add_assoc] at later
      simp only [if_pos fits]
      exact later
    · simp only [if_neg fits]
      exact .inr ⟨by omega, index, _, rfl⟩

theorem madeOnce_format (lead : ByteString) (args : FixedArray ByteString)
    (fits : ((lead.bytes ++ args.toList.flatMap bytes).length : Int) ≤ maxWord) :
    MadeOnce alloc lead.source books (lead.bytes ++ args.toList.flatMap bytes) FormatFault.storage
      (lead.format alloc args books) := by
  have lengths : (lead.bytes ++ args.toList.flatMap bytes).length = lead.length + (args.toList.flatMap bytes).length :=
    List.length_append
  have measured : ∀ t ∈ args.toList, (t.length : Int) ≤ maxWord := fun t member => by
    obtain ⟨front, back, split⟩ := List.append_of_mem member
    have part : (args.toList.flatMap bytes).length =
        (front.flatMap bytes).length + (t.length + (back.flatMap bytes).length) := by
      rw [split, List.flatMap_append, List.flatMap_cons, List.length_append, List.length_append]
      rfl
    omega
  have counted : args.length = (args.toList.drop 0).length := (Rows.length_toList args.items).symm
  rcases formatLength_cases args measured args.length 0 lead.length counted (by omega) with ⟨_, sum⟩ | ⟨beyond, _⟩
  · rw [List.drop_zero, ← lengths] at sum
    have total : (Word.ofLength (lead.bytes ++ args.toList.flatMap bytes).length).toInt.toNat =
        (lead.bytes ++ args.toList.flatMap bytes).length := by
      rw [Word.toInt_ofLength fits, Int.toNat_natCast]
    refine madeOnce_of_reserve alloc books id
      (·.note (.stringFormatted args.length (lead.bytes ++ args.toList.flatMap bytes).length)) .refl (.note rfl) ?_
    rw [format_of_ok sum, total]
    simp only [assemble]
    rcases Block.reserve alloc lead.source .byte _ books with ⟨_ | _, _⟩
    · rfl
    · simp only [List.flatten_cons, List.flatMap_def]
  · rw [List.drop_zero, ← lengths] at beyond
    omega

theorem notMade_format (lead : ByteString) (args : FixedArray ByteString) (hlead : (lead.length : Int) ≤ maxWord)
    (hargs : ∀ t ∈ args.toList, (t.length : Int) ≤ maxWord)
    (beyond : maxWord < (lead.bytes ++ args.toList.flatMap bytes).length) :
    ∃ argument f, NotMade books (.length argument f) (lead.format alloc args books) := by
  have lengths : (lead.bytes ++ args.toList.flatMap bytes).length = lead.length + (args.toList.flatMap bytes).length :=
    List.length_append
  have counted : args.length = (args.toList.drop 0).length := (Rows.length_toList args.items).symm
  rcases formatLength_cases args hargs args.length 0 lead.length counted hlead with ⟨fits, _⟩ | ⟨_, i, f, sum⟩
  · rw [List.drop_zero, ← lengths] at fits
    omega
  · rw [format_of_error sum]
    exact ⟨i, f, .refl books, rfl⟩

/-- The length that is computed from the number of occurrences is that of the result, as far as it is addressable. -/
theorem replacedLength?_eq {s needle insert : ByteString} {limit : Int} {result : List UInt8}
    (h : Replaced needle.bytes insert.bytes limit s.bytes result) :
    replacedLength? s.length (leftmost s.bytes needle.bytes limit).length needle.length insert.length =
      if result.length < addressSpace then some result.length else none := by
  have cuts : Cuts needle.length (0 + s.length) 0 (leftmost s.bytes needle.bytes limit) :=
    cuts_matchesFrom needle.bytes limit.toNat 0 s.bytes
  have total : result.length + _ * needle.length = s.length + _ * insert.length := h.length_eq
  have less := cuts.length_le
  simp only [replacedLength?]
  by_cases fits : result.length < addressSpace
  · rw [if_pos ⟨by omega, by omega⟩, if_pos fits]
    congr 1
    omega
  · rw [if_neg (by omega), if_neg fits]

theorem madeOnce_replace {s needle insert : ByteString} {limit : Int} {result : List UInt8}
    (h : Replaced needle.bytes insert.bytes limit s.bytes result) (fits : result.length < addressSpace) :
    MadeOnce alloc s.source books result id (s.replace alloc needle insert limit books) := by
  have total := replacedLength?_eq h
  have joined := h.unique (replaced_leftmost needle.bytes insert.bytes limit s.bytes)
  rw [if_pos fits] at total
  simp only [replace]
  by_cases nothing : (leftmost s.bytes needle.bytes limit).isEmpty
  · rw [List.isEmpty_iff.mp nothing] at joined
    have copy : result = s.bytes := by simpa [pieces] using joined
    rw [if_pos nothing, copy]
    exact madeOnce_ofBytes alloc books s.source s.bytes
  · refine madeOnce_of_reserve alloc books id
      (·.note (.stringReplaced (leftmost s.bytes needle.bytes limit).length result.length)) .refl (.note rfl) ?_
    simp only [if_neg nothing, total, assemble]
    rcases Block.reserve alloc s.source .byte result.length books with ⟨_ | _, _⟩
    · rfl
    · rw [joined]
      rfl

theorem notMade_replace {s needle insert : ByteString} {limit : Int} {result : List UInt8}
    (h : Replaced needle.bytes insert.bytes limit s.bytes result) (short : (s.length : Int) ≤ maxWord)
    (beyond : addressSpace ≤ result.length) :
    NotMade books .replacementOverflow (s.replace alloc needle insert limit books) := by
  have total := replacedLength?_eq h
  have joined := h.unique (replaced_leftmost needle.bytes insert.bytes limit s.bytes)
  rw [if_neg (Nat.not_lt_of_le beyond)] at total
  simp only [replace]
  by_cases nothing : (leftmost s.bytes needle.bytes limit).isEmpty
  · rw [List.isEmpty_iff.mp nothing] at joined
    have copy : result = s.bytes := by simpa [pieces] using joined
    rw [copy] at beyond
    unfold addressSpace at beyond
    unfold maxWord at short
    rw [length] at short
    omega
  · rw [if_neg nothing, total]
    exact ⟨.refl books, rfl⟩

end

/-- The computation comes to the result in a block of its own, wherever the source has such a block and nowhere else. -/
def Delivers {ε : Type} (source : Source) (result : List UInt8)
    (c : Allocator → Books → Except ε ByteString × Books) : Prop :=
  ∀ alloc books r, (c alloc books).1 = .ok r ↔
    ∃ block, (Block.reserve alloc source .byte result.length books).1 = .ok block ∧ r = .owned block result

theorem MadeOnce.ok_iff {ε : Type} {alloc : Allocator} {source : Source} {books : Books} {result : List UInt8}
    {storage : StorageFault → ε} {c : Except ε ByteString × Books}
    (h : MadeOnce alloc source books result storage c) (r : ByteString) :
    c.1 = .ok r ↔
      ∃ block, (Block.reserve alloc source .byte result.length books).1 = .ok block ∧ r = .owned block result := by
  cases reserved : (Block.reserve alloc source .byte result.length books).1 with
  | error f =>
    rw [h.refused f reserved]
    exact iff_of_false (by rintro ⟨⟩) (by rintro ⟨block, ⟨⟩, _⟩)
  | ok block =>
    rw [h.granted block reserved]
    constructor
    · rintro ⟨⟩
      exact ⟨block, rfl, rfl⟩
    · rintro ⟨_, ⟨⟩, rfl⟩
      rfl

theorem delivers_substring (t : ByteString) {start stop : Int} (range : 0 ≤ start ∧ start < stop ∧ stop ≤ t.length) :
    Delivers t.source ((t.bytes.drop start.toNat).take (stop - start).toNat)
      fun alloc => t.substring alloc start stop := by
  intro alloc books
  exact (madeOnce_substring alloc books t range).ok_iff

theorem delivers_concat (t u : ByteString) (fits : ((t.bytes ++ u.bytes).length : Int) ≤ maxWord) :
    Delivers t.source (t.bytes ++ u.bytes) fun alloc => t.concat alloc u := by
  intro alloc books
  exact (madeOnce_concat alloc books t u fits).ok_iff

/-- A result that is too long to be asked for has no block either. -/
theorem delivers_replace {s needle insert : ByteString} {limit : Int} {result : List UInt8}
    (h : Replaced needle.bytes insert.bytes limit s.bytes result) :
    Delivers s.source result fun alloc => s.replace alloc needle insert limit := by
  intro alloc books
  by_cases nothing : (leftmost s.bytes needle.bytes limit).isEmpty
  · have joined := h.unique (replaced_leftmost needle.bytes insert.bytes limit s.bytes)
    rw [List.isEmpty_iff.mp nothing] at joined
    have copy : result = s.bytes := by simpa [pieces] using joined
    simp only [replace, if_pos nothing, copy]
    exact (madeOnce_ofBytes alloc books s.source s.bytes).ok_iff
  · by_cases fits : result.length < addressSpace
    · exact (madeOnce_replace alloc books h fits).ok_iff
    · have total := replacedLength?_eq h
      rw [if_neg fits] at total
      have big : addressSpace ≤ result.length * ElementType.byte.size := by
        rw [show ElementType.byte.size = 1 from rfl]
        omega
      intro r
      simp only [replace, if_neg nothing, total, Block.reserve_oversized big]
      exact iff_of_false (by rintro ⟨⟩) (by rintro ⟨block, ⟨⟩, _⟩)

end ByteString

end Quota
