import Quota.Proofs.ScriptedOperations
import Quota.Proofs.SingleReservation
import Quota.Proofs.TextResults

set_option autoImplicit false

/-!
# Formatting and repeated concatenation

What a formatted string holds can also be had by appending one argument after the other, where every intermediate result
is released once the next one is built. The bytes are the same. On the way the chain has two results at a time, so where
it gets through, one reservation of the whole gets through as well, and the peak is no higher.
-/
namespace Quota

namespace Books

theorem Remarked.ledgers_eq {books later : Books} (h : books.Remarked later) : later.ledgers = books.ledgers := by
  rcases h with rfl | ⟨e, _, rfl⟩ <;> rfl

theorem Remarked.asked_eq {books later : Books} (h : books.Remarked later) : later.asked = books.asked := by
  rcases h with rfl | ⟨e, _, rfl⟩ <;> rfl

end Books

/-- One reservation of bytes was granted on the way from the first books to the second. -/
structure Books.Took (alloc : Allocator) (source : Source) (n : Nat) (books after : Books) : Prop where
  allowed : ∀ l, books.ledger? source = some l → l.Allows n
  backed : alloc books.asked .byte n = none
  asked : after.asked = books.asked + 1
  ledger : ∀ l, books.ledger? source = some l → after.ledger? source = some (l.grant n)

theorem Block.took_of_reserve {alloc : Allocator} {source : Source} {n : Nat} {books after : Books} {b : Block}
    (h : reserve alloc source .byte n books = (.ok b, after)) : books.Took alloc source n after := by
  have size : n * ElementType.byte.size = n := Nat.mul_one n
  simp only [reserve, size] at h
  split at h
  · cases h
  · split at h
    · cases h
    · rename_i taken
      obtain ⟨rfl, allowed⟩ := Books.acquire_ok taken
      split at h
      · cases h
      · rename_i backed
        rw [Books.asked_adjust] at backed
        cases h
        refine ⟨allowed, backed, congrArg (· + 1) (Books.asked_adjust _ _ _), ?_⟩
        intro l found
        rw [Books.ledger?_note, Books.ledger?_ask, Books.ledger?_adjust, found]
        simp

namespace ByteString

variable {alloc : Allocator} {source : Source} {books : Books} {result : List UInt8}

section

variable {ε ε' : Type} {storage : StorageFault → ε} {storage' : StorageFault → ε'} {c : Except ε ByteString × Books}
  {c' : Except ε' ByteString × Books}

theorem MadeOnce.took (h : MadeOnce alloc source books result storage c) {r : ByteString} (made : c.1 = .ok r) :
    r = .owned ⟨source, result.length, result.length⟩ result ∧ books.Took alloc source result.length c.2 := by
  rcases reserved : Block.reserve alloc source .byte result.length books with ⟨f | b, after⟩
  · have refused := h.refused f (by rw [reserved])
    rw [made] at refused
    cases refused
  · have granted := h.granted b (by rw [reserved])
    have remarked : after.Remarked c.2 := by
      have remarked := h.remarked
      rwa [reserved] at remarked
    have took := Block.took_of_reserve reserved
    rw [made] at granted
    cases granted
    constructor
    · rw [Block.eq_of_reserve reserved]
      exact congrArg (fun bytes => owned ⟨source, result.length, bytes⟩ result) (Nat.mul_one _)
    · refine ⟨took.allowed, took.backed, remarked.asked_eq.trans took.asked, ?_⟩
      intro l found
      rw [remarked.ledger?_eq]
      exact took.ledger l found

theorem MadeOnce.exists_of_allows (h : MadeOnce alloc source books result storage c)
    (small : result.length < addressSpace) (allowed : ∀ l, books.ledger? source = some l → l.Allows result.length)
    (backed : alloc books.asked .byte result.length = none) : ∃ r, c.1 = .ok r := by
  have size : result.length * ElementType.byte.size = result.length := Nat.mul_one _
  have granted : (Block.reserve alloc source .byte result.length books).1 =
      .ok ⟨source, result.length, result.length * ElementType.byte.size⟩ := by
    rw [Block.reserve_granted (by rwa [size]) (by rwa [size]) backed]
  exact ⟨_, h.granted _ granted⟩

theorem MadeOnce.outcome (h : MadeOnce alloc source books result storage c) :
    (∃ r, c.1 = .ok r) ∨ ∃ f, c.1 = .error (storage f) := by
  rcases reserved : (Block.reserve alloc source .byte result.length books).1 with f | b
  · exact .inr ⟨f, h.refused f reserved⟩
  · exact .inl ⟨_, h.granted b reserved⟩

/-- Two computations that hang on the same reservation come to the same. -/
theorem MadeOnce.agrees (h : MadeOnce alloc source books result storage c)
    (h' : MadeOnce alloc source books result storage' c') :
    c.2.ledgers = c'.2.ledgers ∧ c.2.asked = c'.2.asked ∧
      ((∃ r, c.1 = .ok r ∧ c'.1 = .ok r) ∨ ∃ f, c.1 = .error (storage f) ∧ c'.1 = .error (storage' f)) := by
  refine ⟨h.remarked.ledgers_eq.trans h'.remarked.ledgers_eq.symm, h.remarked.asked_eq.trans h'.remarked.asked_eq.symm, ?_⟩
  rcases reserved : (Block.reserve alloc source .byte result.length books).1 with f | b
  · exact .inr ⟨f, h.refused f reserved, h'.refused f reserved⟩
  · exact .inl ⟨_, h.granted b reserved, h'.granted b reserved⟩

end

/-- Append strings to the result of an earlier step, which is released once the next result is built. -/
def extend (alloc : Allocator) : ByteString → List ByteString → Books → Except ConcatStop ByteString × Books
  | s, [], books => (.ok s, books)
  | s, t :: rest, books =>
    match s.concat alloc t books with
    | (.error stop, books) => (.error stop, books)
    | (.ok r, books) => extend alloc r rest (s.release books)

/-- Append strings one after the other to a string that stays. -/
def concatAll (alloc : Allocator) (s : ByteString) : List ByteString → Books → Except ConcatStop ByteString × Books
  | [], books => (.ok s, books)
  | t :: rest, books =>
    match s.concat alloc t books with
    | (.error stop, books) => (.error stop, books)
    | (.ok r, books) => r.extend alloc rest books

theorem lt_addressSpace_of_le_maxWord {n : Nat} (h : (n : Int) ≤ maxWord) : n < addressSpace := by
  unfold maxWord at h
  unfold addressSpace
  omega

theorem exists_concat {s t : ByteString} {books : Books} (unmetered : ∀ p, books.ledger? p = none)
    (fits : ((s.bytes ++ t.bytes).length : Int) ≤ maxWord) :
    ∃ r after, s.concat .granting t books = (.ok r, after) := by
  have once := madeOnce_concat .granting books s t fits
  obtain ⟨r, made⟩ := once.exists_of_allows (lt_addressSpace_of_le_maxWord fits) (fun l found => by
    rw [unmetered] at found
    cases found) rfl
  exact ⟨r, _, Prod.ext made rfl⟩

theorem bytes_of_extend {s r : ByteString} {rest : List ByteString} {books after : Books}
    (h : s.extend alloc rest books = (.ok r, after)) : r.bytes = s.bytes ++ rest.flatMap bytes := by
  induction rest generalizing s books with
  | nil =>
    cases h
    simp
  | cons t rest ih =>
    rw [extend] at h
    split at h
    · cases h
    · rename_i next middle joined
      rw [ih h, bytes_of_concat joined, List.flatMap_cons, List.append_assoc]

theorem bytes_of_concatAll {s r : ByteString} {strings : List ByteString} {books after : Books}
    (h : s.concatAll alloc strings books = (.ok r, after)) : r.bytes = s.bytes ++ strings.flatMap bytes := by
  cases strings with
  | nil =>
    cases h
    simp
  | cons t rest =>
    rw [concatAll] at h
    split at h
    · cases h
    · rename_i next middle joined
      rw [bytes_of_extend h, bytes_of_concat joined, List.flatMap_cons, List.append_assoc]

/-- A chain of concatenations has come to a result, which is all that it holds. -/
structure Built (alloc : Allocator) (source : Source) (start : Books) (result : List UInt8) (r : ByteString)
    (books : Books) : Prop where
  value : r = .owned ⟨source, result.length, result.length⟩ result
  backed : alloc (books.asked - 1) .byte result.length = none
  peaks : start.Related (fun l l' => l.peak ≤ l'.peak) books
  ledger : ∀ l, start.ledger? source = some l → l.Allows result.length ∧ ∃ l', books.ledger? source = some l' ∧
    l'.limit = l.limit ∧ l'.inUse = l.inUse + result.length ∧ l.inUse + result.length ≤ l'.peak

theorem built_concat {s t r : ByteString} {after : Books} (h : s.concat alloc t books = (.ok r, after))
    (fits : ((s.bytes ++ t.bytes).length : Int) ≤ maxWord) :
    Built alloc s.source books (s.bytes ++ t.bytes) r after ∧ after.asked = books.asked + 1 := by
  have once := madeOnce_concat alloc books s t fits
  have peaks := (scripted_concat s t).related Ledger.persistent_peak alloc books
  rw [h] at once peaks
  obtain ⟨value, took⟩ := once.took rfl
  refine ⟨⟨value, ?_, peaks, ?_⟩, took.asked⟩
  · rw [took.asked, Nat.add_sub_cancel]
    exact took.backed
  · intro l found
    exact ⟨took.allowed l found, _, took.ledger l found, rfl, rfl, Nat.le_max_right _ _⟩

/-- The next result is built beside the last one, and the last one is given back. -/
theorem Built.concat {start : Books} {s t r : ByteString} {after : Books} (h : Built alloc source start result s books)
    (joined : s.concat alloc t books = (.ok r, after)) (fits : ((result ++ t.bytes).length : Int) ≤ maxWord) :
    Built alloc source start (result ++ t.bytes) r (s.release after) ∧
      (s.release after).asked = books.asked + 1 := by
  obtain ⟨rfl, _, before, held⟩ := h
  have next : Built alloc source books (result ++ t.bytes) r after ∧ after.asked = books.asked + 1 :=
    built_concat joined fits
  obtain ⟨⟨value, backed, later, ledger⟩, asked⟩ := next
  have same : (release (.owned ⟨source, result.length, result.length⟩ result) after).asked = after.asked := by
    change (after.credit source result.length).asked = after.asked
    rw [Books.credit_eq, Books.asked_adjust]
  rw [same]
  refine ⟨⟨value, same ▸ backed, ?_, ?_⟩, asked⟩
  · have released := (scripted_release (.owned ⟨source, result.length, result.length⟩ result)).related
      Ledger.persistent_peak after
    exact (before.trans Ledger.persistent_peak.trans later).trans Ledger.persistent_peak.trans released
  · intro l found
    obtain ⟨_, l', between, limit, inUse, _⟩ := held l found
    obtain ⟨allowed, l'', last, limit', inUse', peak⟩ := ledger l' between
    unfold Ledger.Allows at allowed ⊢
    refine ⟨by omega, l''.release result.length, ?_, limit'.trans limit, ?_, ?_⟩
    · change ((after.credit source result.length).note _).ledger? source = _
      rw [Books.ledger?_note, Books.credit_eq, Books.ledger?_adjust, last]
      simp
    · change l''.inUse - result.length = _
      omega
    · change _ ≤ l''.peak
      omega

theorem Built.extend {start : Books} {s r : ByteString} {rest : List ByteString} {after : Books}
    (h : Built alloc source start result s books) (joined : s.extend alloc rest books = (.ok r, after))
    (fits : ((result ++ rest.flatMap bytes).length : Int) ≤ maxWord) :
    Built alloc source start (result ++ rest.flatMap bytes) r after ∧ after.asked = books.asked + rest.length := by
  induction rest generalizing s books result with
  | nil =>
    cases joined
    rw [List.flatMap_nil, List.append_nil]
    exact ⟨h, rfl⟩
  | cons t rest ih =>
    rw [ByteString.extend] at joined
    rw [List.flatMap_cons, ← List.append_assoc] at fits ⊢
    split at joined
    · cases joined
    · rename_i next middle first
      rw [List.length_append] at fits
      obtain ⟨built, asked⟩ := h.concat first (by omega)
      obtain ⟨built, asked'⟩ := ih built joined (by rwa [List.length_append])
      refine ⟨built, ?_⟩
      rw [asked', asked, List.length_cons]
      omega

/-- Where nothing is metered and everything is granted, the chain gets through. -/
theorem exists_extend {s : ByteString} {rest : List ByteString} {books : Books}
    (unmetered : ∀ p, books.ledger? p = none) (fits : ((s.bytes ++ rest.flatMap bytes).length : Int) ≤ maxWord) :
    ∃ r, (s.extend .granting rest books).1 = .ok r := by
  induction rest generalizing s books with
  | nil => exact ⟨s, rfl⟩
  | cons t rest ih =>
    rw [List.flatMap_cons, ← List.append_assoc] at fits
    obtain ⟨r, after, joined⟩ := exists_concat (s := s) (t := t) unmetered (by rw [List.length_append] at fits; omega)
    have bytes := bytes_of_concat joined
    have related := (scripted_concat s t).related Ledger.persistent_peak .granting books
    rw [joined] at related
    have released := (scripted_release s).related Ledger.persistent_peak after
    rw [extend, joined]
    refine ih (fun p => ?_) (by rwa [bytes])
    exact released.later_of_none (related.later_of_none (unmetered p))

theorem exists_concatAll {s : ByteString} {strings : List ByteString}
    (fits : ((s.bytes ++ strings.flatMap bytes).length : Int) ≤ maxWord) :
    ∃ r, (s.concatAll .granting strings (.ofLimits [])).1 = .ok r := by
  have unmetered : ∀ p, (Books.ofLimits []).ledger? p = none := by
    intro p
    cases p <;> rfl
  cases strings with
  | nil => exact ⟨s, rfl⟩
  | cons t rest =>
    rw [List.flatMap_cons, ← List.append_assoc] at fits
    obtain ⟨r, after, joined⟩ := exists_concat (s := s) (t := t) unmetered (by rw [List.length_append] at fits; omega)
    have bytes := bytes_of_concat joined
    have related := (scripted_concat s t).related Ledger.persistent_peak .granting (.ofLimits [])
    rw [joined] at related
    rw [concatAll, joined]
    exact exists_extend (fun p => related.later_of_none (unmetered p)) (by rwa [bytes])

theorem built_concatAll {s r : ByteString} {strings : List ByteString} {after : Books} (some : strings ≠ [])
    (joined : s.concatAll alloc strings books = (.ok r, after))
    (fits : ((s.bytes ++ strings.flatMap bytes).length : Int) ≤ maxWord) :
    Built alloc s.source books (s.bytes ++ strings.flatMap bytes) r after ∧
      after.asked = books.asked + strings.length := by
  cases strings with
  | nil => exact absurd rfl some
  | cons t rest =>
    rw [concatAll] at joined
    rw [List.flatMap_cons, ← List.append_assoc] at fits ⊢
    split at joined
    · cases joined
    · rename_i next middle first
      obtain ⟨built, asked⟩ := built_concat first (by rw [List.length_append] at fits; omega)
      obtain ⟨built, asked'⟩ := built.extend joined fits
      refine ⟨built, ?_⟩
      rw [asked', asked, List.length_cons]
      omega

/-- The status byte of a request for a formatted string. -/
def formatStatus : Except FormatFault ByteString → UInt8
  | .ok _ => success
  | .error f => FaultSet.formatting.statusOf f.fault

theorem formatStatus_storage (f : StorageFault) : formatStatus (.error (.storage f)) = 3 := rfl

section

variable {lead : ByteString} {args : FixedArray ByteString}

theorem ledger?_format_of_ne (fits : ((lead.bytes ++ args.toList.flatMap bytes).length : Int) ≤ maxWord) {p : Source}
    (other : p ≠ lead.source) : (lead.format alloc args books).2.ledger? p = books.ledger? p := by
  rw [(madeOnce_format alloc books lead args fits).remarked.ledger?_eq, Block.ledger?_reserve_of_ne other]

/-- What a chain of concatenations came to is made in one reservation, if the allocator backs it. -/
theorem format_of_built (fits : ((lead.bytes ++ args.toList.flatMap bytes).length : Int) ≤ maxWord) {r : ByteString}
    {after : Books} (built : Built alloc lead.source books (lead.bytes ++ args.toList.flatMap bytes) r after)
    (backed : alloc books.asked .byte (lead.bytes ++ args.toList.flatMap bytes).length = none) :
    (lead.format alloc args books).1 = .ok r ∧
      (lead.format alloc args books).2.Related (fun l l' => l.peak ≤ l'.peak) after := by
  have once := madeOnce_format alloc books lead args fits
  obtain ⟨value, made⟩ := once.exists_of_allows (lt_addressSpace_of_le_maxWord fits)
    (fun l found => (built.ledger l found).1) backed
  obtain ⟨rfl, took⟩ := once.took made
  refine ⟨by rw [made, built.value], ?_⟩
  intro p
  by_cases here : p = lead.source
  · subst here
    cases found : books.ledger? lead.source with
    | none =>
      have grown := (scripted_format lead args).related Ledger.persistent_peak alloc books
      rw [grown.later_of_none found, built.peaks.later_of_none found]
      exact .none
    | some l =>
      obtain ⟨_, l', last, _, _, peak⟩ := built.ledger l found
      obtain ⟨l'', same, grown⟩ := built.peaks.later_of_some found
      rw [last] at same
      cases same
      rw [took.ledger l found, last]
      exact .some (Nat.max_le.mpr ⟨grown, peak⟩)
  · rw [ledger?_format_of_ne fits here]
    exact built.peaks p

/-- Formatting agrees with repeated concatenation. As long as the total is a word, no fault but one of storage is met.
The bytes are those of the chain of concatenations, which comes to an end wherever there is room. One argument is
appended by one concatenation: the results, the ledgers and the messages are the same. And where the chain gets through,
so does formatting, with no higher peak, if the allocator gives the verdict on the whole that it gave the chain. -/
theorem format_agrees_with_concatAll (alloc : Allocator) (lead : ByteString) (args : FixedArray ByteString)
    (books : Books) (fits : ((lead.bytes ++ args.toList.flatMap bytes).length : Int) ≤ maxWord) :
    ((formatStatus (lead.format alloc args books).1 = success ∧ ∃ r, (lead.format alloc args books).1 = .ok r) ∨
      (formatStatus (lead.format alloc args books).1 = 3 ∧
        ∃ f, (lead.format alloc args books).1 = .error (.storage f))) ∧
    (∀ r, (lead.format alloc args books).1 = .ok r →
      (∀ alloc' books' s, (lead.concatAll alloc' args.toList books').1 = .ok s → r.bytes = s.bytes) ∧
      ∃ s, (lead.concatAll .granting args.toList (.ofLimits [])).1 = .ok s) ∧
    (∀ t, args.toList = [t] →
      (∀ r, (lead.format alloc args books).1 = .ok r ↔ (lead.concat alloc t books).1 = .ok r) ∧
      (lead.format alloc args books).2.ledgers = (lead.concat alloc t books).2.ledgers ∧
      (lead.format alloc args books).2.asked = (lead.concat alloc t books).2.asked ∧
      ∀ f, (lead.format alloc args books).1 = .error f → f.fault.kind = .alloc ∧
        ∃ stop, (lead.concat alloc t books).1 = .error stop ∧ stop.fragments = ["concat: ", f.fault.message]) ∧
    (args.toList ≠ [] → ∀ r, (lead.concatAll alloc args.toList books).1 = .ok r →
      alloc books.asked .byte r.length = alloc (books.asked + (args.length - 1)) .byte r.length →
      (lead.format alloc args books).1 = .ok r ∧
      (lead.format alloc args books).2.Related (fun l l' => l.peak ≤ l'.peak)
        (lead.concatAll alloc args.toList books).2) := by
  have once := madeOnce_format alloc books lead args fits
  refine ⟨?_, fun r made => ⟨fun alloc' books' s joined => ?_, exists_concatAll fits⟩, fun t single => ?_,
    fun some r joined steady => ?_⟩
  · rcases once.outcome with ⟨r, made⟩ | ⟨f, failed⟩
    · rw [made]
      exact .inl ⟨rfl, r, rfl⟩
    · rw [failed]
      exact .inr ⟨formatStatus_storage f, f, rfl⟩
  · rw [bytes_of_format (Prod.ext made rfl), bytes_of_concatAll (Prod.ext joined rfl)]
  · have result : lead.bytes ++ args.toList.flatMap bytes = lead.bytes ++ t.bytes := by
      rw [single, List.flatMap_cons, List.flatMap_nil, List.append_nil]
    rw [result] at once fits
    obtain ⟨ledgers, asked, ⟨r, made, made'⟩ | ⟨f, failed, failed'⟩⟩ :=
      once.agrees (madeOnce_concat alloc books lead t fits)
    · refine ⟨fun r' => by simp [made, made'], ledgers, asked, fun f failed => ?_⟩
      rw [made] at failed
      cases failed
    · refine ⟨fun r => by simp [failed, failed'], ledgers, asked, fun g failed'' => ?_⟩
      rw [failed] at failed''
      cases failed''
      exact ⟨rfl, _, failed', rfl⟩
  · obtain ⟨built, asked⟩ := built_concatAll some (Prod.ext joined rfl) fits
    have counted : args.toList.length = args.length := Rows.length_toList args.items
    have positive := List.length_pos_iff.mpr some
    have length : r.length = (lead.bytes ++ args.toList.flatMap bytes).length := by
      rw [built.value]
      rfl
    have last := built.backed
    rw [asked, counted, Nat.add_sub_assoc (by omega), ← length, ← steady, length] at last
    exact format_of_built fits built last

end

/-- Two strings of one byte from different sources. -/
def letters : FixedArray ByteString :=
  ⟨.string, ⟨.heap, 2, 32⟩, Rows.ofArray #[.literal .heap [98], .literal (.budget 1) [99]]⟩

/-- On a budget of five bytes the chain has just enough room for two bytes and three; formatting takes three. On a budget
of one byte, one argument is too much for either, and both say so in the same words. -/
theorem letters_agree :
    ((literal (.budget 0) [97]).format .granting letters (.ofLimits [5, 0])).1 =
      .ok (.owned ⟨.budget 0, 3, 3⟩ [97, 98, 99]) ∧
    ((literal (.budget 0) [97]).format .granting letters (.ofLimits [5, 0])).2.Related (fun l l' => l.peak ≤ l'.peak)
      ((literal (.budget 0) [97]).concatAll .granting letters.toList (.ofLimits [5, 0])).2 ∧
    ∃ stop, ((literal (.budget 0) [97]).concat .granting (.literal .heap [98]) (.ofLimits [1])).1 = .error stop ∧
      stop.fragments = ["concat: ", "budget exhausted: requested 2 bytes with 0 of 1 in use"] := by
  have agrees := format_agrees_with_concatAll .granting (.literal (.budget 0) [97]) letters (.ofLimits [5, 0])
    (by decide +kernel)
  have single := format_agrees_with_concatAll .granting (.literal (.budget 0) [97])
    ⟨.string, ⟨.heap, 1, 16⟩, Rows.ofArray #[.literal .heap [98]]⟩ (.ofLimits [1]) (by decide +kernel)
  obtain ⟨made, peaks⟩ := agrees.2.2.2 (by decide +kernel) (.owned ⟨.budget 0, 3, 3⟩ [97, 98, 99]) (by decide +kernel) rfl
  obtain ⟨_, _, _, report⟩ := single.2.2.1 (.literal .heap [98]) (by decide +kernel)
  obtain ⟨_, stop, failed, fragments⟩ := report (.storage (.exhausted 2 0 1)) (by decide +kernel)
  exact ⟨made, peaks, stop, failed, fragments.trans (by decide +kernel)⟩

end ByteString

end Quota
