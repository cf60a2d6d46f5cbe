import Mathlib.Algebra.BigOperators.Group.Multiset.Basic
import Mathlib.Tactic.Abel
import Quota.Proofs.ScriptedOperations

set_option autoImplicit false

/-!
# Holdings and what backs them

Every live value holds the blocks that it will release. Books back a collection of holdings if what is in use at each
source is what is owed there: the bytes taken directly and the cost of the holdings. Making a value adds its holdings,
releasing it takes them away, and a failure changes nothing.
-/
namespace Quota

/-- A block that a live value will release, with the type of its elements. -/
structure Holding where
  block : Block
  element : ElementType
deriving DecidableEq

namespace Holding

/-- The slots at the registered size. -/
def cost (h : Holding) : Nat := h.block.slots * h.element.size

/-- What the block will give back is what its slots cost. -/
def Sound (h : Holding) : Prop := h.block.bytes = h.cost

end Holding

/-- What the holdings from one source cost together. -/
def charge (held : Multiset Holding) (source : Source) : Nat :=
  ((held.filter fun h => h.block.source = source).map Holding.cost).sum

theorem charge_add (held more : Multiset Holding) (source : Source) :
    charge (held + more) source = charge held source + charge more source := by
  simp [charge]

theorem charge_singleton (h : Holding) (source : Source) :
    charge {h} source = if source = h.block.source then h.cost else 0 := by
  by_cases same : h.block.source = source
  · simp [charge, Multiset.filter_singleton, same]
  · simp [charge, Multiset.filter_singleton, same, Ne.symm same]

namespace Books

/-- What is in use at every source with a ledger is what is owed there, and nothing was ever given back that was not in
use. -/
structure Backs (books : Books) (direct : Source → Nat) (held : Multiset Holding) : Prop where
  sound : ∀ h ∈ held, h.Sound
  inUse : ∀ source l, books.ledger? source = some l → l.inUse = direct source + charge held source
  covered : ∀ source l, books.ledger? source = some l → l.overdrawn = 0

/-- Direct dealings with so many bytes more at one source. -/
def plus (direct : Source → Nat) (source : Source) (bytes : Nat) : Source → Nat :=
  fun other => direct other + if other = source then bytes else 0

namespace Backs

variable {books after : Books} {direct : Source → Nat} {held : Multiset Holding}

theorem note (h : books.Backs direct held) (e : Event) : (books.note e).Backs direct held :=
  ⟨h.sound, fun source l found => h.inUse source l (by rwa [ledger?_note] at found),
    fun source l found => h.covered source l (by rwa [ledger?_note] at found)⟩

theorem ask (h : books.Backs direct held) : books.ask.Backs direct held :=
  ⟨h.sound, fun source l found => h.inUse source l (by rwa [ledger?_ask] at found),
    fun source l found => h.covered source l (by rwa [ledger?_ask] at found)⟩

/-- A change to one ledger: the debt at its source changes as the bytes in use do. -/
theorem adjust {owed : Source → Nat} {owned : Multiset Holding} (h : books.Backs direct held) (target : Source)
    (f : Ledger → Ledger) (sound : ∀ x ∈ owned, x.Sound)
    (others : ∀ source, source ≠ target → owed source + charge owned source = direct source + charge held source)
    (here : ∀ l, l.inUse = direct target + charge held target → l.overdrawn = 0 →
      (f l).inUse = owed target + charge owned target ∧ (f l).overdrawn = 0) :
    (books.adjust target f).Backs owed owned := by
  have each : ∀ source l, (books.adjust target f).ledger? source = some l →
      l.inUse = owed source + charge owned source ∧ l.overdrawn = 0 := by
    intro source l found
    rw [ledger?_adjust] at found
    obtain ⟨old, before, rfl⟩ := Option.map_eq_some_iff.mp found
    have inUse := h.inUse source old before
    have covered := h.covered source old before
    by_cases same : source = target
    · subst same
      rw [if_pos rfl]
      exact here old inUse covered
    · rw [if_neg same]
      exact ⟨by rw [inUse, others source same], covered⟩
  exact ⟨sound, fun source l found => (each source l found).1, fun source l found => (each source l found).2⟩

theorem acquire_ok (h : books.Backs direct held) {source : Source} {bytes : Nat}
    (taken : books.acquire source bytes = (.ok (), after)) : after.Backs (plus direct source bytes) held := by
  rw [(Books.acquire_ok taken).1]
  refine h.adjust source _ h.sound (fun other ne => by simp [plus, ne]) fun l inUse covered => ⟨?_, covered⟩
  simp only [Ledger.grant, plus, if_true]
  omega

theorem acquire_error (h : books.Backs direct held) {source : Source} {bytes : Nat} {f : StorageFault}
    (taken : books.acquire source bytes = (.error f, after)) : after.Backs direct held := by
  obtain ⟨l, _, _, _, rfl⟩ := Books.acquire_error taken
  exact (h.adjust source Ledger.refuse h.sound (fun _ _ => rfl) fun l inUse covered => ⟨inUse, covered⟩).note _

/-- Bytes that are owed can be given back, and then are owed no longer. -/
theorem credit {source : Source} {bytes : Nat} (h : books.Backs (plus direct source bytes) held) :
    (books.credit source bytes).Backs direct held := by
  rw [credit_eq]
  refine h.adjust source _ h.sound (fun other ne => by simp [plus, ne]) fun l inUse covered => ?_
  simp only [plus, if_true] at inUse
  simp only [Ledger.release]
  omega

/-- Bytes of a sound block may be owed directly or as a holding. -/
theorem hold_iff {b : Block} {element : ElementType} (sound : (Holding.mk b element).Sound) :
    books.Backs (plus direct b.source b.bytes) held ↔ books.Backs direct ({⟨b, element⟩} + held) := by
  have same : ∀ source, plus direct b.source b.bytes source + charge held source =
      direct source + charge ({⟨b, element⟩} + held) source := by
    intro source
    have cost : (Holding.mk b element).cost = b.bytes := sound.symm
    rw [charge_add, charge_singleton, cost, plus, Nat.add_assoc]
  constructor
  · intro h
    refine ⟨fun x member => ?_, fun source l found => (h.inUse source l found).trans (same source), h.covered⟩
    rcases Multiset.mem_add.mp member with new | old
    · rw [Multiset.mem_singleton.mp new]
      exact sound
    · exact h.sound x old
  · intro h
    exact ⟨fun x member => h.sound x (Multiset.mem_add.mpr (.inr member)),
      fun source l found => (h.inUse source l found).trans (same source).symm, h.covered⟩

end Backs

end Books

/-- A change of the books that ends the given holdings. -/
def Frees (owned : Multiset Holding) (f : Books → Books) : Prop :=
  ∀ (books : Books) (direct : Source → Nat) (rest : Multiset Holding),
    books.Backs direct (owned + rest) → (f books).Backs direct rest

/-- A computation that makes a value with its holdings, or fails and leaves what was owed. -/
structure Yields {ε α : Type} (owned : α → Multiset Holding) (c : Books → Except ε α × Books) : Prop where
  made : ∀ {books after : Books} {direct : Source → Nat} {rest : Multiset Holding} {x : α},
    books.Backs direct rest → c books = (.ok x, after) → after.Backs direct (owned x + rest)
  failed : ∀ {books after : Books} {direct : Source → Nat} {rest : Multiset Holding} {e : ε},
    books.Backs direct rest → c books = (.error e, after) → after.Backs direct rest

namespace Frees

variable {α : Type} {owned more : Multiset Holding} {f g : Books → Books}

theorem zero : Frees 0 fun books => books := fun _ _ _ h => by rwa [zero_add] at h

theorem comp (hf : Frees owned f) (hg : Frees more g) : Frees (owned + more) fun books => g (f books) :=
  fun books direct rest h => hg (f books) direct rest (hf books direct (more + rest) (by rwa [← add_assoc]))

theorem foldl {owns : α → Multiset Holding} {release : α → Books → Books} (h : ∀ x, Frees (owns x) (release x))
    (xs : List α) : Frees (xs.map owns).sum fun books => xs.foldl (fun books x => release x books) books := by
  induction xs with
  | nil => exact zero
  | cons x xs ih =>
    rw [List.map_cons, List.sum_cons]
    exact (h x).comp ih

end Frees

namespace Block

theorem yields_reserve (alloc : Allocator) (source : Source) (element : ElementType) (slots : Nat) :
    Yields (fun b => {⟨b, element⟩}) (reserve alloc source element slots) where
  made {books after direct rest b} backs h := by
    simp only [reserve] at h
    split at h
    · cases h
    · split at h
      · cases h
      · rename_i middle taken
        split at h
        · cases h
        · cases h
          have sound : (Holding.mk ⟨source, slots, slots * element.size⟩ element).Sound := rfl
          exact (Books.Backs.hold_iff sound).mp (((backs.acquire_ok taken).ask).note _)
  failed {books after direct rest f} backs h := by
    simp only [reserve] at h
    split at h
    · cases h
      exact backs
    · split at h
      · rename_i f' middle taken
        cases h
        exact backs.acquire_error taken
      · rename_i middle taken
        split at h
        · cases h
          exact (backs.acquire_ok taken).ask.credit
        · cases h

theorem frees_release (b : Block) (element : ElementType) : Frees {⟨b, element⟩} b.release := by
  intro books direct rest backs
  have sound : (Holding.mk b element).Sound :=
    backs.sound _ (Multiset.mem_add.mpr (.inl (Multiset.mem_singleton_self _)))
  exact ((Books.Backs.hold_iff sound).mpr backs).credit.note _

end Block

/-- A change of the books that leaves what is owed. -/
def Keeps (f : Books → Books) : Prop :=
  ∀ (books : Books) (direct : Source → Nat) (held : Multiset Holding),
    books.Backs direct held → (f books).Backs direct held

theorem Keeps.refl : Keeps fun books => books := fun _ _ _ backs => backs

theorem Keeps.note (e : Event) : Keeps (·.note e) := fun _ _ _ backs => backs.note e

/-- Computations that reserve one block and make the value from it. -/
theorem yields_of_reserve {ε α : Type} {owned : α → Multiset Holding} {c : Books → Except ε α × Books}
    (alloc : Allocator) (source : Source) (element : ElementType) (slots : Nat) (fault : StorageFault → ε)
    (make : Block → α) {undo : StorageFault → Books → Books} {finish : Books → Books} (undone : ∀ f, Keeps (undo f))
    (finished : Keeps finish) (owns : ∀ b, owned (make b) = {⟨b, element⟩})
    (h : ∀ books, c books =
      match Block.reserve alloc source element slots books with
      | (.error f, books) => (.error (fault f), undo f books)
      | (.ok b, books) => (.ok (make b), finish books)) : Yields owned c where
  made {books after direct rest x} backs made := by
    rw [h] at made
    split at made
    · cases made
    · rename_i b middle reserved
      cases made
      rw [owns]
      exact finished _ _ _ ((Block.yields_reserve alloc source element slots).made backs reserved)
  failed {books after direct rest e} backs failed := by
    rw [h] at failed
    split at failed
    · rename_i f middle refused
      cases failed
      exact undone f _ _ _ ((Block.yields_reserve alloc source element slots).failed backs refused)
    · cases failed

/-- Computations that fail before they ask for storage. -/
theorem yields_of_fault {ε α : Type} {owned : α → Multiset Holding} {c : Books → Except ε α × Books} (e : ε)
    {undo : Books → Books} (undone : Keeps undo) (h : ∀ books, c books = (.error e, undo books)) : Yields owned c where
  made {books after direct rest x} backs made := by
    rw [h] at made
    cases made
  failed {books after direct rest e} backs failed := by
    rw [h] at failed
    cases failed
    exact undone _ _ _ backs

namespace ByteString

def holdings : ByteString → Multiset Holding
  | .literal _ _ => 0
  | .owned block _ => {⟨block, .byte⟩}

theorem frees_release (t : ByteString) : Frees t.holdings t.release := by
  cases t with
  | literal source bytes => exact .zero
  | owned block bytes => exact block.frees_release .byte

variable (alloc : Allocator)

theorem yields_ofBytes (source : Source) (bytes : List UInt8) : Yields holdings (ofBytes alloc source bytes) :=
  yields_of_reserve alloc source .byte bytes.length id (.owned · bytes) (fun _ => .refl) .refl (fun _ => rfl)
    fun books => by
      rw [ofBytes]
      rcases Block.reserve alloc source .byte bytes.length books with ⟨_ | _, _⟩ <;> rfl

theorem yields_substring (t : ByteString) (start stop : Int) :
    Yields holdings fun books => t.substring alloc start stop books := by
  cases range : checkRange t.length start stop with
  | error f =>
    refine yields_of_fault (.range f) .refl fun books => ?_
    rw [substring, range]
  | ok _ =>
    let window := (t.bytes.drop start.toNat).take (stop - start).toNat
    refine yields_of_reserve alloc t.source .byte window.length .storage (.owned · window) (fun _ => .refl) .refl
      (fun _ => rfl) fun books => ?_
    simp only [substring_of_checked range, ofBytes]
    rcases Block.reserve alloc t.source .byte window.length books with ⟨_ | _, _⟩ <;> rfl

theorem yields_concat (t u : ByteString) : Yields holdings fun books => t.concat alloc u books := by
  cases sum : (Word.ofLength t.length).add (Word.ofLength u.length) with
  | error f =>
    exact yields_of_fault (.length f) (.note (.abortEntered 2)) fun books => concat_of_error sum alloc books
  | ok total =>
    refine yields_of_reserve alloc t.source .byte total.toInt.toNat .storage (.owned · [t.bytes, u.bytes].flatten)
      (fun f => .note (.abortEntered 2)) .refl (fun _ => rfl) fun books => ?_
    simp only [concat_of_ok sum, assemble]
    rcases Block.reserve alloc t.source .byte total.toInt.toNat books with ⟨_ | _, _⟩ <;> rfl

theorem yields_format (lead : ByteString) (args : FixedArray ByteString) :
    Yields holdings fun books => lead.format alloc args books := by
  cases sum : formatLength args args.length 0 (Word.ofLength lead.length) with
  | error f =>
    exact yields_of_fault f .refl fun books => format_of_error sum alloc books
  | ok total =>
    let runs := lead.bytes :: args.toList.map ByteString.bytes
    refine yields_of_reserve alloc lead.source .byte total.toInt.toNat .storage (.owned · runs.flatten) (fun _ => .refl)
      (.note (.stringFormatted args.length total.toInt.toNat)) (fun _ => rfl) fun books => ?_
    simp only [format_of_ok sum, assemble]
    rcases Block.reserve alloc lead.source .byte total.toInt.toNat books with ⟨_ | _, _⟩ <;> rfl

theorem yields_replace (t needle insert : ByteString) (limit : Int) :
    Yields holdings fun books => t.replace alloc needle insert limit books := by
  obtain ⟨found, hfound⟩ : ∃ found, Search.leftmost t.bytes needle.bytes limit = found := ⟨_, rfl⟩
  by_cases none : found.isEmpty
  · refine yields_of_reserve alloc t.source .byte t.bytes.length id (.owned · t.bytes) (fun _ => .refl) .refl
      (fun _ => rfl) fun books => ?_
    simp only [replace, hfound, clone, ofBytes]
    rw [if_pos none]
    rcases Block.reserve alloc t.source .byte t.bytes.length books with ⟨_ | _, _⟩ <;> rfl
  · cases size : replacedLength? t.length found.length needle.length insert.length with
    | none =>
      refine yields_of_fault .replacementOverflow .refl fun books => ?_
      simp only [replace, hfound, size]
      rw [if_neg none]
    | some total =>
      let runs := Search.pieces insert.bytes needle.length 0 t.bytes found
      refine yields_of_reserve alloc t.source .byte total id (.owned · runs.flatten) (fun _ => .refl)
        (.note (.stringReplaced found.length total)) (fun _ => rfl) fun books => ?_
      simp only [replace, hfound, size, assemble]
      rw [if_neg none]
      rcases Block.reserve alloc t.source .byte total books with ⟨_ | _, _⟩ <;> rfl

end ByteString

def Cell.holdings : Cell → Multiset Holding
  | .string t => t.holdings
  | _ => 0

theorem Cell.frees_release (c : Cell) : Frees c.holdings c.release := by
  cases c with
  | string t => exact t.frees_release
  | number v => exact .zero
  | flag b => exact .zero

@[simp] theorem Cell.holdings_zero (element : ElementType) : (Cell.zero element).holdings = 0 := by
  cases element <;> rfl

/-- What cells hold together. -/
def cellHoldings (cells : List Cell) : Multiset Holding := (cells.map Cell.holdings).sum

theorem cellHoldings_cons (c : Cell) (cells : List Cell) :
    cellHoldings (c :: cells) = c.holdings + cellHoldings cells := by
  simp [cellHoldings]

/-- A cell that is put in the place of another brings its holdings and takes the other's away. -/
theorem cellHoldings_set (cells : List Cell) (i : Nat) (old c : Cell) (found : cells[i]? = some old) :
    cellHoldings (cells.set i c) + old.holdings = cellHoldings cells + c.holdings := by
  induction cells generalizing i with
  | nil => simp at found
  | cons first rest ih =>
    cases i with
    | zero =>
      rw [List.getElem?_cons_zero, Option.some.injEq] at found
      subst found
      rw [List.set_cons_zero, cellHoldings_cons, cellHoldings_cons]
      abel
    | succ i =>
      rw [List.set_cons_succ, cellHoldings_cons, cellHoldings_cons, add_assoc, ih i (by simpa using found), add_assoc]

namespace FixedArray

def holdings (a : FixedArray Cell) : Multiset Holding := {⟨a.block, a.element⟩} + cellHoldings a.toList

theorem frees_release (a : FixedArray Cell) : Frees a.holdings (a.release Cell.release) := by
  have freed := (a.block.frees_release a.element).comp (Frees.foldl Cell.frees_release a.toList)
  intro books direct rest backs
  rw [release_eq]
  exact freed books direct rest backs

variable (alloc : Allocator) (source : Source) (element : ElementType)

theorem yields_zeros (capacity : Int) :
    Yields holdings fun books => zeros alloc source element (Cell.zero element) capacity books := by
  by_cases negative : capacity < 0
  · refine yields_of_fault (.negativeCapacity capacity) .refl fun books => ?_
    rw [zeros, if_pos negative]
  · refine yields_of_reserve alloc source element capacity.toNat id
      (fun b => ⟨element, b, Rows.replicate b.slots (Cell.zero element)⟩) (fun _ => .refl) .refl (fun b => ?_)
      fun books => ?_
    · simp [holdings, toList, cellHoldings]
    · rw [zeros, if_neg negative]
      rcases Block.reserve alloc source element capacity.toNat books with ⟨_ | _, _⟩ <;> rfl

/-- An array of given values takes over what they hold. -/
theorem yields_ofReported {α : Type} (reported : Nat) (values : List α) :
    Yields (fun a => {⟨a.block, a.element⟩}) fun books => ofReported alloc source element reported values books :=
  yields_of_reserve alloc source element reported id
    (fun b => ⟨element, b, Rows.ofArray (values.take b.slots).toArray⟩)
    (fun _ => .refl) .refl (fun _ => rfl) fun books => by
      rw [ofReported]
      rcases Block.reserve alloc source element reported books with ⟨_ | _, _⟩ <;> rfl

theorem yields_ofList {α : Type} (values : List α) :
    Yields (fun a => {⟨a.block, a.element⟩}) fun books => ofList alloc source element values books :=
  yields_ofReported alloc source element values.length values

variable {alloc source element}

theorem toList_of_ofList {α : Type} {values : List α} {books after : Books} {a : FixedArray α}
    (h : ofList alloc source element values books = (.ok a, after)) : a.toList = values := by
  rw [ofList_eq] at h
  rcases reserved : Block.reserve alloc source element values.length books with ⟨f | b, middle⟩
  · simp [reserved] at h
  · simp only [reserved, Prod.mk.injEq, Except.ok.injEq] at h
    rw [← h.1]
    simp [toList]

theorem holdings_of_ofList {cells : List Cell} {books after : Books} {a : FixedArray Cell}
    (h : ofList alloc source element cells books = (.ok a, after)) :
    a.holdings = {⟨a.block, a.element⟩} + cellHoldings cells := by
  rw [holdings, toList_of_ofList h]

theorem holdings_of_set {a b : FixedArray Cell} {index : Int} {c : Cell} {old : Option Cell}
    (h : a.set index c = .ok (b, old)) : b.holdings + cellHoldings old.toList = a.holdings + c.holdings := by
  obtain ⟨i, _, inside, rfl, rfl⟩ := (set_eq_ok_iff a b index c old).mp h
  rw [← length_toList] at inside
  obtain ⟨old, found⟩ : ∃ old, a.toList[i]? = some old := ⟨_, List.getElem?_eq_getElem inside⟩
  have swapped := cellHoldings_set a.toList i old c found
  rw [found, Option.toList_some, cellHoldings_cons]
  simp only [holdings, toList_set, cellHoldings, List.map_nil, List.sum_nil, add_zero] at swapped ⊢
  rw [add_assoc, swapped, add_assoc]

end FixedArray

namespace CappedVector

def holdings (v : CappedVector Cell) : Multiset Holding := {⟨v.block, v.element⟩} + cellHoldings v.toList

theorem frees_release (v : CappedVector Cell) : Frees v.holdings (v.release Cell.release) := by
  have freed := (v.block.frees_release v.element).comp (Frees.foldl Cell.frees_release v.toList)
  intro books direct rest backs
  rw [release_eq]
  exact freed books direct rest backs

theorem holdings_append (v : CappedVector Cell) (c : Cell) : (v.append c).holdings = v.holdings + c.holdings := by
  simp [holdings, append, toList, cellHoldings]

variable (alloc : Allocator)

theorem yields_create_of {α : Type} {owned : CappedVector α → Multiset Holding} (source : Source)
    (element : ElementType) (owns : ∀ b, owned ⟨element, b, #[]⟩ = {⟨b, element⟩}) :
    Yields owned fun books => create alloc source element books :=
  yields_of_reserve alloc source element initialCapacity id (fun b => ⟨element, b, #[]⟩) (fun _ => .refl) .refl owns
    fun books => by
      rw [create]
      rcases Block.reserve alloc source element initialCapacity books with ⟨_ | _, _⟩ <;> rfl

theorem yields_create (source : Source) (element : ElementType) :
    Yields holdings fun books => create alloc source element books :=
  yields_create_of alloc source element fun _ => rfl

variable {alloc}

/-- While a vector grows, both blocks are held; afterwards only the one that the vector has. -/
theorem backs_grow {α : Type} {v w : CappedVector α} {books after : Books} {direct : Source → Nat}
    {rest : Multiset Holding} {r : Except PushStop Unit} (backs : books.Backs direct ({⟨v.block, v.element⟩} + rest))
    (h : v.grow alloc books = (r, w, after)) :
    w.toList = v.toList ∧ after.Backs direct ({⟨w.block, w.element⟩} + rest) := by
  simp only [grow] at h
  split at h
  · cases h
    exact ⟨rfl, (backs.note _).note _⟩
  · have reserve := Block.yields_reserve alloc v.block.source v.element (2 * v.capacity)
    split at h
    · rename_i f middle refused
      cases h
      exact ⟨rfl, reserve.failed backs refused⟩
    · rename_i next middle granted
      cases h
      have both := reserve.made backs granted
      rw [add_left_comm] at both
      exact ⟨rfl, (v.block.frees_release v.element _ _ _ both).note _⟩

theorem backs_grow_holdings {v w : CappedVector Cell} {books after : Books} {direct : Source → Nat}
    {rest : Multiset Holding} {r : Except PushStop Unit} (backs : books.Backs direct (v.holdings + rest))
    (h : v.grow alloc books = (r, w, after)) : after.Backs direct (w.holdings + rest) := by
  rw [holdings, add_assoc] at backs
  obtain ⟨kept, grown⟩ := backs_grow backs h
  rwa [← kept, ← add_assoc] at grown

theorem backs_push {v w : CappedVector Cell} {c : Cell} {books after : Books} {direct : Source → Nat}
    {rest : Multiset Holding} {r : Except PushStop Unit} (backs : books.Backs direct (v.holdings + (c.holdings + rest)))
    (h : v.push alloc c books = (r, w, after)) :
    match r with
    | .ok () => after.Backs direct (w.holdings + rest)
    | .error _ => after.Backs direct (w.holdings + (c.holdings + rest)) := by
  simp only [push] at h
  split at h
  · split at h
    · rename_i stop u middle refused
      cases h
      exact backs_grow_holdings backs refused
    · rename_i u middle grown
      cases h
      have more := backs_grow_holdings backs grown
      rwa [← add_assoc, ← holdings_append] at more
  · cases h
    rwa [← add_assoc, ← holdings_append] at backs

end CappedVector

end Quota
