import Quota.Proofs.Holdings
import Quota.Proofs.Runs

set_option autoImplicit false

/-!
# The books of a session balance

After every request each budget has in use what was taken from it directly and not given back, and the cost of every
block that a live value holds from it. So no release takes more than is in use, and nothing is left when all values are
released.
-/
namespace Quota

namespace Shelf

variable {α : Type}

/-- Every name stands once. -/
def IsTidy (shelf : Shelf α) : Prop := (shelf.map Prod.fst).Nodup

theorem IsTidy.erase {shelf : Shelf α} (h : shelf.IsTidy) (name : String) : (shelf.erase name).IsTidy :=
  h.sublist (List.filter_sublist.map Prod.fst)

theorem IsTidy.put {shelf : Shelf α} (h : shelf.IsTidy) (name : String) (x : α) : (shelf.put name x).IsTidy := by
  refine List.nodup_cons.mpr ⟨?_, h.erase name⟩
  simp [Shelf.erase]

theorem erase_of_get?_eq_none {shelf : Shelf α} {name : String} (h : shelf.get? name = none) :
    shelf.erase name = shelf := by
  induction shelf with
  | nil => rfl
  | cons p rest ih =>
    obtain ⟨n, x⟩ := p
    rw [get?] at h
    split at h
    · cases h
    · rename_i other
      rw [erase, List.filter_cons_of_pos (by simpa using other)]
      exact congrArg _ (ih h)

theorem get?_eq_none_of_not_mem {shelf : Shelf α} {name : String} (h : name ∉ shelf.map Prod.fst) :
    shelf.get? name = none := by
  induction shelf with
  | nil => rfl
  | cons p rest ih =>
    obtain ⟨n, x⟩ := p
    simp only [List.map_cons, List.mem_cons, not_or] at h
    rw [get?, if_neg (Ne.symm h.1)]
    exact ih h.2

/-- What the values on a shelf hold together. -/
def held (owns : α → Multiset Holding) (shelf : Shelf α) : Multiset Holding := (shelf.values.map owns).sum

theorem held_cons (owns : α → Multiset Holding) (name : String) (x : α) (shelf : Shelf α) :
    held owns ((name, x) :: shelf) = owns x + held owns shelf := by
  simp [held, values]

/-- The value under a name and the rest of the shelf share out what is held. -/
theorem held_of_get? (owns : α → Multiset Holding) {shelf : Shelf α} {name : String} {x : α} (tidy : shelf.IsTidy)
    (found : shelf.get? name = some x) : shelf.held owns = owns x + (shelf.erase name).held owns := by
  induction shelf with
  | nil => cases found
  | cons p rest ih =>
    obtain ⟨n, y⟩ := p
    obtain ⟨fresh, tidy⟩ := List.nodup_cons.mp tidy
    rw [get?] at found
    split at found
    · rename_i same
      subst same
      obtain rfl : y = x := Option.some.inj found
      have dropped : erase ((n, y) :: rest) n = erase rest n := by simp [erase]
      rw [held_cons, dropped, erase_of_get?_eq_none (get?_eq_none_of_not_mem fresh)]
    · rename_i other
      have kept : erase ((n, y) :: rest) name = (n, y) :: erase rest name := by
        rw [erase, List.filter_cons_of_pos (by simpa using other)]
        rfl
      rw [kept, held_cons, held_cons, ih tidy found]
      abel

/-- Putting a value under a name: what had the name is no longer held. -/
theorem held_put (owns : α → Multiset Holding) (shelf : Shelf α) (name : String) (x : α) :
    (shelf.put name x).held owns = owns x + (shelf.erase name).held owns := held_cons owns name x _

end Shelf

namespace Session

/-- The bytes acquired directly and not yet given back, over all places where the source stands. -/
def directOn (sources : List Source) (direct : List Nat) (source : Source) : Nat :=
  (((sources.zip direct).filter fun p => p.1 = source).map Prod.snd).sum

theorem directOn_cons (first : Source) (sources : List Source) (n : Nat) (direct : List Nat) (source : Source) :
    directOn (first :: sources) (n :: direct) source =
      (if first = source then n else 0) + directOn sources direct source := by
  by_cases same : first = source <;> simp [directOn, same]

/-- More bytes at one place are more at the source that stands there. -/
theorem directOn_set_add (sources : List Source) (direct : List Nat) (j : Nat) (target : Source) (before bytes : Nat)
    (place : sources[j]? = some target) (found : direct[j]? = some before) :
    directOn sources (direct.set j (before + bytes)) = Books.plus (directOn sources direct) target bytes := by
  funext source
  induction sources generalizing direct j with
  | nil => simp at place
  | cons first sources ih =>
    cases direct with
    | nil => simp at found
    | cons n direct =>
      cases j with
      | zero =>
        rw [List.getElem?_cons_zero, Option.some.injEq] at place found
        subst place found
        rw [List.set_cons_zero, Books.plus, directOn_cons, directOn_cons]
        by_cases same : first = source
        · rw [if_pos same, if_pos same, if_pos same.symm]
          omega
        · rw [if_neg same, if_neg same, if_neg (Ne.symm same)]
          omega
      | succ j =>
        have rest := ih direct j (by simpa using place) (by simpa using found)
        rw [Books.plus] at rest
        rw [List.set_cons_succ, Books.plus, directOn_cons, directOn_cons, rest, Nat.add_assoc]

def outstanding (s : Session) : Source → Nat := directOn s.sources s.direct

/-- The blocks of all live values, also of strings inside arrays and vectors. -/
def holdings (s : Session) : Multiset Holding :=
  s.strings.held ByteString.holdings + s.arrays.held FixedArray.holdings + s.vectors.held CappedVector.holdings

/-- Names are unique and every source has its count of direct bytes. -/
structure Tidy (s : Session) : Prop where
  strings : s.strings.IsTidy
  arrays : s.arrays.IsTidy
  vectors : s.vectors.IsTidy
  direct : s.direct.length = s.sources.length

structure Balanced (s : Session) : Prop where
  tidy : s.Tidy
  backs : s.books.Backs s.outstanding s.holdings

/-- Other books that back the same values. -/
theorem balanced_withBooks {s : Session} (tidy : s.Tidy) {books : Books}
    (backs : books.Backs s.outstanding s.holdings) : (s.withBooks books).Balanced :=
  ⟨⟨tidy.strings, tidy.arrays, tidy.vectors, tidy.direct⟩, backs⟩

theorem balanced_start (limits : List (Option Nat)) : (start limits).Balanced where
  tidy := by
    refine ⟨List.nodup_nil, List.nodup_nil, List.nodup_nil, ?_⟩
    have length : ∀ next, (sourcesFrom next limits).length = limits.length := by
      induction limits with
      | nil => intro next; rfl
      | cons limit rest ih => intro next; cases limit <;> simp [sourcesFrom, ih]
    simp [start, length]
  backs := by
    have nothing : ∀ source, (start limits).outstanding source = 0 := by
      intro source
      refine List.sum_eq_zero fun n member => ?_
      obtain ⟨p, chosen, rfl⟩ := List.mem_map.mp member
      obtain ⟨_, _, zero⟩ := List.mem_map.mp (List.of_mem_zip (List.mem_of_mem_filter chosen)).2
      exact zero.symm
    have zero : ∀ source l, (start limits).books.ledger? source = some l → l.inUse = 0 ∧ l.overdrawn = 0 := by
      intro source l found
      obtain ⟨limit, rfl⟩ := Books.eq_empty_of_ofLimits found
      exact ⟨rfl, rfl⟩
    refine ⟨fun h member => ?_, fun source l found => ?_, fun source l found => (zero source l found).2⟩
    · simp [start, holdings, Shelf.held, Shelf.values] at member
    · rw [(zero source l found).1, nothing]
      rfl

/-- What is answered leaves a balanced session. -/
def LeavesBalanced (r : Option (Reply × Session)) : Prop := ∀ reply after, r = some (reply, after) → after.Balanced

namespace LeavesBalanced

theorem none : LeavesBalanced none := fun _ _ h => by cases h

theorem some {p : Reply × Session} (h : p.2.Balanced) : LeavesBalanced (some p) := by
  intro reply after same
  cases same
  exact h

theorem bind {α : Type} {o : Option α} {f : α → Option (Reply × Session)}
    (h : ∀ x, o = Option.some x → LeavesBalanced (f x)) : LeavesBalanced (o.bind f) := by
  cases found : o with
  | none => exact .none
  | some x => exact h x found

end LeavesBalanced

variable {s : Session} (alloc : Allocator)

/-- Releasing what had a name ends what the name's value held. -/
theorem frees_releaseNamed {α : Type} {owns : α → Multiset Holding} {release : α → Books → Books}
    (h : ∀ x, Frees (owns x) (release x)) {shelf : Shelf α} (tidy : shelf.IsTidy) (name : String) :
    ∃ ended, Frees ended (releaseNamed release (shelf.get? name)) ∧
      shelf.held owns = ended + (shelf.erase name).held owns := by
  cases found : shelf.get? name with
  | none => exact ⟨0, .zero, by rw [Shelf.erase_of_get?_eq_none found, zero_add]⟩
  | some x => exact ⟨owns x, h x, Shelf.held_of_get? owns tidy found⟩

theorem balanced_keepString (tidy : s.Tidy) {books : Books} {t : ByteString} (out : String)
    (backs : books.Backs s.outstanding (t.holdings + s.holdings)) : (s.keepString out t books).Balanced := by
  obtain ⟨ended, frees, shared⟩ := frees_releaseNamed ByteString.frees_release tidy.strings out
  rw [← s.withBooks_books, keepString_eq]
  refine ⟨⟨tidy.strings.put out t, tidy.arrays, tidy.vectors, tidy.direct⟩, frees _ _ _ ?_⟩
  have regrouped : t.holdings + s.holdings =
      ended + ({ s with strings := s.strings.put out t } : Session).holdings := by
    simp only [holdings, Shelf.held_put, shared]
    abel
  exact regrouped ▸ backs

theorem balanced_keepArray (tidy : s.Tidy) {books : Books} {a : FixedArray Cell} (out : String)
    (backs : books.Backs s.outstanding (a.holdings + s.holdings)) : (s.keepArray out a books).Balanced := by
  obtain ⟨ended, frees, shared⟩ := frees_releaseNamed FixedArray.frees_release tidy.arrays out
  rw [← s.withBooks_books, keepArray_eq]
  refine ⟨⟨tidy.strings, tidy.arrays.put out a, tidy.vectors, tidy.direct⟩, frees _ _ _ ?_⟩
  have regrouped : a.holdings + s.holdings = ended + ({ s with arrays := s.arrays.put out a } : Session).holdings := by
    simp only [holdings, Shelf.held_put, shared]
    abel
  exact regrouped ▸ backs

theorem balanced_keepVector (tidy : s.Tidy) {books : Books} {v : CappedVector Cell} (out : String)
    (backs : books.Backs s.outstanding (v.holdings + s.holdings)) : (s.keepVector out v books).Balanced := by
  obtain ⟨ended, frees, shared⟩ := frees_releaseNamed CappedVector.frees_release tidy.vectors out
  rw [← s.withBooks_books, keepVector_eq]
  refine ⟨⟨tidy.strings, tidy.arrays, tidy.vectors.put out v, tidy.direct⟩, frees _ _ _ ?_⟩
  have regrouped : v.holdings + s.holdings =
      ended + ({ s with vectors := s.vectors.put out v } : Session).holdings := by
    simp only [holdings, Shelf.held_put, shared]
    abel
  exact regrouped ▸ backs

/-- A string that is moved off the shelf is held by its cell. -/
theorem takeOperand_spec {element : ElementType} {strings rest : Shelf ByteString} {operand : Operand} {c : Cell}
    (tidy : strings.IsTidy) (h : takeOperand element strings operand = some (c, rest)) :
    rest.IsTidy ∧ strings.held ByteString.holdings = c.holdings + rest.held ByteString.holdings := by
  cases operand with
  | number v =>
    simp only [takeOperand] at h
    split at h <;> cases h
    exact ⟨tidy, (zero_add _).symm⟩
  | flag b =>
    simp only [takeOperand] at h
    split at h <;> cases h
    exact ⟨tidy, (zero_add _).symm⟩
  | name n =>
    simp only [takeOperand] at h
    split at h
    · cases found : strings.get? n with
      | none => simp [found] at h
      | some t =>
        simp only [found, Option.some.injEq, Prod.mk.injEq] at h
        obtain ⟨rfl, rfl⟩ := h
        exact ⟨tidy.erase n, Shelf.held_of_get? _ tidy found⟩
    · cases h

theorem takeOperands_spec {element : ElementType} {operands : List Operand} {strings rest : Shelf ByteString}
    {cells : List Cell} (tidy : strings.IsTidy) (h : takeOperands element strings operands = some (cells, rest)) :
    rest.IsTidy ∧ strings.held ByteString.holdings = cellHoldings cells + rest.held ByteString.holdings := by
  induction operands generalizing strings cells with
  | nil =>
    cases h
    exact ⟨tidy, (zero_add _).symm⟩
  | cons operand operands ih =>
    simp only [takeOperands] at h
    split at h
    · cases h
    · rename_i c middle taken
      split at h
      · cases h
      · rename_i others after more
        cases h
        obtain ⟨tidyMiddle, first⟩ := takeOperand_spec tidy taken
        obtain ⟨tidyRest, later⟩ := ih tidyMiddle more
        exact ⟨tidyRest, by rw [first, later, cellHoldings_cons, add_assoc]⟩

theorem balanced_answerString {ε : Type} (h : s.Balanced) (escalate : Bool) (set : FaultSet) (toFault : ε → Fault)
    (out : String) {c : Books → Except ε ByteString × Books} (hc : Yields ByteString.holdings c) :
    LeavesBalanced (some (s.answerString escalate set toFault out (c s.books))) := by
  refine .some ?_
  rcases computed : c s.books with ⟨e | t, after⟩
  · exact balanced_withBooks h.tidy (hc.failed h.backs computed)
  · exact balanced_keepString h.tidy out (hc.made h.backs computed)

theorem balanced_stringStep (h : s.Balanced) (source : Source) (escalate : Bool) (o : StringOperation) :
    LeavesBalanced (s.stringStep alloc source escalate o) := by
  cases o with
  | literal out bytes =>
    have backs : s.books.Backs s.outstanding ((ByteString.literal source bytes).holdings + s.holdings) := by
      rw [ByteString.holdings, zero_add]
      exact h.backs
    exact .some (balanced_keepString h.tidy out backs)
  | ofBytes out bytes => exact balanced_answerString h _ _ _ _ (ByteString.yields_ofBytes alloc source bytes)
  | ofInt out v => exact balanced_answerString h _ _ _ _ (ByteString.yields_ofBytes alloc source (Decimal.ofInt v))
  | ofByte out b => exact balanced_answerString h _ _ _ _ (ByteString.yields_ofBytes alloc source [b])
  | substring out n start stop =>
    exact .bind fun t _ => balanced_answerString h _ _ _ _ (t.yields_substring alloc start stop)
  | concat out n m =>
    refine .bind fun t _ => .bind fun u _ => ?_
    rcases computed : t.concat alloc u s.books with ⟨stop | r, after⟩
    · exact .some (balanced_withBooks h.tidy ((t.yields_concat alloc u).failed h.backs computed))
    · exact .some (balanced_keepString h.tidy out ((t.yields_concat alloc u).made h.backs computed))
  | replace out n needle insert limit =>
    exact .bind fun t _ => .bind fun needle _ => .bind fun insert _ =>
      balanced_answerString h _ _ _ _ (t.yields_replace alloc needle insert limit)
  | clone out n =>
    exact .bind fun t _ => balanced_answerString h _ _ _ _ (ByteString.yields_ofBytes alloc t.source t.bytes)
  | format out n args =>
    exact .bind fun t _ => .bind fun array _ => .bind fun args _ =>
      balanced_answerString h _ _ _ _ (t.yields_format alloc args)
  | toWord n =>
    refine .bind fun t _ => ?_
    cases t.toWord with
    | ok w => exact .some h
    | error f => exact .some h
  | find n m => exact .bind fun t _ => .bind fun u _ => .some h
  | contains n m => exact .bind fun t _ => .bind fun u _ => .some h
  | same n m => exact .bind fun t _ => .bind fun u _ => .some h
  | describe n => exact .bind fun t _ => .some h
  | delete n =>
    refine .bind fun t found => .some ⟨⟨h.tidy.strings.erase n, h.tidy.arrays, h.tidy.vectors, h.tidy.direct⟩, ?_⟩
    have shared : s.holdings = t.holdings + ({ s with strings := s.strings.erase n } : Session).holdings := by
      simp only [holdings, Shelf.held_of_get? _ h.tidy.strings found]
      abel
    exact t.frees_release _ _ _ (shared ▸ h.backs)

theorem balanced_arrayStep (h : s.Balanced) (source : Source) (escalate : Bool) (o : ArrayOperation) :
    LeavesBalanced (s.arrayStep alloc source escalate o) := by
  cases o with
  | zeros element out capacity =>
    have zeros := FixedArray.yields_zeros alloc source element capacity
    simp only [arrayStep]
    rcases computed : FixedArray.zeros alloc source element (Cell.zero element) capacity s.books with ⟨f | a, after⟩
    · exact .some (balanced_withBooks h.tidy (zeros.failed h.backs computed))
    · exact .some (balanced_keepArray h.tidy out (zeros.made h.backs computed))
  | ofValues element out values =>
    refine .bind fun taken found => ?_
    obtain ⟨cells, strings⟩ := taken
    obtain ⟨tidyStrings, moved⟩ := takeOperands_spec h.tidy.strings found
    have tidy : ({ s with strings := strings } : Session).Tidy :=
      ⟨tidyStrings, h.tidy.arrays, h.tidy.vectors, h.tidy.direct⟩
    have shared : s.holdings = cellHoldings cells + ({ s with strings := strings } : Session).holdings := by
      simp only [holdings, moved]
      abel
    have ofList := FixedArray.yields_ofList alloc source element cells
    have backs := shared ▸ h.backs
    simp only
    rcases computed : FixedArray.ofList alloc source element cells s.books with ⟨f | a, after⟩
    · exact .some (balanced_withBooks tidy (Frees.foldl Cell.frees_release cells _ _ _ (ofList.failed backs computed)))
    · refine .some (balanced_keepArray tidy out ?_)
      rw [FixedArray.holdings_of_ofList computed, add_assoc]
      exact ofList.made backs computed
  | get n index =>
    refine .bind fun a _ => ?_
    cases a.get index with
    | ok c => exact .some h
    | error f => exact .some h
  | set n index operand =>
    refine .bind fun a found => .bind fun taken moved => ?_
    obtain ⟨c, strings⟩ := taken
    obtain ⟨tidyStrings, shared⟩ := takeOperand_spec h.tidy.strings moved
    simp only
    cases written : a.set index c with
    | ok r =>
      obtain ⟨b, old⟩ := r
      refine .some ⟨⟨tidyStrings, h.tidy.arrays.put n b, h.tidy.vectors, h.tidy.direct⟩,
        Frees.foldl Cell.frees_release old.toList _ _ _ ?_⟩
      have swapped := FixedArray.holdings_of_set written
      have regrouped : s.holdings = cellHoldings old.toList +
          ({ s with strings := strings, arrays := s.arrays.put n b } : Session).holdings := by
        simp only [holdings, Shelf.held_put, shared, Shelf.held_of_get? FixedArray.holdings h.tidy.arrays found]
        -- the array and the new cell hold together what the changed array and the old cell hold
        calc
          _ = (a.holdings + c.holdings) + (strings.held ByteString.holdings +
              (s.arrays.erase n).held FixedArray.holdings + s.vectors.held CappedVector.holdings) := by abel
          _ = _ := by
            rw [← swapped]
            abel
      exact regrouped ▸ h.backs
    | error f =>
      refine .some ⟨⟨tidyStrings, h.tidy.arrays, h.tidy.vectors, h.tidy.direct⟩, c.frees_release _ _ _ ?_⟩
      have regrouped : s.holdings = c.holdings + ({ s with strings := strings } : Session).holdings := by
        simp only [holdings, shared]
        abel
      exact regrouped ▸ h.backs
  | describe n => exact .bind fun a _ => .some h
  | delete n =>
    refine .bind fun a found => .some ⟨⟨h.tidy.strings, h.tidy.arrays.erase n, h.tidy.vectors, h.tidy.direct⟩, ?_⟩
    have shared : s.holdings = a.holdings + ({ s with arrays := s.arrays.erase n } : Session).holdings := by
      simp only [holdings, Shelf.held_of_get? FixedArray.holdings h.tidy.arrays found]
      abel
    exact a.frees_release _ _ _ (shared ▸ h.backs)

/-- A cell is held by the vector once it is pushed, and by nothing if it is not. -/
theorem backs_pushCell {v w : CappedVector Cell} {c : Cell} {books after : Books} {direct : Source → Nat}
    {rest : Multiset Holding} {r : Except PushStop Unit} (backs : books.Backs direct (v.holdings + (c.holdings + rest)))
    (h : pushCell alloc v c books = (r, w, after)) : after.Backs direct (w.holdings + rest) := by
  rw [pushCell] at h
  rcases pushed : v.push alloc c books with ⟨stop | ⟨⟩, u, middle⟩
  · simp only [pushed] at h
    cases h
    have both : middle.Backs direct (w.holdings + (c.holdings + rest)) := CappedVector.backs_push backs pushed
    exact c.frees_release _ _ _ (by rwa [add_left_comm] at both)
  · simp only [pushed] at h
    cases h
    exact CappedVector.backs_push backs pushed

theorem yields_rangeCell (source : Source) (element : ElementType) (v : Int) :
    Yields Cell.holdings fun books => rangeCell alloc source element v books := by
  by_cases text : element = .string
  · subst text
    refine yields_of_reserve alloc source .byte (Decimal.ofInt v).length id
      (fun b => .string (.owned b (Decimal.ofInt v))) (fun _ => .refl) .refl (fun _ => rfl) fun books => ?_
    simp only [rangeCell, ByteString.ofInt, ByteString.ofBytes]
    rcases Block.reserve alloc source .byte (Decimal.ofInt v).length books with ⟨_ | _, _⟩ <;> rfl
  · have plain : ∀ books, rangeCell alloc source element v books = (.ok (element.truncate v), books) := by
      intro books
      cases element <;> first | rfl | exact absurd rfl text
    have nothing : (element.truncate v).holdings = 0 := by cases element <;> rfl
    refine ⟨fun backs made => ?_, fun backs failed => ?_⟩
    · rw [plain] at made
      cases made
      rwa [nothing, zero_add]
    · rw [plain] at failed
      cases failed

/-- A run of pushes: each number's cell is made, pushed, and then held by the vector. -/
theorem backs_pushNumbers (source : Source) (remaining : Nat) (next : Int) (run : PushRun) {books : Books}
    {direct : Source → Nat} {rest : Multiset Holding} (backs : books.Backs direct (run.vector.holdings + rest)) :
    (pushNumbers alloc source remaining next run books).2.Backs direct
      ((pushNumbers alloc source remaining next run books).1.vector.holdings + rest) := by
  induction remaining generalizing next run books with
  | zero => exact backs
  | succ remaining ih =>
    have cell := yields_rangeCell alloc source run.vector.element next
    rw [pushNumbers]
    rcases computed : rangeCell alloc source run.vector.element next books with ⟨f | c, middle⟩
    · exact cell.failed backs computed
    · have more := cell.made backs computed
      rw [add_left_comm] at more
      simp only
      rcases pushed : pushCell alloc run.vector c middle with ⟨stop | ⟨⟩, v, after⟩
      · exact backs_pushCell alloc more pushed
      · exact ih _ _ (backs_pushCell alloc more pushed)

theorem balanced_vectorStep (h : s.Balanced) (source : Source) (escalate : Bool) (o : VectorOperation) :
    LeavesBalanced (s.vectorStep alloc source escalate o) := by
  cases o with
  | create element out =>
    have create := CappedVector.yields_create alloc source element
    simp only [vectorStep]
    rcases computed : CappedVector.create alloc source element s.books with ⟨f | v, after⟩
    · exact .some (balanced_withBooks h.tidy (create.failed h.backs computed))
    · exact .some (balanced_keepVector h.tidy out (create.made h.backs computed))
  | push n operand =>
    refine .bind fun v found => .bind fun taken moved => ?_
    obtain ⟨c, strings⟩ := taken
    obtain ⟨tidyStrings, shared⟩ := takeOperand_spec h.tidy.strings moved
    simp only
    rcases pushed : pushCell alloc v c s.books with ⟨done, w, books⟩
    have regrouped : s.holdings = v.holdings + (c.holdings + (strings.held ByteString.holdings +
        s.arrays.held FixedArray.holdings + (s.vectors.erase n).held CappedVector.holdings)) := by
      simp only [holdings, shared, Shelf.held_of_get? CappedVector.holdings h.tidy.vectors found]
      abel
    have backs := backs_pushCell alloc (regrouped ▸ h.backs) pushed
    have balanced :
        ({ s with strings := strings, vectors := s.vectors.put n w, books := books } : Session).Balanced := by
      refine ⟨⟨tidyStrings, h.tidy.arrays, h.tidy.vectors.put n w, h.tidy.direct⟩, ?_⟩
      simp only [holdings, Shelf.held_put]
      rwa [add_left_comm] at backs
    rcases done with (_ | f) | ⟨⟩ <;> exact .some balanced
  | pushRange n start count =>
    refine .bind fun v found => .some ⟨⟨h.tidy.strings, h.tidy.arrays, h.tidy.vectors.put n _, h.tidy.direct⟩, ?_⟩
    have regrouped : s.holdings = v.holdings + (s.strings.held ByteString.holdings +
        s.arrays.held FixedArray.holdings + (s.vectors.erase n).held CappedVector.holdings) := by
      simp only [holdings, Shelf.held_of_get? CappedVector.holdings h.tidy.vectors found]
      abel
    have backs := backs_pushNumbers alloc source count.toNat start ⟨v, 0, [v.capacity], none⟩ (regrouped ▸ h.backs)
    simp only [holdings, Shelf.held_put]
    rwa [add_left_comm] at backs
  | get n index =>
    refine .bind fun v _ => ?_
    cases v.get index with
    | ok c => exact .some h
    | error f => exact .some h
  | describe n => exact .bind fun v _ => .some h
  | delete n =>
    refine .bind fun v found => .some ⟨⟨h.tidy.strings, h.tidy.arrays, h.tidy.vectors.erase n, h.tidy.direct⟩, ?_⟩
    have shared : s.holdings = v.holdings + ({ s with vectors := s.vectors.erase n } : Session).holdings := by
      simp only [holdings, Shelf.held_of_get? CappedVector.holdings h.tidy.vectors found]
      abel
    exact v.frees_release _ _ _ (shared ▸ h.backs)

theorem balanced_directStep (h : s.Balanced) {index : Nat} {source : Source} (place : s.sources[index]? = some source)
    (escalate : Bool) (o : DirectOperation) : LeavesBalanced (s.directStep index source escalate o) := by
  obtain ⟨before, found⟩ : ∃ before, s.direct[index]? = some before := by
    obtain ⟨bound, _⟩ := List.getElem?_eq_some_iff.mp place
    exact ⟨_, List.getElem?_eq_getElem (h.tidy.direct ▸ bound)⟩
  have direct : ∀ after, (s.direct.set index after).length = s.sources.length := fun after => by
    rw [List.length_set, h.tidy.direct]
  cases o with
  | acquire bytes =>
    simp only [directStep]
    rcases taken : s.books.acquire source bytes with ⟨f | ⟨⟩, books⟩
    · exact .some (balanced_withBooks h.tidy (h.backs.acquire_error taken))
    · have set : s.direct.modify index (· + bytes) = s.direct.set index (before + bytes) := by
        rw [List.modify_eq_set_getElem?, found]
        rfl
      have backs := h.backs.acquire_ok taken
      rw [outstanding, ← directOn_set_add _ _ index source before bytes place found] at backs
      simp only [set]
      exact .some ⟨⟨h.tidy.strings, h.tidy.arrays, h.tidy.vectors, direct _⟩, backs⟩
  | giveBack bytes =>
    refine .bind fun held found' => ?_
    obtain rfl : before = held := Option.some.inj (found.symm.trans found')
    split
    · rename_i covered
      obtain ⟨bound, last⟩ := List.getElem?_eq_some_iff.mp found
      -- what was outstanding is what remains with the bytes put back
      have less : s.outstanding =
          Books.plus (directOn s.sources (s.direct.set index (before - bytes))) source bytes := by
        rw [← directOn_set_add _ _ index source (before - bytes) bytes place (List.getElem?_set_self bound),
          List.set_set, Nat.sub_add_cancel covered, ← last, List.set_getElem_self]
        rfl
      have backs := h.backs
      rw [less] at backs
      exact .some ⟨⟨h.tidy.strings, h.tidy.arrays, h.tidy.vectors, direct _⟩, backs.credit⟩
    · exact .none

theorem balanced_step (h : s.Balanced) (request : Option Request) : (s.step alloc request).2.Balanced := by
  have answered : LeavesBalanced (request.bind (s.perform? alloc)) := by
    refine .bind fun request _ => .bind fun source place => ?_
    cases request.operation with
    | direct o => exact balanced_directStep h place request.escalate o
    | string o => exact balanced_stringStep alloc h source request.escalate o
    | array o => exact balanced_arrayStep alloc h source request.escalate o
    | vector o => exact balanced_vectorStep alloc h source request.escalate o
  rw [step]
  split
  · rename_i result performed
    exact answered _ _ performed
  · exact h

theorem balanced_run (alloc : Allocator) (limits : List (Option Nat)) (requests : List (Option Request)) :
    ((start limits).run alloc requests).2.Balanced :=
  run_induction alloc (P := Balanced) (fun _ request h => balanced_step alloc h request) _ requests
    (balanced_start limits)

/-- When all values are released, only the direct dealings are owed. -/
theorem backs_close (h : s.Balanced) : s.close.Backs s.outstanding 0 := by
  have strings := Frees.foldl ByteString.frees_release s.strings.values
  have arrays := Frees.foldl FixedArray.frees_release s.arrays.values
  have vectors := Frees.foldl CappedVector.frees_release s.vectors.values
  refine ((strings.comp arrays).comp vectors) s.books s.outstanding 0 ?_
  rw [add_zero]
  exact h.backs

theorem length_ledgers_close (s : Session) : s.close.ledgers.length = s.books.ledgers.length := by
  have scripted : ScriptedEdit fun books => (s.withBooks books).close :=
    (ScriptedEdit.foldl (CappedVector.scripted_release Cell.scripted_release) s.vectors.values).comp
      ((ScriptedEdit.foldl (FixedArray.scripted_release Cell.scripted_release) s.arrays.values).comp
        (ScriptedEdit.foldl ByteString.scripted_release s.strings.values))
  have related : s.books.Related (fun l l' => l.peak ≤ l'.peak) s.close :=
    scripted.related Ledger.persistent_peak s.books
  exact related.length_eq

/-- Each of so many budgets has in use exactly what is owed to it, and was never given back more than was in use. -/
def Settled (count : Nat) (books : Books) (owed : Source → Nat) : Prop :=
  books.ledgers.length = count ∧
    ∀ i l, books.ledgers[i]? = some l → l.inUse = owed (.budget i) ∧ l.overdrawn = 0

/-- What a session owes a source: direct dealings, and the blocks of live values. -/
def owed (s : Session) (source : Source) : Nat := s.outstanding source + charge s.holdings source

theorem Balanced.settled (h : s.Balanced) {count : Nat} (length : s.books.ledgers.length = count) :
    Settled count s.books s.owed :=
  ⟨length, fun i l found => ⟨h.backs.inUse (.budget i) l found, h.backs.covered (.budget i) l found⟩⟩

theorem Balanced.settled_close (h : s.Balanced) {count : Nat} (length : s.books.ledgers.length = count) :
    Settled count s.close s.outstanding :=
  ⟨s.length_ledgers_close.trans length, fun i l found =>
    ⟨(backs_close h).inUse (.budget i) l found, (backs_close h).covered (.budget i) l found⟩⟩

/-- The ledgers are exact over whole runs. After every request each budget has in use what was taken from it directly
and not given back, and the slots of every live block from it at their registered size. Once all values are released,
also where the run was cut short, only the direct dealings are left, and no release ever took more than was in use. -/
theorem settled_run (alloc : Allocator) (limits : List (Option Nat)) (requests : List (Option Request)) :
    (∀ k p, ((start limits).run alloc requests).1[k]? = some p →
      Settled (limits.filterMap id).length p.2 ((start limits).run alloc (requests.take (k + 1))).2.owed) ∧
    Settled (limits.filterMap id).length ((start limits).run alloc requests).2.books
      ((start limits).run alloc requests).2.owed ∧
    Settled (limits.filterMap id).length ((start limits).run alloc requests).2.close
      ((start limits).run alloc requests).2.outstanding := by
  have balanced := fun requests => balanced_run alloc limits requests
  have length := fun requests => length_ledgers_run alloc limits requests
  refine ⟨fun k p found => ?_, (balanced requests).settled (length requests),
    (balanced requests).settled_close (length requests)⟩
  rw [books_eq_of_getElem? alloc (start limits) requests k p found]
  exact (balanced _).settled (length _)

end Session

end Quota
