import Mathlib.Logic.Relation
import Quota.Proofs.Filling
import Quota.Proofs.Runs

set_option autoImplicit false

/-!
# No block of a session is overfilled

After every request of a session the strings and arrays fill their blocks exactly, the vectors have room for their
elements, and every block was charged as it stands. So each request finds the lengths that it counts on: the runs that
it copies fit into the block that it reserved for them, one after another.
-/
namespace Quota

namespace Shelf

variable {α : Type} {P : α → Prop} {shelf : Shelf α}

def All (P : α → Prop) (shelf : Shelf α) : Prop := ∀ p ∈ shelf, P p.2

theorem All.of_get? (h : shelf.All P) {name : String} {x : α} (found : shelf.get? name = some x) : P x := by
  induction shelf with
  | nil => cases found
  | cons p rest ih =>
    obtain ⟨n, y⟩ := p
    rw [get?] at found
    split at found
    · cases found
      exact h (n, x) List.mem_cons_self
    · exact ih (fun q member => h q (List.mem_cons_of_mem _ member)) found

theorem All.erase (h : shelf.All P) (name : String) : (shelf.erase name).All P :=
  fun p member => h p (List.mem_of_mem_filter member)

theorem All.put (h : shelf.All P) (name : String) {x : α} (hx : P x) : (shelf.put name x).All P := by
  intro p member
  rcases List.mem_cons.mp member with rfl | kept
  · exact hx
  · exact h.erase name p kept

theorem get?_put_self (shelf : Shelf α) (name : String) (x : α) : (shelf.put name x).get? name = some x := by
  rw [get?_put, if_pos rfl]

end Shelf

/-- A literal of the request has a length that every word can hold, as every text in memory has. -/
def Request.Countable (request : Request) : Prop :=
  match request.operation with
  | .string (.literal _ bytes) => (bytes.length : Int) ≤ maxWord
  | _ => True

namespace Session

/-- Every live value fills its block as its kind demands. -/
structure Filled (s : Session) : Prop where
  strings : s.strings.All ByteString.Filled
  arrays : s.arrays.All FixedArray.Filled
  vectors : s.vectors.All CappedVector.Filled

/-- The runs that a string operation copies into the block of its result, in their order. -/
def copies (s : Session) : StringOperation → Option (List (List UInt8))
  | .ofBytes _ bytes => some [bytes]
  | .ofInt _ v => some [Decimal.ofInt v]
  | .ofByte _ b => some [[b]]
  | .substring _ n start stop => do
    let t ← s.strings.get? n
    some [(t.bytes.drop start.toNat).take (stop - start).toNat]
  | .concat _ n m => do
    let t ← s.strings.get? n
    let u ← s.strings.get? m
    some [t.bytes, u.bytes]
  | .replace _ n needle insert limit => do
    let t ← s.strings.get? n
    let needle ← s.strings.get? needle
    let insert ← s.strings.get? insert
    some (Search.pieces insert.bytes needle.length 0 t.bytes (Search.leftmost t.bytes needle.bytes limit))
  | .clone _ n => do
    let t ← s.strings.get? n
    some [t.bytes]
  | .format _ n args => do
    let t ← s.strings.get? n
    let array ← s.arrays.get? args
    let args ← stringArray? array
    some (t.bytes :: args.toList.map ByteString.bytes)
  | _ => none

/-- One push after another, each of a cell that fills its own block and found room in the vector's. -/
def Pushes : CappedVector Cell → CappedVector Cell → Prop :=
  Relation.ReflTransGen fun v w => ∃ c, c.Filled ∧ v.Puts c w

/-- What a request put into blocks found room there, and is what the values have that it made or changed. -/
def Fits (s : Session) : Operation → Reply → Session → Prop
  | .string o, .answer (.string (.owned b bytes)), _ =>
    ∃ runs, s.copies o = some runs ∧ Block.fill? b.slots [] runs = some bytes
  | .array (.zeros element out capacity), .answer _, after =>
    ∃ a, after.arrays.get? out = some a ∧
      Block.fill? a.block.slots [] (List.replicate capacity.toNat [Cell.zero element]) = some a.toList
  | .array (.ofValues element out operands), .answer _, after =>
    ∃ cells rest a, takeOperands element s.strings operands = some (cells, rest) ∧ after.arrays.get? out = some a ∧
      Block.fill? a.block.slots [] (cells.map ([·])) = some a.toList
  | .vector (.push n operand), .answer _, after =>
    ∃ v c rest w, s.vectors.get? n = some v ∧ takeOperand v.element s.strings operand = some (c, rest) ∧
      after.vectors.get? n = some w ∧ v.Puts c w
  | .vector (.pushRange n _ _), _, after =>
    ∃ v w, s.vectors.get? n = some v ∧ after.vectors.get? n = some w ∧ Pushes v w
  | _, _, _ => True

/-- A request that is not rejected leaves a session whose values fill their blocks, and overfilled none. -/
def LeavesFilled (s : Session) (o : Operation) (r : Option (Reply × Session)) : Prop :=
  ∀ reply after, r = some (reply, after) → after.Filled ∧ s.Fits o reply after

namespace LeavesFilled

variable {s : Session} {o : Operation}

theorem none : s.LeavesFilled o none := fun _ _ h => by cases h

theorem some {reply : Reply} {after : Session} (filled : after.Filled) (fits : s.Fits o reply after) :
    s.LeavesFilled o (some (reply, after)) := by
  intro reply' after' same
  cases same
  exact ⟨filled, fits⟩

theorem bind {α : Type} {x : Option α} {f : α → Option (Reply × Session)}
    (h : ∀ a, x = Option.some a → s.LeavesFilled o (f a)) : s.LeavesFilled o (x.bind f) := by
  cases found : x with
  | none => exact .none
  | some a => exact h a found

end LeavesFilled

variable {s : Session}

theorem Filled.withBooks (h : s.Filled) (books : Books) : (s.withBooks books).Filled := ⟨h.strings, h.arrays, h.vectors⟩

theorem filled_keepString (h : s.Filled) (out : String) {t : ByteString} (ht : t.Filled) (books : Books) :
    (s.keepString out t books).Filled := by
  rw [← s.withBooks_books, keepString_eq]
  exact ⟨h.strings.put out ht, h.arrays, h.vectors⟩

theorem filled_keepArray (h : s.Filled) (out : String) {a : FixedArray Cell} (ha : a.Filled) (books : Books) :
    (s.keepArray out a books).Filled ∧ (s.keepArray out a books).arrays.get? out = some a := by
  rw [← s.withBooks_books, keepArray_eq]
  exact ⟨⟨h.strings, h.arrays.put out ha, h.vectors⟩, Shelf.get?_put_self s.arrays out a⟩

theorem filled_keepVector (h : s.Filled) (out : String) {v : CappedVector Cell} (hv : v.Filled) (books : Books) :
    (s.keepVector out v books).Filled := by
  rw [← s.withBooks_books, keepVector_eq]
  exact ⟨h.strings, h.arrays, h.vectors.put out hv⟩

theorem fits_string_fault (o : StringOperation) (escalate : Bool) (set : FaultSet) (f : Fault) (after : Session) :
    s.Fits (.string o) (refusal escalate set f) after := by
  cases escalate <;> trivial

theorem leavesFilled_answerString {ε : Type} (h : s.Filled) {o : StringOperation} (escalate : Bool) (set : FaultSet)
    (toFault : ε → Fault) (out : String) {runs : List (List UInt8)} {c : Except ε ByteString × Books}
    (copied : s.copies o = some runs) (fills : ByteString.Fills runs c) :
    s.LeavesFilled (.string o) (some (s.answerString escalate set toFault out c)) := by
  rcases c with ⟨e | t, books⟩
  · exact .some (h.withBooks books) (fits_string_fault o escalate set (toFault e) _)
  · have filled := fills t rfl
    have kept := filled_keepString h out filled.filled books
    obtain ⟨b, bytes, rfl, full⟩ := filled
    exact .some kept ⟨runs, copied, full.fits⟩

theorem length_le_of_stringArray? {a : FixedArray Cell} {strings : FixedArray ByteString} (ha : a.Filled)
    (h : stringArray? a = some strings) : ∀ t ∈ strings.toList, (t.length : Int) ≤ maxWord := by
  rw [stringArray?] at h
  split at h
  · cases h
    intro t member
    rw [FixedArray.toList, FixedArray.map, Rows.toList_map] at member
    obtain ⟨c, inside, rfl⟩ := List.mem_map.mp member
    have filled := ha.cells c inside
    cases c with
    | string t => exact filled.length_le
    | number v => exact ByteString.filled_empty.length_le
    | flag b => exact ByteString.filled_empty.length_le
  · cases h

variable {alloc : Allocator} (countable : alloc.Countable)
include countable

theorem leavesFilled_stringStep (h : s.Filled) (source : Source) (escalate : Bool) (o : StringOperation)
    (measured : ∀ out bytes, o = .literal out bytes → (bytes.length : Int) ≤ maxWord) :
    s.LeavesFilled (.string o) (s.stringStep alloc source escalate o) := by
  cases o with
  | literal out bytes =>
    have filled : (ByteString.literal source bytes).Filled := measured out bytes rfl
    exact .some (filled_keepString h out filled s.books) trivial
  | ofBytes out bytes =>
    exact leavesFilled_answerString h _ _ _ _ rfl (ByteString.fills_ofBytes s.books countable source bytes)
  | ofInt out v =>
    exact leavesFilled_answerString h _ _ _ _ rfl (ByteString.fills_ofBytes s.books countable source (Decimal.ofInt v))
  | ofByte out b =>
    exact leavesFilled_answerString h _ _ _ _ rfl (ByteString.fills_ofBytes s.books countable source [b])
  | substring out n start stop =>
    refine .bind fun t found => ?_
    have copied : s.copies (.substring out n start stop) =
        some [(t.bytes.drop start.toNat).take (stop - start).toNat] := by
      rw [copies, found]
      rfl
    exact leavesFilled_answerString h _ _ _ _ copied (t.fills_substring s.books countable start stop)
  | concat out n m =>
    refine .bind fun t first => .bind fun u second => ?_
    have copied : s.copies (.concat out n m) = some [t.bytes, u.bytes] := by
      rw [copies, first, second]
      rfl
    -- a concatenation may abort, so that `answerString` does not answer it
    have fills := ByteString.fills_concat s.books countable (h.strings.of_get? first) (h.strings.of_get? second)
    rcases computed : t.concat alloc u s.books with ⟨stop | r, books⟩
    · exact .some (h.withBooks books) trivial
    · have filled := fills r (congrArg Prod.fst computed)
      have kept := filled_keepString h out filled.filled books
      obtain ⟨b, bytes, rfl, full⟩ := filled
      exact .some kept ⟨_, copied, full.fits⟩
  | replace out n needle insert limit =>
    refine .bind fun t first => .bind fun u second => .bind fun v third => ?_
    have copied : s.copies (.replace out n needle insert limit) =
        some (Search.pieces v.bytes u.length 0 t.bytes (Search.leftmost t.bytes u.bytes limit)) := by
      rw [copies, first, second, third]
      rfl
    exact leavesFilled_answerString h _ _ _ _ copied
      (ByteString.fills_replace s.books countable (h.strings.of_get? first) u v limit)
  | clone out n =>
    refine .bind fun t found => ?_
    have copied : s.copies (.clone out n) = some [t.bytes] := by
      rw [copies, found]
      rfl
    exact leavesFilled_answerString h _ _ _ _ copied (ByteString.fills_ofBytes s.books countable t.source t.bytes)
  | format out n args =>
    refine .bind fun t found => .bind fun array listed => .bind fun strings same => ?_
    have copied : s.copies (.format out n args) = some (t.bytes :: strings.toList.map ByteString.bytes) := by
      rw [copies, found, listed]
      exact congrArg (Option.bind · _) same
    exact leavesFilled_answerString h _ _ _ _ copied
      (ByteString.fills_format s.books countable (h.strings.of_get? found)
        (length_le_of_stringArray? (h.arrays.of_get? listed) same))
  | toWord n =>
    refine .bind fun t _ => ?_
    cases t.toWord with
    | ok w => exact .some h trivial
    | error f => exact .some h (fits_string_fault _ _ _ _ _)
  | find n m => exact .bind fun t _ => .bind fun u _ => .some h trivial
  | contains n m => exact .bind fun t _ => .bind fun u _ => .some h trivial
  | same n m => exact .bind fun t _ => .bind fun u _ => .some h trivial
  | describe n => exact .bind fun t _ => .some h trivial
  | delete n => exact .bind fun t _ => .some ⟨h.strings.erase n, h.arrays, h.vectors⟩ trivial

omit countable in
theorem filled_of_takeOperand {element : ElementType} {strings rest : Shelf ByteString} {operand : Operand} {c : Cell}
    (h : strings.All ByteString.Filled) (taken : takeOperand element strings operand = some (c, rest)) :
    c.Filled ∧ rest.All ByteString.Filled := by
  cases operand with
  | number v =>
    rw [takeOperand] at taken
    split at taken <;> cases taken
    exact ⟨trivial, h⟩
  | flag b =>
    rw [takeOperand] at taken
    split at taken <;> cases taken
    exact ⟨trivial, h⟩
  | name n =>
    rw [takeOperand] at taken
    split at taken
    · split at taken
      · rename_i t found
        cases taken
        exact ⟨h.of_get? found, h.erase n⟩
      · cases taken
    · cases taken

omit countable in
theorem filled_of_takeOperands {element : ElementType} {operands : List Operand} {strings rest : Shelf ByteString}
    {cells : List Cell} (h : strings.All ByteString.Filled)
    (taken : takeOperands element strings operands = some (cells, rest)) :
    (∀ c ∈ cells, c.Filled) ∧ rest.All ByteString.Filled := by
  induction operands generalizing strings cells with
  | nil =>
    cases taken
    exact ⟨fun c member => absurd member List.not_mem_nil, h⟩
  | cons operand operands ih =>
    rw [takeOperands] at taken
    split at taken
    · cases taken
    · rename_i c middle first
      split at taken
      · cases taken
      · rename_i others after more
        cases taken
        obtain ⟨hc, kept⟩ := filled_of_takeOperand h first
        obtain ⟨others, left⟩ := ih kept more
        exact ⟨List.forall_mem_cons.mpr ⟨hc, others⟩, left⟩

theorem leavesFilled_arrayStep (h : s.Filled) (source : Source) (escalate : Bool) (o : ArrayOperation) :
    s.LeavesFilled (.array o) (s.arrayStep alloc source escalate o) := by
  cases o with
  | zeros element out capacity =>
    rw [arrayStep]
    rcases computed : FixedArray.zeros alloc source element (Cell.zero element) capacity s.books with ⟨f | a, books⟩
    · exact .some (h.withBooks books) (by cases escalate <;> trivial)
    · obtain ⟨rfl, filledBy⟩ := FixedArray.filledBy_of_zeros countable computed
      have cells : ∀ c ∈ (List.replicate capacity.toNat [Cell.zero a.element]).flatten, c.Filled := by
        intro c member
        rw [List.flatten_replicate_singleton] at member
        rw [List.eq_of_mem_replicate member]
        exact Cell.filled_zero a.element
      obtain ⟨filled, kept⟩ := filled_keepArray h out (FixedArray.filled_of_filledBy filledBy cells) books
      exact .some filled ⟨a, kept, filledBy.fits⟩
  | ofValues element out values =>
    refine .bind fun taken found => ?_
    obtain ⟨cells, strings⟩ := taken
    obtain ⟨hcells, left⟩ := filled_of_takeOperands h.strings found
    have moved : ({ s with strings := strings } : Session).Filled := ⟨left, h.arrays, h.vectors⟩
    simp only
    rcases computed : FixedArray.ofList alloc source element cells s.books with ⟨f | a, books⟩
    · exact .some (moved.withBooks _) (by cases escalate <;> trivial)
    · obtain ⟨rfl, filledBy⟩ := FixedArray.filledBy_of_ofList countable computed
      have joined : (cells.map ([·])).flatten = cells := FixedArray.flatten_singletons cells
      obtain ⟨filled, kept⟩ := filled_keepArray moved out
        (FixedArray.filled_of_filledBy filledBy (joined.symm ▸ hcells)) books
      exact .some filled ⟨cells, strings, a, found, kept, filledBy.fits⟩
  | get n index =>
    refine .bind fun a _ => ?_
    cases a.get index with
    | ok c => exact .some h trivial
    | error f => exact .some h (by cases escalate <;> trivial)
  | set n index operand =>
    refine .bind fun a found => .bind fun taken moved => ?_
    obtain ⟨c, strings⟩ := taken
    obtain ⟨hc, left⟩ := filled_of_takeOperand h.strings moved
    simp only
    cases written : a.set index c with
    | ok r =>
      obtain ⟨b, old⟩ := r
      have filled := FixedArray.filled_of_set (h.arrays.of_get? found) hc written
      exact .some ⟨left, h.arrays.put n filled, h.vectors⟩ trivial
    | error f => exact .some ⟨left, h.arrays, h.vectors⟩ (by cases escalate <;> trivial)
  | describe n => exact .bind fun a _ => .some h trivial
  | delete n => exact .bind fun a _ => .some ⟨h.strings, h.arrays.erase n, h.vectors⟩ trivial

theorem filled_of_pushCell {v w : CappedVector Cell} {c : Cell} {books after : Books} {r : Except PushStop Unit}
    (hv : v.Filled) (hc : c.Filled) (h : pushCell alloc v c books = (r, w, after)) :
    w.Filled ∧ ((r = .ok () ∧ v.Puts c w) ∨ (r ≠ .ok () ∧ w = v)) := by
  rw [pushCell] at h
  rcases pushed : v.push alloc c books with ⟨stop | ⟨⟩, u, middle⟩
  · simp only [pushed] at h
    cases h
    obtain rfl := CappedVector.eq_of_push_error pushed
    exact ⟨hv, .inr ⟨by rintro ⟨⟩, rfl⟩⟩
  · simp only [pushed] at h
    cases h
    exact ⟨CappedVector.filled_of_push countable hv hc pushed,
      .inl ⟨rfl, CappedVector.puts_of_push hv.positive hv.within pushed⟩⟩

theorem filled_of_rangeCell {source : Source} {element : ElementType} {v : Int} {c : Cell} {books after : Books}
    (h : rangeCell alloc source element v books = (.ok c, after)) : c.Filled := by
  cases element with
  | string =>
    rw [rangeCell] at h
    rcases made : ByteString.ofInt alloc source v books with ⟨f | t, middle⟩
    · simp [made] at h
    · simp only [made, Prod.mk.injEq, Except.ok.injEq] at h
      obtain ⟨rfl, _⟩ := h
      exact (ByteString.fills_ofBytes books countable source (Decimal.ofInt v) t (congrArg Prod.fst made)).filled
  | word | byte | flag | int32 | nat32 | nat64 =>
    cases h
    exact ElementType.filled_truncate _ v

theorem filled_of_pushNumbers (source : Source) (remaining : Nat) (next : Int) (run : PushRun) (books : Books)
    (h : run.vector.Filled) :
    (pushNumbers alloc source remaining next run books).1.vector.Filled ∧
      Pushes run.vector (pushNumbers alloc source remaining next run books).1.vector := by
  induction remaining generalizing next run books with
  | zero => exact ⟨h, .refl⟩
  | succ remaining ih =>
    rw [pushNumbers]
    rcases computed : rangeCell alloc source run.vector.element next books with ⟨f | c, middle⟩
    · exact ⟨h, .refl⟩
    · simp only
      have hc := filled_of_rangeCell countable computed
      -- a push that fails ends the run with the vector it found
      rcases pushed : pushCell alloc run.vector c middle with ⟨stop | ⟨⟩, v, after⟩
      · obtain ⟨filled, ⟨⟨⟩, _⟩ | ⟨_, same⟩⟩ := filled_of_pushCell countable h hc pushed
        exact ⟨filled, same ▸ .refl⟩
      · obtain ⟨filled, ⟨_, puts⟩ | ⟨failed, _⟩⟩ := filled_of_pushCell countable h hc pushed
        · obtain ⟨last, later⟩ := ih ((next + 1).bmod 18446744073709551616)
            ⟨v, run.pushed + 1, addCapacity run.capacities v.capacity, none⟩ after filled
          exact ⟨last, .head ⟨c, hc, puts⟩ later⟩
        · exact absurd rfl failed

theorem leavesFilled_vectorStep (h : s.Filled) (source : Source) (escalate : Bool) (o : VectorOperation) :
    s.LeavesFilled (.vector o) (s.vectorStep alloc source escalate o) := by
  cases o with
  | create element out =>
    rw [vectorStep]
    rcases computed : CappedVector.create alloc source element s.books with ⟨f | v, books⟩
    · exact .some (h.withBooks books) (by cases escalate <;> trivial)
    · exact .some (filled_keepVector h out (CappedVector.filled_of_create countable computed) books) trivial
  | push n operand =>
    refine .bind fun v found => .bind fun taken moved => ?_
    obtain ⟨c, strings⟩ := taken
    obtain ⟨hc, left⟩ := filled_of_takeOperand h.strings moved
    simp only
    rcases pushed : pushCell alloc v c s.books with ⟨done, w, books⟩
    obtain ⟨filled, outcome⟩ := filled_of_pushCell countable (h.vectors.of_get? found) hc pushed
    have after : ({ s with strings := strings, vectors := s.vectors.put n w, books := books } : Session).Filled :=
      ⟨left, h.arrays, h.vectors.put n filled⟩
    rcases done with (f | _) | ⟨⟩
    · exact .some after (by cases escalate <;> trivial)
    · exact .some after trivial
    · obtain ⟨_, puts⟩ | ⟨failed, _⟩ := outcome
      · exact .some after ⟨v, c, strings, w, found, moved, Shelf.get?_put_self s.vectors n w, puts⟩
      · exact absurd rfl failed
  | pushRange n start count =>
    refine .bind fun v found => ?_
    obtain ⟨filled, pushes⟩ := filled_of_pushNumbers countable source count.toNat start ⟨v, 0, [v.capacity], none⟩
      s.books (h.vectors.of_get? found)
    exact .some ⟨h.strings, h.arrays, h.vectors.put n filled⟩
      ⟨v, _, found, Shelf.get?_put_self s.vectors n _, pushes⟩
  | get n index =>
    refine .bind fun v _ => ?_
    cases v.get index with
    | ok c => exact .some h trivial
    | error f => exact .some h (by cases escalate <;> trivial)
  | describe n => exact .bind fun v _ => .some h trivial
  | delete n => exact .bind fun v _ => .some ⟨h.strings, h.arrays, h.vectors.erase n⟩ trivial

omit countable in
theorem leavesFilled_directStep (h : s.Filled) (index : Nat) (source : Source) (escalate : Bool) (o : DirectOperation) :
    s.LeavesFilled (.direct o) (s.directStep index source escalate o) := by
  cases o with
  | acquire bytes =>
    rw [directStep]
    rcases s.books.acquire source bytes with ⟨f | ⟨⟩, books⟩
    · exact .some (h.withBooks books) trivial
    · exact .some ⟨h.strings, h.arrays, h.vectors⟩ trivial
  | giveBack bytes =>
    refine .bind fun held _ => ?_
    split
    · exact .some ⟨h.strings, h.arrays, h.vectors⟩ trivial
    · exact .none

theorem leavesFilled_perform? (h : s.Filled) (request : Request) (measured : request.Countable) :
    s.LeavesFilled request.operation (s.perform? alloc request) := by
  refine .bind fun source _ => ?_
  rw [Request.Countable] at measured
  cases performed : request.operation with
  | direct o => exact leavesFilled_directStep h request.source source request.escalate o
  | string o =>
    refine leavesFilled_stringStep countable h source request.escalate o ?_
    rintro out bytes rfl
    rwa [performed] at measured
  | array o => exact leavesFilled_arrayStep countable h source request.escalate o
  | vector o => exact leavesFilled_vectorStep countable h source request.escalate o

theorem filled_step (h : s.Filled) (request : Option Request) (measured : ∀ r, request = some r → r.Countable) :
    (s.step alloc request).2.Filled := by
  cases request with
  | none => exact h
  | some request =>
    have leaves := leavesFilled_perform? countable h request (measured request rfl)
    rw [step, Option.bind_some]
    split
    · rename_i result performed
      exact (leaves result.1 result.2 performed).1
    · exact h

theorem filled_run (limits : List (Option Nat)) (requests : List (Option Request))
    (measured : ∀ request, some request ∈ requests → request.Countable) :
    ((start limits).run alloc requests).2.Filled := by
  refine run_induction_of_mem alloc (P := Filled) (fun s request small h => filled_step countable h request small) _
    requests ?_ ⟨?_, ?_, ?_⟩
  · rintro request member r rfl
    exact measured r member
  all_goals
    intro p member
    cases member

/-- No block is ever overfilled. After any run every owned string and every array fills its block exactly and reports
that length, every vector has room for its elements, and every block is charged its slots at their registered size. What
the next request copies or moves finds room in the block that it has for it, run by run, and is what its values have. -/
theorem run_overfills_nothing (limits : List (Option Nat)) (requests : List (Option Request))
    (measured : ∀ request, some request ∈ requests → request.Countable) :
    ((start limits).run alloc requests).2.Filled ∧
      ∀ request reply after, request.Countable →
        ((start limits).run alloc requests).2.perform? alloc request = some (reply, after) →
          ((start limits).run alloc requests).2.Fits request.operation reply after := by
  have filled := filled_run countable limits requests measured
  refine ⟨filled, ?_⟩
  intro request reply after small performed
  exact (leavesFilled_perform? countable filled request small reply after performed).2

omit countable in
theorem countable_machine {handle : Nat} (positive : 0 < handle) : (Allocator.machine handle).Countable := by
  intro earlier element slots granted
  have slot : 0 < Allocator.slotBytes handle element := by
    cases element with
    | string => exact positive
    | word | byte | flag | int32 | nat32 | nat64 => exact Nat.succ_pos _
  have least : slots ≤ slots * Allocator.slotBytes handle element := Nat.le_mul_of_pos_right slots slot
  simp only [Allocator.machine] at granted
  split at granted
  · cases granted
  · rw [maxWord]
    omega

/-- A text on a budget, with a needle and an insertion from the heap. -/
def replaceable : List (Option Request) :=
  [some ⟨1, false, .string (.ofBytes "text" [97, 98, 97, 98])⟩, some ⟨0, false, .string (.literal "needle" [98])⟩,
    some ⟨0, false, .string (.literal "insert" [99, 100])⟩]

omit countable in
theorem replaceable_overfills_nothing :
    ((start [none, some 16]).run (.machine 48) replaceable).2.Filled ∧
      ∃ runs, ((start [none, some 16]).run (.machine 48) replaceable).2.copies
          (.replace "result" "text" "needle" "insert" 1) = some runs ∧
        Block.fill? 5 [] runs = some [97, 99, 100, 97, 98] := by
  have measured : ∀ request, some request ∈ replaceable → request.Countable := by
    intro request member
    simp only [replaceable, List.mem_cons, Option.some.injEq, List.not_mem_nil, or_false] at member
    rcases member with rfl | rfl | rfl
    · trivial
    · exact (by decide : (1 : Int) ≤ maxWord)
    · exact (by decide : (2 : Int) ≤ maxWord)
  obtain ⟨filled, fits⟩ :=
    run_overfills_nothing (countable_machine (by decide : 0 < 48)) [none, some 16] replaceable measured
  have answered : (((start [none, some 16]).run (.machine 48) replaceable).2.perform? (.machine 48)
      ⟨1, false, .string (.replace "result" "text" "needle" "insert" 1)⟩).map Prod.fst =
        some (.answer (.string (.owned ⟨.budget 0, 5, 5⟩ [97, 99, 100, 97, 98]))) := by decide +kernel
  obtain ⟨⟨reply, after⟩, performed, rfl⟩ := Option.map_eq_some_iff.mp answered
  have small : Request.Countable ⟨1, false, .string (.replace "result" "text" "needle" "insert" 1)⟩ := trivial
  exact ⟨filled, fits _ _ after small performed⟩

end Session

end Quota
