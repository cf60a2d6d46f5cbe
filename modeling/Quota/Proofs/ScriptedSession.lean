import Quota.Proofs.ScriptedOperations

set_option autoImplicit false

/-!
# Requests follow scripts

The reply to a request, and the values that it leaves, come from a script that the values before it determine.
-/
namespace Quota.Session

/-- The values of a session over other books. -/
def withBooks (s : Session) (books : Books) : Session := { s with books := books }

/-- Books that stand where no books are meant. -/
def blank : Books := .ofLimits []

@[simp] theorem withBooks_withBooks (s : Session) (books later : Books) :
    (s.withBooks books).withBooks later = s.withBooks later := rfl

@[simp] theorem books_withBooks (s : Session) (books : Books) : (s.withBooks books).books = books := rfl

@[simp] theorem withBooks_books (s : Session) : s.withBooks s.books = s := rfl

/-- What is done with a session, or that it is rejected, follows a script over the books. -/
def Follows (s : Session) (f : Allocator → Session → Option (Reply × Session)) : Prop :=
  Scripted fun alloc books =>
    match f alloc (s.withBooks books) with
    | none => (none, books)
    | some (reply, after) => (some (reply, after.withBooks blank), after.books)

namespace Follows

variable {s : Session} {f g : Allocator → Session → Option (Reply × Session)} {β : Type}

theorem congr (hg : Follows s g) (h : ∀ alloc books, f alloc (s.withBooks books) = g alloc (s.withBooks books)) :
    Follows s f :=
  Scripted.congr hg fun alloc books => by rw [h]

theorem rejected (h : ∀ alloc books, f alloc (s.withBooks books) = none) : Follows s f :=
  (Scripted.pure none).congr fun alloc books => by rw [h]

theorem reply (r : Reply) (h : ∀ alloc books, f alloc (s.withBooks books) = some (r, s.withBooks books)) :
    Follows s f :=
  (Scripted.pure (some (r, s.withBooks blank))).congr fun alloc books => by
    rw [h]
    rfl

/-- Reply and values are read off the result of a script. -/
theorem of_scripted {c : Allocator → Books → β × Books} (hc : Scripted c) (outcome : β → Reply × Session)
    (h : ∀ alloc books, f alloc (s.withBooks books) =
      some ((outcome (c alloc books).1).1, (outcome (c alloc books).1).2.withBooks (c alloc books).2)) : Follows s f :=
  (hc.bind fun x => Scripted.pure (some ((outcome x).1, (outcome x).2.withBooks blank))).congr fun alloc books => by
    rw [h]
    rfl

end Follows

/-- A lookup that finds nothing rejects the request. -/
theorem follows_bind {s : Session} {α : Type} (look : Session → Option α)
    {f : α → Allocator → Session → Option (Reply × Session)} (same : ∀ books, look (s.withBooks books) = look s)
    (h : ∀ x, look s = some x → Follows s (f x)) :
    Follows s fun alloc s' => (look s').bind fun x => f x alloc s' := by
  cases found : look s with
  | none => exact .rejected fun alloc books => by rw [same, found]; rfl
  | some x => exact (h x found).congr fun alloc books => by rw [same, found]; rfl

/-- Release the value that had a name, if there was one. -/
def releaseNamed {α : Type} (release : α → Books → Books) (old : Option α) (books : Books) : Books :=
  match old with
  | some x => release x books
  | none => books

theorem scripted_releaseNamed {α : Type} {release : α → Books → Books} (h : ∀ x, ScriptedEdit (release x))
    (old : Option α) : ScriptedEdit (releaseNamed release old) := by
  cases old with
  | none => exact .id
  | some x => exact h x

/-- Requests that make a value: it is stored, or the session has what is left of it after the failure. -/
theorem follows_making {s : Session} {f : Allocator → Session → Option (Reply × Session)} {α ε : Type}
    {c : Allocator → Books → Except ε α × Books} (hc : Scripted c) {finish undo : Books → Books}
    (hfinish : ScriptedEdit finish) (hundo : ScriptedEdit undo) (stored : α → Reply × Session)
    (failed : ε → Reply × Session)
    (h : ∀ alloc books, f alloc (s.withBooks books) =
      match c alloc books with
      | (.ok x, books) => some ((stored x).1, (stored x).2.withBooks (finish books))
      | (.error e, books) => some ((failed e).1, (failed e).2.withBooks (undo books))) : Follows s f := by
  let outcome : Except ε α → Reply × Session
    | .ok x => stored x
    | .error e => failed e
  refine .of_scripted (hc.attempt (fun e => (Scripted.pure (Except.error e)).andThen hundo)
    fun x => (Scripted.pure (Except.ok x)).andThen hfinish) outcome fun alloc books => ?_
  rw [h]
  rcases c alloc books with ⟨_ | _, _⟩ <;> rfl

theorem keepString_eq (s : Session) (out : String) (t : ByteString) (earlier books : Books) :
    (s.withBooks earlier).keepString out t books =
      ({ s with strings := s.strings.put out t } : Session).withBooks
        (releaseNamed ByteString.release (s.strings.get? out) books) := by
  simp only [keepString, withBooks]
  cases s.strings.get? out <;> rfl

theorem keepArray_eq (s : Session) (out : String) (a : FixedArray Cell) (earlier books : Books) :
    (s.withBooks earlier).keepArray out a books =
      ({ s with arrays := s.arrays.put out a } : Session).withBooks
        (releaseNamed (FixedArray.release Cell.release) (s.arrays.get? out) books) := by
  simp only [keepArray, withBooks]
  cases s.arrays.get? out <;> rfl

theorem keepVector_eq (s : Session) (out : String) (v : CappedVector Cell) (earlier books : Books) :
    (s.withBooks earlier).keepVector out v books =
      ({ s with vectors := s.vectors.put out v } : Session).withBooks
        (releaseNamed (CappedVector.release Cell.release) (s.vectors.get? out) books) := by
  simp only [keepVector, withBooks]
  cases s.vectors.get? out <;> rfl

section Strings

variable (s : Session)

theorem scripted_keepString (out : String) : ScriptedEdit (releaseNamed ByteString.release (s.strings.get? out)) :=
  scripted_releaseNamed ByteString.scripted_release _

theorem follows_answerString {ε : Type} (escalate : Bool) (set : FaultSet) (toFault : ε → Fault) (out : String)
    {c : Allocator → Books → Except ε ByteString × Books} (hc : Scripted c) :
    Follows s fun alloc s' => some (s'.answerString escalate set toFault out (c alloc s'.books)) := by
  refine follows_making hc (s.scripted_keepString out) .id
    (fun t => (.answer (.string t), { s with strings := s.strings.put out t }))
    (fun e => (refusal escalate set (toFault e), s)) fun alloc books => ?_
  rw [books_withBooks]
  rcases c alloc books with ⟨_ | t, after⟩
  · rfl
  · simp only [answerString, keepString_eq]

theorem follows_stringStep (source : Source) (escalate : Bool) (o : StringOperation) :
    Follows s fun alloc s' => s'.stringStep alloc source escalate o := by
  cases o with
  | literal out bytes =>
    refine .of_scripted ((Scripted.pure ()).andThen (s.scripted_keepString out))
      (fun _ => (.answer (.string (.literal source bytes)),
        { s with strings := s.strings.put out (.literal source bytes) })) fun alloc books => ?_
    simp only [stringStep, keepString_eq, books_withBooks]
  | ofBytes out bytes => exact follows_answerString s _ _ _ _ (ByteString.scripted_ofBytes source bytes)
  | ofInt out v => exact follows_answerString s _ _ _ _ (ByteString.scripted_ofBytes source (Decimal.ofInt v))
  | ofByte out b => exact follows_answerString s _ _ _ _ (ByteString.scripted_ofBytes source [b])
  | substring out n start stop =>
    exact follows_bind (fun s => s.strings.get? n) (fun _ => rfl) fun t _ =>
      follows_answerString s _ _ _ _ (t.scripted_substring start stop)
  | concat out n m =>
    refine follows_bind (fun s => s.strings.get? n) (fun _ => rfl) fun t _ =>
      follows_bind (fun s => s.strings.get? m) (fun _ => rfl) fun u _ => ?_
    refine follows_making (t.scripted_concat u) (s.scripted_keepString out) .id
      (fun r => (.answer (.string r), { s with strings := s.strings.put out r }))
      (fun stop => (.abort stop.fragments, s)) fun alloc books => ?_
    rw [books_withBooks]
    rcases t.concat alloc u books with ⟨_ | r, after⟩
    · rfl
    · simp only [keepString_eq]
  | replace out n needle insert limit =>
    exact follows_bind (fun s => s.strings.get? n) (fun _ => rfl) fun t _ =>
      follows_bind (fun s => s.strings.get? needle) (fun _ => rfl) fun needle _ =>
      follows_bind (fun s => s.strings.get? insert) (fun _ => rfl) fun insert _ =>
      follows_answerString s _ _ _ _ (t.scripted_replace needle insert limit)
  | clone out n =>
    exact follows_bind (fun s => s.strings.get? n) (fun _ => rfl) fun t _ =>
      follows_answerString s _ _ _ _ (ByteString.scripted_ofBytes t.source t.bytes)
  | format out n args =>
    exact follows_bind (fun s => s.strings.get? n) (fun _ => rfl) fun t _ =>
      follows_bind (fun s => s.arrays.get? args) (fun _ => rfl) fun array _ =>
      follows_bind (fun _ => stringArray? array) (fun _ => rfl) fun args _ =>
      follows_answerString s _ _ _ _ (t.scripted_format args)
  | toWord n =>
    refine follows_bind (fun s => s.strings.get? n) (fun _ => rfl) fun t _ => ?_
    cases t.toWord with
    | ok w => exact .reply _ fun _ _ => rfl
    | error f => exact .reply _ fun _ _ => rfl
  | find n m =>
    exact follows_bind (fun s => s.strings.get? n) (fun _ => rfl) fun t _ =>
      follows_bind (fun s => s.strings.get? m) (fun _ => rfl) fun u _ => .reply _ fun _ _ => rfl
  | contains n m =>
    exact follows_bind (fun s => s.strings.get? n) (fun _ => rfl) fun t _ =>
      follows_bind (fun s => s.strings.get? m) (fun _ => rfl) fun u _ => .reply _ fun _ _ => rfl
  | same n m =>
    exact follows_bind (fun s => s.strings.get? n) (fun _ => rfl) fun t _ =>
      follows_bind (fun s => s.strings.get? m) (fun _ => rfl) fun u _ => .reply _ fun _ _ => rfl
  | describe n =>
    exact follows_bind (fun s => s.strings.get? n) (fun _ => rfl) fun t _ => .reply _ fun _ _ => rfl
  | delete n =>
    exact follows_bind (fun s => s.strings.get? n) (fun _ => rfl) fun t _ =>
      .of_scripted t.scripted_release (fun _ => (.answer .nothing, { s with strings := s.strings.erase n }))
        fun alloc books => rfl

end Strings

section Arrays

variable (s : Session)

theorem scripted_releaseCells (cells : List Cell) : ScriptedEdit (releaseCells cells) :=
  .foldl Cell.scripted_release cells

theorem scripted_keepArray (out : String) :
    ScriptedEdit (releaseNamed (FixedArray.release Cell.release) (s.arrays.get? out)) :=
  scripted_releaseNamed (FixedArray.scripted_release Cell.scripted_release) _

theorem follows_arrayStep (source : Source) (escalate : Bool) (o : ArrayOperation) :
    Follows s fun alloc s' => s'.arrayStep alloc source escalate o := by
  cases o with
  | zeros element out capacity =>
    refine follows_making (FixedArray.scripted_zeros source element (Cell.zero element) capacity)
      (s.scripted_keepArray out) .id (fun a => (.answer (.number a.length), { s with arrays := s.arrays.put out a }))
      (fun f => (refusal escalate (.single .alloc) f.fault, s)) fun alloc books => ?_
    simp only [arrayStep, books_withBooks]
    rcases FixedArray.zeros alloc source element (Cell.zero element) capacity books with ⟨_ | a, after⟩
    · rfl
    · simp only [keepArray_eq]
  | ofValues element out values =>
    refine follows_bind (fun s => takeOperands element s.strings values) (fun _ => rfl)
      fun taken _ => ?_
    obtain ⟨cells, strings⟩ := taken
    refine follows_making (FixedArray.scripted_ofList source element cells) (s.scripted_keepArray out)
      (scripted_releaseCells cells)
      (fun a => (.answer (.number a.length), { s with strings := strings, arrays := s.arrays.put out a }))
      (fun f => (refusal escalate (.single .alloc) f.fault, { s with strings := strings })) fun alloc books => ?_
    simp only [books_withBooks]
    rcases FixedArray.ofList alloc source element cells books with ⟨_ | a, after⟩
    · rfl
    · exact congrArg some (congrArg (Prod.mk _)
        (keepArray_eq { s with strings := strings } out a books after))
  | get n index =>
    refine follows_bind (fun s => s.arrays.get? n) (fun _ => rfl) fun a _ => ?_
    cases a.get index with
    | ok c => exact .reply _ fun _ _ => rfl
    | error f => exact .reply _ fun _ _ => rfl
  | set n index operand =>
    refine follows_bind (fun s => s.arrays.get? n) (fun _ => rfl) fun a _ =>
      follows_bind (fun s => takeOperand a.element s.strings operand) (fun _ => rfl) fun taken _ => ?_
    obtain ⟨c, strings⟩ := taken
    cases h : a.set index c with
    | ok r =>
      obtain ⟨b, old⟩ := r
      exact .of_scripted (scripted_releaseCells old.toList)
        (fun _ => (.answer .nothing, { s with strings := strings, arrays := s.arrays.put n b })) fun alloc books => by
          simp only [h]
          rfl
    | error f =>
      exact .of_scripted c.scripted_release
        (fun _ => (refusal escalate (.single .index) f.fault, { s with strings := strings })) fun alloc books => by
          simp only [h]
          rfl
  | describe n =>
    exact follows_bind (fun s => s.arrays.get? n) (fun _ => rfl) fun a _ => .reply _ fun _ _ => rfl
  | delete n =>
    exact follows_bind (fun s => s.arrays.get? n) (fun _ => rfl) fun a _ =>
      .of_scripted (a.scripted_release Cell.scripted_release)
        (fun _ => (.answer .nothing, { s with arrays := s.arrays.erase n })) fun alloc books => rfl

end Arrays

section Vectors

variable (s : Session)

theorem scripted_keepVector (out : String) :
    ScriptedEdit (releaseNamed (CappedVector.release Cell.release) (s.vectors.get? out)) :=
  scripted_releaseNamed (CappedVector.scripted_release Cell.scripted_release) _

theorem scripted_pushCell (v : CappedVector Cell) (c : Cell) :
    Scripted fun alloc books =>
      (((pushCell alloc v c books).1, (pushCell alloc v c books).2.1), (pushCell alloc v c books).2.2) := by
  have undone : ∀ r : Except PushStop Unit × CappedVector Cell, Scripted fun _ books =>
      (r, match r.1 with
        | .ok () => books
        | .error _ => c.release books) := by
    rintro ⟨_ | _, v⟩
    · exact (Scripted.pure _).andThen c.scripted_release
    · exact .pure _
  refine ((v.scripted_push c).bind undone).congr fun alloc books => ?_
  simp only [pushCell]
  rcases v.push alloc c books with ⟨_ | ⟨⟩, _, _⟩ <;> rfl

theorem scripted_rangeCell (source : Source) (element : ElementType) (v : Int) :
    Scripted fun alloc books => rangeCell alloc source element v books := by
  by_cases text : element = .string
  · subst text
    refine ((ByteString.scripted_ofBytes source (Decimal.ofInt v)).attempt (fun f => .pure (.error f))
      fun t => .pure (.ok (.string t))).congr fun alloc books => ?_
    simp only [rangeCell, ByteString.ofInt]
    rcases ByteString.ofBytes alloc source (Decimal.ofInt v) books with ⟨_ | _, _⟩ <;> rfl
  · refine (Scripted.pure (.ok (element.truncate v))).congr fun alloc books => ?_
    cases element <;> first | rfl | exact absurd rfl text

theorem scripted_pushNumbers (source : Source) (remaining : Nat) (next : Int) (run : PushRun) :
    Scripted fun alloc books => pushNumbers alloc source remaining next run books := by
  induction remaining generalizing next run with
  | zero => exact .pure run
  | succ remaining ih =>
    let after : Except PushStop Unit × CappedVector Cell → Allocator → Books → PushRun × Books
      | (.error stop, v), _, books => ({ run with vector := v, stop := some stop }, books)
      | (.ok (), v), alloc, books =>
        pushNumbers alloc source remaining ((next + 1).bmod 18446744073709551616)
          ⟨v, run.pushed + 1, addCapacity run.capacities v.capacity, none⟩ books
    have goesOn : ∀ r, Scripted (after r) := by
      rintro ⟨_ | ⟨⟩, v⟩
      · exact .pure _
      · exact ih _ _
    refine ((scripted_rangeCell source run.vector.element next).attempt
      (fun f => .pure { run with stop := some (.storage f) })
      fun c => (scripted_pushCell run.vector c).bind goesOn).congr fun alloc books => ?_
    rw [pushNumbers]
    rcases rangeCell alloc source run.vector.element next books with ⟨_ | c, middle⟩
    · rfl
    · simp only
      rcases pushCell alloc run.vector c middle with ⟨_ | ⟨⟩, _, _⟩ <;> rfl

theorem follows_vectorStep (source : Source) (escalate : Bool) (o : VectorOperation) :
    Follows s fun alloc s' => s'.vectorStep alloc source escalate o := by
  cases o with
  | create element out =>
    refine follows_making (CappedVector.scripted_create source element)
      (s.scripted_keepVector out) .id
      (fun v => (.answer (.number v.capacity), { s with vectors := s.vectors.put out v }))
      (fun f => (refusal escalate (.single .alloc) f.fault, s)) fun alloc books => ?_
    simp only [vectorStep, books_withBooks]
    rcases CappedVector.create alloc source element books with ⟨_ | v, after⟩
    · rfl
    · simp only [keepVector_eq]
  | push n operand =>
    refine follows_bind (fun s => s.vectors.get? n) (fun _ => rfl) fun v _ =>
      follows_bind (fun s => takeOperand v.element s.strings operand) (fun _ => rfl) fun taken _ => ?_
    obtain ⟨c, strings⟩ := taken
    let replied : Except PushStop Unit × CappedVector Cell → Reply
      | (.ok (), w) => .answer (.pushed w.length w.capacity)
      | (.error .capped, _) => .abort CappedVector.cappedFragments
      | (.error (.storage f), _) => refusal escalate (.single .alloc) f.fault
    refine .of_scripted (scripted_pushCell v c)
      (fun r => (replied r, { s with strings := strings, vectors := s.vectors.put n r.2 })) fun alloc books => ?_
    simp only [books_withBooks]
    rcases pushCell alloc v c books with ⟨(_ | _) | ⟨⟩, _, _⟩ <;> rfl
  | pushRange n start count =>
    refine follows_bind (fun s => s.vectors.get? n) (fun _ => rfl) fun v _ => ?_
    exact .of_scripted (scripted_pushNumbers source count.toNat start ⟨v, 0, [v.capacity], none⟩)
      (fun run => (pushReply escalate run, { s with vectors := s.vectors.put n run.vector })) fun alloc books => rfl
  | get n index =>
    refine follows_bind (fun s => s.vectors.get? n) (fun _ => rfl) fun v _ => ?_
    cases v.get index with
    | ok c => exact .reply _ fun _ _ => rfl
    | error f => exact .reply _ fun _ _ => rfl
  | describe n =>
    exact follows_bind (fun s => s.vectors.get? n) (fun _ => rfl) fun v _ => .reply _ fun _ _ => rfl
  | delete n =>
    exact follows_bind (fun s => s.vectors.get? n) (fun _ => rfl) fun v _ =>
      .of_scripted (v.scripted_release Cell.scripted_release)
        (fun _ => (.answer .nothing, { s with vectors := s.vectors.erase n })) fun alloc books => rfl

end Vectors

section Requests

variable (s : Session)

theorem follows_directStep (index : Nat) (source : Source) (escalate : Bool) (o : DirectOperation) :
    Follows s fun _ s' => s'.directStep index source escalate o := by
  cases o with
  | acquire bytes =>
    have taken : Scripted fun _ books => books.acquire source bytes := ⟨.acquire source bytes .done, fun _ _ => rfl⟩
    refine follows_making taken .id .id
      (fun _ => (.answer .nothing, { s with direct := s.direct.modify index (· + bytes) }))
      (fun f => (refusal escalate (.single .alloc) f.fault, s)) fun alloc books => ?_
    simp only [directStep, books_withBooks]
    rcases books.acquire source bytes with ⟨_ | ⟨⟩, _⟩ <;> rfl
  | giveBack bytes =>
    refine follows_bind (fun s => s.direct[index]?) (fun _ => rfl) fun held _ => ?_
    by_cases covered : bytes ≤ held
    · refine .of_scripted (ScriptedEdit.credit source bytes)
        (fun _ => (.answer .nothing, { s with direct := s.direct.set index (held - bytes) })) fun alloc books => ?_
      rw [if_pos covered]
      rfl
    · exact .rejected fun alloc books => if_neg covered

theorem follows_perform? (request : Request) : Follows s fun alloc s' => s'.perform? alloc request := by
  refine follows_bind (fun s => s.sources[request.source]?) (fun _ => rfl) fun source _ => ?_
  cases request.operation with
  | direct o => exact s.follows_directStep request.source source request.escalate o
  | string o => exact s.follows_stringStep source request.escalate o
  | array o => exact s.follows_arrayStep source request.escalate o
  | vector o => exact s.follows_vectorStep source request.escalate o

/-- Every request follows a script, which depends on the values of the session only. -/
theorem scripted_step (request : Option Request) :
    Scripted fun alloc books =>
      ((((s.withBooks books).step alloc request).1, ((s.withBooks books).step alloc request).2.withBooks blank),
        ((s.withBooks books).step alloc request).2.books) := by
  cases request with
  | none => exact Scripted.pure (Reply.rejected, s.withBooks blank)
  | some request =>
    let settled : Option (Reply × Session) → Reply × Session := fun r => r.getD (.rejected, s.withBooks blank)
    refine ((s.follows_perform? request).bind fun r => Scripted.pure (settled r)).congr fun alloc books => ?_
    simp only [step, Option.bind_some]
    cases (s.withBooks books).perform? alloc request <;> rfl

end Requests

end Quota.Session
