import Quota.Proofs.Accounts

set_option autoImplicit false

/-!
# Scripts

A script is a computation over the books as a tree of the dealings that it has with them. What it does next depends on
the answers of sources and allocator and on nothing else, so whatever holds of all scripts holds of every operation that
follows one.
-/
namespace Quota

inductive Script (α : Type) where
  | done (x : α)
  | note (e : Event) (next : Script α)
  | credit (source : Source) (bytes : Nat) (next : Script α)
  | acquire (source : Source) (bytes : Nat) (next : Except StorageFault Unit → Script α)
  | ask (element : ElementType) (slots : Nat) (next : Option AllocatorRefusal → Script α)

namespace Script

variable {α β ε : Type}

def exec (alloc : Allocator) : Script α → Books → α × Books
  | .done x, books => (x, books)
  | .note e next, books => next.exec alloc (books.note e)
  | .credit source bytes next, books => next.exec alloc (books.credit source bytes)
  | .acquire source bytes next, books =>
    (next (books.acquire source bytes).1).exec alloc (books.acquire source bytes).2
  | .ask element slots next, books => (next (alloc books.asked element slots)).exec alloc books.ask

def bind : Script α → (α → Script β) → Script β
  | .done x, f => f x
  | .note e next, f => .note e (next.bind f)
  | .credit source bytes next, f => .credit source bytes (next.bind f)
  | .acquire source bytes next, f => .acquire source bytes fun r => (next r).bind f
  | .ask element slots next, f => .ask element slots fun r => (next r).bind f

theorem exec_bind (alloc : Allocator) (script : Script α) (f : α → Script β) (books : Books) :
    (script.bind f).exec alloc books =
      (f (script.exec alloc books).1).exec alloc (script.exec alloc books).2 := by
  induction script generalizing books with
  | done x => rfl
  | note e next ih => exact ih _
  | credit source bytes next ih => exact ih _
  | acquire source bytes next ih => exact ih _ _
  | ask element slots next ih => exact ih _ _

/-- What holds between a ledger and itself after every single dealing holds between the ledgers before and after. -/
theorem exec_related {R : Ledger → Ledger → Prop} (h : Ledger.Persistent R) (alloc : Allocator) (script : Script α)
    (books : Books) : books.Related R (script.exec alloc books).2 := by
  induction script generalizing books with
  | done x => exact .refl h.refl books
  | note e next ih =>
    intro source
    have rest := ih (books.note e) source
    rw [Books.ledger?_note] at rest
    exact rest
  | credit target bytes next ih =>
    have first : books.Related R (books.adjust target (·.release bytes)) :=
      .adjust target _ h.refl fun l _ => h.release l bytes
    rw [← Books.credit_eq] at first
    exact first.trans h.trans (ih _)
  | acquire target bytes next ih =>
    refine Books.Related.trans h.trans ?_ (ih _ _)
    rcases taken : books.acquire target bytes with ⟨f | _, after⟩
    · obtain ⟨l, _, _, _, rfl⟩ := Books.acquire_error taken
      intro source
      simpa using Books.Related.adjust target Ledger.refuse h.refl (fun l _ => h.refuse l) source
    · obtain ⟨rfl, allowed⟩ := Books.acquire_ok taken
      exact .adjust target (·.grant bytes) h.refl fun l found => h.grant l bytes (allowed l found)
  | ask element slots next ih =>
    intro source
    have rest := ih (alloc books.asked element slots) books.ask source
    rw [Books.ledger?_ask] at rest
    exact rest

end Script

/-- The computation follows a script, whatever the allocator and the books. -/
def Scripted {α : Type} (c : Allocator → Books → α × Books) : Prop :=
  ∃ script : Script α, ∀ alloc books, c alloc books = script.exec alloc books

/-- A change of the books that follows a script. -/
def ScriptedEdit (f : Books → Books) : Prop := Scripted fun _ books => ((), f books)

namespace Scripted

variable {α β ε : Type}

theorem pure (x : α) : Scripted fun _ books => (x, books) := ⟨.done x, fun _ _ => rfl⟩

theorem bind {c : Allocator → Books → α × Books} {f : α → Allocator → Books → β × Books} (hc : Scripted c)
    (hf : ∀ x, Scripted (f x)) : Scripted fun alloc books => f (c alloc books).1 alloc (c alloc books).2 := by
  obtain ⟨script, hscript⟩ := hc
  choose next hnext using hf
  refine ⟨script.bind next, fun alloc books => ?_⟩
  rw [Script.exec_bind, ← hscript]
  exact hnext _ alloc _

theorem congr {c d : Allocator → Books → α × Books} (hc : Scripted c)
    (h : ∀ alloc books, d alloc books = c alloc books) : Scripted d := by
  obtain ⟨script, hscript⟩ := hc
  exact ⟨script, fun alloc books => (h alloc books).trans (hscript alloc books)⟩

theorem related {c : Allocator → Books → α × Books} (hc : Scripted c) {R : Ledger → Ledger → Prop}
    (h : Ledger.Persistent R) (alloc : Allocator) (books : Books) : books.Related R (c alloc books).2 := by
  obtain ⟨script, hscript⟩ := hc
  rw [hscript]
  exact script.exec_related h alloc books

/-- A computation that may fail, with what follows in either case. -/
theorem attempt {c : Allocator → Books → Except ε α × Books} {onError : ε → Allocator → Books → β × Books}
    {onOk : α → Allocator → Books → β × Books} (hc : Scripted c) (he : ∀ e, Scripted (onError e))
    (hk : ∀ x, Scripted (onOk x)) :
    Scripted fun alloc books =>
      match c alloc books with
      | (.error e, books) => onError e alloc books
      | (.ok x, books) => onOk x alloc books := by
  let next : Except ε α → Allocator → Books → β × Books := fun r alloc books =>
    match r with
    | .error e => onError e alloc books
    | .ok x => onOk x alloc books
  have steps : ∀ r, Scripted (next r) := by
    rintro (e | x)
    · exact he e
    · exact hk x
  refine (hc.bind steps).congr fun alloc books => ?_
  rcases c alloc books with ⟨_ | _, _⟩ <;> rfl

/-- Change the books after a computation. -/
theorem andThen {c : Allocator → Books → α × Books} {f : Books → Books} (hc : Scripted c) (hf : ScriptedEdit f) :
    Scripted fun alloc books => ((c alloc books).1, f (c alloc books).2) :=
  hc.bind fun x => Scripted.bind hf fun _ => pure x

end Scripted

namespace ScriptedEdit

theorem id : ScriptedEdit fun books => books := Scripted.pure ()

theorem related {f : Books → Books} (hf : ScriptedEdit f) {R : Ledger → Ledger → Prop} (h : Ledger.Persistent R)
    (books : Books) : books.Related R (f books) :=
  Scripted.related hf h .granting books

theorem comp {f g : Books → Books} (hg : ScriptedEdit g) (hf : ScriptedEdit f) :
    ScriptedEdit fun books => g (f books) :=
  Scripted.andThen hf hg

theorem note (e : Event) : ScriptedEdit fun books => books.note e := ⟨.note e (.done ()), fun _ _ => rfl⟩

theorem credit (source : Source) (bytes : Nat) : ScriptedEdit fun books => books.credit source bytes :=
  ⟨.credit source bytes (.done ()), fun _ _ => rfl⟩

theorem foldl {α : Type} {f : α → Books → Books} (hf : ∀ x, ScriptedEdit (f x)) (xs : List α) :
    ScriptedEdit fun books => xs.foldl (fun books x => f x books) books := by
  induction xs with
  | nil => exact id
  | cons x xs ih => exact ih.comp (hf x)

end ScriptedEdit

end Quota
