import Mathlib.Algebra.Ring.Nat
import Mathlib.Data.List.Induction
import Quota.Proofs.Script
import Quota.Session.Operation

set_option autoImplicit false

/-!
# Histories of a ledger

A source may be dealt with through any number of copies of it; they share one ledger. After any calls that give back no
more than is in use, the ledger of a budget says what the answers to the calls say: what is in use is what was granted
and not given back, the peak is the most that was in use at any point, and refusals are counted.
-/
namespace Quota

structure Dealing where
  source : Source
  operation : DirectOperation
deriving DecidableEq, Repr

namespace Dealing

/-- The bytes that a call with the given answer took. -/
def taken : Dealing × Except StorageFault Unit → Nat
  | (⟨_, .acquire bytes⟩, .ok ()) => bytes
  | _ => 0

def returned : Dealing × Except StorageFault Unit → Nat
  | (⟨_, .giveBack bytes⟩, _) => bytes
  | _ => 0

def refused : Dealing × Except StorageFault Unit → Nat
  | (⟨_, .acquire _⟩, .error _) => 1
  | _ => 0

end Dealing

namespace Books

def deal (books : Books) (d : Dealing) : Except StorageFault Unit × Books :=
  match d.operation with
  | .acquire bytes => books.acquire d.source bytes
  | .giveBack bytes => (.ok (), books.credit d.source bytes)

def dealAll (books : Books) (calls : List Dealing) : Books := calls.foldl (fun books d => (books.deal d).2) books

def transcript (books : Books) : List Dealing → List (Dealing × Except StorageFault Unit)
  | [] => []
  | d :: rest => (d, (books.deal d).1) :: (books.deal d).2.transcript rest

/-- What the calls on a source add up to. -/
def total (books : Books) (source : Source) (calls : List Dealing) (f : Dealing × Except StorageFault Unit → Nat) :
    Nat :=
  (((books.transcript calls).filter fun entry => entry.1.source = source).map f).sum

theorem dealAll_concat (books : Books) (calls : List Dealing) (d : Dealing) :
    books.dealAll (calls ++ [d]) = ((books.dealAll calls).deal d).2 := by
  simp [dealAll]

theorem transcript_concat (books : Books) (calls : List Dealing) (d : Dealing) :
    books.transcript (calls ++ [d]) = books.transcript calls ++ [(d, ((books.dealAll calls).deal d).1)] := by
  induction calls generalizing books with
  | nil => rfl
  | cons first rest ih =>
    rw [List.cons_append, transcript, transcript, ih]
    rfl

theorem total_concat (books : Books) (source : Source) (calls : List Dealing) (d : Dealing)
    (f : Dealing × Except StorageFault Unit → Nat) :
    books.total source (calls ++ [d]) f =
      books.total source calls f + if d.source = source then f (d, ((books.dealAll calls).deal d).1) else 0 := by
  rw [total, total, transcript_concat, List.filter_append, List.map_append, List.sum_append]
  by_cases here : d.source = source
  · simp [here]
  · simp [here]

/-- What a call does to the ledger of a source, and what it answers if it is a call on that source. -/
theorem deal_cases (books : Books) (d : Dealing) {source : Source} {l : Ledger}
    (found : books.ledger? source = some l) :
    (d.source ≠ source ∧ (books.deal d).2.ledger? source = some l) ∨
    (∃ bytes, d = ⟨source, .acquire bytes⟩ ∧ l.Allows bytes ∧ (books.deal d).1 = .ok () ∧
      (books.deal d).2.ledger? source = some (l.grant bytes)) ∨
    (∃ bytes, d = ⟨source, .acquire bytes⟩ ∧ ¬ l.Allows bytes ∧
      (books.deal d).1 = .error (.exhausted bytes l.inUse l.limit) ∧
      (books.deal d).2.ledger? source = some l.refuse) ∨
    (∃ bytes, d = ⟨source, .giveBack bytes⟩ ∧ (books.deal d).1 = .ok () ∧
      (books.deal d).2.ledger? source = some (l.release bytes)) := by
  obtain ⟨p, operation⟩ := d
  by_cases here : p = source
  · subst here
    refine .inr ?_
    cases operation with
    | acquire bytes =>
      by_cases allowed : l.Allows bytes
      · refine .inl ⟨bytes, rfl, allowed, ?_, ?_⟩
        · simp only [deal, acquire_eq, found, if_pos allowed]
        · simp only [deal, acquire_eq, found, if_pos allowed, ledger?_adjust, Option.map_some, if_true]
      · refine .inr (.inl ⟨bytes, rfl, allowed, ?_, ?_⟩)
        · simp only [deal, acquire_eq, found, if_neg allowed]
        · simp only [deal, acquire_eq, found, if_neg allowed, ledger?_note, ledger?_adjust, Option.map_some, if_true]
    | giveBack bytes =>
      refine .inr (.inr ⟨bytes, rfl, rfl, ?_⟩)
      simp only [deal, credit_eq, ledger?_adjust, found, Option.map_some, if_true]
  · refine .inl ⟨here, ?_⟩
    have elsewhere : ¬ source = p := Ne.symm here
    have untouched : ∀ f : Ledger → Ledger, (books.adjust p f).ledger? source = some l := by
      intro f
      simp only [ledger?_adjust, found, Option.map_some, if_neg elsewhere]
    cases operation with
    | acquire bytes =>
      rcases taken : books.acquire p bytes with ⟨f | _, after⟩
      · obtain ⟨_, _, _, _, rfl⟩ := acquire_error taken
        simp only [deal, taken, ledger?_note, untouched]
      · obtain ⟨rfl, _⟩ := acquire_ok taken
        simp only [deal, taken, untouched]
    | giveBack bytes => simp only [deal, credit_eq, untouched]

/-- No call gives back more to a source than is in use there at that point. -/
def Covered (books : Books) (source : Source) (calls : List Dealing) : Prop :=
  ∀ k bytes, calls[k]? = some ⟨source, .giveBack bytes⟩ →
    ∀ l, (books.dealAll (calls.take k)).ledger? source = some l → bytes ≤ l.inUse

theorem Covered.take {books : Books} {source : Source} {calls : List Dealing} (h : books.Covered source calls)
    (n : Nat) : books.Covered source (calls.take n) := by
  intro k bytes call l found
  rw [List.getElem?_take] at call
  split at call
  · rename_i early
    rw [List.take_take, Nat.min_eq_left (Nat.le_of_lt early)] at found
    exact h k bytes call l found
  · cases call

theorem Covered.front {books : Books} {source : Source} {calls : List Dealing} {d : Dealing}
    (h : books.Covered source (calls ++ [d])) : books.Covered source calls := by
  have front := h.take calls.length
  rwa [List.take_left] at front

theorem Covered.last {books : Books} {source : Source} {calls : List Dealing} {bytes : Nat} {l : Ledger}
    (h : books.Covered source (calls ++ [⟨source, .giveBack bytes⟩]))
    (found : (books.dealAll calls).ledger? source = some l) : bytes ≤ l.inUse := by
  apply h calls.length bytes
  · simp
  · rw [List.take_left, found]

/-- The ledger of a source says what the calls and their answers say. The peak was in use at some point and never more
than that. -/
structure Records (books : Books) (source : Source) (calls : List Dealing) (l : Ledger) : Prop where
  found : (books.dealAll calls).ledger? source = some l
  inUse : l.inUse + books.total source calls Dealing.returned = books.total source calls Dealing.taken
  refusals : l.refusals = books.total source calls Dealing.refused
  bound : ∀ k m, (books.dealAll (calls.take k)).ledger? source = some m → m.inUse ≤ l.peak
  attained : ∃ k m, k ≤ calls.length ∧ (books.dealAll (calls.take k)).ledger? source = some m ∧ m.inUse = l.peak

variable {books : Books} {source : Source} {calls : List Dealing} {l : Ledger}

theorem Records.inUse_le_peak (h : books.Records source calls l) : l.inUse ≤ l.peak := by
  apply h.bound calls.length
  rw [List.take_length, h.found]

theorem Records.concat {d : Dealing} {l' : Ledger} (h : books.Records source calls l)
    (found : ((books.dealAll calls).deal d).2.ledger? source = some l')
    (inUse : l'.inUse + books.total source (calls ++ [d]) Dealing.returned =
      books.total source (calls ++ [d]) Dealing.taken)
    (refusals : l'.refusals = books.total source (calls ++ [d]) Dealing.refused)
    (peak : l'.peak = max l.peak l'.inUse) : books.Records source (calls ++ [d]) l' where
  found := by rw [dealAll_concat, found]
  inUse := inUse
  refusals := refusals
  bound k m at_k := by
    -- the point after the new call is the only one that the bound has not been shown for
    by_cases old : k ≤ calls.length
    · rw [List.take_append_of_le_length old] at at_k
      have le := h.bound k m at_k
      omega
    · rw [List.take_of_length_le (by simp; omega), dealAll_concat, found] at at_k
      cases at_k
      omega
  attained := by
    by_cases higher : l.peak < l'.inUse
    · refine ⟨calls.length + 1, l', by simp, ?_, by omega⟩
      rw [List.take_of_length_le (by simp), dealAll_concat, found]
    · obtain ⟨k, m, inside, at_k, same⟩ := h.attained
      refine ⟨k, m, by simp; omega, ?_, by omega⟩
      rw [List.take_append_of_le_length inside, at_k]

theorem records_of_covered (empty : ∃ limit, books.ledger? source = some (.empty limit))
    (covered : books.Covered source calls) : ∃ l, books.Records source calls l := by
  induction calls using List.reverseRecOn with
  | nil =>
    obtain ⟨limit, found⟩ := empty
    refine ⟨.empty limit, found, rfl, rfl, ?_, 0, .empty limit, Nat.le_refl 0, found, rfl⟩
    intro k m at_k
    rw [List.take_nil] at at_k
    cases found.symm.trans at_k
    exact Nat.le_refl 0
  | append_singleton calls d ih =>
    obtain ⟨l, records⟩ := ih covered.front
    have below := records.inUse_le_peak
    have inUse := records.inUse
    have refusals := records.refusals
    -- only what is given back needs `covered`: the release is cut off at zero, the sum of what was returned is not
    rcases (books.dealAll calls).deal_cases d records.found with ⟨elsewhere, kept⟩ | ⟨bytes, rfl, _, answer, kept⟩ |
      ⟨bytes, rfl, _, answer, kept⟩ | ⟨bytes, rfl, answer, kept⟩
    · refine ⟨_, records.concat kept ?_ ?_ ?_⟩
      · simp only [total_concat, if_neg elsewhere, Nat.add_zero, inUse]
      · simp only [total_concat, if_neg elsewhere, Nat.add_zero, refusals]
      · omega
    · refine ⟨_, records.concat kept ?_ ?_ rfl⟩
      · simp only [total_concat, if_true, answer, Dealing.returned, Dealing.taken, Ledger.grant]
        omega
      · simp only [total_concat, if_true, answer, Dealing.refused, Ledger.grant]
        omega
    · refine ⟨_, records.concat kept ?_ ?_ ?_⟩
      · simp only [total_concat, if_true, answer, Dealing.returned, Dealing.taken, Ledger.refuse]
        omega
      · simp only [total_concat, if_true, answer, Dealing.refused, Ledger.refuse]
        omega
      · simp only [Ledger.refuse]
        omega
    · have enough := covered.last records.found
      refine ⟨_, records.concat kept ?_ ?_ ?_⟩
      · simp only [total_concat, if_true, Dealing.returned, Dealing.taken, Ledger.release]
        omega
      · simp only [total_concat, if_true, Dealing.refused, Ledger.release]
        omega
      · simp only [Ledger.release]
        omega

theorem dealAll_related {R : Ledger → Ledger → Prop} (h : Ledger.Persistent R) (books : Books) (calls : List Dealing) :
    books.Related R (books.dealAll calls) := by
  induction calls generalizing books with
  | nil => exact .refl h.refl books
  | cons d rest ih =>
    have first : books.Related R (books.deal d).2 := by
      obtain ⟨p, bytes | bytes⟩ := d
      · exact (Script.acquire p bytes .done).exec_related h .granting books
      · exact (Script.credit p bytes (.done ())).exec_related h .granting books
    exact first.trans h.trans (ih _)

/-- A request is granted if and only if the limit allows it, and if it is not, the refusal is counted and nothing else
changes on any ledger. -/
def Decides (books : Books) (source : Source) (l : Ledger) (bytes : Nat) : Prop :=
  ((books.acquire source bytes).1 = .ok () ↔ l.inUse + bytes ≤ l.limit) ∧
    (l.limit < l.inUse + bytes →
      (books.acquire source bytes).1 = .error (.exhausted bytes l.inUse l.limit) ∧
      (books.acquire source bytes).2.ledger? source = some { l with refusals := l.refusals + 1 } ∧
      ∀ other, other ≠ source → (books.acquire source bytes).2.ledger? other = books.ledger? other)

theorem decides_of_limit_lt (addressable : l.limit < addressSpace) (found : books.ledger? source = some l)
    (bytes : Nat) : books.Decides source l bytes := by
  -- a total that is not addressable is beyond the limit anyway, so that the check for it decides nothing
  have allows : l.Allows bytes ↔ l.inUse + bytes ≤ l.limit := by
    rw [Ledger.Allows]
    omega
  rw [Decides, acquire_eq, found]
  by_cases allowed : l.Allows bytes
  · have fits := allows.mp allowed
    simp only [if_pos allowed]
    refine ⟨by simp [fits], ?_⟩
    intro beyond
    omega
  · have beyond : ¬ l.inUse + bytes ≤ l.limit := mt allows.mpr allowed
    simp only [if_neg allowed]
    refine ⟨by simp [beyond], ?_⟩
    intro _
    refine ⟨trivial, ?_, ?_⟩
    · simp only [ledger?_note, ledger?_adjust, found, Option.map_some, if_true]
      rfl
    · intro other elsewhere
      simp only [ledger?_note, ledger?_adjust, if_neg elsewhere, Option.map_id']

end Books

namespace Ledger

/-- The ledger of every budget is exact at every point of any calls, through whichever copies of the budget and however
they mix with calls on other sources, as long as no more is given back than is in use. What is in use is what was
granted less what was given back, the peak is the most there was so far, neither passes the limit, and the next request
is decided by the limit alone. -/
theorem exact_at_every_point (limits : List Nat) (addressable : ∀ limit ∈ limits, limit < addressSpace) (i limit : Nat)
    (listed : limits[i]? = some limit) (calls : List Dealing)
    (covered : (Books.ofLimits limits).Covered (.budget i) calls) (point : Nat) :
    ∃ l, (Books.ofLimits limits).Records (.budget i) (calls.take point) l ∧ l.limit = limit ∧ l.inUse ≤ l.peak ∧
      l.peak ≤ limit ∧ l.remaining + l.inUse = limit ∧
      ∀ bytes, ((Books.ofLimits limits).dealAll (calls.take point)).Decides (.budget i) l bytes := by
  have empty : (Books.ofLimits limits).ledger? (.budget i) = some (.empty limit) := by
    simp only [Books.ofLimits, Books.ledger?, List.getElem?_map, listed, Option.map_some]
  obtain ⟨l, records⟩ := Books.records_of_covered ⟨limit, empty⟩ (covered.take point)
  obtain ⟨l', found, same, within⟩ := (Books.dealAll_related persistent_limit _ _).later_of_some empty
  obtain rfl : l' = l := Option.some.inj (found.symm.trans records.found)
  have limited : l'.limit = limit := same
  have peak := within (Nat.zero_le limit)
  have below := records.inUse_le_peak
  have small := addressable limit (List.mem_of_getElem? listed)
  refine ⟨l', records, limited, below, by omega, ?_, ?_⟩
  · rw [remaining]
    omega
  · exact Books.decides_of_limit_lt (by omega) records.found

/-- Two requests on a budget of 64 bytes are refused, of which the last would pass the address space. -/
def contended : List Dealing :=
  [⟨.budget 0, .acquire 40⟩, ⟨.budget 0, .acquire 32⟩, ⟨.budget 1, .acquire 8⟩, ⟨.budget 0, .giveBack 40⟩,
    ⟨.budget 0, .acquire 64⟩, ⟨.budget 0, .acquire 18446744073709551615⟩]

theorem contended_exact :
    (Books.ofLimits [64, 8]).Records (.budget 0) contended ⟨64, 64, 64, 2, 0⟩ ∧
      ((Books.ofLimits [64, 8]).dealAll contended).Decides (.budget 0) ⟨64, 64, 64, 2, 0⟩ 18446744073709551552 := by
  have covered : (Books.ofLimits [64, 8]).Covered (.budget 0) contended := by
    intro k bytes call l found
    rcases k with _ | _ | _ | _ | _ | _ | k
    case succ.succ.succ.zero =>
      cases call
      cases found
      decide
    all_goals cases call
  obtain ⟨l, records, _, _, _, _, decides⟩ :=
    exact_at_every_point [64, 8] (by decide) 0 64 rfl contended covered contended.length
  rw [List.take_length] at records decides
  obtain rfl : l = ⟨64, 64, 64, 2, 0⟩ := by
    apply Option.some.inj
    rw [← records.found]
    decide +kernel
  exact ⟨records, decides _⟩

end Ledger

end Quota
