import Mathlib.Data.List.Basic
import Quota.Text.Utf8

set_option autoImplicit false

/-!
# Well-formed octets

The octet machine accepts exactly the octets of texts. A place in well-formed octets where an octet stands that
continues nothing is a boundary between two characters, so what is well-formed can only be found between boundaries.
-/
namespace Quota.Utf8

/-- From a state the machine meets no malformed part. -/
def Accepts (state : Option Pending) (bytes : List UInt8) : Prop := ∀ e ∈ scanFrom state bytes, e.isSome = true

theorem isValid_iff_accepts (bytes : List UInt8) : isValid bytes = true ↔ Accepts none bytes := List.all_eq_true

theorem accepts_nil (state : Option Pending) : Accepts state [] ↔ state = none := by
  cases state with
  | none => simp [Accepts, scanFrom]
  | some p => simp [Accepts, scanFrom]

theorem accepts_cons (state : Option Pending) (b : UInt8) (rest : List UInt8) :
    Accepts state (b :: rest) ↔ (∀ e ∈ (step state b).1, e.isSome = true) ∧ Accepts (step state b).2 rest := by
  simp only [Accepts, scanFrom, List.mem_append]
  constructor
  · intro h
    exact ⟨fun e member => h e (.inl member), fun e member => h e (.inr member)⟩
  · rintro ⟨now, later⟩ e (member | member)
    · exact now e member
    · exact later e member

/-- Octets that are accepted leave no sequence open. -/
theorem accepts_append {state : Option Pending} {front : List UInt8} (h : Accepts state front) (back : List UInt8) :
    Accepts state (front ++ back) ↔ Accepts none back := by
  induction front generalizing state with
  | nil =>
    rw [accepts_nil] at h
    rw [h, List.nil_append]
  | cons b rest ih =>
    rw [accepts_cons] at h
    rw [List.cons_append, accepts_cons, ih h.2]
    exact and_iff_right h.1

theorem isValid_append {front back : List UInt8} (h : isValid front = true) :
    isValid (front ++ back) = true ↔ isValid back = true := by
  rw [isValid_iff_accepts] at h
  rw [isValid_iff_accepts, isValid_iff_accepts, accepts_append h]

theorem start_of_one {b : UInt8} (high : b.toNat < 0x80) : start b = ([some (Char.ofNat b.toNat)], none) := by
  simp only [start]
  rw [if_pos high]

theorem start_of_malformed {b : UInt8} (h : 0x80 ≤ b.toNat ∧ b.toNat < 0xC2 ∨ 0xF4 < b.toNat) :
    start b = ([none], none) := by
  simp only [start]
  rcases h with inner | beyond
  · rw [if_neg (by omega), if_pos (by omega)]
  · rw [if_neg (by omega), if_neg (by omega), if_neg (by omega), if_neg (by omega), if_neg (by omega),
      if_neg (by omega), if_neg (by omega), if_neg (by omega), if_neg (by omega)]

theorem start_of_two {b : UInt8} (low : 0xC2 ≤ b.toNat) (high : b.toNat < 0xE0) :
    start b = ([], some ⟨1, 0x80, 0xBF, b.toNat - 0xC0⟩) := by
  simp only [start]
  rw [if_neg (by omega), if_neg (by omega), if_pos high]

theorem start_of_three {b : UInt8} (low : 0xE0 ≤ b.toNat) (high : b.toNat < 0xF0) :
    start b = ([], some ⟨2, if b.toNat = 0xE0 then 0xA0 else 0x80, if b.toNat = 0xED then 0x9F else 0xBF,
      b.toNat - 0xE0⟩) := by
  simp only [start]
  rw [if_neg (by omega), if_neg (by omega), if_neg (by omega)]
  by_cases first : b.toNat = 0xE0
  · simp [first]
  · by_cases surrogate : b.toNat = 0xED
    · simp [surrogate]
    · simp [first, surrogate, high]

theorem start_of_four {b : UInt8} (low : 0xF0 ≤ b.toNat) (high : b.toNat ≤ 0xF4) :
    start b = ([], some ⟨3, if b.toNat = 0xF0 then 0x90 else 0x80, if b.toNat = 0xF4 then 0x8F else 0xBF,
      b.toNat - 0xF0⟩) := by
  simp only [start]
  rw [if_neg (by omega), if_neg (by omega), if_neg (by omega), if_neg (by omega), if_neg (by omega),
    if_neg (by omega)]
  by_cases first : b.toNat = 0xF0
  · simp [first]
  · by_cases last : b.toNat = 0xF4
    · simp [last]
    · have inner : b.toNat < 0xF4 := by omega
      simp [first, last, inner]

/-- An octet that stands inside a sequence only. -/
def Continues (b : UInt8) : Prop := 0x80 ≤ b.toNat ∧ b.toNat ≤ 0xBF

/-- What a state still expects continues a sequence. -/
def Expects (state : Option Pending) : Prop := ∀ p, state = some p → 0x80 ≤ p.lo ∧ p.hi ≤ 0xBF

theorem expects_start (b : UInt8) : Expects (start b).2 := by
  intro p h
  by_cases one : b.toNat < 0x80
  · rw [start_of_one one] at h
    cases h
  by_cases two : b.toNat < 0xE0
  · by_cases malformed : b.toNat < 0xC2
    · rw [start_of_malformed (.inl (by omega))] at h
      cases h
    · rw [start_of_two (by omega) two] at h
      cases h
      exact ⟨Nat.le_refl _, Nat.le_refl _⟩
  by_cases three : b.toNat < 0xF0
  · rw [start_of_three (by omega) three] at h
    cases h
    constructor
    · dsimp only
      split <;> omega
    · dsimp only
      split <;> omega
  by_cases four : b.toNat ≤ 0xF4
  · rw [start_of_four (by omega) four] at h
    cases h
    constructor
    · dsimp only
      split <;> omega
    · dsimp only
      split <;> omega
  · rw [start_of_malformed (.inr (by omega))] at h
    cases h

theorem expects_step (state : Option Pending) (b : UInt8) : Expects (step state b).2 := by
  cases state with
  | none => exact expects_start b
  | some p =>
    simp only [step, resume]
    split
    · split
      · intro q h
        cases h
      · intro q h
        cases h
        exact ⟨Nat.le_refl _, Nat.le_refl _⟩
    · exact expects_start b

/-- No character begins with an octet that continues one. -/
theorem not_continues_of_accepts {b : UInt8} {rest : List UInt8} (h : Accepts none (b :: rest)) : ¬ Continues b := by
  rintro ⟨low, high⟩
  have entries := ((accepts_cons none b rest).mp h).1
  rw [step, start_of_malformed (.inl (by omega))] at entries
  simpa using entries none

/-- Where an octet stands that continues nothing, no sequence is open. -/
theorem accepts_front {state : Option Pending} {front rest : List UInt8} {b : UInt8}
    (h : Accepts state (front ++ b :: rest)) (expects : Expects state) (lead : ¬ Continues b) : Accepts state front := by
  induction front generalizing state with
  | nil =>
    rw [accepts_nil]
    cases state with
    | none => rfl
    | some p =>
      obtain ⟨low, high⟩ := expects p rfl
      have entries := ((accepts_cons (some p) b rest).mp h).1
      have outside : ¬ (p.lo ≤ b.toNat ∧ b.toNat ≤ p.hi) := fun inside => lead ⟨by omega, by omega⟩
      simp only [step, resume, if_neg outside] at entries
      simpa using entries none
  | cons c front ih =>
    obtain ⟨now, later⟩ := (accepts_cons state c (front ++ b :: rest)).mp h
    exact (accepts_cons state c front).mpr ⟨now, ih later (expects_step state c)⟩

/-- Well-formed octets that stand in well-formed octets have well-formed octets on both sides. -/
theorem isValid_around {front inner back : List UInt8} (whole : isValid (front ++ inner ++ back) = true)
    (part : isValid inner = true) (nonempty : inner ≠ []) : isValid front = true ∧ isValid back = true := by
  obtain ⟨b, rest, rfl⟩ := List.exists_cons_of_ne_nil nonempty
  rw [List.append_assoc] at whole
  have lead := not_continues_of_accepts ((isValid_iff_accepts _).mp part)
  have before : isValid front = true := by
    rw [isValid_iff_accepts] at whole ⊢
    exact accepts_front whole (fun p h => by cases h) lead
  refine ⟨before, ?_⟩
  rw [isValid_append before, isValid_append part] at whole
  exact whole

theorem scanFrom_last {lo hi value : Nat} {b : UInt8} (low : lo ≤ b.toNat) (high : b.toNat ≤ hi) (rest : List UInt8) :
    scanFrom (some ⟨1, lo, hi, value⟩) (b :: rest) = some (Char.ofNat (value * 64 + b.toNat % 64)) :: scan rest := by
  simp only [scanFrom, step, resume]
  rw [if_pos ⟨low, high⟩]
  rfl

theorem scanFrom_next {need lo hi value : Nat} {b : UInt8} (low : lo ≤ b.toNat) (high : b.toNat ≤ hi)
    (rest : List UInt8) :
    scanFrom (some ⟨need + 2, lo, hi, value⟩) (b :: rest) =
      scanFrom (some ⟨need + 1, 0x80, 0xBF, value * 64 + b.toNat % 64⟩) rest := by
  simp only [scanFrom, step, resume]
  rw [if_pos ⟨low, high⟩, if_neg (by omega)]
  rfl

/-- An open sequence goes on with an octet within its bounds. -/
theorem exists_of_accepts_some {p : Pending} {bytes : List UInt8} (h : Accepts (some p) bytes) :
    ∃ b rest, bytes = b :: rest ∧ p.lo ≤ b.toNat ∧ b.toNat ≤ p.hi := by
  cases bytes with
  | nil => exact absurd ((accepts_nil _).mp h) (by simp)
  | cons b rest =>
    by_cases inside : p.lo ≤ b.toNat ∧ b.toNat ≤ p.hi
    · exact ⟨b, rest, rfl, inside⟩
    · have entries := ((accepts_cons (some p) b rest).mp h).1
      simp only [step, resume, if_neg inside] at entries
      simpa using entries none

theorem scan_cons_of_start {b : UInt8} {p : Pending} (h : start b = ([], some p)) (rest : List UInt8) :
    scan (b :: rest) = scanFrom (some p) rest := by
  simp only [scan, scanFrom, step, h, List.nil_append]

theorem scan_two {b c : UInt8} (low : 0xC2 ≤ b.toNat) (high : b.toNat < 0xE0) (second : Continues c)
    (rest : List UInt8) :
    scan (b :: c :: rest) = some (Char.ofNat ((b.toNat - 0xC0) * 64 + c.toNat % 64)) :: scan rest := by
  rw [scan_cons_of_start (start_of_two low high), scanFrom_last second.1 second.2]

theorem scan_three {b c d : UInt8} (low : 0xE0 ≤ b.toNat) (high : b.toNat < 0xF0) (second : Continues c)
    (first : b.toNat = 0xE0 → 0xA0 ≤ c.toNat) (surrogate : b.toNat = 0xED → c.toNat ≤ 0x9F) (third : Continues d)
    (rest : List UInt8) :
    scan (b :: c :: d :: rest) =
      some (Char.ofNat (((b.toNat - 0xE0) * 64 + c.toNat % 64) * 64 + d.toNat % 64)) :: scan rest := by
  obtain ⟨least, most⟩ := second
  have least' : (if b.toNat = 0xE0 then 0xA0 else 0x80) ≤ c.toNat := by split <;> omega
  have most' : c.toNat ≤ if b.toNat = 0xED then 0x9F else 0xBF := by split <;> omega
  rw [scan_cons_of_start (start_of_three low high), scanFrom_next least' most', scanFrom_last third.1 third.2]

theorem scan_four {b c d e : UInt8} (low : 0xF0 ≤ b.toNat) (high : b.toNat ≤ 0xF4) (second : Continues c)
    (first : b.toNat = 0xF0 → 0x90 ≤ c.toNat) (last : b.toNat = 0xF4 → c.toNat ≤ 0x8F) (third : Continues d)
    (fourth : Continues e) (rest : List UInt8) :
    scan (b :: c :: d :: e :: rest) =
      some (Char.ofNat ((((b.toNat - 0xF0) * 64 + c.toNat % 64) * 64 + d.toNat % 64) * 64 + e.toNat % 64)) ::
        scan rest := by
  obtain ⟨least, most⟩ := second
  have least' : (if b.toNat = 0xF0 then 0x90 else 0x80) ≤ c.toNat := by split <;> omega
  have most' : c.toNat ≤ if b.toNat = 0xF4 then 0x8F else 0xBF := by split <;> omega
  rw [scan_cons_of_start (start_of_four low high), scanFrom_next least' most', scanFrom_next third.1 third.2,
    scanFrom_last fourth.1 fourth.2]

/-- The octets of a character are read as that character. -/
theorem scan_utf8EncodeChar_append (c : Char) (rest : List UInt8) :
    scan (String.utf8EncodeChar c ++ rest) = some c :: scan rest := by
  have valid : c.toNat < 0xD800 ∨ 0xDFFF < c.toNat ∧ c.toNat < 0x110000 := c.valid
  have whole : Char.ofNat c.toNat = c := Char.ofNat_toNat c
  have octet : ∀ n, n < 256 → (UInt8.ofNat n).toNat = n := fun n h => by
    rw [UInt8.toNat_ofNat', Nat.mod_eq_of_lt h]
  -- from here on the character is its number
  generalize value : c.toNat = v at valid whole
  simp only [String.utf8EncodeChar, show c.val.toNat = v from value]
  by_cases one : v ≤ 127
  · have lead := octet v (by omega)
    rw [if_pos one, List.singleton_append, scan, scanFrom, step, start_of_one (by omega), lead, whole]
    rfl
  by_cases two : v ≤ 2047
  · have lead := octet (v / 64 % 32 + 192) (by omega)
    have second := octet (v % 64 + 128) (by omega)
    have bits : (v / 64 % 32 + 192 - 0xC0) * 64 + (v % 64 + 128) % 64 = v := by omega
    rw [if_neg one, if_pos two]
    exact (scan_two (by omega) (by omega) ⟨by omega, by omega⟩ rest).trans (by rw [lead, second, bits, whole])
  by_cases three : v ≤ 65535
  · have lead := octet (v / 4096 % 16 + 224) (by omega)
    have second := octet (v / 64 % 64 + 128) (by omega)
    have third := octet (v % 64 + 128) (by omega)
    have bits : ((v / 4096 % 16 + 224 - 0xE0) * 64 + (v / 64 % 64 + 128) % 64) * 64 + (v % 64 + 128) % 64 = v := by
      omega
    rw [if_neg one, if_neg two, if_pos three]
    exact (scan_three (by omega) (by omega) ⟨by omega, by omega⟩ (by omega) (by omega) ⟨by omega, by omega⟩ rest).trans
      (by rw [lead, second, third, bits, whole])
  · have lead := octet (v / 262144 % 8 + 240) (by omega)
    have second := octet (v / 4096 % 64 + 128) (by omega)
    have third := octet (v / 64 % 64 + 128) (by omega)
    have fourth := octet (v % 64 + 128) (by omega)
    have bits : (((v / 262144 % 8 + 240 - 0xF0) * 64 + (v / 4096 % 64 + 128) % 64) * 64 + (v / 64 % 64 + 128) % 64) *
        64 + (v % 64 + 128) % 64 = v := by omega
    rw [if_neg one, if_neg two, if_neg three]
    exact (scan_four (by omega) (by omega) ⟨by omega, by omega⟩ (by omega) (by omega) ⟨by omega, by omega⟩
      ⟨by omega, by omega⟩ rest).trans (by rw [lead, second, third, fourth, bits, whole])

theorem toNat_val_ofNat {v : Nat} (valid : v < 0xD800 ∨ 0xDFFF < v ∧ v < 0x110000) :
    (Char.ofNat v).val.toNat = v := by
  rw [Char.ofNat, dif_pos valid]
  rfl

theorem ofNat_eq {n : Nat} {b : UInt8} (h : n = b.toNat) : UInt8.ofNat n = b := by rw [h, UInt8.ofNat_toNat]

theorem utf8EncodeChar_two {b c : UInt8} (low : 0xC2 ≤ b.toNat) (high : b.toNat < 0xE0) (second : Continues c) :
    String.utf8EncodeChar (Char.ofNat ((b.toNat - 0xC0) * 64 + c.toNat % 64)) = [b, c] := by
  obtain ⟨least, most⟩ := second
  generalize value : (b.toNat - 0xC0) * 64 + c.toNat % 64 = v
  simp only [String.utf8EncodeChar, toNat_val_ofNat (v := v) (.inl (by omega))]
  rw [if_neg (by omega), if_pos (by omega), ofNat_eq (b := b) (by omega), ofNat_eq (b := c) (by omega)]

theorem utf8EncodeChar_three {b c d : UInt8} (low : 0xE0 ≤ b.toNat) (high : b.toNat < 0xF0) (second : Continues c)
    (first : b.toNat = 0xE0 → 0xA0 ≤ c.toNat) (surrogate : b.toNat = 0xED → c.toNat ≤ 0x9F) (third : Continues d) :
    String.utf8EncodeChar (Char.ofNat (((b.toNat - 0xE0) * 64 + c.toNat % 64) * 64 + d.toNat % 64)) = [b, c, d] := by
  obtain ⟨least, most⟩ := second
  obtain ⟨least', most'⟩ := third
  generalize value : ((b.toNat - 0xE0) * 64 + c.toNat % 64) * 64 + d.toNat % 64 = v
  simp only [String.utf8EncodeChar, toNat_val_ofNat (v := v) (by omega)]
  rw [if_neg (by omega), if_neg (by omega), if_pos (by omega), ofNat_eq (b := b) (by omega),
    ofNat_eq (b := c) (by omega), ofNat_eq (b := d) (by omega)]

theorem utf8EncodeChar_four {b c d e : UInt8} (low : 0xF0 ≤ b.toNat) (high : b.toNat ≤ 0xF4) (second : Continues c)
    (first : b.toNat = 0xF0 → 0x90 ≤ c.toNat) (last : b.toNat = 0xF4 → c.toNat ≤ 0x8F) (third : Continues d)
    (fourth : Continues e) :
    String.utf8EncodeChar
        (Char.ofNat ((((b.toNat - 0xF0) * 64 + c.toNat % 64) * 64 + d.toNat % 64) * 64 + e.toNat % 64)) =
      [b, c, d, e] := by
  obtain ⟨least, most⟩ := second
  obtain ⟨least', most'⟩ := third
  obtain ⟨least'', most''⟩ := fourth
  generalize value : (((b.toNat - 0xF0) * 64 + c.toNat % 64) * 64 + d.toNat % 64) * 64 + e.toNat % 64 = v
  simp only [String.utf8EncodeChar, toNat_val_ofNat (v := v) (by omega)]
  rw [if_neg (by omega), if_neg (by omega), if_neg (by omega), ofNat_eq (b := b) (by omega),
    ofNat_eq (b := c) (by omega), ofNat_eq (b := d) (by omega), ofNat_eq (b := e) (by omega)]

/-- Well-formed octets begin with those of a character. -/
theorem exists_char_of_isValid {bytes : List UInt8} (h : isValid bytes = true) (nonempty : bytes ≠ []) :
    ∃ c rest, bytes = String.utf8EncodeChar c ++ rest := by
  obtain ⟨b, rest, rfl⟩ := List.exists_cons_of_ne_nil nonempty
  obtain ⟨entries, later⟩ := (accepts_cons none b rest).mp ((isValid_iff_accepts _).mp h)
  rw [step] at entries later
  by_cases one : b.toNat < 0x80
  · refine ⟨Char.ofNat b.toNat, rest, ?_⟩
    simp only [String.utf8EncodeChar, toNat_val_ofNat (v := b.toNat) (.inl (by omega))]
    rw [if_pos (by omega), ofNat_eq rfl]
    rfl
  by_cases malformed : b.toNat < 0xC2 ∨ 0xF4 < b.toNat
  · rw [start_of_malformed (by omega)] at entries
    exact absurd (entries none (by simp)) (by simp)
  by_cases two : b.toNat < 0xE0
  · rw [start_of_two (by omega) two] at later
    obtain ⟨c, rest, rfl, second⟩ := exists_of_accepts_some later
    exact ⟨_, rest, by rw [utf8EncodeChar_two (by omega) two second]; rfl⟩
  by_cases three : b.toNat < 0xF0
  · rw [start_of_three (by omega) three] at later
    obtain ⟨c, rest, rfl, low, high⟩ := exists_of_accepts_some later
    rw [Accepts, scanFrom_next low high] at later
    obtain ⟨d, rest, rfl, third⟩ := exists_of_accepts_some later
    have second : Continues c ∧ (b.toNat = 0xE0 → 0xA0 ≤ c.toNat) ∧ (b.toNat = 0xED → c.toNat ≤ 0x9F) := by
      dsimp only at low high
      rw [Continues]
      split at low <;> split at high <;> omega
    exact ⟨_, rest, by rw [utf8EncodeChar_three (by omega) three second.1 second.2.1 second.2.2 third]; rfl⟩
  · rw [start_of_four (by omega) (by omega)] at later
    obtain ⟨c, rest, rfl, low, high⟩ := exists_of_accepts_some later
    rw [Accepts, scanFrom_next low high] at later
    obtain ⟨d, rest, rfl, third⟩ := exists_of_accepts_some later
    rw [scanFrom_next third.1 third.2] at later
    obtain ⟨e, rest, rfl, fourth⟩ := exists_of_accepts_some later
    have second : Continues c ∧ (b.toNat = 0xF0 → 0x90 ≤ c.toNat) ∧ (b.toNat = 0xF4 → c.toNat ≤ 0x8F) := by
      dsimp only at low high
      rw [Continues]
      split at low <;> split at high <;> omega
    exact ⟨_, rest, by
      rw [utf8EncodeChar_four (by omega) (by omega) second.1 second.2.1 second.2.2 third fourth]; rfl⟩

theorem scan_flatMap (cs : List Char) : scan (cs.flatMap String.utf8EncodeChar) = cs.map some := by
  induction cs with
  | nil => rfl
  | cons c cs ih => rw [List.flatMap_cons, scan_utf8EncodeChar_append, ih, List.map_cons]

theorem scan_encode (s : String) : scan (encode s) = s.toList.map some := by
  rw [encode_eq_flatMap, scan_flatMap]

theorem isValid_encode (s : String) : isValid (encode s) = true := by
  rw [isValid, scan_encode, List.all_map, List.all_eq_true]
  intro c _
  rfl

/-- The octets of a text read as that text. -/
theorem lossy_encode (s : String) : lossy (encode s) = s := by
  rw [lossy, scan_encode, List.map_map]
  have same : s.toList.map ((fun c => c.getD replacement) ∘ some) = s.toList := List.map_id _
  rw [same, String.ofList_toList]

theorem encode_append (s t : String) : encode (s ++ t) = encode s ++ encode t := by
  rw [encode_eq_flatMap, encode_eq_flatMap, encode_eq_flatMap, String.toList_append, List.flatMap_append]

theorem encode_injective : Function.Injective encode := fun s t same => by
  rw [← lossy_encode s, same, lossy_encode]

theorem encode_join (texts : List String) : encode (String.join texts) = (texts.map encode).flatten := by
  induction texts with
  | nil => rfl
  | cons s rest ih => rw [String.join_cons, encode_append, ih, List.map_cons, List.flatten_cons]

/-- Well-formed octets are those of a text. -/
theorem exists_encode_of_isValid {bytes : List UInt8} (h : isValid bytes = true) : ∃ s : String, bytes = encode s := by
  induction length : bytes.length using Nat.strongRecOn generalizing bytes with
  | ind n ih =>
    by_cases nonempty : bytes = []
    · exact ⟨"", nonempty⟩
    obtain ⟨c, rest, split⟩ := exists_char_of_isValid h nonempty
    have one : encode (String.singleton c) = String.utf8EncodeChar c := by
      rw [encode_eq_flatMap, String.toList_singleton, List.flatMap_singleton]
    have first : isValid (String.utf8EncodeChar c) = true := one ▸ isValid_encode _
    have shorter : rest.length < n := by
      have size := c.utf8Size_pos
      rw [← length, split, List.length_append, String.length_utf8EncodeChar]
      omega
    obtain ⟨s, rfl⟩ := ih rest.length shorter ((isValid_append first).mp (split ▸ h)) rfl
    exact ⟨String.singleton c ++ s, by rw [encode_append, one, split]⟩

theorem isValid_iff_encode (bytes : List UInt8) : isValid bytes = true ↔ ∃ s : String, bytes = encode s := by
  constructor
  · exact exists_encode_of_isValid
  · rintro ⟨s, rfl⟩
    exact isValid_encode s

theorem encode_lossy {bytes : List UInt8} (h : isValid bytes = true) : encode (lossy bytes) = bytes := by
  obtain ⟨s, rfl⟩ := exists_encode_of_isValid h
  rw [lossy_encode]

/-- Between two characters of a text, or at one of its ends. -/
def IsBoundary (bytes : List UInt8) (k : Nat) : Prop :=
  ∃ front back : String, bytes = encode front ++ encode back ∧ k = (encode front).length

end Quota.Utf8
