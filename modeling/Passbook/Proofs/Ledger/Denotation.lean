import Passbook.Ledger.Money
import Passbook.Proofs.Ledger.Failure
import Passbook.Proofs.Number.Whole

namespace Passbook

/-! ## Binary numbers are read exactly -/

namespace Binary64

theorem halve_value (m k : Nat) : ((halve m k).1 : ℚ) / 2 ^ (halve m k).2 = m / 2 ^ k := by
  induction k generalizing m with
  | zero => rfl
  | succ k ih =>
    unfold halve
    split_ifs with even
    · obtain ⟨half, rfl⟩ : ∃ half, m = 2 * half := ⟨m / 2, by omega⟩
      rw [ih, Nat.mul_div_cancel_left half (by norm_num), pow_succ]
      push_cast
      field_simp
    · rfl

theorem value_toDecimal {b : Binary64} (h : b.isFinite) :
    b.toDecimal.isFinite ∧ b.toDecimal.value = b.value := by
  cases b with
  | infinite | nan => cases h
  | finite n m e =>
  refine ⟨rfl, ?_⟩
  have halved := halve_value (m * 2 ^ e.toNat) (-e).toNat
  simp only [toDecimal, Decimal.value, value, Nat.pow_eq, Nat.cast_mul, Nat.cast_pow, zpow_neg,
    zpow_natCast]
  congr 1
  rw [two_zpow_eq, ← mul_div_assoc]
  push_cast at halved ⊢
  rw [← halved, show (10 : ℚ) = 2 * 5 by norm_num, mul_pow]
  field_simp

end Binary64

/-! ## What is read as a number -/

namespace Json
open Decimal (readable?)
variable {v : Json} {x : ℚ}

/-- A text denotes the number that it spells, a number denotes itself, and the truth values are one
and nought. -/
inductive Denotes : Json → ℚ → Prop
  | text {s : String} {y : Decimal} (spelled : Decimal.ofText? s = some y) (finite : y.isFinite) :
    Denotes (.string s) y.value
  | whole (i : Int) : Denotes (.int i) i
  | binary {b : Binary64} (finite : b.isFinite) : Denotes (.float b) b.value
  | truth (b : Bool) : Denotes (.bool b) (if b then 1 else 0)

/-- A list may give a number in parts: nought or one for its sign, its digits, and its power of ten,
which is one that a written number may have. -/
inductive DenotesInParts : Json → ℚ → Prop
  | parts {sign scale : Json} {items : List Json} {n : Bool} {digits : List Nat} {e : Int}
      {y : Decimal} (hsign : sign.whole? = some (if n then 1 else 0))
      (hdigits : items.map whole? = digits.map fun d : Nat => some (d : Int))
      (small : ∀ d ∈ digits, d ≤ 9) (hscale : scale.whole? = some e)
      (readable : readable? n (digits.foldl (10 * · + ·) 0) e = some y) :
    DenotesInParts (.array [sign, .array items, scale]) y.value

theorem found_eq_ok {given : Option Decimal} {y : Decimal} :
    found given = .ok y ↔ given = some y := by
  cases given <;> simp [found]

theorem word_eq_ok {i : Int} :
    v.word = .ok i ↔ v.whole? = some i ∧ -wordBound ≤ i ∧ i < wordBound := by
  unfold word
  cases v.whole? with
  | none => simp
  | some j =>
    simp only [Option.some.injEq]
    split_ifs with fits
    · simp only [Except.ok.injEq]
      exact ⟨fun same => ⟨same, same ▸ fits⟩, And.left⟩
    · simp only [false_iff]
      rintro ⟨rfl, fits'⟩
      exact fits fits'

theorem signOf_eq_ok {n : Bool} : v.signOf = .ok n ↔ v.whole? = some (if n then 1 else 0) := by
  unfold signOf
  rw [Except.bind_eq_ok]
  constructor
  · rintro ⟨i, read, h⟩
    obtain ⟨given, -⟩ := word_eq_ok.1 read
    split_ifs at h with zero one <;> cases h
    · rw [given, zero, if_neg (by decide)]
    · rw [given, one, if_pos rfl]
  · intro given
    have fits : -wordBound ≤ (if n then 1 else 0) ∧ (if n then 1 else 0) < wordBound := by
      cases n <;> decide
    refine ⟨_, word_eq_ok.2 ⟨given, fits⟩, ?_⟩
    cases n <;> rfl

def digitChar (d : Nat) : Char := Char.ofNat ('0'.toNat + d)

theorem digitOf_eq_ok {c : Char} :
    v.digitOf = .ok c ↔ ∃ d : Nat, d ≤ 9 ∧ v.whole? = some (d : Int) ∧ c = digitChar d := by
  unfold digitOf
  rw [Except.bind_eq_ok]
  constructor
  · rintro ⟨i, read, h⟩
    obtain ⟨given, -⟩ := word_eq_ok.1 read
    split_ifs at h with digit
    cases h
    refine ⟨i.toNat, by omega, ?_, rfl⟩
    rw [given, Int.toNat_of_nonneg digit.1]
  · rintro ⟨d, small, given, rfl⟩
    refine ⟨d, word_eq_ok.2 ⟨given, ?_⟩, ?_⟩
    · simp only [wordBound]
      omega
    · rw [if_pos (by omega), Int.toNat_natCast]
      rfl

theorem mapM_digitOf {items : List Json} {cs : List Char} :
    items.mapM digitOf = .ok cs ↔ ∃ digits : List Nat, (∀ d ∈ digits, d ≤ 9) ∧
      items.map whole? = digits.map (fun d : Nat => some (d : Int)) ∧
      cs = digits.map digitChar := by
  induction items generalizing cs with
  | nil =>
    constructor
    · intro h
      cases h
      exact ⟨[], by simp⟩
    · rintro ⟨digits, -, same, rfl⟩
      obtain rfl : digits = [] := by simpa using same.symm
      rfl
  | cons item items ih =>
    rw [List.mapM_cons, Except.bind_eq_ok]
    constructor
    · rintro ⟨c, first, h⟩
      obtain ⟨rest, others, h⟩ := Except.bind_eq_ok.1 h
      cases h
      obtain ⟨d, small, given, rfl⟩ := digitOf_eq_ok.1 first
      obtain ⟨digits, smalls, givens, rfl⟩ := ih.1 others
      exact ⟨d :: digits, by simpa using ⟨small, smalls⟩, by simp [given, givens], rfl⟩
    · rintro ⟨digits, smalls, givens, rfl⟩
      cases digits with
      | nil => cases givens
      | cons d digits =>
      simp only [List.map_cons, List.cons.injEq] at givens
      have first := digitOf_eq_ok.2 ⟨d, smalls d List.mem_cons_self, givens.1, rfl⟩
      have others :=
        ih.2 ⟨digits, fun e mem => smalls e (List.mem_cons_of_mem d mem), givens.2, rfl⟩
      exact ⟨_, first, by rw [others]; rfl⟩

theorem digitsOf_eq_ok {cs : List Char} :
    v.digitsOf = .ok cs ↔ ∃ items, v = .array items ∧ items.mapM digitOf = .ok cs := by
  cases v <;> simp [digitsOf]

theorem numberOfDigits_map (digits : List Nat) (small : ∀ d ∈ digits, d ≤ 9) :
    Decimal.numberOfDigits (digits.map digitChar) = digits.foldl (10 * · + ·) 0 := by
  have value (d : Nat) (h : d ≤ 9) : (digitChar d).toNat - '0'.toNat = d := by
    interval_cases d <;> rfl
  rw [Decimal.numberOfDigits, List.foldl_map]
  refine List.foldl_ext _ _ _ fun n d mem => ?_
  rw [value d (small d mem)]

theorem readable?_finite {n : Bool} {c : Nat} {e : Int} {y : Decimal}
    (h : readable? n c e = some y) : y.isFinite ∧ -wordBound ≤ e ∧ e < wordBound := by
  have digits := digitCount_pos c
  unfold readable? at h
  split_ifs at h <;> cases h <;> refine ⟨rfl, ?_⟩ <;>
    simp only [wordBound, Decimal.readableBottom, Decimal.readableTop, Decimal.reach] at * <;> omega

theorem scaleOf_power {e : Int} :
    v.scaleOf = .ok (.power e) ↔ v.whole? = some e ∧ -wordBound ≤ e ∧ e < wordBound := by
  rw [← word_eq_ok]
  unfold scaleOf
  split
  · simp [word, whole?]
  · simp [word, whole?]
  · simp [word, whole?]
  · cases v.word <;> simp [bind, Except.bind, pure, Except.pure]

theorem numberOfParts_finite {sign digits scale : Json} {y : Decimal} (finite : y.isFinite) :
    numberOfParts sign digits scale = .ok y ↔ ∃ n e cs, sign.signOf = .ok n ∧
      scale.scaleOf = .ok (.power e) ∧ digits.digitsOf = .ok cs ∧
      readable? n (Decimal.numberOfDigits cs) e = some y := by
  simp only [numberOfParts, Except.bind_eq_ok]
  constructor
  · rintro ⟨n, hsign, scale, hscale, cs, hdigits, h⟩
    cases scale with
    | power e => exact ⟨n, e, cs, hsign, hscale, hdigits, found_eq_ok.1 h⟩
    | infinite | nan =>
      cases h
      cases finite
  · rintro ⟨n, e, cs, hsign, hscale, hdigits, read⟩
    exact ⟨n, hsign, _, hscale, cs, hdigits, found_eq_ok.2 read⟩

theorem denotesInParts_iff {sign digits scale : Json} :
    DenotesInParts (.array [sign, digits, scale]) x ↔
      ∃ y, numberOfParts sign digits scale = .ok y ∧ y.isFinite ∧ y.value = x := by
  constructor
  · rintro ⟨hsign, hdigits, small, hscale, read⟩
    obtain ⟨finite, fits⟩ := readable?_finite read
    refine ⟨_, (numberOfParts_finite finite).2 ?_, finite, rfl⟩
    refine ⟨_, _, _, signOf_eq_ok.2 hsign, scaleOf_power.2 ⟨hscale, fits⟩,
      digitsOf_eq_ok.2 ⟨_, rfl, mapM_digitOf.2 ⟨_, small, hdigits, rfl⟩⟩, ?_⟩
    rwa [numberOfDigits_map _ small]
  · rintro ⟨y, read, finite, rfl⟩
    obtain ⟨n, e, cs, hsign, hscale, hdigits, read⟩ := (numberOfParts_finite finite).1 read
    obtain ⟨items, rfl, each⟩ := digitsOf_eq_ok.1 hdigits
    obtain ⟨ds, small, givens, rfl⟩ := mapM_digitOf.1 each
    rw [numberOfDigits_map _ small] at read
    exact .parts (signOf_eq_ok.1 hsign) givens small (scaleOf_power.1 hscale).1 read

theorem value_ofInt (i : Int) : (Decimal.ofInt i).value = i := by
  rw [Decimal.ofInt, Decimal.value_units, zpow_zero, mul_one]

theorem denotes_iff :
    (v.Denotes x ∨ v.DenotesInParts x) ↔ ∃ y, v.toDecimal = .ok y ∧ y.isFinite ∧ y.value = x := by
  constructor
  · rintro (denotes | parts)
    · cases denotes with
      | text spelled finite => exact ⟨_, found_eq_ok.2 spelled, finite, rfl⟩
      | whole i => exact ⟨_, rfl, rfl, value_ofInt i⟩
      | binary finite => exact ⟨_, rfl, Binary64.value_toDecimal finite⟩
      | truth b => exact ⟨_, rfl, rfl, by cases b <;> simp⟩
    · cases parts with
      | parts hsign hdigits small hscale read =>
        exact denotesInParts_iff.1 (.parts hsign hdigits small hscale read)
  · rintro ⟨y, read, finite, rfl⟩
    unfold toDecimal at read
    split at read
    · exact .inl (.text (found_eq_ok.1 read) finite)
    · cases read
      exact .inl (value_ofInt _ ▸ .whole _)
    · rename_i b
      cases read
      have isFinite : b.isFinite := by cases b <;> first | rfl | cases finite
      exact .inl ((Binary64.value_toDecimal isFinite).2 ▸ .binary isFinite)
    · rename_i b
      cases read
      have := Denotes.truth b
      refine .inl ?_
      cases b <;> simpa using this
    · exact .inr (denotesInParts_iff.2 ⟨y, read, finite, rfl⟩)
    · cases read

end Json

end Passbook
