import Passbook.Proofs.Ledger.Supply

namespace Passbook

structure IsAccountNumber (number : String) : Prop where
  length : number.length = 12
  digits : ∀ c ∈ number.toList, c.isDigit
  leading : number.toList.head? ≠ some '0'

theorem head?_toDigits {n : Nat} (pos : 0 < n) : (Nat.toDigits 10 n).head? ≠ some '0' := by
  induction n using Nat.strong_induction_on with
  | _ n ih =>
    rw [Nat.toDigits_eq_if (by decide)]
    split_ifs with small
    · interval_cases n <;> decide
    · have ne := ih (n / 10) (by omega) (by omega)
      rwa [List.head?_append_of_ne_nil _ Nat.toDigits_ne_nil]

theorem isAccountNumber {draw : Nat} (h : draw < accountNumberSpan) :
    IsAccountNumber (accountNumber draw) := by
  have text : (accountNumber draw).toList = Nat.toDigits 10 (accountNumberFloor + draw) := by
    rw [accountNumber, Nat.toString_eq_ofList_toDigits, String.toList_ofList]
  refine ⟨?_, ?_, ?_⟩
  · have upper := (Nat.length_toDigits_le_iff (b := 10) (n := accountNumberFloor + draw) (k := 12)
      (by decide) (by decide)).2
    have lower := (Nat.length_toDigits_le_iff (b := 10) (n := accountNumberFloor + draw) (k := 11)
      (by decide) (by decide)).1
    rw [← String.length_toList, text]
    simp only [accountNumberSpan, accountNumberFloor] at *
    omega
  · rw [text]
    exact fun c => Nat.isDigit_of_mem_toDigits (by decide) (by decide)
  · rw [text]
    exact head?_toDigits (Nat.add_pos_left (by decide) draw)

namespace Supply
variable {s : Supply} {used : String → Prop} {attempts i : Nat}

def candidate (s : Supply) (i : Nat) : String := accountNumber (s.draw (s.drawn + i))

def drawnOn (s : Supply) (n : Nat) : Supply := { s with drawn := s.drawn + n }

@[simp] theorem drawnOn_zero (s : Supply) : s.drawnOn 0 = s := rfl

theorem later_drawnOn (s : Supply) (n : Nat) : s.Later (s.drawnOn n) :=
  ⟨rfl, le_rfl, rfl, le_rfl, Nat.le_add_right _ _⟩

theorem drawNumber_eq (s : Supply) : s.drawNumber = (s.candidate 0, s.drawnOn 1) := rfl

theorem candidate_drawnOn (s : Supply) (n i : Nat) :
    (s.drawnOn n).candidate i = s.candidate (n + i) := by
  simp only [candidate, drawnOn, Nat.add_assoc]

theorem drawnOn_drawnOn (s : Supply) (n m : Nat) : (s.drawnOn n).drawnOn m = s.drawnOn (n + m) := by
  simp only [drawnOn, Nat.add_assoc]

structure FirstFree (s : Supply) (used : String → Prop) (attempts i : Nat) : Prop where
  lt : i < attempts
  free : ¬used (s.candidate i)
  earlier : ∀ j < i, used (s.candidate j)

theorem exists_firstFree : (∃ i, s.FirstFree used attempts i) ↔
    ∃ i < attempts, ¬used (s.candidate i) := by
  classical
  constructor
  · rintro ⟨i, first⟩
    exact ⟨i, first.lt, first.free⟩
  · intro some
    obtain ⟨lt, free⟩ := Nat.find_spec some
    refine ⟨Nat.find some, lt, free, fun j before => ?_⟩
    by_contra unused
    exact Nat.find_min some before ⟨before.trans lt, unused⟩

theorem FirstFree.tail {s' : Supply} (first : s.FirstFree used (attempts + 1) (i + 1))
    (next : ∀ i, s'.candidate i = s.candidate (1 + i)) : s'.FirstFree used attempts i where
  lt := Nat.lt_of_succ_lt_succ first.lt
  free := by
    rw [next, Nat.add_comm]
    exact first.free
  earlier j before := by
    rw [next, Nat.add_comm]
    exact first.earlier _ (Nat.succ_lt_succ before)

theorem findNumber_firstFree {taken : String → Bool} (first : s.FirstFree (taken ·) attempts i) :
    s.findNumber taken attempts = (some (s.candidate i), s.drawnOn (i + 1)) := by
  induction attempts generalizing s i with
  | zero => exact absurd first.lt (Nat.not_lt_zero _)
  | succ attempts ih =>
    rw [findNumber, drawNumber_eq]
    cases i with
    | zero => simp only [first.free, Bool.false_eq_true, if_false]
    | succ i =>
      have used : taken (s.candidate 0) = true := first.earlier 0 (Nat.succ_pos i)
      simp only [used, if_true]
      rw [ih (first.tail (s.candidate_drawnOn 1)), candidate_drawnOn, drawnOn_drawnOn,
        Nat.add_comm 1, Nat.add_comm 1]

theorem findNumber_used {taken : String → Bool} (used : ∀ i < attempts, taken (s.candidate i)) :
    s.findNumber taken attempts = (none, s.drawnOn attempts) := by
  induction attempts generalizing s with
  | zero => rfl
  | succ attempts ih =>
    have later : ∀ i < attempts, taken ((s.drawnOn 1).candidate i) := fun i lt => by
      rw [candidate_drawnOn]
      exact used _ (by omega)
    rw [findNumber, drawNumber_eq]
    simp only [used 0 (Nat.succ_pos _), if_true]
    rw [ih later, drawnOn_drawnOn, Nat.add_comm 1]

theorem findNumber_candidate {taken : String → Bool} {number : String} {s' : Supply}
    (found : s.findNumber taken attempts = (some number, s')) :
    ∃ n, number = accountNumber (s.draw n) := by
  induction attempts generalizing s with
  | zero => cases found
  | succ attempts ih =>
    rw [findNumber, drawNumber_eq] at found
    cases used : taken (s.candidate 0) with
    | true =>
      simp only [used, if_true] at found
      obtain ⟨n, same⟩ := ih found
      exact ⟨n, same⟩
    | false =>
      simp only [used, Bool.false_eq_true, if_false, Prod.mk.injEq, Option.some.injEq] at found
      exact ⟨_, found.1.symm⟩

end Supply
end Passbook
