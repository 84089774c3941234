import Mathlib.Algebra.Order.Floor.Ring
import Passbook.Proofs.Decision.Verdict

/-!
# Debits that race for the same money

A store serves the operations that arrive together one at a time, in some order. What a debit comes
to at its turn hangs on what the debits before it have left.
-/

namespace Passbook

structure Debit where
  amount : Decimal
  currency : Option String
  description : String

def Debit.operation (owner id : Uuid) (d : Debit) : Operation :=
  .applyTransaction owner id d.amount d.currency .debit (some d.description)

def Debit.size (d : Debit) : ℚ := d.amount.value

def inTurn {σ : Type} (run : Operation → σ → Supply → Outcome (σ × Supply) Answer) :
    List Operation → σ → Supply → List (Except Failure Answer) × σ × Supply
  | [], store, s => ([], store, s)
  | op :: ops, store, s =>
    let o := run op store s
    let (results, after) := inTurn run ops o.state.1 o.state.2
    (o.result :: results, after)

/-! ## Turns -/

def taken (results : List (Except Failure Answer)) : List Transaction :=
  results.filterMap fun
    | .ok (.transaction t) => some t
    | _ => none

def withdrawn (results : List (Except Failure Answer)) : ℚ :=
  ((taken results).map (·.amount.value)).sum

/-- Debits of these sizes take their turns at an account that holds `b`, and leave it with `last`. -/
inductive Race (id : Uuid) : ℚ → List ℚ → List (Except Failure Answer) → ℚ → Prop
  | ended (b : ℚ) : Race id b [] [] b
  | refused {b x last : ℚ} {xs : List ℚ} {failure : Failure} {results : List (Except Failure Answer)}
      (turn : Debited id x b (.error failure)) (rest : Race id b xs results last) :
    Race id b (x :: xs) (.error failure :: results) last
  | recorded {b x last : ℚ} {xs : List ℚ} {t : Transaction} {results : List (Except Failure Answer)}
      (turn : Debited id x b (.ok (.transaction t))) (rest : Race id (b - x) xs results last) :
    Race id b (x :: xs) (.ok (.transaction t) :: results) last

section
variable {id : Uuid} {a b x last : ℚ} {xs : List ℚ} {t : Transaction} {failure : Failure}
  {results : List (Except Failure Answer)}

@[simp] theorem taken_nil : taken [] = [] := rfl

@[simp] theorem taken_error : taken (.error failure :: results) = taken results := rfl

@[simp] theorem taken_ok : taken (.ok (.transaction t) :: results) = t :: taken results := rfl

@[simp] theorem withdrawn_nil : withdrawn [] = 0 := rfl

@[simp] theorem withdrawn_error : withdrawn (.error failure :: results) = withdrawn results := rfl

@[simp] theorem withdrawn_ok :
    withdrawn (.ok (.transaction t) :: results) = t.amount.value + withdrawn results := rfl

theorem Debited.covered (h : Debited id x b (.ok (.transaction t))) :
    x ≤ b ∧ t.amount.value = x := by
  cases h with
  | recorded covered on debit all => exact ⟨covered, all⟩

theorem Debited.less (h : Debited id x b (.error failure)) : b < x := by
  cases h with
  | refused less => exact less

namespace Race

theorem last_eq (h : Race id b xs results last) : last = b - withdrawn results := by
  induction h with
  | ended b => simp
  | refused turn rest ih => rw [withdrawn_error, ih]
  | recorded turn rest ih =>
    rw [withdrawn_ok, turn.covered.2, ih]
    ring

theorem last_nonneg (h : Race id b xs results last) (nonneg : 0 ≤ b) : 0 ≤ last := by
  induction h with
  | ended b => exact nonneg
  | refused turn rest ih => exact ih nonneg
  | recorded turn rest ih => exact ih (sub_nonneg.2 turn.covered.1)

theorem length_eq (h : Race id b xs results last) : results.length = xs.length := by
  induction h with
  | ended b => rfl
  | refused turn rest ih | recorded turn rest ih => simp [ih]

theorem turn (h : Race id b xs results last) (i : Nat) (result : Except Failure Answer)
    (debit : xs[i]? = some x) (answered : results[i]? = some result) :
    Debited id x (b - withdrawn (results.take i)) result := by
  induction h generalizing i with
  | ended b => cases debit
  | refused turn rest ih =>
    cases i with
    | zero =>
      cases debit
      cases answered
      simpa using turn
    | succ i => simpa using ih i debit answered
  | recorded turn rest ih =>
    cases i with
    | zero =>
      cases debit
      cases answered
      simpa using turn
    | succ i =>
      have next := ih i debit answered
      rwa [List.take_succ_cons, withdrawn_ok, turn.covered.2, ← sub_sub]

theorem count (h : Race id b xs results last) (pos : 0 < a) (same : ∀ x ∈ xs, x = a) :
    (taken results).length = min xs.length ⌊b / a⌋₊ := by
  induction h with
  | ended b => simp
  | refused turn rest ih =>
    obtain ⟨rfl, others⟩ := List.forall_mem_cons.1 same
    have none : ⌊_ / _⌋₊ = 0 := Nat.floor_eq_zero.2 ((div_lt_one pos).2 turn.less)
    rw [taken_error, ih others, none, Nat.min_zero, Nat.min_zero]
  | @recorded b x last xs t results turn rest ih =>
    obtain ⟨rfl, others⟩ := List.forall_mem_cons.1 same
    have one : 1 ≤ b / x := (one_le_div pos).2 turn.covered.1
    have floor : ⌊b / x⌋₊ = ⌊(b - x) / x⌋₊ + 1 := by
      rw [sub_div, div_self pos.ne', Nat.floor_sub_one, Nat.sub_add_cancel]
      exact Nat.le_floor (by exact_mod_cast one)
    rw [taken_ok, List.length_cons, List.length_cons, ih others, floor, Nat.add_min_add_right]

end Race

end

structure Raced (id : Uuid) (b : ℚ) (xs : List ℚ) (results : List (Except Failure Answer))
    (last : ℚ) : Prop where
  last : last = b - withdrawn results
  covered : 0 ≤ b → withdrawn results ≤ b
  length : results.length = xs.length
  turn : ∀ (i : Nat) x result, xs[i]? = some x → results[i]? = some result →
    Debited id x (b - withdrawn (results.take i)) result
  count : ∀ a, 0 < a → (∀ x ∈ xs, x = a) → (taken results).length = min xs.length ⌊b / a⌋₊

theorem Race.raced {id : Uuid} {b last : ℚ} {xs : List ℚ} {results : List (Except Failure Answer)}
    (h : Race id b xs results last) : Raced id b xs results last where
  last := h.last_eq
  covered nonneg := by
    rw [← sub_nonneg, ← h.last_eq]
    exact h.last_nonneg nonneg
  length := h.length_eq
  turn i _ result debit answered := h.turn i result debit answered
  count _ pos same := h.count pos same

/-! ## Stores -/

section
variable {σ L : Type} {owner id : Uuid} (log : σ → List L) (form : Transaction → L)

/-- A turn at a store which keeps transactions in a log, in a form of its own. -/
inductive Turn (holds : ℚ → σ → Prop) (id : Uuid) (x b : ℚ) (store store' : σ) :
    Except Failure Answer → Prop
  | refused {failure : Failure} (debited : Debited id x b (.error failure)) (kept : holds b store')
      (same : log store' = log store) :
    Turn holds id x b store store' (.error failure)
  | recorded {t : Transaction} (debited : Debited id x b (.ok (.transaction t)))
      (less : holds (b - x) store') (more : log store' = log store ++ [form t]) :
    Turn holds id x b store store' (.ok (.transaction t))

variable {log form} {holds : ℚ → σ → Prop}
  {run : Operation → σ → Supply → Outcome (σ × Supply) Answer}

theorem inTurn_race (debits : List Debit)
    (turn : ∀ d ∈ debits, ∀ b store s, holds b store →
      let o := run (d.operation owner id) store s
      Turn log form holds id d.size b store o.state.1 o.result)
    {b : ℚ} {store : σ} (start : holds b store) (s : Supply) :
    let o := inTurn run (debits.map (·.operation owner id)) store s
    ∃ last, holds last o.2.1 ∧ Race id b (debits.map (·.size)) o.1 last ∧
      log o.2.1 = log store ++ (taken o.1).map form := by
  induction debits generalizing b store s with
  | nil => exact ⟨b, start, .ended b, by simp [inTurn]⟩
  | cons d debits ih =>
    have rest {b : ℚ} {store : σ} (start : holds b store) (s : Supply) :=
      ih (fun d mem => turn d (List.mem_cons_of_mem _ mem)) start s
    have first := turn d List.mem_cons_self b store s start
    simp only [List.map_cons, inTurn]
    generalize run (d.operation owner id) store s = o at first
    obtain ⟨result, ⟨store', s'⟩, events⟩ := o
    cases first with
    | refused debited kept same =>
      obtain ⟨last, after, race, logged⟩ := rest kept s'
      exact ⟨last, after, .refused debited race, by rw [logged, same]; rfl⟩
    | recorded debited less more =>
      obtain ⟨last, after, race, logged⟩ := rest less s'
      refine ⟨last, after, .recorded debited race, ?_⟩
      rw [logged, more, taken_ok, List.map_cons, List.append_assoc, List.singleton_append]

end

end Passbook
