import Mathlib.Tactic
import Passbook.Ledger.Failure

namespace Passbook.Except
variable {ε ε' α β : Type}

theorem bind_eq_ok {x : Except ε α} {f : α → Except ε β} {b : β} :
    x >>= f = .ok b ↔ ∃ a, x = .ok a ∧ f a = .ok b := by
  cases x <;> simp [bind, Except.bind]

theorem bind_eq_error {x : Except ε α} {f : α → Except ε β} {e : ε} :
    x >>= f = .error e ↔ x = .error e ∨ ∃ a, x = .ok a ∧ f a = .error e := by
  cases x <;> simp [bind, Except.bind]

theorem mapError_eq_ok {f : ε → ε'} {x : Except ε α} {a : α} :
    x.mapError f = .ok a ↔ x = .ok a := by
  cases x <;> simp [Except.mapError]

theorem toOption_eq_some {x : Except ε α} {a : α} : x.toOption = some a ↔ x = .ok a := by
  cases x <;> simp [Except.toOption]

@[simp] theorem ok_bind (a : α) (f : α → Except ε β) : Except.ok a >>= f = f a := rfl

@[simp] theorem error_bind (e : ε) (f : α → Except ε β) :
    (Except.error e : Except ε α) >>= f = .error e := rfl

theorem mapM_eq_map {f : α → Except ε β} {g : α → β} (step : ∀ {a b}, f a = .ok b → b = g a)
    {as : List α} {bs : List β} (h : as.mapM f = .ok bs) : bs = as.map g := by
  induction as generalizing bs with
  | nil =>
    cases h
    rfl
  | cons a as ih =>
    rw [List.mapM_cons] at h
    obtain ⟨b, first, h⟩ := bind_eq_ok.1 h
    obtain ⟨rest, others, h⟩ := bind_eq_ok.1 h
    cases h
    rw [step first, ih others, List.map_cons]

theorem mapM_eq_ok {f : α → Except ε β} {g : α → β} {as : List α}
    (each : ∀ a ∈ as, f a = .ok (g a)) : as.mapM f = .ok (as.map g) := by
  induction as with
  | nil => rfl
  | cons a as ih =>
    rw [List.mapM_cons, each a List.mem_cons_self,
      ih fun b mem => each b (List.mem_cons_of_mem a mem)]
    rfl

inductive Paired (f : ε → ε) (R : α → β → Prop) : Except ε α → Except ε β → Prop
  | error (e : ε) : Paired f R (.error e) (.error (f e))
  | ok {a b} (related : R a b) : Paired f R (.ok a) (.ok b)

namespace Paired
variable {γ δ : Type} {f : ε → ε} {R : α → β → Prop} {S : γ → δ → Prop} {x : Except ε α}
  {y : Except ε β}

theorem bind {k : α → Except ε γ} {l : β → Except ε δ} (h : Paired f R x y)
    (rest : ∀ a b, R a b → Paired f S (k a) (l b)) : Paired f S (x >>= k) (y >>= l) := by
  cases h with
  | error e => exact .error e
  | ok related => exact rest _ _ related

theorem map {k : α → γ} {l : β → δ} (h : Paired f R x y) (rest : ∀ a b, R a b → S (k a) (l b)) :
    Paired f S (x.map k) (y.map l) := by
  cases h with
  | error e => exact .error e
  | ok related => exact .ok (rest _ _ related)

theorem mono {R' : α → β → Prop} (h : Paired f R x y) (le : ∀ a b, R a b → R' a b) :
    Paired f R' x y := by
  cases h with
  | error e => exact .error e
  | ok related => exact .ok (le _ _ related)

theorem known (h : Paired f R x y) : Paired f (fun a b => R a b ∧ x = .ok a) x y := by
  cases h with
  | error e => exact .error e
  | ok related => exact .ok ⟨related, rfl⟩

theorem ite {p q : Prop} [Decidable p] [Decidable q] {x' : Except ε α} {y' : Except ε β}
    (same : p ↔ q) (h : Paired f R x y) (h' : Paired f R x' y') :
    Paired f R (if p then x else x') (if q then y else y') := by
  by_cases hp : p
  · simpa only [if_pos hp, if_pos (same.1 hp)] using h
  · simpa only [if_neg hp, if_neg (mt same.2 hp)] using h'

theorem refl (x : Except ε α) : Paired id Eq x x := by
  cases x with
  | error e => exact .error e
  | ok a => exact .ok rfl

end Paired

end Passbook.Except
