import Passbook.Proofs.Ledger.Rules
import Passbook.Service.Call

namespace Passbook

namespace Call

theorem openingAmount_opening {deposit : Option (Option Decimal)} {opening : Decimal}
    (h : openingAmount deposit = .ok opening) : opening.IsOpening := by
  cases deposit with
  | none =>
    cases h
    exact .inr ⟨false, 0, 0, rfl, rfl, .inr ⟨rfl, rfl⟩⟩
  | some given => exact Money.check_opening h

theorem operation_checked {terms : Terms} {call : Call} {op : Operation}
    (h : call.operation terms = .ok op) : op.Checked := by
  cases call with
  | createAccount owner label currency deposit =>
    obtain ⟨opening, hopening, h⟩ := Except.bind_eq_ok.1 h
    cases h
    exact ⟨rfl, rfl, openingAmount_opening hopening⟩
  | applyTransaction owner id amount kind currency description =>
    obtain ⟨amount, hamount, h⟩ := Except.bind_eq_ok.1 h
    obtain ⟨kind, hkind, h⟩ := Except.bind_eq_ok.1 h
    cases h
    exact ⟨Money.check_amount hamount, normalizeKind_ok hkind, rfl⟩
  | makePayment owner id amount payeeName payeeNumber description =>
    obtain ⟨amount, hamount, h⟩ := Except.bind_eq_ok.1 h
    cases h
    exact ⟨Money.check_amount hamount, .inr rfl, rfl⟩
  | createPayee owner name number =>
    simp only [operation] at h
    split_ifs at h with blank
    · cases h
    · cases h
      rw [not_or] at blank
      exact ⟨⟨name, rfl, blank.1⟩, ⟨number, rfl, blank.2⟩⟩
  | listAccounts | listTransactions | listPayees | deletePayees => cases h; trivial

theorem operation_owner {terms : Terms} {call : Call} {op : Operation}
    (h : call.operation terms = .ok op) : op.owner = call.owner := by
  cases call with
  | createAccount =>
    obtain ⟨_, -, h⟩ := Except.bind_eq_ok.1 h
    cases h
    rfl
  | applyTransaction =>
    obtain ⟨_, -, h⟩ := Except.bind_eq_ok.1 h
    obtain ⟨_, -, h⟩ := Except.bind_eq_ok.1 h
    cases h
    rfl
  | makePayment =>
    obtain ⟨_, -, h⟩ := Except.bind_eq_ok.1 h
    cases h
    rfl
  | createPayee =>
    simp only [operation] at h
    split_ifs at h <;> cases h
    rfl
  | listAccounts | listTransactions | listPayees | deletePayees => cases h; rfl

end Call

namespace World

theorem run_induction {terms : Terms} (inv : World → Prop)
    (step : ∀ call w, inv w → inv (w.perform terms call).state) (calls : List Call) (w : World)
    (start : inv w) : inv (run terms calls w).2 := by
  induction calls generalizing w with
  | nil => exact start
  | cons call calls ih => exact ih _ (step call w start)

end World

end Passbook
