import Passbook.Proofs.Ledger.Rules

namespace Passbook

def total (kind : Kind) (id : Uuid) (ts : List Transaction) : ℚ :=
  ((ts.filter fun t => t.account = id ∧ t.kind = kind).map (·.amount.value)).sum

def Transaction.Recorded (t : Transaction) : Prop :=
  t.amount.IsAmount ∧ (t.kind = .credit ∨ t.kind = .debit)

theorem Decimal.IsAmount.value_pos {x : Decimal} (h : x.IsAmount) : 0 < x.value := by
  obtain ⟨cents, pos, -, rfl⟩ := h
  rw [value_ofCents]
  positivity

section
variable {kind : Kind} {id : Uuid} {ts : List Transaction} {t : Transaction}

@[simp] theorem total_append (kind : Kind) (id : Uuid) (ts us : List Transaction) :
    total kind id (ts ++ us) = total kind id ts + total kind id us := by
  simp [total, List.filter_append]

theorem total_self (account : t.account = id) (same : t.kind = kind) :
    total kind id [t] = t.amount.value := by
  simp [total, account, same]

theorem total_kind_ne (other : t.kind ≠ kind) : total kind id [t] = 0 := by
  simp [total, other]

theorem total_of_forall_ne (other : ∀ t ∈ ts, t.account ≠ id) : total kind id ts = 0 := by
  have none : ts.filter (fun t => t.account = id ∧ t.kind = kind) = [] := by
    rw [List.filter_eq_nil_iff]
    intro t mem
    simp [other t mem]
  rw [total, none]
  rfl

theorem total_nonneg (recorded : ∀ t ∈ ts, t.Recorded) : 0 ≤ total kind id ts := by
  apply List.sum_nonneg
  intro x hx
  obtain ⟨t, mem, rfl⟩ := List.mem_map.1 hx
  exact (recorded t (List.mem_filter.1 mem).1).1.value_pos.le

end

end Passbook
