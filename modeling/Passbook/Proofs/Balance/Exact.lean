import Passbook.Proofs.Balance.Durable
import Passbook.Proofs.Number.Error
import Passbook.Proofs.Service.Change

/-!
# Where binary balances are exact to the cent

As long as few movements keep a balance below a power of two, rounding takes it less than half a
cent away from what was moved, so that all of it is read back.
-/

namespace Passbook.Binary64
variable {k n : Nat} {ks : List Int} {j : Int}

/-- Each debit was at most what was read back at its turn. -/
inductive Covered : List Int → Prop
  | nil : Covered []
  | concat {ks : List Int} {j : Int} (covered : Covered ks) (moves : j ≠ 0)
      (bears : j < 0 → -j ≤ (tally ks).cents) :
    Covered (ks ++ [j])

def StaysBelow (k : Nat) (ks : List Int) : Prop :=
  ∀ before, before <+: ks → (before.sum : ℚ) / 100 < 2 ^ k

theorem staysBelow_concat :
    StaysBelow k (ks ++ [j]) ↔ StaysBelow k ks ∧ ((ks.sum + j : Int) : ℚ) / 100 < 2 ^ k := by
  have sum : (ks ++ [j]).sum = ks.sum + j := by simp
  constructor
  · intro h
    exact ⟨fun before pre => h before (pre.trans (List.prefix_append _ _)),
      sum ▸ h _ (List.prefix_refl _)⟩
  · rintro ⟨old, new⟩ before pre
    rcases List.prefix_concat_iff.1 pre with rfl | pre
    · rwa [sum]
    · exact old before pre

theorem cents_below {s : Int} (h : (s : ℚ) / 100 < 2 ^ k) : (s : ℚ) / 100 ≤ 2 ^ k - 1 / 100 := by
  rw [div_lt_iff₀ (by norm_num)] at h
  have whole : s < 2 ^ k * 100 := by exact_mod_cast h
  have below : s ≤ 2 ^ k * 100 - 1 := by omega
  have below : (s : ℚ) ≤ 2 ^ k * 100 - 1 := by exact_mod_cast below
  linarith

/-- One more movement puts two errors of `2 ^ (k - 54)` on top, one of its own and one of the sum. -/
theorem tally_error_step {s : Int} {err : ℚ} (range : k < 970) (finite : (tally ks).isFinite)
    (close : |(tally ks).value - s / 100| ≤ err) (room : err + 2 ^ ((k : Int) - 54) < 1 / 100)
    (nonzero : j ≠ 0) (moved : |(j : ℚ) / 100| < 2 ^ k) (nonneg : 0 ≤ s + j)
    (below : ((s + j : Int) : ℚ) / 100 < 2 ^ k) :
    (tally (ks ++ [j])).isFinite ∧
      |(tally (ks ++ [j])).value - (s + j : Int) / 100| ≤ err + 2 ^ ((k : Int) - 53) := by
  obtain ⟨isFinite, converted⟩ := ofCents_error nonzero moved range
  have off : |(tally ks).value + (ofCents j).value - (s + j : Int) / 100| ≤
      err + 2 ^ ((k : Int) - 54) := by
    have split : (tally ks).value + (ofCents j).value - ((s + j : Int) : ℚ) / 100 =
        ((tally ks).value - s / 100) + ((ofCents j).value - j / 100) := by
      push_cast
      ring
    rw [split]
    exact (abs_add_le _ _).trans (add_le_add close converted)
  have sum : (0 : ℚ) ≤ ((s + j : Int) : ℚ) / 100 := by
    have : (0 : ℚ) ≤ ((s + j : Int) : ℚ) := by exact_mod_cast nonneg
    positivity
  have small : |(tally ks).value + (ofCents j).value| < 2 ^ k := by
    have cent := cents_below below
    have large : (1 : ℚ) ≤ 2 ^ k := one_le_pow₀ (by norm_num)
    rw [abs_le] at off
    rw [abs_lt]
    constructor <;> linarith [off.1, off.2]
  obtain ⟨added, rounded⟩ := add_error finite isFinite small range
  rw [tally_concat, isFinite_settled, value_settled]
  refine ⟨added, ?_⟩
  have half : (2 : ℚ) ^ ((k : Int) - 53) = 2 ^ ((k : Int) - 54) + 2 ^ ((k : Int) - 54) := by
    rw [← two_mul, ← zpow_one_add₀ (by norm_num)]
    congr 1
    omega
  calc
    _ ≤ _ := abs_sub_le _ ((tally ks).value + (ofCents j).value) _
    _ ≤ 2 ^ ((k : Int) - 54) + (err + 2 ^ ((k : Int) - 54)) := add_le_add rounded off
    _ = err + 2 ^ ((k : Int) - 53) := by rw [half]; ring

theorem range_of_small (some : 1 ≤ n) (small : (n : ℚ) * 2 ^ ((k : Int) - 52) < 1 / 200) :
    k < 970 := by
  have unit : (0 : ℚ) < 2 ^ ((k : Int) - 52) := by positivity
  have least : (1 : ℚ) ≤ n := by exact_mod_cast some
  have below : (2 : ℚ) ^ ((k : Int) - 52) < 2 ^ (0 : Int) := by
    rw [zpow_zero]
    nlinarith
  have := (zpow_lt_zpow_iff_right₀ (by norm_num)).1 below
  omega

/-- Each movement adds an error of `2 ^ (k - 53)` at most. While these are less than half a cent
together, every debit was covered by what had been moved before, not only by what is read back. -/
theorem Covered.exact (h : Covered ks) (count : ks.length ≤ n)
    (small : (n : ℚ) * 2 ^ ((k : Int) - 52) < 1 / 200) (below : StaysBelow k ks) :
    (tally ks).isFinite ∧
      |(tally ks).value - ks.sum / 100| ≤ ks.length * 2 ^ ((k : Int) - 53) ∧ 0 ≤ ks.sum := by
  have twice (e : Int) : (2 : ℚ) ^ (e + 1) = 2 * 2 ^ e := by
    rw [zpow_add_one₀ (by norm_num), mul_comm]
  have unit : (0 : ℚ) < 2 ^ ((k : Int) - 54) := by positivity
  have half : (2 : ℚ) ^ ((k : Int) - 53) = 2 * 2 ^ ((k : Int) - 54) := by
    rw [← twice]
    congr 1
    omega
  have whole : (2 : ℚ) ^ ((k : Int) - 52) = 2 * 2 ^ ((k : Int) - 53) := by
    rw [← twice]
    congr 1
    omega
  induction h with
  | nil =>
    refine ⟨rfl, ?_, le_rfl⟩
    rw [tally, List.foldl_nil, value_nought]
    simp
  | @concat ks j covered moves bears ih =>
    rw [List.length_append, List.length_singleton] at count ⊢
    rw [staysBelow_concat] at below
    obtain ⟨finite, close, nonneg⟩ := ih (by omega) below.1
    have length : (ks.length : ℚ) + 1 ≤ n := by exact_mod_cast count
    have room : (ks.length : ℚ) * 2 ^ ((k : Int) - 53) + 2 ^ ((k : Int) - 54) < 1 / 200 := by
      rw [whole, half] at small
      rw [half]
      nlinarith
    have read : (tally ks).cents = ks.sum := cents_of_close finite (by linarith)
    have sum : 0 ≤ ks.sum + j := by
      rcases lt_or_ge j 0 with debit | credit
      · linarith [bears debit]
      · linarith
    have moved : |(j : ℚ) / 100| < 2 ^ k := by
      rw [abs_div, abs_of_pos (show (0 : ℚ) < 100 by norm_num)]
      rcases lt_or_ge j 0 with debit | credit
      · have covered : ((-j : Int) : ℚ) ≤ ks.sum := by exact_mod_cast read ▸ bears debit
        rw [abs_of_neg (by exact_mod_cast debit), ← Int.cast_neg]
        exact (div_le_div_of_nonneg_right covered (by norm_num)).trans_lt
          (below.1 ks (List.prefix_refl ks))
      · have covered : (j : ℚ) ≤ (ks.sum + j : Int) := by exact_mod_cast le_add_of_nonneg_left nonneg
        rw [abs_of_nonneg (by exact_mod_cast credit)]
        exact (div_le_div_of_nonneg_right covered (by norm_num)).trans_lt below.2
    have next := tally_error_step (range_of_small (by omega) small) finite close (by linarith) moves
      moved sum below.2
    rw [List.sum_append, List.sum_singleton]
    refine ⟨next.1, next.2.trans (le_of_eq ?_), sum⟩
    push_cast
    ring

end Passbook.Binary64

namespace Passbook

/-! ## Debits from the database -/

theorem Decimal.IsOpening.cents_nonneg {x : Decimal} (h : x.IsOpening) : 0 ≤ x.cents := by
  rcases h with amount | nought
  · exact amount.cents_pos.le
  · exact nought.cents_eq.ge

theorem cents_le_of_debit {id : Uuid} {balance amount delta : Decimal} {k : Int}
    (whole : balance.IsCents k) (given : amount.IsAmount)
    (change : signedDelta id balance amount .debit = .ok delta) : amount.cents ≤ k := by
  obtain ⟨cents, pos, bound, rfl⟩ := given
  rw [signedDelta_debit _ whole pos (lt_centsBound bound)] at change
  split_ifs at change with short
  · cases change
  · rw [(Decimal.isCents_ofCents cents).cents_eq]
    exact not_lt.1 short

section
variable {stamp : Stamp} {r r' : Rows} {op : Operation} {answer : Answer} {id : Uuid} {k : Int}

theorem movement_account_nonneg {a : Account} (opening : a.balance.IsOpening)
    (h : (Answer.account a).movement? id = some k) : 0 ≤ k := by
  simp only [Answer.movement?] at h
  split_ifs at h
  cases h
  exact opening.cents_nonneg

theorem movement_transaction_debit {t : Transaction} (recorded : t.Recorded)
    (h : (Answer.transaction t).movement? id = some k) (debit : k < 0) :
    t.account = id ∧ t.kind = .debit ∧ -k = t.amount.cents := by
  simp only [Answer.movement?] at h
  split_ifs at h with on
  cases h
  unfold Transaction.cents at debit ⊢
  have pos := recorded.1.cents_pos
  split_ifs at debit ⊢ with kind
  · exact ⟨on, kind, neg_neg _⟩
  · exact absurd debit pos.not_gt

theorem Rows.Does.bears (does : r.Does stamp op answer r') (checked : op.Checked)
    (finite : ∀ row ∈ r.accounts, row.balance.isFinite) (moves : answer.movement? id = some k)
    (debit : k < 0) : ∃ row ∈ r.accounts, row.id = id ∧ -k ≤ row.balance.cents := by
  cases does with
  | accounts | transactions | payees | saved | cleared => cases moves
  | opened | openedEmpty =>
    exact absurd debit (movement_account_nonneg checked.2.2 moves).not_gt
  | @moved owner id amount currency kind description row delta column found change binary =>
    have mem := List.mem_of_find?_eq_some found
    have same := (isKeptUnder_iff.1 (List.find?_some found)).1
    obtain ⟨on, taken, size⟩ := movement_transaction_debit ⟨checked.1, checked.2.1⟩ moves debit
    obtain rfl : kind = .debit := taken
    refine ⟨row, mem, same.trans on, size ▸ ?_⟩
    exact cents_le_of_debit (Binary64.toCents_isCents (finite row mem)) checked.1 change

end

namespace World
variable {terms : Terms} {call : Call} {w w' : World} {d : Durable}
  {answers : List (Except Failure Answer)} {result : Except Failure Answer}

theorem Tallied.covered (h : w.Tallied d answers)
    (covered : ∀ row ∈ w.rows.accounts, Binary64.Covered (history row.id answers))
    (change : Change terms call w result w') :
    ∀ row ∈ w'.rows.accounts, Binary64.Covered (history row.id (answers ++ [result])) := by
  intro row mem
  cases change with
  | failed answered book rows =>
    rw [answered, history_error]
    exact covered row (rows ▸ mem)
  | memory valid answered before after does rows =>
    rw [rows] at mem
    have quiet := h.apart (Call.operation_checked valid) before does
      (rows_of_durable h.durable ▸ mem)
    rw [answered, history_none quiet]
    exact covered row mem
  | @database op answer s valid answered before after does book =>
    have checked := Call.operation_checked valid
    have before : Binary64.Covered (history row.id answers) := by
      rcases does.known mem with ⟨-, first⟩ | ⟨old, hold, -, same⟩
      · rw [h.strange row.id fun issued => s.not_issued_first (first ▸ issued.later before)]
        exact .nil
      · exact same ▸ covered old hold
    rw [answered]
    cases moves : answer.movement? row.id with
    | none =>
      rw [history_none moves]
      exact before
    | some k =>
      rw [history_some moves]
      refine .concat before (does.movement checked moves).1.1 fun debit => ?_
      rw [rows_of_durable h.durable] at does
      have finite : ∀ row ∈ d.database.rows.accounts, row.balance.isFinite := by
        intro row mem
        rw [h.rows.balance row mem]
        exact (Binary64.tally_bounded (h.movements row.id)).1
      obtain ⟨old, hold, same, bears⟩ := does.bears checked finite moves debit
      rwa [h.rows.balance old hold, same] at bears

theorem run_covered (terms : Terms) (calls : List Call) (h : w.Tallied d answers)
    (covered : ∀ row ∈ w.rows.accounts, Binary64.Covered (history row.id answers)) :
    let done := run terms calls w
    ∀ row ∈ done.2.rows.accounts, Binary64.Covered (history row.id (answers ++ done.1)) := by
  induction calls generalizing w d answers with
  | nil => simpa [run] using covered
  | cons call calls ih =>
    obtain ⟨store, effect, -⟩ := perform_effect terms call h.durable
    obtain ⟨d', h'⟩ := h.effect effect
    simpa [run] using ih h' (h.covered covered effect.change)

end World

end Passbook
