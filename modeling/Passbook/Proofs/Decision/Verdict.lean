import Passbook.Proofs.Number.Bounded
import Passbook.Proofs.Payees.Run

namespace Passbook

/-- What an owner who has these accounts is told about a transaction on the account `id`. -/
inductive Verdict (accounts : List Account) (owner id : Uuid) (amount : Decimal)
    (currency : Option String) (kind : Kind) (description : Option String) :
    Except Failure Answer → Prop
  | unknown (none : ∀ a ∈ accounts, a.id ≠ id) :
    Verdict accounts owner id amount currency kind description (refuse (.accountNotFound id))
  | short {a} (mem : a ∈ accounts) (same : a.id = id) (debit : kind = .debit)
      (less : a.balance.value < amount.value) :
    Verdict accounts owner id amount currency kind description
      (refuse (.insufficientFunds id amount a.balance))
  | recorded {a} (stamp : Stamp) (mem : a ∈ accounts) (same : a.id = id)
      (covered : kind = .debit → amount.value ≤ a.balance.value) :
    Verdict accounts owner id amount currency kind description
      (.ok (.transaction
        (Book.transactionOn stamp a owner id amount currency kind description)))

inductive Debited (id : Uuid) (x sum : ℚ) : Except Failure Answer → Prop
  | refused {asked left : Decimal} (less : sum < x) (all : asked.value = x) (rest : left.value = sum) :
    Debited id x sum (refuse (.insufficientFunds id asked left))
  | recorded {t : Transaction} (covered : x ≤ sum) (on : t.account = id) (debit : t.kind = .debit)
      (all : t.amount.value = x) :
    Debited id x sum (.ok (.transaction t))

theorem Verdict.debited {accounts : List Account} {owner id : Uuid} {amount : Decimal}
    {currency description : Option String} {result : Except Failure Answer} {a : Account}
    (h : Verdict accounts owner id amount currency .debit description result) (mem : a ∈ accounts)
    (has : a.id = id) (one : ∀ b ∈ accounts, b.id = id → b = a) :
    Debited id amount.value a.balance.value result := by
  cases h with
  | unknown none => exact absurd has (none a mem)
  | short mem' same debit less =>
    obtain rfl := one _ mem' same
    exact .refused less rfl rfl
  | recorded stamp mem' same covered =>
    obtain rfl := one _ mem' same
    exact .recorded (covered rfl) rfl rfl rfl

/-! ## Amounts -/

section
open Decimal
variable {amount balance delta : Decimal} {kind : Kind}

theorem Decimal.IsAmount.small (h : amount.IsAmount) : |amount.value| ≤ 10 ^ 16 := by
  obtain ⟨cents, -, bound, rfl⟩ := h
  have : (cents : ℚ) ≤ (greatestCents : Nat) := by exact_mod_cast bound
  rw [value_ofCents, abs_of_nonneg (by positivity), div_le_iff₀ (by norm_num)]
  exact this.trans (by norm_num [greatestCents])

theorem Decimal.IsAmount.isTame (h : amount.IsAmount) : amount.IsTame := by
  have small := h.small
  obtain ⟨cents, -, -, rfl⟩ := h
  exact ⟨rfl, small.trans (by norm_num)⟩

theorem Decimal.IsCents.isTame_nought (h : amount.IsCents 0) : amount.IsTame :=
  ⟨h.isFinite, by rw [h.value]; norm_num⟩

theorem signedDelta_cases (id : Uuid) (finite : balance.isFinite) (given : amount.IsAmount)
    (kind : Kind) :
    (kind = .debit ∧ balance.value < amount.value ∧
      signedDelta id balance amount kind = refuse (.insufficientFunds id amount balance)) ∨
    (kind = .debit → amount.value ≤ balance.value) ∧
      ∃ delta, signedDelta id balance amount kind = .ok delta ∧ delta.isFinite ∧
        |delta.value| ≤ 10 ^ 16 := by
  have small := given.small
  obtain ⟨cents, pos, bound, rfl⟩ := given
  by_cases debit : kind = .debit
  · subst debit
    have order := exceeds?_finite (x := ofCents cents) rfl finite
    by_cases less : balance.value < (ofCents cents).value
    · exact .inl ⟨rfl, less, signedDelta_short id (by simpa only [less, decide_true] using order)⟩
    · refine .inr ⟨fun _ => not_lt.1 less, .finite true cents (-2), ?_, rfl, ?_⟩
      · rw [signedDelta_covered id (by simpa only [less, decide_false] using order), ofCents,
          negate?_cents pos.ne' (lt_centsBound bound)]
        rfl
      · rwa [ofCents, abs_value, ← abs_value true] at small
  · exact .inr ⟨fun same => absurd same debit, _, signedDelta_credit id balance _ debit, rfl, small⟩

end

/-! ## In memory -/

/-- No balance of an owner is so large that an amount could make it overflow. -/
def Shelf.Tame (shelf : Shelf) : Prop := ∀ a ∈ shelf.accounts, a.balance.IsTame

namespace Book
variable {terms : BookTerms} {b b' : Book} {stamp : Stamp} {op : Operation} {owner id : Uuid}
  {amount : Decimal} {currency description : Option String} {kind : Kind}

theorem run_verdict (tame : (b.shelf owner).Tame) (given : amount.IsAmount) (s : Supply) :
    Verdict (b.shelf owner).accounts owner id amount currency kind description
      (b.run terms (.applyTransaction owner id amount currency kind description) s).result := by
  simp only [run]
  cases found : (b.shelf owner).accounts.find? (·.id == id) with
  | none =>
    rw [apply_unknown found]
    exact .unknown fun a mem => by simpa using List.find?_eq_none.1 found a mem
  | some a =>
    obtain ⟨mem, rfl⟩ := find?_account found
    rcases signedDelta_cases a.id (tame a mem).isFinite given kind with
      ⟨debit, less, refused⟩ | ⟨covered, delta, change, finite, small⟩
    · rw [apply_refused found refused]
      exact .short mem rfl debit less
    · obtain ⟨balance, sum, -⟩ := (tame a mem).add finite small
      rw [apply_eq_ok.2 ⟨a, delta, balance, found, change, sum, rfl, rfl⟩]
      exact .recorded s.stamp.1 mem rfl covered

theorem does_tame {result : Except Failure Answer} (tame : ∀ owner, (b.shelf owner).Tame)
    (distinct : ∀ owner, ((b.shelf owner).accounts.map (·.id)).Nodup) (checked : op.Checked)
    (does : Does terms stamp b op result b') (owner : Uuid) : (b'.shelf owner).Tame := by
  have opened {a : Account} (h : a.balance.IsTame) :
      ∀ other ∈ (b.shelf op.owner).accounts ++ [a], other.balance.IsTame := by
    intro other mem
    rcases List.mem_append.1 mem with old | new
    · exact tame op.owner other old
    · rwa [List.mem_singleton.1 new]
  by_cases own : owner = op.owner
  · subst own
    cases does with
    | noNumber | accounts | transactions | unmoved | payees | duplicate => exact tame _
    | opened free credit => simpa [Operation.owner, Shelf.Tame] using opened credit.isTame
    | openedEmpty free nought =>
      simpa [Operation.owner, Shelf.Tame] using opened nought.isTame_nought
    | provisioned free bare =>
      simpa [Operation.owner, Shelf.Tame] using opened Decimal.isCents_zero.isTame_nought
    | @moved owner id amount currency kind description account delta balance found change sum =>
      obtain ⟨mem, -⟩ := find?_account found
      have kept := tame owner account mem
      simp only [Operation.owner, shelf_setShelf, if_true]
      intro other hother
      rcases mem_replaceAccount (distinct owner) hother with rfl | ⟨old, -⟩
      · rcases signedDelta_cases account.id kept.isFinite checked.1 kind with
          ⟨-, -, refused⟩ | ⟨-, delta', change', finite, small⟩
        · cases refused.symm.trans change
        · obtain rfl : delta' = delta := by simpa using change'.symm.trans change
          obtain ⟨balance', sum', stays⟩ := kept.add finite small
          obtain rfl : balance' = balance := by simpa using sum'.symm.trans sum
          exact stays
      · exact tame owner other old
    | demoPayee | saved | cleared =>
      simpa [Operation.owner, Book.demoPayee, Shelf.Tame] using tame _
  · rw [does.shelf_other own]
    exact tame owner

end Book

/-! ## In the database -/

theorem Rows.mem_accountsOf {r : Rows} {owner : Uuid} {row : AccountRow} :
    row ∈ r.accountsOf owner ↔ row ∈ r.accounts ∧ row.owner = owner := by
  rw [accountsOf, List.mem_mergeSort, List.mem_filter, beq_iff_eq]

namespace Durable
variable {db : Database} {owner id : Uuid} {amount : Decimal} {currency description : Option String}
  {kind : Kind} {attempts : Nat}

theorem run_applied (db : Database) (s : Supply) :
    (run attempts false (.applyTransaction owner id amount currency kind description) ⟨db, []⟩
      s).result =
        (apply s.stamp.1 false owner id amount currency kind description db).map Prod.fst := by
  simp only [run, perform, work, openSession]
  cases apply s.stamp.1 false owner id amount currency kind description db <;> rfl

theorem run_verdict (reachable : db.reachable)
    (finite : ∀ row ∈ db.rows.accounts, row.balance.isFinite) (given : amount.IsAmount)
    (known : kind = .credit ∨ kind = .debit) (described : description.isSome) (s : Supply) :
    Verdict ((db.rows.accountsOf owner).map (·.toAccount)) owner id amount currency kind description
      (run attempts false (.applyTransaction owner id amount currency kind description)
        ⟨db.provisioned, []⟩ s).result := by
  have numeric : db.Numeric := by
    refine ⟨reachable, fun row mem nan => ?_⟩
    have := finite row mem
    rw [nan] at this
    cases this
  rw [run_applied]
  cases found : db.rows.accounts.find? (Database.isKeptUnder owner id) with
  | none =>
    rw [apply_unknown reachable found]
    refine .unknown fun a mem same => ?_
    obtain ⟨row, hrow, rfl⟩ := List.mem_map.1 mem
    obtain ⟨kept, own⟩ := Rows.mem_accountsOf.1 hrow
    exact List.find?_eq_none.1 found row kept (isKeptUnder_iff.2 ⟨same, own⟩)
  | some row =>
    have kept := List.mem_of_find?_eq_some found
    obtain ⟨rfl, rfl⟩ := isKeptUnder_iff.1 (List.find?_some found)
    have mem : row.toAccount ∈ (db.rows.accountsOf row.owner).map (·.toAccount) :=
      List.mem_map_of_mem (Rows.mem_accountsOf.2 ⟨kept, rfl⟩)
    have cents := (Binary64.toCents_isCents (finite row kept)).isFinite
    rcases signedDelta_cases row.id cents given kind with
      ⟨debit, less, refused⟩ | ⟨covered, delta, change, -, -⟩
    · rw [apply_refused reachable found refused]
      exact .short mem rfl debit less
    · obtain ⟨column, binary, isFinite⟩ := change_column (numeric.numbers row kept) given change
      rw [apply_records numeric found change binary isFinite given.storable (Kind.text_isSome known)]
      obtain ⟨text, rfl⟩ := Option.isSome_iff_exists.1 described
      exact .recorded s.stamp.1 mem rfl covered

end Durable

end Passbook
