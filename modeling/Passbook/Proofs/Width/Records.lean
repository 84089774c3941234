import Mathlib.Data.List.TakeWhile
import Passbook.Proofs.History.Step

/-!
# How long the texts of a store are

The tables declare how many characters the texts of a row may have. Here the texts of both stores
are measured against these widths, where currencies may have `n` characters.
-/

namespace Passbook

/-! ## Texts -/

namespace Text

theorem length_strip_le (s : String) : (strip s).length ≤ s.length := by
  have both (cs : List Char) : (stripChars cs).length ≤ cs.length := by
    rw [stripChars, trimBoth, List.length_reverse]
    have back := (List.dropWhile_sublist isBlank (l := (cs.dropWhile isBlank).reverse)).length_le
    have front := (List.dropWhile_sublist isBlank (l := cs)).length_le
    rw [List.length_reverse] at back
    exact back.trans front
  rw [strip, String.length_ofList, ← String.length_toList]
  exact both s.toList

theorem length_upperChar_le (c : Char) : (upperChar c).length ≤ 3 := by
  have few : ∀ entry ∈ expandingCapitals, entry.2.length ≤ 3 := by decide
  unfold upperChar
  split
  · rename_i found
    simpa using few _ (List.mem_of_find?_eq_some found)
  · split <;> simp

theorem length_upper_le (s : String) : (upper s).length ≤ 3 * s.length := by
  have each (cs : List Char) : (cs.flatMap upperChar).length ≤ 3 * cs.length := by
    induction cs with
    | nil => simp
    | cons c cs ih =>
      have := length_upperChar_le c
      rw [List.flatMap_cons, List.length_append, List.length_cons]
      omega
  rw [upper, String.length_ofList, ← String.length_toList]
  exact each s.toList

end Text

def Within (n : Nat) (s : Option String) : Prop := ∀ text ∈ s, text.length ≤ n

theorem within_some {n : Nat} {s : String} : Within n (some s) ↔ s.length ≤ n := by
  simp [Within]

theorem within_iff {n : Nat} {s : Option String} : Within n s ↔ (s.getD "").length ≤ n := by
  cases s with
  | none => simp [Within]
  | some text => exact within_some

/-! ## Records -/

variable {n : Nat}

structure Particulars.Fits (n : Nat) (p : Particulars) : Prop where
  label : Within 50 p.label
  number : p.number.length ≤ 20
  currency : Within n p.currency

structure TransactionRow.Fits (n : Nat) (t : TransactionRow) : Prop where
  currency : t.currency.length ≤ n
  kind : t.kind.length ≤ 10
  description : t.description.length ≤ 500

structure PayeeRow.Fits (p : PayeeRow) : Prop where
  name : p.name.length ≤ 200
  number : p.number.length ≤ 50

/-- The texts of accounts, transactions and payees fit into their columns, if those of currencies
have `n` characters. -/
structure RecordsFit (n : Nat) (as : List Particulars) (ts : List TransactionRow)
    (ps : List PayeeRow) : Prop where
  accounts : ∀ p ∈ as, p.Fits n
  transactions : ∀ t ∈ ts, t.Fits n
  payees : ∀ p ∈ ps, p.Fits

def Shelf.Fits (n : Nat) (shelf : Shelf) : Prop :=
  RecordsFit n (shelf.accounts.map Account.particulars) (shelf.transactions.map Transaction.toRow)
    (shelf.payees.map Payee.toRow)

def Rows.Fits (n : Nat) (r : Rows) : Prop :=
  RecordsFit n (r.accounts.map AccountRow.particulars) r.transactions r.payees

/-! ## Operations -/

def written (currency : Option String) : Option String :=
  currency.map fun s => Text.upper (Text.strip s)

def Operation.Fits (n : Nat) : Operation → Prop
  | .createAccount _ label currency _ => Within 50 label ∧ Within n currency
  | .applyTransaction _ _ _ currency kind description =>
    Within n (written currency) ∧ (kind = .credit ∨ kind = .debit) ∧ Within 500 description
  | .createPayee _ name number => Within 200 name ∧ Within 50 number
  | _ => True

theorem resolveCurrency_within {requested currency : Option String}
    (asked : Within n (written requested)) (held : Within n currency) :
    Within n (resolveCurrency requested currency) := by
  unfold resolveCurrency
  split
  · exact held
  · split_ifs
    · exact held
    · exact asked

theorem written_within {requested currency : Option String}
    (held : Within n (resolveCurrency requested currency)) : Within n (written requested) := by
  cases requested with
  | none => simp [written, Within]
  | some s =>
    simp only [resolveCurrency] at held
    split_ifs at held with blank
    · rw [written, Option.map_some, Text.isBlankText_iff.1 blank]
      exact within_some.2 (Nat.zero_le n)
    · exact held

theorem Transaction.toRow_fits {t : Transaction} (currency : Within n t.currency)
    (kind : t.kind = .credit ∨ t.kind = .debit) (description : Within 500 t.description) :
    t.toRow.Fits n := by
  refine ⟨within_iff.1 currency, ?_, within_iff.1 description⟩
  rcases kind with kind | kind <;> simp only [Transaction.toRow, kind] <;> decide

variable {stamp : Stamp} {op : Operation}

theorem openingCredit_fits {a : Account} (currency : Within n a.currency) :
    (a.openingCredit stamp).toRow.Fits n :=
  Transaction.toRow_fits currency (.inl rfl) (within_some.2 (by decide))

theorem Payee.toRow_fits {p : Payee} (name : Within 200 p.name) (number : Within 50 p.number) :
    p.toRow.Fits := ⟨within_iff.1 name, within_iff.1 number⟩

section
variable {as : List Particulars} {ts : List TransactionRow} {ps ps' : List PayeeRow}

theorem RecordsFit.opened (h : RecordsFit n as ts ps) {p : Particulars} (fits : p.Fits n) :
    RecordsFit n (as ++ [p]) ts ps where
  accounts := by simpa [or_imp, forall_and] using ⟨h.accounts, fits⟩
  transactions := h.transactions
  payees := h.payees

theorem RecordsFit.recorded (h : RecordsFit n as ts ps) {t : TransactionRow} (fits : t.Fits n) :
    RecordsFit n as (ts ++ [t]) ps where
  accounts := h.accounts
  transactions := by simpa [or_imp, forall_and] using ⟨h.transactions, fits⟩
  payees := h.payees

theorem RecordsFit.saved (h : RecordsFit n as ts ps) {p : PayeeRow} (fits : p.Fits) :
    RecordsFit n as ts (ps ++ [p]) where
  accounts := h.accounts
  transactions := h.transactions
  payees := by simpa [or_imp, forall_and] using ⟨h.payees, fits⟩

theorem RecordsFit.cleared (h : RecordsFit n as ts ps) (fewer : ∀ p ∈ ps', p ∈ ps) :
    RecordsFit n as ts ps' :=
  ⟨h.accounts, h.transactions, fun p mem => h.payees p (fewer p mem)⟩

end

theorem Book.Does.fits {terms : BookTerms} {b b' : Book} {result : Except Failure Answer}
    (does : Does terms stamp b op result b') (fits : op.Fits n)
    (usual : terms.label.length ≤ 50 ∧ terms.currency.length ≤ n)
    (distinct : ((b.shelf op.owner).accounts.map (·.id)).Nodup)
    (numbers : ∀ a ∈ (b'.shelf op.owner).accounts, a.number.length ≤ 20)
    (h : (b.shelf op.owner).Fits n) : (b'.shelf op.owner).Fits n := by
  cases does with
  | noNumber | accounts | transactions | unmoved | payees | duplicate => exact h
  | opened =>
    simp only [Operation.owner, shelf_addTransaction, shelf_addAccount, Account.opened_owner,
      Account.openingCredit_owner, if_true] at numbers h ⊢
    simp only [Shelf.Fits, List.map_append]
    exact (h.opened ⟨fits.1, numbers _ (by simp), fits.2⟩).recorded (openingCredit_fits fits.2)
  | openedEmpty =>
    simp only [Operation.owner, shelf_addAccount, Account.opened_owner, if_true] at numbers h ⊢
    simp only [Shelf.Fits, List.map_append]
    exact h.opened ⟨fits.1, numbers _ (by simp), fits.2⟩
  | provisioned =>
    simp only [Operation.owner, shelf_addAccount, Account.opened_owner, if_true] at numbers h ⊢
    simp only [Shelf.Fits, List.map_append]
    exact h.opened ⟨within_some.2 usual.1, numbers _ (by simp), within_some.2 usual.2⟩
  | @moved owner id amount currency kind description account delta balance found change sum =>
    obtain ⟨mem, rfl⟩ := find?_account found
    simp only [Operation.owner, shelf_setShelf, if_true] at distinct h ⊢
    have held := (h.accounts _ (List.mem_map_of_mem mem)).currency
    simp only [Shelf.Fits, Book.moved, map_particulars_replaceAccount mem distinct, List.map_append]
    exact h.recorded (Transaction.toRow_fits (resolveCurrency_within fits.1 held) fits.2.1 fits.2.2)
  | demoPayee =>
    simp only [Operation.owner, shelf_addPayee, Book.demoPayee, if_true] at h ⊢
    simp only [Shelf.Fits, List.map_append]
    exact h.saved (Payee.toRow_fits (within_some.2 (by decide)) (within_some.2 (by decide)))
  | saved =>
    simp only [Operation.owner, shelf_addPayee, if_true] at h ⊢
    simp only [Shelf.Fits, List.map_append]
    exact h.saved (Payee.toRow_fits fits.1 fits.2)
  | cleared =>
    simp only [Operation.owner, shelf_setShelf, if_true] at h ⊢
    exact h.cleared (by simp)

theorem Rows.Does.fits {r r' : Rows} {answer : Answer} (does : Does stamp r op answer r')
    (fits : op.Fits n) (numbers : ∀ a ∈ r'.accounts, a.number.length ≤ 20)
    (h : r.Fits n) : r'.Fits n := by
  cases does with
  | accounts | transactions | payees => exact h
  | opened =>
    simp only [Rows.Fits, List.map_append]
    exact (h.opened ⟨within_some.2 (within_iff.1 fits.1), numbers _ (by simp),
      within_some.2 (within_iff.1 fits.2)⟩).recorded (openingCredit_fits fits.2)
  | openedEmpty =>
    simp only [Rows.Fits, List.map_append]
    exact h.opened ⟨within_some.2 (within_iff.1 fits.1), numbers _ (by simp),
      within_some.2 (within_iff.1 fits.2)⟩
  | @moved owner id amount currency kind description row delta column found change binary =>
    have mem := List.mem_of_find?_eq_some found
    have held := (h.accounts _ (List.mem_map_of_mem mem)).currency
    simp only [Rows.Fits, List.map_map, Function.comp_def, AccountRow.moved_particulars]
    exact h.recorded (Transaction.toRow_fits (resolveCurrency_within fits.1 held) fits.2.1
      (within_some.2 (within_iff.1 fits.2.2)))
  | saved => exact h.saved (Payee.toRow_fits fits.1 fits.2)
  | cleared => exact h.cleared fun p mem => (List.mem_filter.1 mem).1

/-! ## Currencies -/

def CurrenciesWithin (n : Nat) (as : List Particulars) (ts : List TransactionRow) : Prop :=
  (∀ p ∈ as, Within n p.currency) ∧ ∀ t ∈ ts, t.currency.length ≤ n

def Shelf.CurrenciesWithin (n : Nat) (shelf : Shelf) : Prop :=
  Passbook.CurrenciesWithin n (shelf.accounts.map Account.particulars)
    (shelf.transactions.map Transaction.toRow)

def Rows.CurrenciesWithin (n : Nat) (r : Rows) : Prop :=
  Passbook.CurrenciesWithin n (r.accounts.map AccountRow.particulars) r.transactions

theorem RecordsFit.currencies {as : List Particulars} {ts : List TransactionRow}
    {ps : List PayeeRow} (h : RecordsFit n as ts ps) : CurrenciesWithin n as ts :=
  ⟨fun p mem => (h.accounts p mem).currency, fun t mem => (h.transactions t mem).currency⟩

def Operation.written : Operation → Option String
  | .createAccount _ _ currency _ => currency
  | .applyTransaction _ _ _ currency _ _ => Passbook.written currency
  | _ => none

theorem Book.Does.written_within {terms : BookTerms} {b b' : Book} {answer : Answer}
    (does : Does terms stamp b op (.ok answer) b')
    (h : (b'.shelf op.owner).CurrenciesWithin n) : Within n op.written := by
  generalize result : Except.ok answer = outcome at does
  cases does with
  | noNumber | unmoved | duplicate => cases result
  | transactions | provisioned | accounts | demoPayee | payees | saved | cleared =>
    simp [Operation.written, Within]
  | opened =>
    simp only [Operation.owner, shelf_addTransaction, shelf_addAccount, Account.opened_owner,
      Account.openingCredit_owner, if_true] at h
    exact h.1 _ (List.mem_map_of_mem (List.mem_append_right _ List.mem_cons_self))
  | openedEmpty =>
    simp only [Operation.owner, shelf_addAccount, Account.opened_owner, if_true] at h
    exact h.1 _ (List.mem_map_of_mem (List.mem_append_right _ List.mem_cons_self))
  | moved =>
    simp only [Operation.owner, shelf_setShelf, if_true, Book.moved] at h
    have last := h.2 _ (List.mem_map_of_mem (List.mem_append_right _ List.mem_cons_self))
    exact written_within (within_iff.2 last)

theorem Rows.Does.written_within {r r' : Rows} {answer : Answer} (does : Does stamp r op answer r')
    (h : r'.CurrenciesWithin n) : Within n op.written := by
  cases does with
  | accounts | transactions | payees | saved | cleared => simp [Operation.written, Within]
  | opened | openedEmpty =>
    have last := h.1 _ (List.mem_map_of_mem (List.mem_append_right _ List.mem_cons_self))
    exact within_iff.2 (within_some.1 last)
  | moved =>
    have last := h.2 _ (List.mem_append_right _ List.mem_cons_self)
    exact written_within (within_iff.2 last)

end Passbook
