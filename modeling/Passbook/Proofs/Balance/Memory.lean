import Passbook.Proofs.Ledger.Total
import Passbook.Proofs.Service.World

/-!
# Balances in memory

The ledger in memory keeps the balance of an account apart from its transactions. Main statement:
`memory_balance`, after any calls the two agree to the cent, as long as no sum needs more than 28
digits.
-/

namespace Passbook

/-- Credits below this many units leave room for the cents of a balance in 28 digits. -/
def creditBound : ℚ := 10 ^ 26

def Account.Balanced (ts : List Transaction) (a : Account) : Prop :=
  ∃ cents : Nat, a.balance.IsCents cents ∧
    (cents : ℚ) / 100 = total .credit a.id ts - total .debit a.id ts

structure Shelf.Sound (s : Supply) (shelf : Shelf) : Prop where
  issued : ∀ a ∈ shelf.accounts, s.Issued a.id
  distinct : (shelf.accounts.map (·.id)).Nodup
  known : ∀ t ∈ shelf.transactions, t.account ∈ shelf.accounts.map (·.id)
  recorded : ∀ t ∈ shelf.transactions, t.Recorded
  balanced : ∀ a ∈ shelf.accounts,
    total .credit a.id shelf.transactions < creditBound → a.Balanced shelf.transactions

structure Book.Sound (s : Supply) (b : Book) : Prop where
  shelves : ∀ owner, (b.shelf owner).Sound s
  apart : ∀ {owner other id}, id ∈ b.ids owner → id ∈ b.ids other → owner = other

namespace Shelf.Sound
variable {s s' : Supply} {shelf : Shelf}

theorem later (h : shelf.Sound s) (l : Supply.Later s s') : shelf.Sound s' :=
  { h with
    issued := fun a mem => (h.issued a mem).later l }

theorem issued_known (h : shelf.Sound s) {t : Transaction} (mem : t ∈ shelf.transactions) :
    s.Issued t.account := by
  obtain ⟨a, ha, same⟩ := List.mem_map.1 (h.known t mem)
  exact same ▸ h.issued a ha

theorem withPayees (h : shelf.Sound s) (payees : List Payee) :
    { shelf with payees }.Sound s :=
  { issued := h.issued, distinct := h.distinct, known := h.known, recorded := h.recorded,
    balanced := h.balanced }

theorem opened (h : shelf.Sound s) {a : Account} (ts : List Transaction) (fresh : ¬s.Issued a.id)
    (l : Supply.Later s s') (now : s'.Issued a.id)
    (own : ∀ t ∈ ts, t.account = a.id ∧ t.Recorded) (balanced : a.Balanced ts) :
    { shelf with accounts := shelf.accounts ++ [a], transactions := shelf.transactions ++ ts }.Sound
      s' where
  issued := by
    intro other mem
    rcases List.mem_append.1 mem with mem | mem
    · exact (h.issued other mem).later l
    · rw [List.mem_singleton.1 mem]
      exact now
  distinct := nodup_map_concat h.distinct fun other mem same => fresh (same ▸ h.issued other mem)
  known := by
    intro t mem
    rw [List.map_append, List.mem_append]
    rcases List.mem_append.1 mem with mem | mem
    · exact .inl (h.known t mem)
    · exact .inr (List.mem_singleton.2 (own t mem).1)
  recorded := by
    intro t mem
    rcases List.mem_append.1 mem with mem | mem
    · exact h.recorded t mem
    · exact (own t mem).2
  balanced := by
    intro other mem small
    rcases List.mem_append.1 mem with mem | mem
    · have strange : ∀ t ∈ ts, t.account ≠ other.id :=
        fun t mt e => fresh ((own t mt).1 ▸ e ▸ h.issued other mem)
      simp only [Account.Balanced, total_append, total_of_forall_ne strange, add_zero] at small ⊢
      exact h.balanced other mem small
    · obtain rfl := List.mem_singleton.1 mem
      have strange : ∀ t ∈ shelf.transactions, t.account ≠ other.id :=
        fun t mt e => fresh (e ▸ h.issued_known mt)
      simp only [Account.Balanced, total_append, total_of_forall_ne strange, zero_add]
      exact balanced

theorem moved (h : shelf.Sound s) (l : Supply.Later s s') {stamp : Stamp} {account : Account}
    {balance : Decimal} {t : Transaction} (mem : account ∈ shelf.accounts)
    (on : t.account = account.id) (recorded : t.Recorded)
    (balanced : total .credit account.id (shelf.transactions ++ [t]) < creditBound →
      { account with balance, updatedAt := stamp.now }.Balanced (shelf.transactions ++ [t])) :
    (Book.moved stamp account balance t shelf).Sound s' where
  issued := by
    intro other hother
    rcases Book.mem_replaceAccount h.distinct hother with rfl | ⟨hother, -⟩
    · exact (h.issued account mem).later l
    · exact (h.issued other hother).later l
  distinct := by
    simp only [Book.moved, Book.map_id_replaceAccount]
    exact h.distinct
  known := by
    intro other hother
    simp only [Book.moved, Book.map_id_replaceAccount]
    rcases List.mem_append.1 hother with hother | hother
    · exact h.known other hother
    · rw [List.mem_singleton.1 hother, on]
      exact List.mem_map.2 ⟨account, mem, rfl⟩
  recorded := by
    intro other hother
    rcases List.mem_append.1 hother with hother | hother
    · exact h.recorded other hother
    · rw [List.mem_singleton.1 hother]
      exact recorded
  balanced := by
    intro other hother small
    rcases Book.mem_replaceAccount h.distinct hother with rfl | ⟨hother, ne⟩
    · exact balanced small
    · have strange : ∀ u ∈ [t], u.account ≠ other.id := by
        intro u hu
        rw [List.mem_singleton.1 hu, on]
        exact ne.symm
      simp only [Book.moved, Account.Balanced, total_append, total_of_forall_ne strange,
        add_zero] at small ⊢
      exact h.balanced other hother small

end Shelf.Sound

/-! ## One account -/

theorem Account.balanced_nil {a : Account} (nought : a.balance.IsCents 0) : a.Balanced [] :=
  ⟨0, nought, by simp [total]⟩

theorem Account.balanced_credit {a : Account} {t : Transaction} (amount : a.balance.IsAmount)
    (account : t.account = a.id) (kind : t.kind = .credit) (same : t.amount = a.balance) :
    a.Balanced [t] := by
  obtain ⟨cents, -, -, balance⟩ := amount
  refine ⟨cents, balance ▸ Decimal.isCents_ofCents cents, ?_⟩
  rw [total_self account kind, total_kind_ne (by simp [kind]), same, balance]
  simp

theorem Account.Balanced.moved {ts : List Transaction} {a : Account} {t : Transaction}
    {delta balance : Decimal} {now : Instant} (h : a.Balanced ts)
    (debits : 0 ≤ total .debit a.id ts) (on : t.account = a.id) (recorded : t.Recorded)
    (small : total .credit a.id (ts ++ [t]) < creditBound)
    (change : signedDelta a.id a.balance t.amount t.kind = .ok delta)
    (sum : a.balance.add? delta = .ok balance) :
    { a with balance, updatedAt := now }.Balanced (ts ++ [t]) := by
  obtain ⟨cents, hbalance, law⟩ := h
  obtain ⟨⟨amount, pos, bound, hamount⟩, kind | kind⟩ := recorded
  · rw [kind, signedDelta_credit _ _ _ (by decide), hamount, Except.ok.injEq] at change
    subst change
    rw [total_append, total_self on kind, hamount, Decimal.value_ofCents] at small
    have fits : ((cents : Int) + Decimal.signed false amount).natAbs < Decimal.centsBound := by
      have : ((cents + amount : Nat) : ℚ) < 10 ^ 28 := by
        rw [creditBound] at small
        push_cast
        linarith
      exact_mod_cast this
    obtain ⟨z, hz, hcents⟩ := Decimal.add?_cents hbalance false pos.ne' fits
    rw [Decimal.ofCents, hz, Except.ok.injEq] at sum
    subst sum
    refine ⟨cents + amount, hcents, ?_⟩
    rw [total_append, total_append, total_self on kind, total_kind_ne (by simp [kind]), hamount,
      Decimal.value_ofCents]
    push_cast
    linarith
  · rw [kind, hamount, signedDelta_debit _ hbalance pos (lt_centsBound bound)] at change
    split_ifs at change with short
    · cases change
    rw [Except.ok.injEq] at change
    subst change
    have covered : amount ≤ cents := by omega
    rw [total_append, total_kind_ne (by simp [kind]), add_zero] at small
    have fits : ((cents : Int) + Decimal.signed true amount).natAbs < Decimal.centsBound := by
      have : (cents : ℚ) < 10 ^ 28 := by
        rw [creditBound] at small
        linarith
      have : cents < Decimal.centsBound := by exact_mod_cast this
      simp only [Decimal.signed, if_true]
      omega
    obtain ⟨z, hz, hcents⟩ := Decimal.add?_cents hbalance true pos.ne' fits
    rw [hz, Except.ok.injEq] at sum
    subst sum
    refine ⟨cents - amount, ?_, ?_⟩
    · convert hcents using 1
      simp only [Decimal.signed, if_true]
      omega
    · rw [total_append, total_append, total_self on kind, total_kind_ne (by simp [kind]), hamount,
        Decimal.value_ofCents, Nat.cast_sub covered]
      linarith

/-! ## The whole book -/

namespace Book
variable {terms : BookTerms} {b b' : Book} {s s' : Supply} {op : Operation}
  {result : Except Failure Answer}

theorem sound_empty (s : Supply) : empty.Sound s where
  shelves := fun owner =>
    { issued := by simp [empty, Shelf.empty]
      distinct := by simp [empty, Shelf.empty]
      known := by simp [empty, Shelf.empty]
      recorded := by simp [empty, Shelf.empty]
      balanced := by simp [empty, Shelf.empty] }
  apart := by simp [ids, empty, Shelf.empty]

theorem does_shelf (sound : b.Sound s) (checked : op.Checked)
    (does : Does terms s.stamp.1 b op result b') (l : Supply.Later s.stamp.2 s') :
    (b'.shelf op.owner).Sound s' := by
  have l' := s.later_stamp.trans l
  have now := s.issued_first.later l
  have old := (sound.shelves op.owner).later l'
  cases does with
  | noNumber | accounts | transactions | unmoved | payees | duplicate => exact old
  | opened free credit =>
    simpa [Operation.owner] using (sound.shelves _).opened [_] s.not_issued_first l' now
      (by simp [Transaction.Recorded, credit]) (Account.balanced_credit credit rfl rfl rfl)
  | openedEmpty free nought =>
    simpa [Operation.owner] using (sound.shelves _).opened [] s.not_issued_first l' now
      (by simp) (Account.balanced_nil nought)
  | provisioned free bare =>
    simpa [Operation.owner] using (sound.shelves _).opened [] s.not_issued_first l' now
      (by simp) (Account.balanced_nil Decimal.isCents_zero)
  | @moved owner id amount currency kind description account delta balance found change sum =>
    obtain ⟨mem, same⟩ := find?_account found
    have shelf := sound.shelves owner
    have recorded : (transactionOn s.stamp.1 account owner id amount currency kind
        description).Recorded := ⟨checked.1, checked.2.1⟩
    simp only [Operation.owner, shelf_setShelf, if_true]
    refine shelf.moved l' mem same.symm recorded fun small => ?_
    refine (shelf.balanced account mem ?_).moved (total_nonneg shelf.recorded) same.symm recorded
      small change sum
    have : 0 ≤ total .credit account.id [_] := total_nonneg (List.forall_mem_singleton.2 recorded)
    rw [total_append] at small
    linarith
  | demoPayee | saved | cleared =>
    simpa [Operation.owner, Book.demoPayee] using old.withPayees _

theorem does_sound (sound : b.Sound s) (checked : op.Checked)
    (does : Does terms s.stamp.1 b op result b') (l : Supply.Later s.stamp.2 s') : b'.Sound s' := by
  -- A new account has a fresh identifier, so that no other owner has it.
  have fresh (owner : Uuid) : s.stamp.1.first ∉ b.ids owner := by
    intro mem
    obtain ⟨a, ha, same⟩ := List.mem_map.1 mem
    exact s.not_issued_first (same ▸ (sound.shelves owner).issued a ha)
  refine ⟨fun owner => ?_, fun {owner other id} mem mem' => ?_⟩
  · by_cases own : owner = op.owner
    · rw [own]
      exact does_shelf sound checked does l
    · rw [does.shelf_other own]
      exact (sound.shelves owner).later (s.later_stamp.trans l)
  · rcases does.ids_mem mem with old | ⟨own, rfl⟩ <;>
      rcases does.ids_mem mem' with old' | ⟨own', same⟩
    · exact sound.apart old old'
    · exact absurd (same ▸ old) (fresh owner)
    · exact absurd old' (fresh other)
    · exact own.trans own'.symm

end Book

/-! ## Runs -/

namespace World
variable {terms : Terms}

theorem perform_sound (terms : Terms) (call : Call) (w : World)
    (h : w.durable = none ∧ w.book.Sound w.supply) :
    (w.perform terms call).state.durable = none ∧
      (w.perform terms call).state.book.Sound (w.perform terms call).state.supply := by
  obtain ⟨none, sound⟩ := h
  obtain ⟨script, same | ⟨op, valid, same⟩⟩ := perform_memory terms call none <;> rw [same]
  · exact ⟨none, sound⟩
  · have checked := Call.operation_checked valid
    exact ⟨none, Book.does_sound sound checked (Book.run_does checked) Book.run_stamp⟩

/-- Without a durable store, after any calls of any owners, all transactions have a positive number
of cents, written with two places. The balance of an account whose credits leave room for its cents
is what its transactions come to, and is not below nought; these are all on its owner's shelf. -/
theorem memory_balance (terms : Terms) (supply : Supply) (script : Script) (calls : List Call) :
    let book := (run terms calls ⟨Book.empty, none, supply, script⟩).2.book
    (∀ owner, ∀ t ∈ (book.shelf owner).transactions,
        ∃ cents : Nat, 0 < cents ∧ t.amount = .ofCents cents) ∧
      ∀ owner, ∀ a ∈ (book.shelf owner).accounts,
        let ts := (book.shelf owner).transactions
        total .credit a.id ts < 10 ^ 26 →
          a.balance.isFinite ∧
          a.balance.value = total .credit a.id ts - total .debit a.id ts ∧
          0 ≤ a.balance.value ∧
          ∀ other, ∀ t ∈ (book.shelf other).transactions, t.account = a.id → other = owner := by
  intro book
  have sound : book.Sound _ := (run_induction _ (perform_sound terms) calls
    ⟨Book.empty, none, supply, script⟩ ⟨rfl, Book.sound_empty supply⟩).2
  constructor
  · intro owner t ht
    obtain ⟨cents, pos, -, amount⟩ := ((sound.shelves owner).recorded t ht).1
    exact ⟨cents, pos, amount⟩
  · intro owner a mem ts small
    obtain ⟨cents, balance, law⟩ := (sound.shelves owner).balanced a mem small
    refine ⟨balance.isFinite, ?_, ?_, ?_⟩
    · rw [← law, balance.value, Int.cast_natCast]
    · rw [balance.value]
      positivity
    · intro other t ht on
      have known := (sound.shelves other).known t ht
      exact sound.apart known (on ▸ List.mem_map.2 ⟨a, mem, rfl⟩)

def debitCalls : List Call :=
  [.createAccount ⟨1⟩ none none (some (some (.ofCents 10000))),
   .applyTransaction ⟨1⟩ (Supply.issuedId 0) (some (.ofCents 3025)) (some "debit") none none,
   .makePayment ⟨1⟩ (Supply.issuedId 0) (some (.ofCents 7000)) none none none]

def debitedBook : Book :=
  (run .standard debitCalls ⟨Book.empty, none, ⟨0, 0, 0, id⟩, Script.empty⟩).2.book

def debitedAccount : Account :=
  { id := Supply.issuedId 0, owner := ⟨1⟩, number := accountNumber 0, label := some "Checking",
    balance := .ofCents 6975, currency := some "NZD", createdAt := ⟨0⟩, updatedAt := ⟨1⟩ }

theorem memory_balance_debited :
    debitedAccount ∈ (debitedBook.shelf ⟨1⟩).accounts ∧
      total .credit debitedAccount.id (debitedBook.shelf ⟨1⟩).transactions < 10 ^ 26 ∧
      debitedAccount.balance.value =
        total .credit debitedAccount.id (debitedBook.shelf ⟨1⟩).transactions -
          total .debit debitedAccount.id (debitedBook.shelf ⟨1⟩).transactions := by
  have mem : debitedAccount ∈ (debitedBook.shelf ⟨1⟩).accounts := by decide +kernel
  have history : (debitedBook.shelf ⟨1⟩).transactions =
      [⟨Supply.issuedId 1, debitedAccount.id, ⟨1⟩, .ofCents 10000, some "NZD", .credit,
          some openingDescription, ⟨0⟩⟩,
        ⟨Supply.issuedId 2, debitedAccount.id, ⟨1⟩, .ofCents 3025, some "NZD", .debit, some "",
          ⟨1⟩⟩] := by
    decide +kernel
  have small : total .credit debitedAccount.id (debitedBook.shelf ⟨1⟩).transactions < 10 ^ 26 := by
    rw [history, ← List.singleton_append, total_append, total_self (by rfl) (by rfl),
      total_kind_ne (by decide)]
    norm_num
  have law := (memory_balance .standard ⟨0, 0, 0, id⟩ .empty debitCalls).2 ⟨1⟩ debitedAccount
    mem small
  exact ⟨mem, small, law.2.1⟩

end World

end Passbook
