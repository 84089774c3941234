import Passbook.Proofs.Decision.Serving
import Passbook.Proofs.Demo.Worlds
import Passbook.Proofs.Listing.Run

namespace Passbook

/-! ## The last of several accounts -/

theorem find?_concat {α : Type} {p : α → Bool} {as : List α} {a : α} (others : ∀ b ∈ as, ¬p b)
    (has : p a) : (as ++ [a]).find? p = some a := by
  rw [List.find?_append, List.find?_eq_none.2 others, Option.none_or, List.find?_cons_of_pos has]

theorem Book.replaceAccount_concat {accounts : List Account} {a a' : Account}
    (others : ∀ b ∈ accounts, b.id ≠ a.id) (same : a'.id = a.id) :
    replaceAccount a' (accounts ++ [a]) = accounts ++ [a'] := by
  induction accounts with
  | nil => simp [replaceAccount, same]
  | cons b rest ih =>
    rw [List.cons_append, replaceAccount, if_neg (same ▸ others b List.mem_cons_self),
      ih fun c mem => others c (List.mem_cons_of_mem b mem), List.cons_append]

theorem AccountRow.map_moved_others {rows : List AccountRow} {owner id : Uuid} {delta : Binary64}
    {now : Instant} (others : ∀ row ∈ rows, row.id ≠ id) :
    rows.map (·.moved owner id delta now) = rows := by
  have same : ∀ row ∈ rows, row.moved owner id delta now = row := fun row mem => by
    rw [moved, if_neg fun kept => others row mem (isKeptUnder_iff.1 kept).1]
  rw [List.map_congr_left same, List.map_id']

/-! ## Plain records -/

@[simp] theorem Account.toRow_id (a : Account) : a.toRow.id = a.id := rfl

@[simp] theorem Account.toRow_owner (a : Account) : a.toRow.owner = a.owner := rfl

@[simp] theorem Transaction.toRow_account (t : Transaction) : t.toRow.account = t.account := rfl

@[simp] theorem Transaction.toRow_owner (t : Transaction) : t.toRow.owner = t.owner := rfl

structure Account.Plain (owner : Uuid) (a : Account) : Prop where
  owner : a.owner = owner
  amount : a.balance.IsAmount
  back : a.toRow.toAccount = a

structure Transaction.Plain (owner : Uuid) (t : Transaction) : Prop where
  owner : t.owner = owner
  back : t.toRow.toTransaction = t

/-- A transaction takes one balance to another, and what is stored of the one to what is stored of
the other. -/
structure Moves (kind : Kind) (amount balance next : Decimal) : Prop where
  given : amount.IsAmount
  left : next.IsAmount
  known : kind = .credit ∨ kind = .debit
  reads : amount.settled.toCents = amount ∧ next.settled.toCents = next
  moves : ∃ delta column, (∀ id, signedDelta id balance amount kind = .ok delta) ∧
    balance.add? delta = .ok next ∧ moneyColumn delta = .ok column ∧ column.isFinite ∧
      (balance.settled.add column).settled = next.settled

namespace World
variable {terms : Terms} {call : Call} {start w w' : World} {owner : Uuid} {as : List Account}
  {ts : List Transaction} {a : Account}

/-- The store that serves the calls has more accounts and transactions of one owner than at the
start, and nothing else has changed. -/
inductive Adds (start : World) (owner : Uuid) (as : List Account) (ts : List Transaction)
    (w : World) : Prop
  | memory (before : start.Volatile) (after : w.Volatile)
      (shelf : w.book.shelf owner = ⟨(start.book.shelf owner).accounts ++ as,
        (start.book.shelf owner).transactions ++ ts, (start.book.shelf owner).payees⟩)
      (others : ∀ other ≠ owner, w.book.shelf other = start.book.shelf other)
  | database {db db' : Database} (before : start.Healthy db) (after : w.Healthy db')
      (rows : db'.rows = ⟨db.rows.accounts ++ as.map Account.toRow,
        db.rows.transactions ++ ts.map Transaction.toRow, db.rows.payees⟩)
      (book : w.book = start.book)

structure Grown (start : World) (owner : Uuid) (as : List Account) (ts : List Transaction)
    (w : World) : Prop where
  stores : start.Adds owner as ts w
  later : start.supply.Later w.supply
  accounts : ∀ a ∈ as, a.Plain owner
  transactions : ∀ t ∈ ts, t.Plain owner
  fresh : ∀ a ∈ as, ¬start.supply.Issued a.id ∧ w.supply.Issued a.id
  distinct : (as.map (·.id)).Nodup

theorem Healthy.reachable_of_serve {op : Operation} {db db' : Database} {supply : Supply}
    (h : w.Healthy db)
    (state : (w.serve terms op).state = { w with durable := some ⟨db', []⟩, supply }) :
    db'.reachable := by
  obtain ⟨db₁, healthy⟩ : ∃ db', (w.serve terms op).state.Healthy db' := serve_healthy h
  obtain rfl : db' = db₁ := by simpa [state] using healthy.durable
  exact healthy.reachable

/-! ## Opening an account in either store -/

theorem openingCredits_of_amount {opening : Decimal} (amount : opening.IsAmount) (stamp : Stamp)
    (number : String) (owner : Uuid) (label currency : Option String) :
    (Account.opened stamp number owner label currency opening).openingCredits stamp =
      [(Account.opened stamp number owner label currency opening).openingCredit stamp] :=
  if_pos amount.positive

section
variable {opening : Decimal} {db : Database} (owner : Uuid) (label currency : String)

theorem serve_volatile_opens (h : w.Volatile) (amount : opening.IsAmount)
    (free : ∃ i < terms.attempts, w.supply.candidate i ∉ w.book.numbers) : ∃ i,
      let stamp := w.supply.stamp.1
      let a :=
        Account.opened stamp (w.supply.candidate i) owner (some label) (some currency) opening
      let served := w.serve terms (.createAccount owner (some label) (some currency) opening)
      served.result = .ok (.account a) ∧
        served.state =
          { w with book := w.book.opened stamp a, supply := w.supply.stamp.2.drawnOn (i + 1) } := by
  obtain ⟨i, first⟩ := Supply.exists_firstFree.2 free
  have opens : w.book.run terms.forBook
      (.createAccount owner (some label) (some currency) opening) w.supply = _ :=
    Book.run_opens amount.isDeposit first
  obtain ⟨result, state⟩ := serve_volatile terms _ h
  rw [opens] at result state
  exact ⟨i, result, state⟩

theorem serve_healthy_opens (h : w.Healthy db) (numeric : db.Numeric) (amount : opening.IsAmount)
    (enough : ¬w.RunsOut terms (.createAccount owner (some label) (some currency) opening)) :
    ∃ s number db', w.supply.Later s ∧ db'.reachable ∧
      let a := Account.opened s.stamp.1 number owner (some label) (some currency) opening
      let served := w.serve terms (.createAccount owner (some label) (some currency) opening)
      served.result = .ok (.account a) ∧
        served.state =
          { w with durable := some ⟨db', []⟩, supply := s.stamp.2.drawnOn 1 } ∧
        db'.rows = ⟨db.rows.accounts ++ [a.toRow],
          db.rows.transactions ++ [(a.openingCredit s.stamp.1).toRow], db.rows.payees⟩ := by
  have checked : (Operation.createAccount owner (some label) (some currency) opening).Checked :=
    ⟨rfl, rfl, .inl amount⟩
  obtain ⟨s, db', later, stands, result, state, kept, -⟩ :=
    serve_repaired h numeric checked enough
  have reachable := h.reachable_of_serve state
  by_cases free : ∃ i < terms.attempts, ¬db.Uses (s.candidate i)
  · obtain ⟨i, first⟩ := Supply.exists_firstFree.2 free
    obtain ⟨opened, left⟩ := Durable.createAccount_opens terms.attempts owner label currency
      h.reachable amount.isDeposit first
    have after : (operate terms (.createAccount owner (some label) (some currency) opening)
        db.provisioned s).state = _ := left
    rw [after] at state kept
    refine ⟨s.attempted i, _, db', later.trans (s.later_attempted i), reachable,
      result.trans opened, state, ?_⟩
    rw [kept, Database.rows_opened, openingCredits_of_amount amount]
    rfl
  · have used : ∀ i < terms.attempts, db.Uses (s.candidate i) := by simpa using free
    have out := (Durable.createAccount_unopened terms.attempts owner label currency h.reachable
      amount.isDeposit used).1
    rcases stands with ⟨answer, ok⟩ | ⟨refusal, refused⟩
    · cases ok.symm.trans out
    · cases refused.symm.trans out

end

/-! ## Moving money in either store -/

section
variable {amount next : Decimal} {kind : Kind} {db : Database} (description : String)

theorem serve_volatile_moves (h : w.Volatile) (moves : Moves kind amount a.balance next)
    (found : (w.book.shelf owner).accounts.find? (·.id == a.id) = some a) :
    let stamp := w.supply.stamp.1
    let t := Book.transactionOn stamp a owner a.id amount none kind (some description)
    let served := w.serve terms (.applyTransaction owner a.id amount none kind (some description))
    served.result = .ok (.transaction t) ∧
      served.state = { w with
        book := w.book.setShelf owner (Book.moved stamp a next t (w.book.shelf owner))
        supply := w.supply.stamp.2 } := by
  obtain ⟨delta, column, change, sum, -⟩ := moves.moves
  have applied : w.book.apply w.supply.stamp.1 owner a.id amount none kind (some description) = _ :=
    Book.apply_eq_ok.2 ⟨a, delta, next, found, change a.id, sum, rfl, rfl⟩
  have ran : w.book.run terms.forBook
      (.applyTransaction owner a.id amount none kind (some description)) w.supply = _ :=
    congrArg (Book.settle w.book w.supply.stamp.2) applied
  obtain ⟨result, state⟩ := serve_volatile terms
    (.applyTransaction owner a.id amount none kind (some description)) h
  rw [ran] at result state
  exact ⟨result, state⟩

theorem transactionOn_toRow (plain : a.Plain owner) (stamp : Stamp) (id : Uuid) :
    Durable.transactionOn stamp a.toRow owner id amount none kind (some description) =
      Book.transactionOn stamp a owner id amount none kind (some description) := by
  have currency : some a.toRow.currency = a.currency := congrArg Account.currency plain.back
  simp only [Durable.transactionOn, Book.transactionOn, currency, Option.getD_some]

theorem serve_healthy_moves (h : w.Healthy db) (numeric : db.Numeric) (plain : a.Plain owner)
    (moves : Moves kind amount a.balance next)
    (found : db.rows.accounts.find? (Database.isKeptUnder owner a.id) = some a.toRow) :
    ∃ s db' column, w.supply.Later s ∧ db'.reachable ∧
      let t := Book.transactionOn s.stamp.1 a owner a.id amount none kind (some description)
      let served := w.serve terms (.applyTransaction owner a.id amount none kind (some description))
      served.result = .ok (.transaction t) ∧
        served.state = { w with durable := some ⟨db', []⟩, supply := s.stamp.2 } ∧
        db'.rows = ⟨db.rows.accounts.map (·.moved owner a.id column s.stamp.1.now),
          db.rows.transactions ++ [t.toRow], db.rows.payees⟩ ∧
        (a.balance.settled.add column).settled = next.settled := by
  obtain ⟨delta, column, change, -, binary, finite, settles⟩ := moves.moves
  have checked :
      (Operation.applyTransaction owner a.id amount none kind (some description)).Checked :=
    ⟨moves.given, moves.known, rfl⟩
  obtain ⟨s, db', later, -, result, state, kept, -⟩ := serve_repaired h numeric checked
    (not_runsOut h numeric checked Method.noConfusion)
  have balance : a.toRow.balance.toCents = a.balance := congrArg Account.balance plain.back
  let t := Book.transactionOn s.stamp.1 a owner a.id amount none kind (some description)
  let recorded : Database := { db.provisioned with
    accounts := some (db.rows.accounts.map (·.moved owner a.id column s.stamp.1.now))
    transactions := some (db.rows.transactions ++ [t.toRow]) }
  have applied : Durable.apply s.stamp.1 false owner a.id amount none kind (some description)
      db.provisioned = .ok (.transaction t, recorded) := by
    simp only [t, recorded, ← transactionOn_toRow description plain]
    exact Durable.apply_records numeric found (balance ▸ change a.id) binary finite
      moves.given.storable (Kind.text_isSome moves.known)
  have ran : Durable.perform ⟨db.provisioned, []⟩
      (Durable.apply · false owner a.id amount none kind (some description)) s =
        ⟨.ok (.transaction t), (⟨recorded, []⟩, s.stamp.2), []⟩ := Durable.perform_done applied
  have same : operate terms (.applyTransaction owner a.id amount none kind (some description))
      db.provisioned s = _ := ran
  rw [same] at result state kept
  exact ⟨s, db', column, later, h.reachable_of_serve state, result, state, kept, settles⟩

end

namespace Grown

theorem opened {s : Supply} {t : Transaction} (h : start.Grown owner as ts w)
    (stores : start.Adds owner (as ++ [a]) (ts ++ [t]) w') (before : w.supply.Later s)
    (first : a.id = s.stamp.1.first) (after : s.stamp.2.Later w'.supply) (plain : a.Plain owner)
    (credit : t.Plain owner) : start.Grown owner (as ++ [a]) (ts ++ [t]) w' := by
  have later : w.supply.Later w'.supply := before.trans (s.later_stamp.trans after)
  have strange : ¬w.supply.Issued a.id := fun old =>
    s.not_issued_first (first ▸ old.later before)
  refine ⟨stores, h.later.trans later, ?_, ?_, ?_, ?_⟩
  · simpa [forall_and, or_imp] using ⟨h.accounts, plain⟩
  · simpa [forall_and, or_imp] using ⟨h.transactions, credit⟩
  · intro b mem
    rcases List.mem_append.1 mem with old | new
    · exact ⟨(h.fresh b old).1, (h.fresh b old).2.later later⟩
    · obtain rfl := List.mem_singleton.1 new
      exact ⟨fun old => strange (old.later h.later), first ▸ s.issued_first.later after⟩
  · exact nodup_map_concat h.distinct fun b mem same => strange (same ▸ (h.fresh b mem).2)

theorem moved {a' : Account} {t : Transaction} (h : start.Grown owner (as ++ [a]) ts w)
    (stores : start.Adds owner (as ++ [a']) (ts ++ [t]) w') (later : w.supply.Later w'.supply)
    (same : a'.id = a.id) (plain : a'.Plain owner) (recorded : t.Plain owner) :
    start.Grown owner (as ++ [a']) (ts ++ [t]) w' := by
  refine ⟨stores, h.later.trans later, ?_, ?_, ?_, ?_⟩
  · have others : ∀ b ∈ as, b.Plain owner := fun b mem => h.accounts b (List.mem_append_left _ mem)
    simpa [forall_and, or_imp] using ⟨others, plain⟩
  · simpa [forall_and, or_imp] using ⟨h.transactions, recorded⟩
  · intro b mem
    rcases List.mem_append.1 mem with old | new
    · have := h.fresh b (List.mem_append_left _ old)
      exact ⟨this.1, this.2.later later⟩
    · obtain rfl := List.mem_singleton.1 new
      have := h.fresh a List.mem_concat_self
      rw [same]
      exact ⟨this.1, this.2.later later⟩
  · simpa [same] using h.distinct

theorem numeric {db : Database} (h : start.Grown owner as ts w) (known : start.Known)
    (healthy : w.Healthy db) : db.Numeric := by
  refine ⟨healthy.reachable, ?_⟩
  cases h.stores with
  | memory before after =>
    cases after.durable.symm.trans healthy.durable
  | @database db₀ db' before after rows =>
    obtain rfl : db' = db := by simpa using after.durable.symm.trans healthy.durable
    intro row mem
    rw [rows] at mem
    rcases List.mem_append.1 mem with old | new
    · exact known.numbers row (rows_of_durable before.durable ▸ old)
    · obtain ⟨a, inside, rfl⟩ := List.mem_map.1 new
      exact Durable.settled_opening_ne_nan (h.accounts a inside).amount.isDeposit

/-! ## A call that opens an account -/

section
variable {label currency : String} {opening : Decimal}

theorem plain_opened (owner : Uuid) (label currency : String) (stamp : Stamp) (number : String)
    (amount : opening.IsAmount) (back : opening.settled.toCents = opening) :
    let a := Account.opened stamp number owner (some label) (some currency) opening
    a.Plain owner ∧ (a.openingCredit stamp).Plain owner := by
  refine ⟨⟨rfl, amount, ?_⟩, rfl, ?_⟩
  · simp only [Account.toRow, AccountRow.toAccount, Account.opened, Option.getD_some, back]
  · simp only [Transaction.toRow, TransactionRow.toTransaction, Account.openingCredit,
      Account.opened, Option.getD_some, back, Kind.text]
    rfl

theorem open_account (h : start.Grown owner as ts w) (known : start.Known)
    (valid : call.operation terms = .ok (.createAccount owner (some label) (some currency) opening))
    (amount : opening.IsAmount) (back : opening.settled.toCents = opening)
    (enough : ¬w.OutOfNumbers terms call) : ∃ stamp number,
      let a := Account.opened stamp number owner (some label) (some currency) opening
      (w.perform terms call).result = .ok (.account a) ∧
        start.Grown owner (as ++ [a]) (ts ++ [a.openingCredit stamp])
          (w.perform terms call).state := by
  have served : w.perform terms call =
      w.serve terms (.createAccount owner (some label) (some currency) opening) := by
    simp only [perform, valid]
  rw [served]
  cases h.stores with
  | memory before after shelf others =>
    have free : ∃ i < terms.attempts, w.supply.candidate i ∉ w.book.numbers := by
      by_contra used
      exact enough ⟨_, valid, by simpa [after.durable] using used⟩
    obtain ⟨i, result, state⟩ := serve_volatile_opens owner label currency after amount free
    obtain ⟨plain, credit⟩ := plain_opened owner label currency w.supply.stamp.1
      (w.supply.candidate i) amount back
    refine ⟨_, _, result, ?_⟩
    rw [state]
    refine h.opened (.memory before ⟨after.durable, after.quiet⟩ ?_ fun other ne => ?_) (.refl _)
      rfl (Supply.later_drawnOn _ _) plain credit
    · rw [Book.shelf_opened, Account.opened_owner, if_pos rfl, shelf,
        openingCredits_of_amount amount, List.append_assoc, List.append_assoc]
    · rw [Book.shelf_opened, Account.opened_owner, if_neg ne, others other ne]
  | @database db db' before after rows book =>
    have numbers : ¬w.RunsOut terms (.createAccount owner (some label) (some currency) opening) :=
      fun out => enough ⟨_, valid, by simpa [after.durable] using out⟩
    obtain ⟨s, number, db₁, later, reachable, result, state, kept⟩ :=
      serve_healthy_opens owner label currency after (h.numeric known after) amount numbers
    obtain ⟨plain, credit⟩ := plain_opened owner label currency s.stamp.1 number amount back
    refine ⟨_, _, result, ?_⟩
    rw [state]
    refine h.opened (.database before ⟨rfl, reachable, after.quiet⟩ ?_ book) later rfl
      (Supply.later_drawnOn _ _) plain credit
    rw [kept, rows]
    simp

end

/-! ## A call that moves money on the last account -/

section
variable {amount next : Decimal} {kind : Kind} {description : String}

theorem plain_moved (description : String) (plain : a.Plain owner)
    (moves : Moves kind amount a.balance next) (stamp : Stamp) :
    let t := Book.transactionOn stamp a owner a.id amount none kind (some description)
    ({ a with balance := next, updatedAt := stamp.now } : Account).Plain owner ∧
      t.Plain owner := by
  have label : some (a.label.getD "") = a.label := congrArg Account.label plain.back
  have currency : some (a.currency.getD "") = a.currency := congrArg Account.currency plain.back
  have known : Kind.ofText (some (kind.text.getD "")) = kind := by
    rcases moves.known with rfl | rfl <;> rfl
  have resolved : resolveCurrency none a.currency = a.currency := rfl
  refine ⟨⟨plain.owner, moves.left, ?_⟩, rfl, ?_⟩
  · simp only [Account.toRow, AccountRow.toAccount, label, currency, moves.reads.2]
  · simp only [Transaction.toRow, TransactionRow.toTransaction, Book.transactionOn, resolved,
      currency, known, moves.reads.1, Option.getD_some]

theorem others (h : start.Grown owner (as ++ [a]) ts w) :
    ¬start.supply.Issued a.id ∧ ∀ b ∈ as, b.id ≠ a.id := by
  refine ⟨(h.fresh a List.mem_concat_self).1, fun b mem same => ?_⟩
  have distinct := h.distinct
  rw [List.map_append, List.nodup_append] at distinct
  exact distinct.2.2 b.id (List.mem_map_of_mem mem) a.id (by simp) same

theorem book_entry (h : start.Grown owner (as ++ [a]) ts w) (known : start.Known)
    (valid : call.operation terms =
      .ok (.applyTransaction owner a.id amount none kind (some description)))
    (moves : Moves kind amount a.balance next) : ∃ stamp,
      let t := Book.transactionOn stamp a owner a.id amount none kind (some description)
      (w.perform terms call).result = .ok (.transaction t) ∧
        start.Grown owner (as ++ [{ a with balance := next, updatedAt := stamp.now }]) (ts ++ [t])
          (w.perform terms call).state := by
  have served : w.perform terms call =
      w.serve terms (.applyTransaction owner a.id amount none kind (some description)) := by
    simp only [perform, valid]
  have later := perform_later terms call w
  rw [served] at later ⊢
  have plain := h.accounts a List.mem_concat_self
  obtain ⟨strange, others⟩ := h.others
  cases h.stores with
  | memory before after shelf apart =>
    have none : ∀ b ∈ (start.book.shelf owner).accounts ++ as, b.id ≠ a.id := by
      intro b mem same
      rcases List.mem_append.1 mem with old | new
      · exact strange (same ▸ known.book before.durable owner b.id (List.mem_map_of_mem old))
      · exact others b new same
    have accounts : (w.book.shelf owner).accounts =
        (start.book.shelf owner).accounts ++ as ++ [a] := by rw [shelf, List.append_assoc]
    have found : (w.book.shelf owner).accounts.find? (·.id == a.id) = some a := by
      rw [accounts]
      exact find?_concat (by simpa using none) (by simp)
    obtain ⟨result, state⟩ := serve_volatile_moves description after moves found
    obtain ⟨changed, recorded⟩ := plain_moved description plain moves w.supply.stamp.1
    refine ⟨w.supply.stamp.1, result, h.moved ?_ later rfl changed recorded⟩
    rw [state]
    refine .memory before ⟨after.durable, after.quiet⟩ ?_ fun other ne => ?_
    · have replaced : Book.replaceAccount
          { a with balance := next, updatedAt := w.supply.stamp.1.now } (_ ++ [a]) = _ :=
        Book.replaceAccount_concat none rfl
      rw [Book.shelf_setShelf, if_pos rfl, Book.moved, accounts, replaced, shelf,
        List.append_assoc, List.append_assoc]
    · rw [Book.shelf_setShelf, if_neg ne, apart other ne]
  | @database db db' before after rows book =>
    have none : ∀ row ∈ db.rows.accounts ++ as.map Account.toRow, row.id ≠ a.id := by
      intro row mem same
      rcases List.mem_append.1 mem with old | new
      · exact strange (same ▸ known.rows row (rows_of_durable before.durable ▸ old))
      · obtain ⟨b, inside, rfl⟩ := List.mem_map.1 new
        exact others b inside same
    have accounts : db'.rows.accounts =
        db.rows.accounts ++ as.map Account.toRow ++ [a.toRow] := by simp [rows]
    have mine : Database.isKeptUnder owner a.id a.toRow := isKeptUnder_iff.2 ⟨rfl, plain.owner⟩
    have found : db'.rows.accounts.find? (Database.isKeptUnder owner a.id) = some a.toRow := by
      rw [accounts]
      exact find?_concat (fun row mem kept => none row mem (isKeptUnder_iff.1 kept).1) mine
    obtain ⟨s, db₁, column, -, reachable, result, state, kept, settles⟩ :=
      serve_healthy_moves description after (h.numeric known after) plain moves found
    obtain ⟨changed, recorded⟩ := plain_moved description plain moves s.stamp.1
    refine ⟨s.stamp.1, result, h.moved ?_ later rfl changed recorded⟩
    rw [state]
    refine .database before ⟨rfl, reachable, after.quiet⟩ ?_ book
    have last : a.toRow.moved owner a.id column s.stamp.1.now =
        Account.toRow { a with balance := next, updatedAt := s.stamp.1.now } := by
      rw [AccountRow.moved, if_pos mine]
      simp only [Account.toRow, settles]
    rw [kept, accounts, List.map_append, AccountRow.map_moved_others none, List.map_singleton, last,
      rows]
    simp

end

/-! ## What the owner has then -/

theorem own_rows (h : start.Grown owner as ts w) :
    (as.map Account.toRow).filter (·.owner == owner) = as.map Account.toRow ∧
      (ts.map Transaction.toRow).filter (·.owner == owner) = ts.map Transaction.toRow ∧
      (as.map Account.toRow).map (·.toAccount) = as ∧
      (ts.map Transaction.toRow).map (·.toTransaction) = ts := by
  refine ⟨List.filter_eq_self.2 ?_, List.filter_eq_self.2 ?_, ?_, ?_⟩
  · simpa using fun a mem => (h.accounts a mem).owner
  · simpa using fun t mem => (h.transactions t mem).owner
  · rw [List.map_map]
    exact (List.map_congr_left fun a mem => (h.accounts a mem).back).trans (List.map_id' as)
  · rw [List.map_map]
    exact (List.map_congr_left fun t mem => (h.transactions t mem).back).trans (List.map_id' ts)

theorem shown_transactions (h : start.Grown owner as ts w) :
    w.transactions owner = start.transactions owner ++ ts := by
  cases h.stores with
  | memory before after shelf =>
    rw [after.inMemory.transactions, before.inMemory.transactions, shelf]
  | database before after rows =>
    obtain ⟨-, mine, -, back⟩ := h.own_rows
    simp only [after.transactions, before.transactions, rows, Rows.of, List.filter_append, mine,
      List.map_append, back]

theorem shown_accounts (h : start.Grown owner as ts w) :
    (w.accounts owner).Perm (start.accounts owner ++ as) := by
  cases h.stores with
  | memory before after shelf =>
    rw [after.inMemory.accounts, before.inMemory.accounts, shelf]
  | database before after rows =>
    obtain ⟨mine, -, back, -⟩ := h.own_rows
    rw [after.accounts, before.accounts]
    refine ((List.mergeSort_perm _ _).map _).trans ?_
    rw [rows, List.filter_append, mine, List.map_append, back]
    exact ((List.mergeSort_perm _ _).map _).symm.append_right as

theorem issued (h : start.Grown owner as ts w) (known : start.Known)
    (mem : a ∈ start.accounts owner) : start.supply.Issued a.id := by
  cases h.stores with
  | memory before =>
    rw [before.inMemory.accounts] at mem
    exact known.book before.durable owner a.id (List.mem_map_of_mem mem)
  | database before =>
    rw [before.accounts] at mem
    obtain ⟨row, kept, rfl⟩ := List.mem_map.1 mem
    rw [Rows.accountsOf, List.mem_mergeSort] at kept
    exact known.rows row (rows_of_durable before.durable ▸ List.mem_of_mem_filter kept)

theorem history (h : start.Grown owner as ts w) (known : start.Known) (mem : a ∈ as) :
    (w.transactions owner).filter (·.account == a.id) = ts.filter (·.account == a.id) := by
  have strange := (h.fresh a mem).1
  have none : ∀ t ∈ start.transactions owner, t.account ≠ a.id := by
    intro t inside same
    cases h.stores with
    | memory before =>
      rw [before.inMemory.transactions] at inside
      exact strange (same ▸ known.noted before.durable owner t inside)
    | database before =>
      rw [before.transactions] at inside
      obtain ⟨row, kept, rfl⟩ := List.mem_map.1 inside
      exact strange (same ▸ known.recorded row
        (rows_of_durable before.durable ▸ List.mem_of_mem_filter kept))
  rw [h.shown_transactions, List.filter_append, List.filter_eq_nil_iff.2 (by simpa using none),
    List.nil_append]

theorem apart (h : start.Grown owner as ts w) {other : Uuid} (ne : other ≠ owner) :
    w.book.shelf other = start.book.shelf other ∧ w.rows.of other = start.rows.of other := by
  cases h.stores with
  | memory before after shelf others =>
    exact ⟨others other ne, by rw [rows_of_none before.durable, rows_of_none after.durable]⟩
  | @database db db' before after rows book =>
    have accounts : (as.map Account.toRow).filter (·.owner == other) = [] := by
      rw [List.filter_eq_nil_iff]
      intro row mem
      obtain ⟨a, inside, rfl⟩ := List.mem_map.1 mem
      simp [(h.accounts a inside).owner, ne.symm]
    have transactions : (ts.map Transaction.toRow).filter (·.owner == other) = [] := by
      rw [List.filter_eq_nil_iff]
      intro row mem
      obtain ⟨t, inside, rfl⟩ := List.mem_map.1 mem
      simp [(h.transactions t inside).owner, ne.symm]
    rw [book, rows_of_durable before.durable, rows_of_durable after.durable, rows]
    simp only [Rows.of, List.filter_append, accounts, transactions, List.append_nil]
    exact ⟨trivial, trivial⟩

end Grown

/-! ## Listings -/

def Serves (w : World) : Prop := w.Volatile ∨ ∃ db, w.Healthy db

theorem Grown.serves (h : start.Grown owner as ts w) : w.Serves := by
  cases h.stores with
  | memory before after => exact .inl after
  | database before after => exact .inr ⟨_, after⟩

theorem Serves.listTransactions (h : w.Serves) (terms : Terms) (owner : Uuid) :
    let served := w.perform terms (.listTransactions owner none)
    (∃ shown, served.result = .ok (.transactions shown) ∧
      (shown = [] ↔ w.transactions owner = [])) ∧ w.Grown owner [] [] served.state := by
  intro served
  obtain ⟨book, rows⟩ := perform_listTransactions_kept terms w owner none
  have later := perform_later terms (.listTransactions owner none) w
  have nothing (stores : w.Adds owner [] [] served.state) : w.Grown owner [] [] served.state :=
    ⟨stores, later, by simp, by simp, by simp, by simp⟩
  rcases h with quiet | ⟨db, healthy⟩
  · obtain ⟨result, state⟩ := serve_volatile terms (.listTransactions owner none) quiet
    have after : served.state.Volatile := by
      rw [show served.state = _ from state]
      exact ⟨quiet.durable, quiet.quiet⟩
    have shelf : served.state.book.shelf owner = w.book.shelf owner :=
      congrFun (congrArg Book.shelf book) owner
    refine ⟨⟨_, result, ?_⟩, nothing (.memory quiet after (by simp [shelf]) fun other _ => ?_)⟩
    · rw [quiet.inMemory.transactions, List.reverse_eq_nil_iff]
    · exact congrFun (congrArg Book.shelf book) other
  · obtain ⟨db', after⟩ := perform_healthy (.listTransactions owner none) healthy
    have result : served.result = _ := healthy.listTransactions_known terms (by simp)
    have same : db'.rows = db.rows := by
      rw [← rows_of_durable after.durable, ← rows_of_durable healthy.durable, rows]
    refine ⟨⟨_, result, ?_⟩, nothing (.database healthy after (by simp [same]) book)⟩
    rw [healthy.transactions, List.map_eq_nil_iff, List.map_eq_nil_iff, ← List.length_eq_zero_iff,
      ← List.length_eq_zero_iff, Rows.transactionsOf, List.length_mergeSort]
    simp [Rows.of]

end World
end Passbook
