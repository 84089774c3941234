import Passbook.Proofs.Decision.Serving

namespace Passbook

/-! ## What an answer tells -/

def Transaction.listed (database : Bool) (t : Transaction) : Transaction :=
  if database then { t with amount := t.amount.settled.toCents } else t

namespace Answer

def records : Answer → Bool
  | transaction _ => true
  | account a => 0 < a.balance.value
  | accounts _ | transactions _ | payee _ | payees _ | removed _ => false

inductive Tells (database : Bool) : Answer → Transaction → Prop
  | asked (t : Transaction) : Tells database (transaction t) (t.listed database)
  | opening (a : Account) (id : Uuid) :
    Tells database (account a) (Transaction.listed database
      { id, account := a.id, owner := a.owner, amount := a.balance, currency := a.currency,
        kind := .credit, description := some openingDescription, createdAt := a.createdAt })

/-- The accounts that were opened with this answer, for an owner who had those before. To one who
had none, a listing shows only what it opens. -/
def opens (had : List Account) : Answer → List Account
  | account a => [a]
  | accounts shown => if had = [] then shown else []
  | transaction _ | transactions _ | payee _ | payees _ | removed _ => []

structure Adds (database : Bool) (answer : Answer) (as : List Account) (ts : List Transaction)
    (as' : List Account) (ts' : List Transaction) : Prop where
  accounts : as'.map (·.particulars) = (as ++ answer.opens as).map (·.particulars)
  transactions : ∃ new, List.Forall₂ (Tells database) ([answer].filter (·.records)) new ∧
    ts' = ts ++ new

section
variable {database : Bool} {answer : Answer} {as as' bs : List Account} {ts ts' : List Transaction}
  {t : Transaction}

theorem opens_congr (same : as = [] ↔ bs = []) : answer.opens as = answer.opens bs := by
  cases answer with
  | accounts shown => simp only [opens, same]
  | account | transaction | transactions | payee | payees | removed => rfl

theorem Adds.account (quiet : answer.records = false)
    (accounts : as'.map (·.particulars) = (as ++ answer.opens as).map (·.particulars)) :
    Adds database answer as ts as' ts := by
  refine ⟨accounts, [], ?_, (List.append_nil ts).symm⟩
  rw [List.filter_cons_of_neg (by simp [quiet])]
  exact .nil

theorem Adds.nothing (quiet : answer.records = false) (opens : answer.opens as = [])
    (accounts : as'.map (·.particulars) = as.map (·.particulars)) :
    Adds database answer as ts as' ts :=
  .account quiet (by rw [opens, List.append_nil, accounts])

theorem Adds.transaction (records : answer.records) (tells : Tells database answer t)
    (accounts : as'.map (·.particulars) = (as ++ answer.opens as).map (·.particulars)) :
    Adds database answer as ts as' (ts ++ [t]) := by
  refine ⟨accounts, [t], ?_, rfl⟩
  rw [List.filter_cons_of_pos records]
  exact .cons tells .nil

end

end Answer

/-! ## What answers tell -/

def openings (answers : List Answer) : List Account :=
  answers.foldl (fun had answer => had ++ answer.opens had) []

/-- An owner has what the answers told of, in the order of the answers. -/
structure Told (database : Bool) (answers : List Answer) (as : List Account)
    (ts : List Transaction) : Prop where
  accounts : as.map (·.particulars) = (openings answers).map (·.particulars)
  transactions : List.Forall₂ (Answer.Tells database) (answers.filter (·.records)) ts

section
variable {database : Bool} {answers : List Answer} {answer : Answer} {as as' : List Account}
  {ts ts' : List Transaction}

theorem openings_concat (answers : List Answer) (answer : Answer) :
    openings (answers ++ [answer]) = openings answers ++ answer.opens (openings answers) := by
  simp [openings, List.foldl_append]

theorem Told.nil (database : Bool) : Told database [] [] [] := ⟨rfl, .nil⟩

theorem Told.kept (h : Told database answers as ts)
    (accounts : as'.map (·.particulars) = as.map (·.particulars)) : Told database answers as' ts :=
  ⟨accounts.trans h.accounts, h.transactions⟩

theorem Told.step (h : Told database answers as ts) (adds : answer.Adds database as ts as' ts') :
    Told database (answers ++ [answer]) as' ts' := by
  have none : as = [] ↔ openings answers = [] := by
    rw [← List.map_eq_nil_iff (f := Account.particulars), h.accounts, List.map_eq_nil_iff]
  obtain ⟨new, tells, rfl⟩ := adds.transactions
  constructor
  · rw [adds.accounts, openings_concat, List.map_append, List.map_append, h.accounts,
      Answer.opens_congr none]
  · rw [List.filter_append]
    exact List.rel_append h.transactions tells

end

/-! ## One operation in memory -/

section
variable {stamp : Stamp} {op : Operation} {answer : Answer}

theorem Book.Does.adds {terms : BookTerms} {b b' : Book}
    (does : Book.Does terms stamp b op (.ok answer) b')
    (distinct : ((b.shelf op.owner).accounts.map (·.id)).Nodup) :
    answer.Adds false (b.shelf op.owner).accounts (b.shelf op.owner).transactions
      (b'.shelf op.owner).accounts (b'.shelf op.owner).transactions := by
  generalize result : Except.ok answer = outcome at does
  cases does with
  | noNumber | unmoved | duplicate => cases result
  | @opened owner label currency opening number free credit =>
    cases result
    simp only [Operation.owner, shelf_addTransaction, shelf_addAccount, Account.opened_owner,
      Account.openingCredit_owner, if_true]
    refine .transaction ?_ (.opening _ stamp.second) rfl
    exact decide_eq_true credit.positive
  | openedEmpty free nought =>
    cases result
    simp only [Operation.owner, shelf_addAccount, Account.opened_owner, if_true]
    refine .account ?_ rfl
    simp [Answer.records, nought.value]
  | provisioned free bare =>
    cases result
    simp only [Operation.owner, shelf_addAccount, Account.opened_owner, if_true]
    refine .account rfl ?_
    rw [Answer.opens, if_pos bare]
  | accounts shown =>
    cases result
    exact .nothing rfl (if_neg shown) rfl
  | transactions owner account =>
    obtain ⟨ts, rfl⟩ := Book.listTransactions_ok result.symm
    exact .nothing rfl rfl rfl
  | moved found change sum =>
    cases result
    obtain ⟨mem, -⟩ := find?_account found
    simp only [Operation.owner, shelf_setShelf, if_true] at distinct ⊢
    refine .transaction rfl (.asked _) ?_
    rw [Answer.opens, List.append_nil]
    exact map_particulars_replaceAccount mem distinct
  | demoPayee | saved =>
    cases result
    simp only [Operation.owner, Book.demoPayee, shelf_addPayee, if_true]
    exact .nothing rfl rfl rfl
  | payees | cleared =>
    cases result
    simp only [Operation.owner, shelf_setShelf, if_true]
    exact .nothing rfl rfl rfl

/-! ## One operation in a database -/

theorem Account.toRow_particulars {a : Account} (label : a.label.isSome)
    (currency : a.currency.isSome) : a.toRow.particulars = a.particulars := by
  obtain ⟨_, known⟩ := Option.isSome_iff_exists.1 label
  obtain ⟨_, known'⟩ := Option.isSome_iff_exists.1 currency
  simp only [Account.particulars, AccountRow.particulars, Account.toRow, known, known',
    Option.getD_some]

theorem Transaction.toRow_listed {t : Transaction} (currency : t.currency.isSome)
    (kind : t.kind = .credit ∨ t.kind = .debit) (description : t.description.isSome) :
    t.toRow.toTransaction = t.listed true := by
  obtain ⟨id, account, owner, amount, _, _, _, createdAt⟩ := t
  obtain ⟨_, rfl⟩ := Option.isSome_iff_exists.1 currency
  obtain ⟨_, rfl⟩ := Option.isSome_iff_exists.1 description
  rcases kind with rfl | rfl <;> rfl

namespace Rows
variable {r r' : Rows} {now now' : Int} {owner : Uuid}

theorem particulars_accountsOf (owner : Uuid)
    (order : InOrder (·.createdAt.micros) now r.accounts) :
    ((r.accountsOf owner).map (·.toAccount)).map (·.particulars) =
      (r.of owner).accounts.map (·.particulars) := by
  have sorted := (order.filter (·.owner == owner)).mergeSort
  rw [List.map_map, accountsOf, sorted]
  rfl

theorem accounts_opened (owner : Uuid) {a : Account} (own : a.owner = owner)
    (label : a.label.isSome) (currency : a.currency.isSome) (ts : List TransactionRow) :
    (Rows.of owner { r with accounts := r.accounts ++ [a.toRow], transactions := ts }).accounts.map
      (·.particulars) = (r.of owner).accounts.map (·.particulars) ++ [a.particulars] := by
  have mine : a.toRow.owner = owner := own
  simp [Rows.of, mine, Account.toRow_particulars label currency]

theorem transactions_recorded (owner : Uuid) {t : Transaction} (own : t.owner = owner)
    (currency : t.currency.isSome) (kind : t.kind = .credit ∨ t.kind = .debit)
    (description : t.description.isSome) (as : List AccountRow) :
    (Rows.of owner { r with accounts := as, transactions := r.transactions ++ [t.toRow] }
      ).transactions.map (·.toTransaction) =
      (r.of owner).transactions.map (·.toTransaction) ++ [t.listed true] := by
  have mine : t.toRow.owner = owner := own
  simp [Rows.of, mine, Transaction.toRow_listed currency kind description]

theorem Does.adds (does : Rows.Does stamp r op answer r') (checked : op.Checked)
    (order : InOrder (·.createdAt.micros) now r.accounts)
    (order' : InOrder (·.createdAt.micros) now' r'.accounts) :
    answer.Adds true ((r.accountsOf op.owner).map (·.toAccount))
      ((r.of op.owner).transactions.map (·.toTransaction))
      ((r'.accountsOf op.owner).map (·.toAccount))
      ((r'.of op.owner).transactions.map (·.toTransaction)) := by
  have before (owner : Uuid) := particulars_accountsOf owner order
  have after (owner : Uuid) := particulars_accountsOf owner order'
  cases does with
  | @opened owner label currency opening number free credit =>
    obtain ⟨label_given, currency_given, given⟩ := checked
    rw [given.isDeposit.exceeds, Option.some.injEq] at credit
    rw [Operation.owner, transactions_recorded owner rfl currency_given (.inl rfl) rfl]
    refine .transaction credit (.opening _ stamp.second) ?_
    rw [after, accounts_opened owner rfl label_given currency_given, List.map_append, before]
    rfl
  | @openedEmpty owner label currency opening number free nought =>
    obtain ⟨label_given, currency_given, given⟩ := checked
    rw [given.isDeposit.exceeds, Option.some.injEq] at nought
    refine .account nought ?_
    rw [Operation.owner, after, accounts_opened owner rfl label_given currency_given,
      List.map_append, before]
    rfl
  | accounts owner =>
    refine .nothing rfl ?_ rfl
    exact ite_eq_right_iff.2 id
  | transactions | payees | saved | cleared => exact .nothing rfl rfl rfl
  | @moved owner id amount currency kind description row delta column found change binary =>
    have currency_given := resolveCurrency_isSome currency row.currency
    rw [Operation.owner, transactions_recorded owner rfl currency_given checked.2.1 rfl]
    refine .transaction rfl (.asked _) ?_
    rw [after, Answer.opens, List.append_nil, before, Rows.of, filter_moved, List.map_map]
    exact List.map_congr_left fun row _ => AccountRow.moved_particulars ..

end Rows
end

/-! ## The order of accounts -/

theorem Layout.Step.created {α τ : Type} {f : Layout α τ} {s s₀ s' : Supply} {op : Operation}
    {result : Except Failure Answer} {as as' : List α} {ts ts' : List τ}
    (step : f.Step s₀.stamp.1 op result as ts as' ts')
    (order : InOrder (fun a => (f.particulars a).createdAt.micros) s.now as)
    (rising : s.clock.Rising) (before : s.Later s₀) (after : s₀.stamp.2.Later s') :
    InOrder (fun a => (f.particulars a).createdAt.micros) s'.now as' := by
  have le := (before.trans (s₀.later_stamp.trans after)).now rising
  cases step with
  | kept => exact order.later le
  | opened a new few fresh own opening on =>
    apply order.append <;> rw [opening.1]
    · exact before.now rising
    · exact after.stamped (before.rising rising)
  | moved t asked names answered present stays =>
    have kept : InOrder (·.createdAt.micros) s'.now (as.map f.particulars) :=
      InOrder.map_iff.2 (order.later le)
    rw [← stays] at kept
    exact (InOrder.map_iff (f := f.particulars)).1 kept

namespace World
variable {terms : Terms} {call : Call} {w : World} {owner : Uuid} {answers : List Answer}

structure Created (w : World) : Prop where
  inTime : w.InTime
  shelves : ∀ owner, InOrder (·.createdAt.micros) w.supply.now (w.book.shelf owner).accounts
  rows : InOrder (·.createdAt.micros) w.supply.now w.rows.accounts

theorem perform_created (terms : Terms) (call : Call) (dated : w.Dated) (h : w.Created) :
    (w.perform terms call).state.Created := by
  have rising := h.inTime.rising
  have le := (perform_change terms call w).later.now rising
  have inTime := perform_inTime terms call dated h.inTime
  cases perform_change terms call w with
  | failed answered book rows =>
    refine ⟨inTime, fun owner => ?_, ?_⟩
    · rw [book]
      exact (h.shelves owner).later le
    · rw [rows]
      exact h.rows.later le
  | @database op answer s valid answered before after does book =>
    obtain ⟨_, tallied⟩ := dated.rows_tallied
    have step := (does.step tallied.distinct).created h.rows rising before after
    refine ⟨inTime, fun owner => ?_, step⟩
    rw [book]
    exact (h.shelves owner).later le
  | @memory op answer s valid answered before after does rows =>
    refine ⟨inTime, fun owner => ?_, ?_⟩
    · by_cases own : owner = op.owner
      · subst own
        have step := does.step (dated.book.shelves _).distinct (dated.shelves _).1
        exact step.created (h.shelves _) rising before after
      · rw [does.shelf_other own]
        exact (h.shelves owner).later le
    · rw [rows]
      exact h.rows.later le

/-! ## The answers that an owner got -/

def serving (w : World) : StoreCall := if w.usesDatabase then .durable else .memory

def answered? (terms : Terms) (owner : Uuid) (call : Call) (w : World) : Option Answer :=
  let served := w.perform terms call
  if call.owner = owner ∧ served.calls.getLast? = some w.serving then served.result.toOption
  else none

def answered (terms : Terms) (owner : Uuid) : List Call → World → List Answer
  | [], _ => []
  | call :: calls, w =>
    (w.answered? terms owner call).toList ++
      answered terms owner calls (w.perform terms call).state

theorem answered?_eq_some {answer : Answer} : w.answered? terms owner call = some answer ↔
    call.owner = owner ∧ (w.perform terms call).calls.getLast? = some w.serving ∧
      (w.perform terms call).result = .ok answer := by
  have given : (w.perform terms call).result.toOption = some answer ↔
      (w.perform terms call).result = .ok answer := by
    cases (w.perform terms call).result <;> simp [Except.toOption]
  unfold answered?
  dsimp only
  split_ifs with heard
  · rw [given, and_iff_right heard.1, and_iff_right heard.2]
  · simp [← and_assoc, heard]

/-- The store that serves the calls has the last word on every call, unless it is a database that
runs out of account numbers. -/
theorem serve_last {op : Operation} (h : w.Regular) (checked : op.Checked)
    (enough : w.usesDatabase → ¬w.RunsOut terms op) :
    (w.serve terms op).calls.getLast? = some w.serving := by
  rcases h.cases with memory | ⟨db, healthy⟩
  · have serving : w.serving = .memory := by rw [World.serving, memory.usesDatabase]; rfl
    rw [serving]
    obtain ⟨quiet, none | closed⟩ := memory
    · rw [serve_memory none]
      rfl
    · rw [serve_closed quiet closed checked]
      rfl
  · have serving : w.serving = .durable := by rw [World.serving, healthy.usesDatabase]; rfl
    rw [serving]
    obtain ⟨_, _, -, -, -, -, -, ⟨calls, -⟩ | ⟨calls, -⟩⟩ := serve_repaired healthy
      (h.numeric healthy) checked (enough healthy.usesDatabase)
    · rw [calls]
      rfl
    · rw [calls]
      rfl

theorem perform_heard {answer : Answer} (h : w.Regular) (own : call.owner = owner)
    (answered : (w.perform terms call).result = .ok answer) :
    w.answered? terms owner call = some answer ∨
      ∃ op, call.operation terms = .ok op ∧ op.method = .createAccount ∧ w.usesDatabase ∧
        w.RunsOut terms op := by
  cases valid : call.operation terms with
  | error failure =>
    simp only [perform, valid] at answered
    cases answered
  | ok op =>
    have checked := Call.operation_checked valid
    by_cases out : w.usesDatabase ∧ w.RunsOut terms op
    · refine .inr ⟨op, rfl, ?_, out⟩
      by_contra other
      rcases h.cases with memory | ⟨db, healthy⟩
      · rw [memory.usesDatabase] at out
        cases out.1
      · exact not_runsOut healthy (h.numeric healthy) checked other out.2
    · refine .inl (answered?_eq_some.2 ⟨own, ?_, answered⟩)
      simp only [perform, valid]
      exact serve_last h checked fun uses runs => out ⟨uses, runs⟩

theorem records_congr {w' : World} (uses : w'.usesDatabase = w.usesDatabase)
    (rows : w.usesDatabase → w'.rows.of owner = w.rows.of owner)
    (shelf : w.usesDatabase = false → w'.book.shelf owner = w.book.shelf owner) :
    w'.accounts owner = w.accounts owner ∧ w'.transactions owner = w.transactions owner := by
  simp only [accounts, transactions, uses]
  split_ifs with database
  · have same : w'.rows.accountsOf owner = w.rows.accountsOf owner :=
      congrArg (fun r => r.accounts.mergeSort fun a b => a.createdAt.micros ≤ b.createdAt.micros)
        (rows database)
    exact ⟨congrArg _ same, congrArg (·.transactions.map (·.toTransaction)) (rows database)⟩
  · have same := shelf (by simpa using database)
    exact ⟨congrArg _ same, congrArg _ same⟩

theorem records_same {w' : World} (uses : w'.usesDatabase = w.usesDatabase)
    (kept : w'.book = w.book ∧ w'.rows = w.rows) (owner : Uuid) :
    w'.accounts owner = w.accounts owner ∧ w'.transactions owner = w.transactions owner :=
  records_congr uses (fun _ => congrArg (Rows.of owner) kept.2)
    fun _ => congrArg (Book.shelf · owner) kept.1

theorem perform_unheard (silent : w.answered? terms owner call = none) :
    (w.perform terms call).state.accounts owner = w.accounts owner ∧
      (w.perform terms call).state.transactions owner = w.transactions owner := by
  have uses := perform_usesDatabase terms call w
  by_cases own : call.owner = owner
  · cases result : (w.perform terms call).result with
    | error failure => exact records_same uses (perform_failed result) owner
    | ok answer =>
      obtain ⟨store, effect, attributed⟩ := exists_effect terms call w
      obtain ⟨store, rfl, served⟩ := attributed answer result
      -- The other store has served the call, and this one is as it was.
      have other : store ≠ w.serving := by
        rintro rfl
        rw [answered?_eq_some.2 ⟨own, served, result⟩] at silent
        cases silent
      rw [result] at effect
      cases store with
      | repair => cases effect
      | durable =>
        obtain ⟨_, _, -, -, -, -, book⟩ := effect.durable_does
        refine records_congr uses (fun database => absurd ?_ other) fun _ => by rw [book]
        simp [serving, database]
      | memory =>
        obtain ⟨_, _, -, -, -, -, rows⟩ := effect.memory_does
        refine records_congr uses (fun _ => by rw [rows]) fun memory => absurd ?_ other
        simp [serving, memory]
  · obtain ⟨shelf, rows⟩ := perform_apart terms w own
    exact records_congr uses (fun _ => rows) fun _ => shelf

theorem perform_adds {answer : Answer} (regular : w.Regular) (created : w.Created)
    (heard : w.answered? terms owner call = some answer) :
    answer.Adds w.usesDatabase (w.accounts owner) (w.transactions owner)
      ((w.perform terms call).state.accounts owner)
      ((w.perform terms call).state.transactions owner) := by
  obtain ⟨rfl, last, answered⟩ := answered?_eq_some.1 heard
  have created' := perform_created terms call regular.dated created
  have uses := perform_usesDatabase terms call w
  obtain ⟨store, effect, attributed⟩ := exists_effect terms call w
  obtain ⟨store, rfl, served⟩ := attributed answer answered
  have serves := Option.some.inj (served.symm.trans last)
  rw [answered] at effect
  simp only [accounts, transactions, uses]
  cases database : w.usesDatabase with
  | true =>
    obtain rfl : store = .durable := by simpa [serving, database] using serves
    obtain ⟨op, s, valid, -, -, does, -⟩ := effect.durable_does
    rw [← Call.operation_owner valid]
    exact does.adds (Call.operation_checked valid) created.rows created'.rows
  | false =>
    obtain rfl : store = .memory := by simpa [serving, database] using serves
    obtain ⟨op, s, valid, -, -, does, -⟩ := effect.memory_does
    rw [← Call.operation_owner valid]
    exact does.adds (regular.dated.book.shelves _).distinct

theorem perform_told (regular : w.Regular) (created : w.Created)
    (told : Told w.usesDatabase answers (w.accounts owner) (w.transactions owner)) :
    let w' := (w.perform terms call).state
    Told w'.usesDatabase (answers ++ (w.answered? terms owner call).toList) (w'.accounts owner)
      (w'.transactions owner) := by
  intro w'
  rw [perform_usesDatabase]
  cases heard : w.answered? terms owner call with
  | none =>
    obtain ⟨accounts, transactions⟩ := perform_unheard heard
    rw [accounts, transactions, Option.toList_none, List.append_nil]
    exact told
  | some answer => exact told.step (perform_adds regular created heard)

theorem run_told (calls : List Call) (regular : w.Regular) (created : w.Created)
    (told : Told w.usesDatabase answers (w.accounts owner) (w.transactions owner)) :
    let w' := (run terms calls w).2
    Told w'.usesDatabase (answers ++ answered terms owner calls w) (w'.accounts owner)
      (w'.transactions owner) := by
  induction calls generalizing w answers with
  | nil =>
    rw [answered, List.append_nil]
    exact told
  | cons call calls ih =>
    rw [answered, ← List.append_assoc]
    have regular' := perform_regular terms call w regular
    have created' := perform_created terms call regular.dated created
    exact ih regular' created' (perform_told regular created told)

theorem run_created (calls : List Call) (regular : w.Regular) (created : w.Created) :
    (run terms calls w).2.Regular ∧ (run terms calls w).2.Created :=
  run_induction (fun w => w.Regular ∧ w.Created)
    (fun call w h => ⟨perform_regular terms call w h.1, perform_created terms call h.1.dated h.2⟩)
    calls w ⟨regular, created⟩

end World

end Passbook
