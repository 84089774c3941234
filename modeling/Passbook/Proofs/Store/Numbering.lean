import Passbook.Proofs.Store.Opening

/-!
# The account numbers of a store

- `Book.Reached`, `Database.Reached`: the states of a store after any operations on it
- `Book.Registered`, `Database.Registered`: no number is given out twice, and every one is in form
- `account_numbers`: they always are, and an account is opened as long as one of the next candidates
  belongs to no account
-/

namespace Passbook

def Supply.InRange (s : Supply) : Prop := ∀ n, s.draw n < accountNumberSpan

/-! ## In memory -/

namespace Book
inductive Reached : Book → Prop
  | empty : Reached .empty
  | run {b} (h : Reached b) (terms : BookTerms) (op : Operation) (s : Supply) (draws : s.InRange) :
    Reached (b.run terms op s).state.1

variable {terms : BookTerms} {op : Operation} {stamp : Stamp} {b b' : Book} {s : Supply}

def numbersOf (b : Book) (owner : Uuid) : List String := (b.shelf owner).accounts.map (·.number)

def Uses (b : Book) (number : String) : Prop := ∃ owner, number ∈ b.numbersOf owner

structure Registered (b : Book) : Prop where
  distinct : ∀ owner, (b.numbersOf owner).Nodup
  apart : ∀ owner other, owner ≠ other → (b.numbersOf owner).Disjoint (b.numbersOf other)
  formed : ∀ number, b.Uses number → IsAccountNumber number
  issued : ∀ number, number ∈ b.numbers ↔ b.Uses number

/-- What an operation can do to the numbers: nothing, or give out one that is free. -/
inductive Numbers (s : Supply) (b b' : Book) : Prop
  | kept (same : b'.numbersOf = b.numbersOf) (numbers : b'.numbers = b.numbers)
  | gave (owner : Uuid) (n : Nat) (free : accountNumber (s.draw n) ∉ b.numbers)
      (accounts : ∀ other, b'.numbersOf other =
        if other = owner then b.numbersOf owner ++ [accountNumber (s.draw n)]
        else b.numbersOf other)
      (numbers : b'.numbers = accountNumber (s.draw n) :: b.numbers)

theorem map_number_replaceAccount {accounts : List Account} {id : Uuid} {account a : Account}
    (found : accounts.find? (·.id == id) = some account) (same : a.id = id)
    (number : a.number = account.number) :
    (replaceAccount a accounts).map (·.number) = accounts.map (·.number) := by
  induction accounts with
  | nil => cases found
  | cons other rest ih =>
    rw [List.find?_cons] at found
    simp only [replaceAccount, same]
    split_ifs with first
    · rw [first, beq_self_eq_true] at found
      cases found
      simp only [List.map_cons, number]
    · rw [beq_false_of_ne first] at found
      simp only [List.map_cons, ih found]

theorem numbersOf_addAccount (b : Book) (a : Account) (other : Uuid) :
    (b.addAccount a).numbersOf other =
      if other = a.owner then b.numbersOf a.owner ++ [a.number] else b.numbersOf other := by
  simp only [numbersOf, shelf_addAccount]
  split_ifs with own
  · simp only [List.map_append, List.map_cons, List.map_nil]
  · rfl

theorem numbersOf_setShelf {owner : Uuid} {shelf : Shelf}
    (same : shelf.accounts.map (·.number) = b.numbersOf owner) :
    (b.setShelf owner shelf).numbersOf = b.numbersOf := by
  funext other
  simp only [numbersOf, shelf_setShelf]
  split_ifs with own
  · rw [own]
    exact same
  · rfl

theorem numbersOf_addTransaction (b : Book) (t : Transaction) :
    (b.addTransaction t).numbersOf = b.numbersOf := numbersOf_setShelf rfl

theorem numbersOf_addPayee (b : Book) (p : Payee) : (b.addPayee p).numbersOf = b.numbersOf :=
  numbersOf_setShelf rfl

theorem numbers_opened (b : Book) (stamp : Stamp) (number : String) (owner : Uuid)
    (label currency : Option String) (opening : Decimal) :
    let after := (b.createAccount stamp number owner label currency opening).2
    after.numbersOf =
        (b.addAccount (.opened stamp number owner label currency opening)).numbersOf ∧
      after.numbers = number :: b.numbers := by
  simp only [createAccount]
  split
  · exact ⟨rfl, rfl⟩
  · exact ⟨numbersOf_addTransaction .., rfl⟩
  · exact ⟨rfl, rfl⟩

theorem numbers_settle (b : Book) (s : Supply) {result : Except Failure (Answer × Book)}
    (each : ∀ answer after, result = .ok (answer, after) →
      after.numbersOf = b.numbersOf ∧ after.numbers = b.numbers) :
    let after := (settle b s result).state.1
    after.numbersOf = b.numbersOf ∧ after.numbers = b.numbers := by
  cases result with
  | error failure => exact ⟨rfl, rfl⟩
  | ok done => exact each done.1 done.2 rfl

theorem run_numbers (terms : BookTerms) (op : Operation) (b : Book) (s : Supply) :
    Numbers s b (b.run terms op s).state.1 := by
  cases op with
  | createAccount owner label currency opening =>
    simp only [run]
    split
    · exact .kept rfl rfl
    · rename_i number s' found
      obtain ⟨n, rfl⟩ := Supply.findNumber_candidate found
      obtain ⟨accounts, numbers⟩ := b.numbers_opened s.stamp.1 (accountNumber (s.draw n)) owner label
        currency opening
      exact .gave owner n (not_mem_of_findNumber found)
        (fun other => (congrFun accounts other).trans (numbersOf_addAccount ..)) numbers
  | listAccounts owner =>
    simp only [run]
    split_ifs
    · split
      · exact .kept rfl rfl
      · rename_i number s' found
        obtain ⟨n, rfl⟩ := Supply.findNumber_candidate found
        exact .gave owner n (not_mem_of_findNumber found) (numbersOf_addAccount _ _) rfl
    · exact .kept rfl rfl
  | listTransactions owner account => exact .kept rfl rfl
  | applyTransaction owner id amount currency kind description =>
    have each : ∀ answer after,
        b.apply s.stamp.1 owner id amount currency kind description = .ok (answer, after) →
        after.numbersOf = b.numbersOf ∧ after.numbers = b.numbers := by
      intro answer after done
      obtain ⟨account, delta, balance, found, -, -, -, rfl⟩ := apply_eq_ok.1 done
      have same := (find?_account found).2
      exact ⟨numbersOf_setShelf (map_number_replaceAccount found same rfl), rfl⟩
    obtain ⟨accounts, numbers⟩ := numbers_settle b s.stamp.2 each
    exact .kept accounts numbers
  | listPayees owner =>
    simp only [run, listPayees]
    split_ifs
    · exact .kept (numbersOf_addPayee _ _) rfl
    · exact .kept rfl rfl
  | createPayee owner name number =>
    have each : ∀ answer after, b.createPayee s.stamp.1 owner name number = .ok (answer, after) →
        after.numbersOf = b.numbersOf ∧ after.numbers = b.numbers := by
      intro answer after done
      simp only [createPayee] at done
      split_ifs at done
      · cases done
      · cases done
        exact ⟨numbersOf_addPayee _ _, rfl⟩
    obtain ⟨accounts, numbers⟩ := numbers_settle b s.stamp.2 each
    exact .kept accounts numbers
  | deletePayees owner => exact .kept (numbersOf_setShelf rfl) rfl

theorem Registered.run (registered : b.Registered) (numbers : Numbers s b b') (draws : s.InRange) :
    b'.Registered := by
  cases numbers with
  | kept same numbers =>
    have uses (number : String) : b'.Uses number ↔ b.Uses number := by rw [Uses, Uses, same]
    exact ⟨by rw [same]; exact registered.distinct, by rw [same]; exact registered.apart,
      fun number used => registered.formed number ((uses number).1 used),
      fun number => by rw [numbers, uses]; exact registered.issued number⟩
  | gave owner n free accounts numbers =>
    set number := accountNumber (s.draw n)
    have unused (other : Uuid) : number ∉ b.numbersOf other := fun mem =>
      free ((registered.issued number).2 ⟨other, mem⟩)
    have mem (other : Uuid) (x : String) :
        x ∈ b'.numbersOf other ↔ x ∈ b.numbersOf other ∨ other = owner ∧ x = number := by
      rw [accounts]
      split_ifs with own <;> simp [own]
    have uses (x : String) : b'.Uses x ↔ x = number ∨ b.Uses x := by
      simp [Uses, mem, exists_or, or_comm]
    refine ⟨fun other => ?_, fun one other ne x mem₁ mem₂ => ?_, fun x used => ?_, fun x => ?_⟩
    · rw [accounts]
      split_ifs
      · refine List.nodup_append.2 ⟨registered.distinct owner, List.nodup_singleton _, ?_⟩
        rintro x old y new rfl
        exact unused owner (List.mem_singleton.1 new ▸ old)
      · exact registered.distinct other
    · rcases (mem one x).1 mem₁ with old₁ | ⟨rfl, rfl⟩ <;>
        rcases (mem other _).1 mem₂ with old₂ | ⟨rfl, same⟩
      · exact registered.apart one other ne old₁ old₂
      · exact unused one (same ▸ old₁)
      · exact unused other old₂
      · exact ne rfl
    · rcases (uses x).1 used with rfl | used
      · exact isAccountNumber (draws n)
      · exact registered.formed x used
    · rw [numbers, List.mem_cons, uses, registered.issued]

theorem registered_empty : Book.empty.Registered where
  distinct _ := List.nodup_nil
  apart _ _ _ := List.disjoint_nil_left _
  formed := by
    rintro x ⟨owner, mem⟩
    cases mem
  issued x := by
    constructor
    · intro mem
      cases mem
    · rintro ⟨owner, mem⟩
      cases mem

theorem Reached.registered (h : b.Reached) : b.Registered := by
  induction h with
  | empty => exact registered_empty
  | run _ terms op s draws ih => exact ih.run (run_numbers terms op _ s) draws

end Book

/-! ## In the database -/

namespace Database
variable {db db' : Database} {s : Supply}

inductive Reached : Database → Prop
  | empty : Reached .empty
  | run {d : Durable} (h : Reached d.database) (attempts : Nat) (vanished : Bool) (op : Operation)
      (s : Supply) (draws : s.InRange) : Reached (d.run attempts vanished op s).state.1.database
  | ensureTables {d : Durable} (h : Reached d.database) : Reached d.ensureTables.state.database
  | dropTable {db : Database} (h : Reached db) (table : Table) : Reached (db.dropTable table)

structure Registered (db : Database) : Prop where
  distinct : (db.rows.accounts.map (·.number)).Nodup
  formed : ∀ row ∈ db.rows.accounts, IsAccountNumber row.number

theorem Registered.of_rows (registered : db.Registered)
    (same : db'.rows.accounts.map (·.number) = db.rows.accounts.map (·.number)) :
    db'.Registered where
  distinct := by
    rw [same]
    exact registered.distinct
  formed row mem := by
    have number : row.number ∈ db'.rows.accounts.map (·.number) := List.mem_map.2 ⟨row, mem, rfl⟩
    rw [same] at number
    obtain ⟨old, mem, eq⟩ := List.mem_map.1 number
    exact eq ▸ registered.formed old mem

theorem Registered.append (registered : db.Registered) {row : AccountRow}
    (same : db'.rows.accounts = db.rows.accounts ++ [row])
    (free : ∀ other ∈ db.rows.accounts, other.number ≠ row.number)
    (formed : IsAccountNumber row.number) : db'.Registered where
  distinct := by
    rw [same]
    exact nodup_map_concat registered.distinct free
  formed other mem := by
    rw [same, List.mem_append, List.mem_singleton] at mem
    rcases mem with mem | rfl
    · exact registered.formed other mem
    · exact formed

theorem Registered.opened (registered : db.Registered) {stamp : Stamp} {owner : Uuid}
    {label currency : Option String} {opening : Decimal} {account : Account}
    (does : Rows.Does stamp db.rows (.createAccount owner label currency opening)
      (.account account) db'.rows) (formed : IsAccountNumber account.number) : db'.Registered := by
  generalize after : db'.rows = rows at does
  cases does with
  | opened free | openedEmpty free =>
    exact registered.append (congrArg Rows.accounts after) free formed

end Database

namespace Durable
variable {d : Durable} {s : Supply} {owner : Uuid} {label currency : Option String}
  {opening : Decimal} {attempts left : Nat} {answer : Answer}

theorem createAccount_number
    (h : (createAccount owner label currency opening attempts left d s).result = .ok answer) :
    ∃ account n, answer = .account account ∧ account.number = accountNumber (s.draw n) := by
  induction left generalizing d s with
  | zero => cases h
  | succ left ih =>
    simp only [createAccount] at h
    split at h
    · cases h
    · split at h
      · cases h
      · cases h
        exact ⟨_, _, rfl, rfl⟩
      · obtain ⟨account, n, same, number⟩ := ih h
        exact ⟨account, n, same, number⟩

theorem run_registered (vanished : Bool) (op : Operation) (draws : s.InRange)
    (registered : d.database.Registered) :
    (d.run attempts vanished op s).state.1.database.Registered := by
  cases result : (d.run attempts vanished op s).result with
  | error failure => rwa [run_error result]
  | ok answer =>
    obtain ⟨s₀, -, -, does, -⟩ := run_does result
    by_cases create : op.method = .createAccount
    · cases op with
      | createAccount owner label currency opening =>
        obtain ⟨account, n, rfl, number⟩ := createAccount_number result
        have formed := isAccountNumber (draws n)
        rw [← number] at formed
        exact registered.opened does formed
      | _ => cases create
    · exact registered.of_rows (does.numbers create)

end Durable

namespace Database
variable {db : Database}

theorem Reached.registered (h : db.Reached) : db.Registered := by
  induction h with
  | empty => exact ⟨List.nodup_nil, fun row mem => by cases mem⟩
  | run _ attempts vanished op s draws ih => exact Durable.run_registered vanished op draws ih
  | ensureTables _ ih => exact ih.of_rows (by rw [Durable.ensureTables_rows])
  | dropTable _ table ih =>
    cases table with
    | accounts => exact ⟨List.nodup_nil, fun row mem => by cases mem⟩
    | transactions | payees => exact ih.of_rows rfl

theorem Reached.reachable (h : db.Reached) : db.reachable := by
  induction h with
  | empty => rfl
  | run _ attempts vanished op s draws ih => rwa [Durable.run_reachable]
  | @ensureTables d _ ih =>
    simp only [Durable.ensureTables, Database.ensureTables, ih, if_true]
  | dropTable _ table ih => cases table <;> exact ih

theorem Reached.indexed (h : db.Reached) : db.Indexed := by
  induction h with
  | empty => rfl
  | run _ attempts vanished op s draws ih => exact Durable.run_schema.indexed ih
  | ensureTables _ ih => exact Durable.ensureTables_indexed ih
  | dropTable _ table ih => exact ih.dropTable table

theorem Indexed.provisioned (indexed : db.Indexed) (tables : ∀ table, db.hasTable table) :
    db.provisioned = db := by
  obtain ⟨accounts, hasAccounts⟩ := Option.isSome_iff_exists.1 (tables .accounts)
  obtain ⟨transactions, hasTransactions⟩ := Option.isSome_iff_exists.1 (tables .transactions)
  obtain ⟨payees, hasPayees⟩ := Option.isSome_iff_exists.1 (tables .payees)
  have every : Index.all = db.indexes := by
    rw [indexed, List.filter_eq_self.2 fun index _ => tables index.table]
  simp only [Database.provisioned, hasAccounts, hasTransactions, hasPayees, Option.getD_some, every]
  rw [← hasAccounts, ← hasTransactions, ← hasPayees]

end Database

/-! ## Both stores -/

section
variable {σ : Type} {used : String → Prop} {attempts : Nat} {s : Supply}
  {o : Outcome (σ × Supply) Answer} {opened : Nat → Account × σ} {unopened : σ}

/-- How an account is opened with at most so many attempts, where `used` are the numbers in use, and
`opened i` is the account with the `i`-th candidate and the store in which it stands. -/
structure Allocates (used : String → Prop) (attempts : Nat) (s : Supply)
    (o : Outcome (σ × Supply) Answer) (opened : Nat → Account × σ) (unopened : σ) : Prop where
  succeeds : (∃ answer, o.result = .ok answer) ↔ ∃ i < attempts, ¬used (s.candidate i)
  opens : ∀ i, s.FirstFree used attempts i → (opened i).1.number = s.candidate i ∧
    o.result = .ok (.account (opened i).1) ∧ o.state.1 = (opened i).2 ∧
    o.state.2.drawn = s.drawn + (i + 1)
  fails : (∀ i < attempts, used (s.candidate i)) →
    o.result = .error (.unavailable .noFreeNumber) ∧ o.state.1 = unopened ∧
    o.state.2.drawn = s.drawn + attempts

theorem Allocates.of_cases
    (opens : ∀ i, s.FirstFree used attempts i → (opened i).1.number = s.candidate i ∧
      o.result = .ok (.account (opened i).1) ∧ o.state.1 = (opened i).2 ∧
      o.state.2.drawn = s.drawn + (i + 1))
    (fails : (∀ i < attempts, used (s.candidate i)) →
      o.result = .error (.unavailable .noFreeNumber) ∧ o.state.1 = unopened ∧
      o.state.2.drawn = s.drawn + attempts) :
    Allocates used attempts s o opened unopened where
  succeeds := by
    rw [← Supply.exists_firstFree]
    constructor
    · rintro ⟨answer, done⟩
      by_contra none
      rw [Supply.exists_firstFree] at none
      have all : ∀ i < attempts, used (s.candidate i) := by simpa using none
      rw [(fails all).1] at done
      cases done
    · rintro ⟨i, first⟩
      exact ⟨_, (opens i first).2.1⟩
  opens := opens
  fails := fails

end

theorem account_numbers :
    (∀ b : Book, b.Reached → b.Registered ∧
      ∀ (terms : BookTerms) (owner : Uuid) (label currency : Option String) (opening : Decimal)
        (s : Supply), opening.IsDeposit →
        let stamp := s.stamp.1
        let account i := Account.opened stamp (s.candidate i) owner label currency opening
        Allocates b.Uses terms.attempts s (b.run terms (.createAccount owner label currency opening) s)
          (fun i => (account i, b.opened stamp (account i))) b) ∧
    (∀ db : Database, db.Reached → db.Registered ∧ ((∀ table, db.hasTable table) →
      ∀ (attempts : Nat) (vanished : Bool) (owner : Uuid) (label currency : String)
        (opening : Decimal) (s : Supply), opening.IsDeposit →
        let stamp i := (s.attempted i).stamp.1
        let account i :=
          Account.opened (stamp i) (s.candidate i) owner (some label) (some currency) opening
        Allocates db.Uses attempts s
          (Durable.run attempts vanished (.createAccount owner (some label) (some currency) opening)
            ⟨db, []⟩ s)
          (fun i => (account i, ⟨db.opened (stamp i) (account i), []⟩)) ⟨db, []⟩)) := by
  refine ⟨fun b reached => ⟨reached.registered, ?_⟩, fun db reached => ⟨reached.registered, ?_⟩⟩
  · intro terms owner label currency opening s deposit stamp account
    have issued := reached.registered.issued
    refine .of_cases (fun i first => ?_) fun all => ?_
    · rw [Book.run_opens deposit ⟨first.lt, (issued _).not.2 first.free, fun j before =>
        (issued _).2 (first.earlier j before)⟩]
      exact ⟨rfl, rfl, rfl, rfl⟩
    · rw [Book.run_unopened fun i lt => (issued _).2 (all i lt)]
      exact ⟨rfl, rfl, rfl⟩
  · intro tables attempts vanished owner label currency opening s deposit stamp account
    have same := reached.indexed.provisioned tables
    refine .of_cases (fun i first => ?_) fun all => ?_
    · have opens := Durable.createAccount_opens attempts owner label currency reached.reachable
        deposit first
      rw [same] at opens
      obtain ⟨result, state⟩ := opens
      exact ⟨rfl, result, congrArg Prod.fst state, congrArg (·.2.drawn) state⟩
    · have unopened := Durable.createAccount_unopened attempts owner label currency
        reached.reachable deposit all
      rw [same] at unopened
      obtain ⟨result, state⟩ := unopened
      exact ⟨result, congrArg Prod.fst state, congrArg (·.2.drawn) state⟩

theorem account_numbers_repeated :
    let s : Supply := ⟨0, 0, 0, (· / 2 % 2)⟩
    let first := Operation.createAccount ⟨1⟩ (some "Checking") (some "NZD") (.ofCents 500)
    let second := Operation.createAccount ⟨2⟩ (some "Savings") (some "NZD") (.ofCents 0)
    let once := Book.empty.run ⟨2, "Checking", "NZD"⟩ first s
    let twice := once.state.1.run ⟨2, "Checking", "NZD"⟩ second once.state.2
    let kept := Durable.run 2 false first ⟨Database.empty.provisioned, []⟩ s
    let keptTwice := Durable.run 2 false second kept.state.1 kept.state.2
    (∃ a : Account, a.number = accountNumber 1 ∧ twice.result = .ok (.account a) ∧
      twice.state.2.drawn = 3) ∧
    ∃ a : Account, a.number = accountNumber 1 ∧ keptTwice.result = .ok (.account a) ∧
      keptTwice.state.2.drawn = 3 := by
  intro s first second once twice kept keptTwice
  have draws : s.InRange := fun n => (Nat.mod_lt _ (by decide)).trans (by decide)
  have nought : (Decimal.ofCents 0).IsDeposit := ⟨rfl, 0, Decimal.value_ofCents 0⟩
  constructor
  · have reached : once.state.1.Reached := .run .empty _ _ _ draws
    have issued := reached.registered.issued
    have second : once.state.2.FirstFree once.state.1.Uses 2 1 :=
      ⟨by decide, (issued _).not.1 (by decide +kernel), fun j before => by
        obtain rfl := Nat.lt_one_iff.1 before
        exact (issued _).1 (by decide +kernel)⟩
    obtain ⟨number, result, -, drawn⟩ := ((account_numbers.1 _ reached).2 ⟨2, "Checking", "NZD"⟩ ⟨2⟩
      (some "Savings") (some "NZD") _ once.state.2 nought).opens 1 second
    exact ⟨_, number.trans (by decide +kernel), result, drawn.trans (by decide +kernel)⟩
  · have provisioned : Database.empty.provisioned.Reached :=
      .ensureTables (d := ⟨Database.empty, []⟩) .empty
    have reached : kept.state.1.database.Reached := .run provisioned _ _ _ _ draws
    have tables : ∀ table, kept.state.1.database.hasTable table := by
      rintro (_ | _ | _) <;> decide +kernel
    have second : kept.state.2.FirstFree kept.state.1.database.Uses 2 1 :=
      ⟨by decide, by decide +kernel, fun j before => by
        obtain rfl := Nat.lt_one_iff.1 before
        decide +kernel⟩
    obtain ⟨number, result, -, drawn⟩ := ((account_numbers.2 _ reached).2 tables 2 false ⟨2⟩
      "Savings" "NZD" _ kept.state.2 nought).opens 1 second
    exact ⟨_, number.trans (by decide +kernel), result, drawn.trans (by decide +kernel)⟩

end Passbook
