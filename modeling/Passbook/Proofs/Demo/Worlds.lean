import Passbook.Demo
import Passbook.Proofs.Service.FaultFree

namespace Passbook

/-! ## The accounts that transactions name -/

theorem Rows.Does.names {stamp : Stamp} {r r' : Rows} {op : Operation} {answer : Answer}
    (does : Rows.Does stamp r op answer r') {t : TransactionRow} (mem : t ∈ r'.transactions) :
    t ∈ r.transactions ∨ t.account = stamp.first ∨ ∃ row ∈ r.accounts, row.id = t.account := by
  cases does with
  | accounts | transactions | payees | saved | cleared | openedEmpty => exact .inl mem
  | opened =>
    rcases List.mem_append.1 mem with old | new
    · exact .inl old
    · rw [List.mem_singleton.1 new]
      exact .inr (.inl rfl)
  | moved found =>
    rcases List.mem_append.1 mem with old | new
    · exact .inl old
    · rw [List.mem_singleton.1 new]
      have kept := isKeptUnder_iff.1 (List.find?_some found)
      exact .inr (.inr ⟨_, List.mem_of_find?_eq_some found, kept.1⟩)

theorem Book.Does.names {terms : BookTerms} {stamp : Stamp} {b b' : Book} {op : Operation}
    {result : Except Failure Answer} (does : Book.Does terms stamp b op result b') (owner : Uuid)
    {t : Transaction} (mem : t ∈ (b'.shelf owner).transactions) :
    t ∈ (b.shelf owner).transactions ∨ t.account = stamp.first ∨ t.account ∈ b.ids owner := by
  by_cases own : owner = op.owner
  · subst own
    cases does with
    | noNumber | accounts | transactions | unmoved | payees | duplicate => exact .inl mem
    | openedEmpty | provisioned | demoPayee | saved | cleared =>
      simp only [Operation.owner, shelf_addAccount, shelf_addPayee, shelf_setShelf,
        Account.opened_owner, Book.demoPayee, if_true] at mem
      exact .inl mem
    | opened =>
      simp only [Operation.owner, shelf_addTransaction, shelf_addAccount, Account.opened_owner,
        Account.openingCredit_owner, if_true] at mem
      rcases List.mem_append.1 mem with old | new
      · exact .inl old
      · rw [List.mem_singleton.1 new]
        exact .inr (.inl rfl)
    | moved found =>
      simp only [Operation.owner, shelf_setShelf, Book.moved, if_true] at mem
      rcases List.mem_append.1 mem with old | new
      · exact .inl old
      · rw [List.mem_singleton.1 new]
        obtain ⟨inside, same⟩ := find?_account found
        exact .inr (.inr (List.mem_map.2 ⟨_, inside, same⟩))
  · rw [does.shelf_other own] at mem
    exact .inl mem

theorem Database.dropTables_empty {db : Database} (reachable : db.reachable) :
    db.dropTables = .ok Database.empty := by
  have indexes : ((db.indexes.filter (·.table ≠ .accounts)).filter (·.table ≠ .payees)).filter
      (·.table ≠ .transactions) = [] := by
    rw [List.filter_filter, List.filter_filter, List.filter_eq_nil_iff]
    intro index _
    cases index <;> decide
  rw [Database.dropTables, if_pos reachable]
  exact congrArg Except.ok (congrArg₂ (Database.mk · none none none ·) reachable indexes)

namespace World
variable {terms : Terms} {call : Call} {w : World} {db : Database}

/-! ## Identifiers -/

/-- In a database, and in memory if there is none, accounts and those that transactions name have
identifiers that were given out. Balances in the database are numbers. -/
structure Known (w : World) : Prop where
  rows : ∀ row ∈ w.rows.accounts, w.supply.Issued row.id
  recorded : ∀ t ∈ w.rows.transactions, w.supply.Issued t.account
  numbers : ∀ row ∈ w.rows.accounts, row.balance ≠ .nan
  book : w.durable = none → ∀ owner, ∀ id ∈ w.book.ids owner, w.supply.Issued id
  noted : w.durable = none → ∀ owner, ∀ t ∈ (w.book.shelf owner).transactions,
    w.supply.Issued t.account

theorem durable_eq_none : w.durable = none ↔ w.database? = none := by
  rw [database?, Option.map_eq_none_iff]

theorem perform_durable_none (terms : Terms) (call : Call) (w : World) :
    (w.perform terms call).state.durable = none ↔ w.durable = none := by
  have same := perform_reachable terms call w
  rw [durable_eq_none, durable_eq_none, ← Option.map_eq_none_iff, same, Option.map_eq_none_iff]

theorem perform_known (terms : Terms) (call : Call) (h : w.Known) :
    (w.perform terms call).state.Known := by
  have later := perform_later terms call w
  have numbers := perform_numbers terms call w h.numbers
  have none := (perform_durable_none terms call w).1
  cases perform_change terms call w with
  | failed answered book rows =>
    refine ⟨?_, ?_, numbers, ?_, ?_⟩
    · exact fun row mem => (h.rows row (rows ▸ mem)).later later
    · exact fun t mem => (h.recorded t (rows ▸ mem)).later later
    · exact fun no owner id mem => (h.book (none no) owner id (book ▸ mem)).later later
    · exact fun no owner t mem => (h.noted (none no) owner t (book ▸ mem)).later later
  | @database op answer s valid answered before after does book =>
    have first := s.issued_first.later after
    refine ⟨fun row mem => ?_, fun t mem => ?_, numbers, ?_, ?_⟩
    · rcases does.known mem with ⟨-, new⟩ | ⟨old, inside, -, same⟩
      · rwa [new]
      · exact same ▸ (h.rows old inside).later later
    · rcases does.names mem with old | new | ⟨row, inside, same⟩
      · exact (h.recorded t old).later later
      · rwa [new]
      · exact same ▸ (h.rows row inside).later later
    · exact fun no owner id mem => (h.book (none no) owner id (book ▸ mem)).later later
    · exact fun no owner t mem => (h.noted (none no) owner t (book ▸ mem)).later later
  | @memory op answer s valid answered before after does rows =>
    have first := s.issued_first.later after
    refine ⟨?_, ?_, numbers, fun no owner id mem => ?_, fun no owner t mem => ?_⟩
    · exact fun row mem => (h.rows row (rows ▸ mem)).later later
    · exact fun t mem => (h.recorded t (rows ▸ mem)).later later
    · rcases does.ids_mem mem with old | ⟨-, rfl⟩
      · exact (h.book (none no) owner id old).later later
      · exact first
    · rcases does.names owner mem with old | new | inside
      · exact (h.noted (none no) owner t old).later later
      · rwa [new]
      · exact (h.book (none no) owner _ inside).later later

theorem Known.shrink {v : World} (h : w.Known) (supply : v.supply = w.supply)
    (accounts : ∀ row ∈ v.rows.accounts, row ∈ w.rows.accounts)
    (transactions : ∀ t ∈ v.rows.transactions, t ∈ w.rows.transactions)
    (book : v.book = .empty ∨ v.book = w.book ∧ (v.durable = none → w.durable = none)) :
    v.Known := by
  constructor
  · exact fun row mem => supply ▸ h.rows row (accounts row mem)
  · exact fun t mem => supply ▸ h.recorded t (transactions t mem)
  · exact fun row mem => h.numbers row (accounts row mem)
  · intro no owner id mem
    rcases book with empty | ⟨same, before⟩
    · rw [empty] at mem
      cases mem
    · exact supply ▸ h.book (before no) owner id (same ▸ mem)
  · intro no owner t mem
    rcases book with empty | ⟨same, before⟩
    · rw [empty] at mem
      cases mem
    · exact supply ▸ h.noted (before no) owner t (same ▸ mem)

theorem Known.empty (book : w.durable = none → w.book = .empty) (bare : w.rows = ⟨[], [], []⟩) :
    w.Known := by
  constructor
  case rows | recorded | numbers => simp [bare]
  case book | noted =>
    intro no owner a mem
    rw [book no] at mem
    cases mem

/-! ## Tables that go -/

theorem Known.drop (h : w.Known) (table : Table) : (w.drop table).Known := by
  cases durable : w.durable with
  | none =>
    have same : w.drop table = w := by rw [World.drop, durable, Option.map_none, ← durable]
    rwa [same]
  | some d =>
    have dropped : (w.drop table).durable =
        some { d with database := d.database.dropTable table } := by
      rw [World.drop, durable, Option.map_some]
    have rows : (w.drop table).rows = (d.database.dropTable table).rows := rows_of_durable dropped
    have before : w.rows = d.database.rows := rows_of_durable durable
    refine h.shrink rfl ?_ ?_ (.inr ⟨rfl, by simp [dropped]⟩) <;> rw [rows, before] <;>
      cases table <;> simp [Database.rows, Database.dropTable]

theorem reset_rows (w : World) : (Demo.reset w).world.book = w.book ∧
    (Demo.reset w).world.supply = w.supply ∧
      ((Demo.reset w).world.durable = none → w.durable = none) ∧
      ((Demo.reset w).world.rows = w.rows ∨ (Demo.reset w).world.rows = ⟨[], [], []⟩) := by
  cases durable : w.durable with
  | none => simp [Demo.reset, durable, Demo.Progress.print, Demo.Progress.start]
  | some d =>
    by_cases reachable : d.database.reachable
    · let v : World := { w with durable := some { d with database := Database.empty } }
      have dropped : w.dropTables = ⟨.ok (), v, [.tablesDropped]⟩ := by
        simp only [dropTables, durable, Durable.dropTables,
          Database.dropTables_empty reachable, Outcome.within, v]
      obtain ⟨script, ⟨failure, failed⟩ | created⟩ := repair_eq v rfl
      · simp only [Demo.reset, durable, dropped, failed]
        exact ⟨rfl, rfl, fun gone => absurd gone (Option.some_ne_none _), .inr rfl⟩
      · simp only [Demo.reset, durable, dropped, created]
        exact ⟨rfl, rfl, fun gone => absurd gone (Option.some_ne_none _), .inr rfl⟩
    · have failed : w.dropTables = ⟨.error (.unavailable .dropping), w, []⟩ := by
        simp only [dropTables, durable, Durable.dropTables, Database.dropTables, reachable,
          Bool.false_eq_true, if_false, Outcome.within]
        rw [← durable]
      simp [Demo.reset, durable, failed]

theorem Healthy.reset (h : w.Healthy db) : (Demo.reset w).failure = none ∧
    (Demo.reset w).world = { w with durable := some ⟨Database.empty.provisioned, []⟩ } := by
  let v : World := { w with durable := some ⟨Database.empty, []⟩ }
  have dropped : w.dropTables = ⟨.ok (), v, [.tablesDropped]⟩ := by
    simp only [dropTables, h.durable, Durable.dropTables,
      Database.dropTables_empty h.reachable, Outcome.within, v]
  have created : repair v = _ := Healthy.repair_eq (w := v) ⟨rfl, rfl, h.quiet⟩
  simp only [Demo.reset, h.durable, dropped, created]
  exact ⟨rfl, rfl⟩

theorem Known.reset (h : w.Known) : (Demo.reset w).world.Known := by
  obtain ⟨book, supply, durable, same | bare⟩ := reset_rows w
  · exact h.shrink supply (by simp [same]) (by simp [same]) (.inr ⟨book, durable⟩)
  · exact h.shrink supply (by simp [bare]) (by simp [bare]) (.inr ⟨book, durable⟩)

/-- What calls come to from stores without records, under any script, when tables are dropped and
the schema is reset between the calls, and when a new process finds the rows of an earlier one. -/
inductive Visited (terms : Terms) : World → Prop
  | fresh {w : World} (book : w.book = .empty) (bare : w.rows = ⟨[], [], []⟩) : Visited terms w
  | call {w : World} (h : Visited terms w) (call : Call) :
    Visited terms (w.perform terms call).state
  | drop {w : World} (h : Visited terms w) (table : Table) : Visited terms (w.drop table)
  | reset {w : World} (h : Visited terms w) : Visited terms (Demo.reset w).world
  | restart {w w' : World} (h : Visited terms w) (book : w'.book = .empty)
      (rows : w'.rows = w.rows) (supply : w'.supply = w.supply) : Visited terms w'

theorem Visited.known (h : w.Visited terms) : w.Known := by
  induction h with
  | fresh book bare => exact .empty (fun _ => book) bare
  | call _ call ih => exact perform_known terms call ih
  | drop _ table ih => exact ih.drop table
  | reset _ ih => exact ih.reset
  | restart _ book rows supply ih =>
    exact ih.shrink supply (by simp [rows]) (by simp [rows]) (.inl book)

/-! ## In memory alone -/

structure Volatile (w : World) : Prop where
  durable : w.durable = none
  quiet : w.script = .empty

theorem Volatile.inMemory (h : w.Volatile) : w.InMemory := ⟨h.quiet, .inl h.durable⟩

theorem serve_volatile (terms : Terms) (op : Operation) (h : w.Volatile) :
    let o := w.book.run terms.forBook op w.supply
    (w.serve terms op).result = surface (.noStore op.method) o.result ∧
      (w.serve terms op).state = { w with book := o.state.1, supply := o.state.2 } := by
  rw [serve_memory h.durable]
  simp only [Served.after_result, Served.after_state, Stores.serveFromMemory, stores,
    Served.ofOutcome_result, Served.ofOutcome_state, Outcome.surfaced_result,
    Outcome.surfaced_state, callMemory_quiet h.quiet, Outcome.within, and_self]

/-! ## Account numbers -/

def OutOfNumbers (terms : Terms) (call : Call) (w : World) : Prop :=
  ∃ op, call.operation terms = .ok op ∧
    match w.durable with
    | none => ∀ i < terms.attempts, w.supply.candidate i ∈ w.book.numbers
    | some _ => w.RunsOut terms op

theorem not_outOfNumbers {op : Operation} (durable : w.durable.isSome)
    (valid : call.operation terms = .ok op)
    (first : (tryDurable terms op w).result ≠ .error (.unavailable .noFreeNumber))
    (second : (tryDurable terms op (repair (tryDurable terms op w).state).state).result ≠
      .error (.unavailable .noFreeNumber)) : ¬w.OutOfNumbers terms call := by
  obtain ⟨d, kept⟩ := Option.isSome_iff_exists.1 durable
  rintro ⟨op', valid', out⟩
  obtain rfl : op = op' := by simpa using valid.symm.trans valid'
  simp only [kept] at out
  rcases out with out | ⟨-, out⟩
  · exact first out
  · exact second out

end World
end Passbook
