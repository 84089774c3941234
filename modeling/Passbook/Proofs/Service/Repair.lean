import Passbook.Proofs.Service.Healthy
import Passbook.Proofs.Service.Selection
import Passbook.Proofs.Store.Answers

/-!
# Calls that meet missing tables

- `World.Reached`: the worlds that calls come to when tables are dropped between them
- `World.RunsOut`: the durable store finds no free account number
- `perform_repaired`: any other call that no failure is injected into comes to what its operation
  comes to on the tables that are left and on empty ones in place of those that are missing
-/

namespace Passbook

/-! ## Tables -/

namespace Database
variable {db db' : Database}

structure KeptIn (db db' : Database) : Prop where
  accounts : ∀ rows, db.accounts = some rows → db'.accounts = some rows
  transactions : ∀ rows, db.transactions = some rows → db'.transactions = some rows
  payees : ∀ rows, db.payees = some rows → db'.payees = some rows
  indexes : ∀ index ∈ db.indexes, index ∈ db'.indexes

theorem keptIn_provisioned (db : Database) : db.KeptIn db.provisioned where
  accounts rows kept := by simp only [provisioned, kept, Option.getD_some]
  transactions rows kept := by simp only [provisioned, kept, Option.getD_some]
  payees rows kept := by simp only [provisioned, kept, Option.getD_some]
  indexes index _ := index.mem_all

structure Equipped (db : Database) : Prop where
  tables : ∀ table, db.hasTable table
  indexes : ∀ index, index ∈ db.indexes
  listed : ∀ table : Table, ("table " ++ table.name) ∈ db.objects
  indexed : ∀ index : Index, ("index " ++ index.name) ∈ db.objects

theorem equipped_of_provisioned (full : db.provisioned = db) : db.Equipped := by
  have tables : ∀ table, db.hasTable table := by
    rw [← full]
    rintro (_ | _ | _) <;> rfl
  have indexes : ∀ index, index ∈ db.indexes := by
    rw [← full]
    exact Index.mem_all
  refine ⟨tables, indexes, fun table => ?_, fun index => ?_⟩
  · have mem : table ∈ Table.all.filter db.hasTable :=
      List.mem_filter.2 ⟨table.mem_all, tables table⟩
    exact List.mem_append_right _ (List.mem_map.2 ⟨table, mem, rfl⟩)
  · have mem : index ∈ Index.all.filter (· ∈ db.indexes) :=
      List.mem_filter.2 ⟨index.mem_all, decide_eq_true (indexes index)⟩
    exact List.mem_append_left _ (List.mem_map.2 ⟨index, mem, rfl⟩)

end Database

/-! ## Answers that stand -/

section
variable {σ α : Type} {stores : Stores σ} {method : Method} {durable : σ → Outcome σ Answer} {s : σ}

theorem Stores.serve_stands (some : stores.durable = some durable)
    (stands : Stands (durable s).result) :
    stores.serve method s = .ofOutcome (durable s) [.durable] := by
  rcases stands with ⟨a, ok⟩ | ⟨refusal, refused⟩
  · exact serve_answered some ok
  · exact serve_refused some refused

theorem Outcome.surfaced_of_stands {outage : Outage} {event : Event} {o : Outcome σ α}
    (stands : Stands o.result) : o.surfaced outage event = o := by
  rcases stands with ⟨a, ok⟩ | ⟨refusal, refused⟩
  · exact surfaced_of_ok ok
  · exact surfaced_of_refused refused

end

namespace World
variable {terms : Terms} {op : Operation} {w : World} {db : Database}

/-! ## Worlds with tables dropped -/

def drop (table : Table) (w : World) : World :=
  { w with durable := w.durable.map fun d => { d with database := d.database.dropTable table } }

/-- What calls come to from a database without rows, under any script and with tables dropped
between the calls. -/
inductive Reached (terms : Terms) : World → Prop
  | fresh {w : World} {d : Durable} (durable : w.durable = some d)
      (reachable : d.database.reachable) (indexed : d.database.Indexed)
      (bare : d.database.rows = ⟨[], [], []⟩) : Reached terms w
  | call {w : World} (h : Reached terms w) (call : Call) : Reached terms (w.perform terms call).state
  | drop {w : World} (h : Reached terms w) (table : Table) : Reached terms (w.drop table)

/-- Balances are numbers, and the indexes are those of the tables that exist. -/
def InShape (w : World) : Prop :=
  ∃ d, w.durable = some d ∧ d.database.Numeric ∧ d.database.Indexed

theorem tryDurable_inShape (checked : op.Checked) (shape : w.InShape) :
    (tryDurable terms op w).state.InShape := by
  obtain ⟨d, durable, numeric, indexed⟩ := shape
  rw [tryDurable_eq _ _ _ durable]
  obtain ⟨script, ⟨failure, eq⟩ | ⟨vanished, eq⟩⟩ := callDurable_eq terms op w d <;> rw [eq]
  · exact ⟨d, durable, numeric, indexed⟩
  · exact ⟨_, rfl, Durable.run_numeric numeric vanished checked, Durable.run_schema.indexed indexed⟩

theorem repair_inShape (shape : w.InShape) : (repair w).state.InShape := by
  obtain ⟨d, durable, numeric, indexed⟩ := shape
  obtain ⟨script, ⟨failure, eq⟩ | eq⟩ := repair_eq w durable <;> rw [eq]
  · exact ⟨d, durable, numeric, indexed⟩
  · have provisioned := Database.ensureTables_eq_ok.2 ⟨numeric.reachable, rfl⟩
    refine ⟨_, rfl, ?_, Durable.ensureTables_indexed indexed⟩
    simp only [Durable.ensureTables, provisioned]
    exact ⟨numeric.reachable, numeric.numbers⟩

theorem callMemory_inShape (shape : w.InShape) : (callMemory terms op w).state.InShape := by
  obtain ⟨script, ⟨failure, eq⟩ | eq⟩ := callMemory_eq terms op w <;> rw [eq] <;> exact shape

theorem perform_inShape (call : Call) (shape : w.InShape) :
    (w.perform terms call).state.InShape := by
  unfold perform
  split
  · exact shape
  · rename_i op valid
    exact serve_keeps InShape (tryDurable_inShape (Call.operation_checked valid)) repair_inShape
      callMemory_inShape shape

theorem Reached.inShape (h : w.Reached terms) : w.InShape := by
  induction h with
  | fresh durable reachable indexed bare =>
    refine ⟨_, durable, ⟨reachable, fun row mem => ?_⟩, indexed⟩
    rw [bare] at mem
    cases mem
  | call _ call ih => exact perform_inShape call ih
  | drop _ table ih =>
    obtain ⟨d, durable, numeric, indexed⟩ := ih
    refine ⟨_, congrArg (Option.map _) durable, ?_, indexed.dropTable table⟩
    cases table with
    | accounts => exact ⟨numeric.reachable, fun row mem => by cases mem⟩
    | transactions | payees => exact ⟨numeric.reachable, numeric.numbers⟩

/-! ## One call -/

/-- An attempt at the durable store, the first one or the one after the repair, finds no account
number that is free. -/
def RunsOut (terms : Terms) (op : Operation) (w : World) : Prop :=
  let first := tryDurable terms op w
  first.result = .error (.unavailable .noFreeNumber) ∨
    (∃ fault, first.result = .error (.schemaMissing fault)) ∧
      (tryDurable terms op (repair first.state).state).result =
        .error (.unavailable .noFreeNumber)

theorem Healthy.repair_eq (h : w.Healthy db) :
    repair w = ⟨.ok (), { w with durable := some ⟨db.provisioned, []⟩ }, [.tablesEnsured]⟩ := by
  have provisioned := Database.ensureTables_eq_ok.2 ⟨h.reachable, rfl⟩
  rw [repair_quiet h.quiet h.durable]
  simp only [Durable.ensureTables, provisioned, Outcome.within]

def operate (terms : Terms) (op : Operation) (db : Database) (s : Supply) :
    Outcome (Durable × Supply) Answer :=
  Durable.run terms.attempts false op ⟨db, []⟩ s

theorem tryDurable_operate (h : w.Healthy db) (terms : Terms) (op : Operation) :
    (tryDurable terms op w).result = (operate terms op db w.supply).result ∧
      (tryDurable terms op w).state =
        { w with
          durable := some ⟨(operate terms op db w.supply).state.1.database, []⟩
          supply := (operate terms op db w.supply).state.2 } := by
  have sessions : (operate terms op db w.supply).state.1.sessions = [] := Durable.run_sessions rfl
  have attempt : tryDurable terms op w = (operate terms op db w.supply).within fun after =>
      { w with durable := some after.1, supply := after.2 } := tryDurable_healthy h
  generalize operate terms op db w.supply = o at sessions attempt ⊢
  rw [attempt, ← sessions]
  exact ⟨rfl, rfl⟩

theorem serve_whole (healthy : w.Healthy db) (numeric : db.Numeric) (checked : op.Checked)
    (enough : ¬w.RunsOut terms op)
    (same : operate terms op db.provisioned w.supply =
      ⟨(operate terms op db w.supply).result, ((operate terms op db w.supply).state.1.healthy,
        (operate terms op db w.supply).state.2), (operate terms op db w.supply).log⟩) :
    let o := operate terms op db.provisioned w.supply
    ∃ db', Stands o.result ∧ (w.serve terms op).result = o.result ∧
      (w.serve terms op).state = { w with durable := some ⟨db', []⟩, supply := o.state.2 } ∧
      db'.rows = o.state.1.database.rows ∧ (w.serve terms op).calls = [.durable] := by
  intro o
  have answers := Durable.run_answers numeric terms.attempts checked w.supply
  obtain ⟨result, state⟩ := tryDurable_operate healthy terms op
  have first : (tryDurable terms op w).result = o.result := result.trans (by simp only [o, same])
  have stands : Stands o.result := answers.resolve_right fun out =>
    enough (.inl (first.trans out.2))
  have served : w.serve terms op = .ofOutcome (tryDurable terms op w) [.durable] :=
    Stores.serve_stands (stores_durable healthy.durable) (first ▸ stands)
  refine ⟨(operate terms op db w.supply).state.1.database, stands, ?_⟩
  rw [served]
  refine ⟨first, state.trans (by simp only [o, same]), ?_, rfl⟩
  simp only [o, same]
  rfl

theorem serve_repairing (healthy : w.Healthy db) (numeric : db.Numeric) (checked : op.Checked)
    (enough : ¬w.RunsOut terms op) {fault : SchemaFault}
    (missing : (operate terms op db w.supply).result = .error (.schemaMissing fault)) :
    let s := (operate terms op db w.supply).state.2
    let o := operate terms op db.provisioned s
    w.supply.Later s ∧ Stands o.result ∧ (w.serve terms op).result = o.result ∧
      (w.serve terms op).state =
        { w with durable := some ⟨o.state.1.database, []⟩, supply := o.state.2 } ∧
      (w.serve terms op).calls = [.durable, .repair, .durable] := by
  intro s o
  have later : w.supply.Later s := Durable.run_later
  have numbered := Durable.run_answers numeric terms.attempts checked s
  obtain ⟨result, state⟩ := tryDurable_operate healthy terms op
  have unchanged : (operate terms op db w.supply).state.1.database = db := Durable.run_error missing
  rw [unchanged] at state
  have after : (tryDurable terms op w).state.Healthy db := by
    rw [state]
    exact ⟨rfl, healthy.reachable, healthy.quiet⟩
  have repaired := after.repair_eq
  have again : (repair (tryDurable terms op w).state).state.Healthy db.provisioned := by
    rw [repaired]
    exact ⟨rfl, healthy.reachable, after.quiet⟩
  obtain ⟨retry, final⟩ := tryDurable_operate again terms op
  have supply : (repair (tryDurable terms op w).state).state.supply = s := by
    rw [repaired, state]
  rw [supply] at retry final
  have stands : Stands o.result := numbered.resolve_right fun out =>
    enough (.inr ⟨⟨fault, result.trans missing⟩, retry.trans out.2⟩)
  have served : w.serve terms op =
      ((w.stores terms op).serveAfterRepair (tryDurable terms op) op.method
        (tryDurable terms op w).state).after _ [.durable] :=
    Stores.serve_missing (stores_durable healthy.durable) (result.trans missing)
  have fixed : ((w.stores terms op).repair (tryDurable terms op w).state).result = .ok () :=
    congrArg Outcome.result repaired
  have surfaced : (tryDurable terms op (repair (tryDurable terms op w).state).state).surfaced
      (.afterRepair op.method) (.repairFailed op.method) = _ :=
    Outcome.surfaced_of_stands (retry ▸ stands)
  have mends : (w.stores terms op).repair = repair := rfl
  rw [served, Stores.serveAfterRepair_retried fixed, mends, surfaced]
  refine ⟨later, stands, retry, final.trans ?_, rfl⟩
  rw [repaired, state]

/-- On tables that are complete in the first place, the operation runs on the supply at hand, else on
what the first attempt leaves of it. -/
theorem serve_repaired (healthy : w.Healthy db) (numeric : db.Numeric) (checked : op.Checked)
    (enough : ¬w.RunsOut terms op) :
    ∃ s db', w.supply.Later s ∧
      let o := operate terms op db.provisioned s
      Stands o.result ∧ (w.serve terms op).result = o.result ∧
        (w.serve terms op).state = { w with durable := some ⟨db', []⟩, supply := o.state.2 } ∧
        db'.rows = o.state.1.database.rows ∧
        ((w.serve terms op).calls = [.durable] ∧ s = w.supply ∨
          (w.serve terms op).calls = [.durable, .repair, .durable] ∧
            s = (operate terms op db w.supply).state.2 ∧ db'.Equipped) := by
  rcases Durable.run_healed terms.attempts op ⟨db, []⟩ w.supply with
    ⟨failure, failed, missing⟩ | same
  · obtain ⟨fault, rfl⟩ := missing rfl
    obtain ⟨later, stands, result, state, calls⟩ :=
      serve_repairing healthy numeric checked enough failed
    exact ⟨_, _, later, stands, result, state, rfl, .inr ⟨calls, rfl,
      Database.equipped_of_provisioned (Durable.run_provisioned _ op db _)⟩⟩
  · obtain ⟨db', stands, result, state, rows, calls⟩ :=
      serve_whole healthy numeric checked enough same
    exact ⟨_, db', .refl _, stands, result, state, rows, .inl ⟨calls, rfl⟩⟩

theorem Healthy.dropped (h : w.Healthy db) (table : Table) :
    (w.drop table).Healthy (db.dropTable table) where
  durable := congrArg (Option.map _) h.durable
  reachable := by cases table <;> exact h.reachable
  quiet := h.quiet

theorem perform_repaired (reached : w.Reached terms) (healthy : w.Healthy db) (call : Call) :
    (∀ failure, call.operation terms = .error failure →
      w.perform terms call = ⟨.error failure, w, [], []⟩) ∧
    (∀ op, call.operation terms = .ok op → ¬w.RunsOut terms op → ∃ s db', w.supply.Later s ∧
      let o := operate terms op db.provisioned s
      let served := w.perform terms call
      Stands o.result ∧ served.result = o.result ∧
        served.state = { w with durable := some ⟨db', []⟩, supply := o.state.2 } ∧
        db'.rows = o.state.1.database.rows ∧
        (served.calls = [.durable] ∧ s = w.supply ∨
          served.calls = [.durable, .repair, .durable] ∧
            s = (operate terms op db w.supply).state.2 ∧ db'.Equipped)) ∧
    (∀ v db', v.Healthy db' →
      (repair v).state = { v with durable := some ⟨db'.provisioned, []⟩ } ∧
        db'.KeptIn db'.provisioned ∧ (repair (repair v).state).state = (repair v).state) ∧
    ∀ index, index ∈ db.indexes ↔ db.hasTable index.table := by
  obtain ⟨d, durable, numeric, indexed⟩ := reached.inShape
  obtain rfl : d = ⟨db, []⟩ := Option.some.inj (durable.symm.trans healthy.durable)
  refine ⟨fun failure invalid => ?_, fun op valid enough => ?_, fun v db' healthy => ?_,
    indexed.mem⟩
  · simp only [perform, invalid]
  · have served : w.perform terms call = w.serve terms op := by simp only [perform, valid]
    rw [served]
    exact serve_repaired healthy numeric (Call.operation_checked valid) enough
  · have again : (repair v).state.Healthy db'.provisioned := healthy.repaired.2
    refine ⟨congrArg Outcome.state healthy.repair_eq, db'.keptIn_provisioned, ?_⟩
    rw [again.repair_eq, healthy.repair_eq]
    rfl

theorem perform_repaired_credit :
    let fresh : World := ⟨.empty, some ⟨Database.empty, []⟩, ⟨0, 0, 0, id⟩, .empty⟩
    let opened := fresh.perform .standard
      (.createAccount ⟨1⟩ none none (some (some (.ofCents 500))))
    let w := opened.state.drop .transactions
    let call := Call.applyTransaction ⟨1⟩ (Supply.issuedId 2) (some (.ofCents 100)) (some "credit")
      none none
    let served := w.perform .standard call
    w.durable.map (·.database.indexes) = some [.accountNumbers, .accountOwners, .payeeNumbers] ∧
    served.result = .ok (.transaction ⟨Supply.issuedId 6, Supply.issuedId 2, ⟨1⟩, .ofCents 100,
      some "NZD", .credit, some "", ⟨3⟩⟩) ∧
    served.calls = [.durable, .repair, .durable] ∧
    ∃ db', served.state.durable = some ⟨db', []⟩ ∧ db'.Equipped := by
  intro fresh opened w call served
  have new : fresh.Healthy Database.empty := ⟨rfl, rfl, rfl⟩
  have opening : ∃ db, opened.state.Healthy db := perform_healthy _ new
  obtain ⟨db, healthy⟩ := opening
  have reached : w.Reached .standard := .drop (.call (.fresh new.durable rfl rfl rfl) _) .transactions
  have calls : served.calls = [.durable, .repair, .durable] := by decide +kernel
  have enough : ¬w.RunsOut .standard (.applyTransaction ⟨1⟩ (Supply.issuedId 2) (.ofCents 100) none
      .credit (some "")) := by
    rintro (out | ⟨-, out⟩) <;> revert out <;> decide +kernel
  obtain ⟨s, db', -, -, -, state, -, kept⟩ :=
    (perform_repaired reached (healthy.dropped .transactions) call).2.1 _ (by decide +kernel) enough
  refine ⟨by decide +kernel, by decide +kernel, calls, db', congrArg World.durable state, ?_⟩
  rcases kept with ⟨whole, -⟩ | ⟨-, -, equipped⟩
  · cases calls.symm.trans whole
  · exact equipped

end World
end Passbook
