import Passbook.Proofs.Service.World
import Passbook.Proofs.Store.Rows

namespace Passbook

/-! ## Empty scripts -/

namespace Script

theorem takeMemory_empty (method : Method) : empty.takeMemory method = (.pass, empty) := by
  simp only [takeMemory, empty, next, Prod.mk.injEq, true_and, mk.injEq, and_true]
  funext other
  exact ite_self _

theorem takeDurable_empty (method : Method) : empty.takeDurable method = (.pass, empty) := by
  simp only [takeDurable, empty, next, Prod.mk.injEq, true_and, mk.injEq, and_true]
  funext other
  exact ite_self _

end Script

namespace World
variable {terms : Terms} {op : Operation} {w : World} {d : Durable} {db : Database}

theorem callMemory_quiet (quiet : w.script = .empty) :
    callMemory terms op w = (w.book.run terms.forBook op w.supply).within fun (book, supply) =>
      { w with book, supply } := by
  simp only [callMemory, quiet, Script.takeMemory_empty, scripted, Fault.failure?]

theorem callDurable_quiet (quiet : w.script = .empty) :
    callDurable terms op d w =
      (d.run terms.attempts false op w.supply).within fun (d, supply) =>
        { w with durable := some d, supply } := by
  simp only [callDurable, quiet, Script.takeDurable_empty, scripted, Fault.failure?]
  rfl

theorem repair_quiet (quiet : w.script = .empty) (durable : w.durable = some d) :
    repair w = d.ensureTables.within fun d => { w with durable := some d } := by
  simp only [repair, quiet, Script.takeRepair, Script.empty, Script.next, scripted, Fault.failure?,
    durable]

/-! ## Healthy worlds -/

structure Healthy (w : World) (db : Database) : Prop where
  durable : w.durable = some ⟨db, []⟩
  reachable : db.reachable
  quiet : w.script = .empty

theorem tryDurable_healthy (h : w.Healthy db) :
    tryDurable terms op w =
      (Durable.run terms.attempts false op ⟨db, []⟩ w.supply).within fun (d, supply) =>
        { w with durable := some d, supply } := by
  rw [tryDurable_eq _ _ _ h.durable, callDurable_quiet h.quiet]

theorem Healthy.tried (h : w.Healthy db) (terms : Terms) (op : Operation) :
    (tryDurable terms op w).state.Healthy
      (Durable.run terms.attempts false op ⟨db, []⟩ w.supply).state.1.database := by
  rw [tryDurable_healthy h]
  have sessions : (Durable.run terms.attempts false op ⟨db, []⟩ w.supply).state.1.sessions = [] :=
    Durable.run_sessions rfl
  have reachable :
      (Durable.run terms.attempts false op ⟨db, []⟩ w.supply).state.1.database.reachable =
        db.reachable := Durable.run_reachable
  generalize Durable.run terms.attempts false op ⟨db, []⟩ w.supply = o at sessions reachable ⊢
  refine ⟨?_, reachable.trans h.reachable, h.quiet⟩
  rw [Outcome.within, ← sessions]

theorem Healthy.repaired (h : w.Healthy db) :
    (repair w).result = .ok () ∧ (repair w).state.Healthy db.provisioned := by
  rw [repair_quiet h.quiet h.durable]
  have provisioned := Database.ensureTables_eq_ok.2 ⟨h.reachable, rfl⟩
  simp only [Durable.ensureTables, provisioned, Outcome.within]
  exact ⟨trivial, rfl, h.reachable, h.quiet⟩

theorem Healthy.remembered (h : w.Healthy db) : (callMemory terms op w).state.Healthy db := by
  rw [callMemory_quiet h.quiet]
  exact ⟨h.durable, h.reachable, h.quiet⟩

theorem serve_healthy (h : w.Healthy db) : ∃ db', (w.serve terms op).state.Healthy db' := by
  refine serve_keeps (fun v => ∃ db, v.Healthy db) ?_ ?_ ?_ ⟨db, h⟩
  · exact fun ⟨_, h⟩ => ⟨_, h.tried terms op⟩
  · exact fun ⟨_, h⟩ => ⟨_, h.repaired.2⟩
  · exact fun ⟨_, h⟩ => ⟨_, h.remembered⟩

theorem perform_healthy (call : Call) (h : w.Healthy db) :
    ∃ db', (w.perform terms call).state.Healthy db' := by
  unfold perform
  split
  · exact ⟨db, h⟩
  · exact serve_healthy h

theorem serve_answer {x : Except Failure Answer} (h : w.Healthy db)
    (final : (∃ answer, x = .ok answer) ∨ ∃ refusal, x = .error (.refused refusal))
    (always : ∀ s, (Durable.run terms.attempts false op ⟨db.provisioned, []⟩ s).result = x) :
    (w.serve terms op).result = x := by
  have first := h.tried terms op
  have surfaced {o : Outcome World Answer} (result : o.result = x) (outage : Outage)
      (event : Event) : o.surfaced outage event = o := by
    rcases final with ⟨answer, rfl⟩ | ⟨refusal, rfl⟩
    · exact Outcome.surfaced_of_ok result
    · exact Outcome.surfaced_of_refused result
  simp only [serve, Stores.serve, stores_durable h.durable]
  rcases Durable.run_healed terms.attempts op ⟨db, []⟩ w.supply with
    ⟨failure, failed, missing⟩ | healed
  · obtain ⟨fault, rfl⟩ := missing rfl
    have unchanged := Durable.run_error failed
    have result : (tryDurable terms op w).result = .error (.schemaMissing fault) := by
      rw [tryDurable_healthy h, Outcome.within, failed]
    obtain ⟨fixed, repaired⟩ := first.repaired
    have retried : (tryDurable terms op (repair (tryDurable terms op w).state).state).result =
        x := by
      rw [tryDurable_healthy repaired, unchanged]
      exact always _
    simp only [result, Served.after_result, Stores.serveAfterRepair, stores,
      Outcome.surfaced_of_ok fixed, fixed, surfaced retried, Served.ofOutcome_result, retried]
  · have result : (tryDurable terms op w).result = x := by
      have same := congrArg Outcome.result healed
      rw [Durable.healthy, always] at same
      rw [tryDurable_healthy h, Outcome.within]
      exact same.symm
    rcases final with ⟨answer, rfl⟩ | ⟨refusal, rfl⟩ <;>
      simp only [result, Served.ofOutcome_result]

/-! ## Listings -/

theorem work_provisioned {α : Type} {body : Database → Except Failure (α × Database)} {a : α}
    (done : body db.provisioned = .ok (a, db.provisioned)) :
    ((⟨db.provisioned, []⟩ : Durable).work body).1 = .ok a := by
  simp only [Durable.work, Durable.openSession, done]

theorem Healthy.listAccounts (h : w.Healthy db) (terms : Terms) (owner : Uuid) :
    (w.perform terms (.listAccounts owner)).result =
      .ok (.accounts ((db.rows.accountsOf owner).map (·.toAccount))) := by
  change (w.serve terms (.listAccounts owner)).result = _
  refine serve_answer h (.inl ⟨_, rfl⟩) fun s => work_provisioned ?_
  have select := Database.selectAccounts_provisioned h.reachable owner
  exact Except.bind_eq_ok.2 ⟨_, Durable.orFail_eq_ok.2 select, rfl⟩

theorem Healthy.listTransactions_known (h : w.Healthy db) (terms : Terms) {owner : Uuid}
    {account : Option Uuid}
    (known : ∀ id ∈ account, ∃ a ∈ db.rows.accounts, a.id = id ∧ a.owner = owner) :
    (w.perform terms (.listTransactions owner account)).result =
      .ok (.transactions ((db.rows.transactionsOf owner account).map (·.toTransaction))) := by
  change (w.serve terms (.listTransactions owner account)).result = _
  refine serve_answer h (.inl ⟨_, rfl⟩) fun s => work_provisioned ?_
  refine Durable.listTransactions_known h.reachable fun id same => ?_
  obtain ⟨a, mem, kept⟩ := known id same
  exact List.find?_isSome.2 ⟨a, mem, isKeptUnder_iff.2 kept⟩

theorem Healthy.listTransactions (h : w.Healthy db) (terms : Terms) {owner : Uuid} {a : AccountRow}
    (mem : a ∈ db.rows.accounts) (own : a.owner = owner) :
    (w.perform terms (.listTransactions owner (some a.id))).result =
      .ok (.transactions ((db.rows.transactionsOf owner (some a.id)).map (·.toTransaction))) := by
  refine h.listTransactions_known terms fun id same => ?_
  cases same
  exact ⟨a, mem, rfl, own⟩

theorem Healthy.listTransactions_unknown (h : w.Healthy db) (terms : Terms) {owner id : Uuid}
    (unknown : ∀ a ∈ db.rows.accounts, ¬(a.id = id ∧ a.owner = owner)) :
    (w.perform terms (.listTransactions owner (some id))).result =
      refuse (.accountNotFound id) := by
  change (w.serve terms (.listTransactions owner (some id))).result = _
  refine serve_answer h (.inr ⟨_, rfl⟩) fun s => ?_
  have refused := Durable.listTransactions_unknown h.reachable
    (List.find?_eq_none.2 fun a mem kept => unknown a mem (isKeptUnder_iff.1 kept))
  simp only [Durable.run, Durable.perform, Durable.work, Durable.openSession, refused]
  rfl

end World

end Passbook
