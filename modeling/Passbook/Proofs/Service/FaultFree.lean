import Passbook.Proofs.Service.Degraded
import Passbook.Proofs.Service.Repair

namespace Passbook.World
variable {terms : Terms} {call : Call} {op : Operation} {v w : World} {db : Database}

structure Orderly (w : World) : Prop where
  faultFree : w.FaultFree
  numbers : ∀ row ∈ w.rows.accounts, row.balance ≠ .nan

theorem perform_numbers (terms : Terms) (call : Call) (w : World)
    (h : ∀ row ∈ w.rows.accounts, row.balance ≠ .nan) :
    ∀ row ∈ (w.perform terms call).state.rows.accounts, row.balance ≠ .nan := by
  cases perform_change terms call w with
  | failed answered book rows => rwa [rows]
  | database valid answered before after does book =>
    exact Durable.Does.numeric (Call.operation_checked valid) h does
  | memory valid answered before after does rows => rwa [rows]

theorem perform_orderly (terms : Terms) (call : Call) (h : w.Orderly) :
    (w.perform terms call).state.Orderly :=
  ⟨perform_faultFree terms call h.faultFree, perform_numbers terms call w h.numbers⟩

theorem run_numbers (calls : List Call) {w : World}
    (h : ∀ row ∈ w.rows.accounts, row.balance ≠ .nan) :
    ∀ row ∈ (run terms calls w).2.rows.accounts, row.balance ≠ .nan :=
  run_induction (fun w => ∀ row ∈ w.rows.accounts, row.balance ≠ .nan) (perform_numbers terms)
    calls w h

/-! ## In memory -/

def InMemory (w : World) : Prop :=
  w.script = .empty ∧ (w.durable = none ∨ w.durable = some ⟨.unreachable, []⟩)

theorem FaultFree.cases (h : v.FaultFree) (h' : w.FaultFree)
    (alike : v.database?.map (·.reachable) = w.database?.map (·.reachable)) :
    (v.InMemory ∧ w.InMemory) ∨ ∃ db db', v.Healthy db ∧ w.Healthy db' := by
  obtain ⟨quiet, none | ⟨db, durable, reachable⟩ | closed⟩ := h <;>
    obtain ⟨quiet', none' | ⟨db', durable', reachable'⟩ | closed'⟩ := h'
  · exact .inl ⟨⟨quiet, .inl none⟩, quiet', .inl none'⟩
  · simp [database?, none, durable'] at alike
  · simp [database?, none, closed'] at alike
  · simp [database?, durable, none'] at alike
  · exact .inr ⟨db, db', ⟨durable, reachable, quiet⟩, durable', reachable', quiet'⟩
  · simp [database?, durable, closed', reachable, Database.unreachable] at alike
  · simp [database?, closed, none'] at alike
  · simp [database?, closed, durable', reachable', Database.unreachable] at alike
  · exact .inl ⟨⟨quiet, .inr closed⟩, quiet', .inr closed'⟩

theorem serve_inMemory (terms : Terms) (h : w.InMemory) (checked : op.Checked) :
    ∃ s, w.supply.Later s ∧
      let o := w.book.run terms.forBook op s
      (w.serve terms op).result = surface (.noStore op.method) o.result ∧
        (w.serve terms op).state = { w with book := o.state.1, supply := o.state.2 } := by
  have called (s : Supply) : callMemory terms op { w with supply := s } = _ := callMemory_quiet h.1
  have served (s : Supply) :
      let r := (w.stores terms op).serveFromMemory op.method { w with supply := s }
      let o := w.book.run terms.forBook op s
      r.result = surface (.noStore op.method) o.result ∧
        r.state = { w with book := o.state.1, supply := o.state.2 } := by
    simp only [Stores.serveFromMemory, stores, Served.ofOutcome_result, Served.ofOutcome_state,
      Outcome.surfaced_result, Outcome.surfaced_state, called, Outcome.within, and_self]
  obtain ⟨quiet, none | closed⟩ := h
  · refine ⟨w.supply, .refl _, ?_⟩
    rw [serve_memory none]
    exact served w.supply
  · refine ⟨w.supply.tried terms.attempts op.method, w.supply.later_tried .., ?_⟩
    rw [serve_closed quiet closed checked]
    exact served _

theorem tryDurable_enough (healthy : w.Healthy db) (numeric : db.Numeric)
    (checked : op.Checked) (opens : op.method ≠ .createAccount) :
    (tryDurable terms op w).result ≠ .error (.unavailable .noFreeNumber) := by
  rw [(tryDurable_operate healthy terms op).1]
  intro out
  rcases Durable.run_healed terms.attempts op ⟨db, []⟩ w.supply with
    ⟨failure, failed, missing⟩ | healed
  · obtain ⟨fault, rfl⟩ := missing rfl
    cases out.symm.trans failed
  · have same := congrArg Outcome.result healed
    rcases Durable.run_answers numeric terms.attempts checked w.supply with
      (⟨answer, stands⟩ | ⟨refusal, stands⟩) | ⟨⟨creates, -⟩, -⟩
    · cases (out.symm.trans same.symm).trans stands
    · cases (out.symm.trans same.symm).trans stands
    · exact opens creates

theorem not_runsOut (healthy : w.Healthy db) (numeric : db.Numeric)
    (checked : op.Checked) (opens : op.method ≠ .createAccount) : ¬w.RunsOut terms op := by
  rintro (out | ⟨-, out⟩)
  · exact tryDurable_enough healthy numeric checked opens out
  · have kept : (Durable.run terms.attempts false op ⟨db, []⟩ w.supply).state.1.database.Numeric :=
      Durable.run_numeric numeric false checked
    exact tryDurable_enough (healthy.tried terms op).repaired.2 ⟨kept.reachable, kept.numbers⟩
      checked opens out

/-! ## The store that serves -/

def usesDatabase (w : World) : Bool := w.database?.any (·.reachable)

theorem InMemory.usesDatabase (h : w.InMemory) : w.usesDatabase = false := by
  obtain ⟨quiet, none | closed⟩ := h
  · simp [World.usesDatabase, database?, none]
  · simp [World.usesDatabase, database?, closed, Database.unreachable]

theorem Healthy.usesDatabase (h : w.Healthy db) : w.usesDatabase = true := by
  simp [World.usesDatabase, database?, h.durable, h.reachable]

theorem perform_usesDatabase (terms : Terms) (call : Call) (w : World) :
    (w.perform terms call).state.usesDatabase = w.usesDatabase := by
  have same := perform_reachable terms call w
  unfold usesDatabase
  cases before : w.database? <;> cases after : (w.perform terms call).state.database? <;>
    rw [before, after] at same <;> simp_all

theorem perform_failed {failure : Failure} (h : (w.perform terms call).result = .error failure) :
    (w.perform terms call).state.book = w.book ∧ (w.perform terms call).state.rows = w.rows := by
  cases perform_change terms call w with
  | failed answered book rows => exact ⟨book, rows⟩
  | database valid answered | memory valid answered => cases h.symm.trans answered

theorem perform_refused {refusal : Refusal}
    (h : (w.perform terms call).result = refuse refusal) :
    (w.perform terms call).state.book = w.book ∧ (w.perform terms call).state.rows = w.rows :=
  perform_failed h

end Passbook.World
