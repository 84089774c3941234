import Passbook.Proofs.Service.Call
import Passbook.Proofs.Store.Book

namespace Passbook

section
variable {σ α : Type}

@[simp] theorem Outcome.surfaced_state (outage : Outage) (event : Event) (o : Outcome σ α) :
    (o.surfaced outage event).state = o.state := by
  unfold surfaced
  split <;> rfl

theorem Outcome.surfaced_of_ok {outage : Outage} {event : Event} {o : Outcome σ α} {a : α}
    (h : o.result = .ok a) : o.surfaced outage event = o := by
  unfold surfaced
  rw [h]

theorem Outcome.surfaced_of_refused {outage : Outage} {event : Event} {o : Outcome σ α}
    {refusal : Refusal} (h : o.result = .error (.refused refusal)) :
    o.surfaced outage event = o := by
  unfold surfaced
  rw [h]

theorem Outcome.surfaced_of_error (outage : Outage) (event : Event) {o : Outcome σ α}
    {failure : Failure} (h : o.result = .error failure) :
    ∃ surfaced, (o.surfaced outage event).result = .error surfaced := by
  unfold surfaced
  split <;> rename_i same
  · rw [h] at same
    cases same
  · exact ⟨_, same⟩
  · exact ⟨_, rfl⟩

@[simp] theorem Served.after_state (log : List Event) (calls : List StoreCall) (r : Served σ) :
    (r.after log calls).state = r.state := rfl

@[simp] theorem Served.after_result (log : List Event) (calls : List StoreCall) (r : Served σ) :
    (r.after log calls).result = r.result := rfl

@[simp] theorem Served.ofOutcome_state (o : Outcome σ Answer) (calls : List StoreCall) :
    (Served.ofOutcome o calls).state = o.state := rfl

@[simp] theorem Served.ofOutcome_result (o : Outcome σ Answer) (calls : List StoreCall) :
    (Served.ofOutcome o calls).result = o.result := rfl

end

namespace World
variable (terms : Terms) (op : Operation) (w : World)

theorem callMemory_eq : ∃ script,
    (∃ failure, callMemory terms op w = ⟨.error failure, { w with script }, []⟩) ∨
      callMemory terms op w =
        (w.book.run terms.forBook op w.supply).within fun (book, supply) =>
          { w with book, supply, script } := by
  refine ⟨(w.script.takeMemory op.method).2, ?_⟩
  simp only [callMemory, scripted]
  split
  · exact .inl ⟨_, rfl⟩
  · exact .inr rfl

theorem callDurable_eq (d : Durable) : ∃ script,
    (∃ failure, callDurable terms op d w = ⟨.error failure, { w with script }, []⟩) ∨
      ∃ vanished, callDurable terms op d w =
        (d.run terms.attempts vanished op w.supply).within fun (d, supply) =>
          { w with durable := some d, supply, script } := by
  refine ⟨(w.script.takeDurable op.method).2, ?_⟩
  simp only [callDurable, scripted]
  split
  · exact .inl ⟨_, rfl⟩
  · exact .inr ⟨_, rfl⟩

theorem repair_eq {d : Durable} (durable : w.durable = some d) : ∃ script,
    (∃ failure, repair w = ⟨.error failure, { w with script }, []⟩) ∨
      repair w = d.ensureTables.within fun d => { w with durable := some d, script } := by
  refine ⟨w.script.takeRepair.2, ?_⟩
  simp only [repair, scripted, durable]
  split
  · exact .inl ⟨_, rfl⟩
  · exact .inr rfl

theorem tryDurable_eq {d : Durable} (durable : w.durable = some d) :
    tryDurable terms op w = callDurable terms op d w := by
  simp only [tryDurable, durable]

variable {terms op w}

theorem serve_memory (none : w.durable = none) :
    w.serve terms op = ((w.stores terms op).serveFromMemory op.method w).after
      [.noDurableStore op.method] [] := by
  simp only [serve, Stores.serve, stores, none, Option.map_none]

theorem serve_memory_state (none : w.durable = none) :
    (w.serve terms op).state = (callMemory terms op w).state := by
  rw [serve_memory none, Served.after_state, Stores.serveFromMemory, Served.ofOutcome_state,
    Outcome.surfaced_state, stores]

theorem perform_memory (terms : Terms) (call : Call) (none : w.durable = none) : ∃ script,
    (w.perform terms call).state = { w with script } ∨
      ∃ op, call.operation terms = .ok op ∧
        let o := w.book.run terms.forBook op w.supply
        (w.perform terms call).state = { w with book := o.state.1, supply := o.state.2, script } := by
  unfold perform
  cases valid : call.operation terms with
  | error failure => exact ⟨w.script, .inl rfl⟩
  | ok op =>
    obtain ⟨script, ⟨failure, eq⟩ | eq⟩ := callMemory_eq terms op w
    · exact ⟨script, .inl ((serve_memory_state none).trans (congrArg Outcome.state eq))⟩
    · exact ⟨script, .inr ⟨op, rfl, (serve_memory_state none).trans (congrArg Outcome.state eq)⟩⟩

theorem stores_durable {d : Durable} (durable : w.durable = some d) :
    (w.stores terms op).durable = some (tryDurable terms op) := by
  rw [stores, durable, Option.map_some]

theorem serve_keeps_tried {d : Durable} (durable : w.durable = some d) (inv : World → Prop)
    (tried : ∀ {w}, inv w → inv (tryDurable terms op w).state)
    (repaired : ∀ {w}, inv w → inv (repair w).state)
    (remembered : ∀ {w}, inv w → inv (callMemory terms op w).state)
    (h : inv (tryDurable terms op w).state) : inv (w.serve terms op).state := by
  simp only [serve, Stores.serve, stores_durable durable]
  split
  · exact h
  · exact h
  · simp only [Served.after_state, Stores.serveAfterRepair]
    split
    · simp only [Outcome.surfaced_state, stores]
      exact repaired h
    · simp only [Served.after_state, Served.ofOutcome_state, Outcome.surfaced_state, stores]
      exact tried (repaired h)
  · simp only [Served.after_state, Stores.serveFromMemory, Served.ofOutcome_state,
      Outcome.surfaced_state, stores]
    exact remembered h

theorem serve_keeps (inv : World → Prop)
    (tried : ∀ {w}, inv w → inv (tryDurable terms op w).state)
    (repaired : ∀ {w}, inv w → inv (repair w).state)
    (remembered : ∀ {w}, inv w → inv (callMemory terms op w).state) (h : inv w) :
    inv (w.serve terms op).state := by
  cases durable : w.durable with
  | none =>
    rw [serve_memory_state durable]
    exact remembered h
  | some d => exact serve_keeps_tried durable inv tried repaired remembered (tried h)

end World

end Passbook
