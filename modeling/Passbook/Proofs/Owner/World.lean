import Passbook.Proofs.Owner.Durable
import Passbook.Proofs.Service.Healthy

namespace Passbook.World
open Passbook.Except (Paired)

variable {ρ : Renaming} {owner : Uuid} {w v : World} {s₀ t₀ u : Supply} {terms : Terms}
  {op : Operation} {d : Durable}

/-! ## The supply -/

theorem callMemory_later (terms : Terms) (op : Operation) (w : World) :
    w.supply.Later (callMemory terms op w).state.supply := by
  obtain ⟨script, ⟨failure, eq⟩ | eq⟩ := callMemory_eq terms op w <;> rw [eq]
  · exact .refl _
  · exact Book.run_later

theorem tryDurable_later (terms : Terms) (op : Operation) (w : World) :
    w.supply.Later (tryDurable terms op w).state.supply := by
  cases durable : w.durable with
  | none =>
    rw [tryDurable, durable]
    exact .refl _
  | some d =>
    rw [tryDurable_eq _ _ _ durable]
    obtain ⟨script, ⟨failure, eq⟩ | ⟨vanished, eq⟩⟩ := callDurable_eq terms op w d <;> rw [eq]
    · exact .refl _
    · exact Durable.run_later

theorem repair_supply (w : World) : (repair w).state.supply = w.supply := by
  simp only [repair, scripted]
  split
  · rfl
  · split <;> rfl

theorem perform_later (terms : Terms) (call : Call) (w : World) :
    w.supply.Later (w.perform terms call).state.supply := by
  unfold perform
  split
  · exact .refl _
  · refine serve_keeps (fun v => w.supply.Later v.supply) ?_ ?_ ?_ (.refl _)
    · exact fun h => h.trans (tryDurable_later terms _ _)
    · exact fun h => h.trans (repair_supply _ ▸ .refl _)
    · exact fun h => h.trans (callMemory_later terms _ _)

/-! ## Numbers in use -/

structure Numbered (w : World) : Prop where
  draws : Function.Injective w.supply.draw
  book : w.book.Numbered w.supply
  durable : ∀ d, w.durable = some d → d.Numbered w.supply

theorem callMemory_numbered (terms : Terms) (op : Operation) (h : w.Numbered) :
    (callMemory terms op w).state.Numbered := by
  have later := callMemory_later terms op w
  obtain ⟨script, ⟨failure, eq⟩ | eq⟩ := callMemory_eq terms op w <;> rw [eq] at later ⊢
  · exact ⟨h.draws, h.book, h.durable⟩
  · refine ⟨?_, Book.run_numbered h.book, fun d durable => (h.durable d durable).later later⟩
    rw [later.draw]
    exact h.draws

theorem tryDurable_numbered (terms : Terms) (op : Operation) (h : w.Numbered) :
    (tryDurable terms op w).state.Numbered := by
  have later := tryDurable_later terms op w
  cases durable : w.durable with
  | none =>
    rw [tryDurable, durable]
    exact h
  | some d =>
    rw [tryDurable_eq _ _ _ durable] at later ⊢
    obtain ⟨script, ⟨failure, eq⟩ | ⟨vanished, eq⟩⟩ := callDurable_eq terms op w d <;>
      rw [eq] at later ⊢
    · exact ⟨h.draws, h.book, h.durable⟩
    · refine ⟨?_, h.book.later later, ?_⟩
      · rw [later.draw]
        exact h.draws
      · rintro d' same
        cases same
        exact Durable.run_numbered (h.durable d durable)

theorem repair_numbered (h : w.Numbered) : (repair w).state.Numbered := by
  cases durable : w.durable with
  | none =>
    simp only [repair, scripted, durable]
    split <;> exact ⟨h.draws, h.book, by simp⟩
  | some d =>
    obtain ⟨script, ⟨failure, eq⟩ | eq⟩ := repair_eq w durable <;> rw [eq]
    · exact ⟨h.draws, h.book, h.durable⟩
    · refine ⟨h.draws, h.book, ?_⟩
      rintro d' same row mem
      cases same
      rw [Durable.ensureTables_rows] at mem
      exact h.durable d durable row mem

theorem perform_numbered (terms : Terms) (call : Call) (h : w.Numbered) :
    (w.perform terms call).state.Numbered := by
  unfold perform
  split
  · exact h
  · exact serve_keeps _ (tryDurable_numbered terms _) repair_numbered (callMemory_numbered terms _) h

/-! ## Worlds that are alike for an owner -/

structure Alike (ρ : Renaming) (owner : Uuid) (w v : World) : Prop where
  book : Book.Mirrors ρ owner w.book v.book
  durable : Option.Rel (Durable.Mirrors ρ owner) w.durable v.durable
  quiet : w.script = .empty
  quiet' : v.script = .empty
  numbered : w.Numbered
  numbered' : v.Numbered

structure Mirrors (ρ : Renaming) (owner : Uuid) (s₀ t₀ u : Supply) (w v : World) : Prop
    extends Alike ρ owner w v where
  supply : Supply.Abreast ρ s₀ t₀ u w.supply v.supply

theorem Alike.durable_cases (h : Alike ρ owner w v) :
    (w.durable = none ∧ v.durable = none) ∨
      ∃ d d', w.durable = some d ∧ v.durable = some d' ∧ Durable.Mirrors ρ owner d d' := by
  have related := h.durable
  cases durable : w.durable <;> cases durable' : v.durable <;> rw [durable, durable'] at related <;>
    cases related
  · exact .inl ⟨rfl, rfl⟩
  · rename_i d d' related
    exact .inr ⟨d, d', rfl, rfl, related⟩

theorem callMemory_mirrors (h : Mirrors ρ owner s₀ t₀ u w v) (own : op.owner = owner)
    (later : (callMemory terms (op.renamed ρ.id) v).state.supply.Later u) :
    (callMemory terms (op.renamed ρ.id) v).result = ρ.result (callMemory terms op w).result ∧
      Mirrors ρ owner s₀ t₀ u (callMemory terms op w).state
        (callMemory terms (op.renamed ρ.id) v).state := by
  have numbered := callMemory_numbered terms op h.numbered
  have numbered' := callMemory_numbered terms (op.renamed ρ.id) h.numbered'
  rw [callMemory_quiet h.quiet] at numbered ⊢
  rw [callMemory_quiet h.quiet'] at later numbered' ⊢
  obtain ⟨result, book, supply⟩ := Book.run_mirrors h.book own
    (h.numbered.book.free h.numbered.draws) (h.numbered'.book.free h.numbered'.draws) h.supply later
  exact ⟨result, ⟨book, h.durable, h.quiet, h.quiet', numbered, numbered'⟩, supply⟩

theorem tryDurable_mirrors (h : Mirrors ρ owner s₀ t₀ u w v) (own : op.owner = owner)
    (later : (tryDurable terms (op.renamed ρ.id) v).state.supply.Later u) :
    (tryDurable terms (op.renamed ρ.id) v).result = ρ.result (tryDurable terms op w).result ∧
      Mirrors ρ owner s₀ t₀ u (tryDurable terms op w).state
        (tryDurable terms (op.renamed ρ.id) v).state := by
  have numbered := tryDurable_numbered terms op h.numbered
  have numbered' := tryDurable_numbered terms (op.renamed ρ.id) h.numbered'
  rcases h.durable_cases with ⟨none, none'⟩ | ⟨d, d', durable, durable', related⟩
  · simp only [tryDurable, none, none']
    exact ⟨rfl, h⟩
  · rw [tryDurable_eq _ _ _ durable, callDurable_quiet h.quiet] at numbered ⊢
    rw [tryDurable_eq _ _ _ durable', callDurable_quiet h.quiet'] at later numbered' ⊢
    obtain ⟨result, mirrors, supply⟩ := Durable.run_mirrors related own
      (h.numbered.durable d durable) (h.numbered'.durable d' durable') h.numbered.draws
      h.numbered'.draws h.supply later
    exact ⟨result, ⟨h.book, .some mirrors, h.quiet, h.quiet', numbered, numbered'⟩, supply⟩

theorem repair_mirrors (h : Mirrors ρ owner s₀ t₀ u w v) :
    Paired ρ.failure Eq (repair w).result (repair v).result ∧
      Mirrors ρ owner s₀ t₀ u (repair w).state (repair v).state := by
  have numbered := repair_numbered h.numbered
  have numbered' := repair_numbered h.numbered'
  rcases h.durable_cases with ⟨none, none'⟩ | ⟨d, d', durable, durable', related⟩
  · simp only [repair, h.quiet, h.quiet', Script.takeRepair, Script.empty, Script.next, scripted,
      Fault.failure?, none, none'] at numbered numbered' ⊢
    exact ⟨.error (Failure.unavailable .provisioning),
      ⟨h.book, .none, rfl, rfl, numbered, numbered'⟩, h.supply⟩
  · rw [repair_quiet h.quiet durable] at numbered ⊢
    rw [repair_quiet h.quiet' durable'] at numbered' ⊢
    obtain ⟨result, mirrors⟩ := Durable.ensureTables_mirrors related
    exact ⟨result, ⟨h.book, .some mirrors, h.quiet, h.quiet', numbered, numbered'⟩, h.supply⟩

/-! ## The protocol -/

theorem paired_result {x x' : Except Failure Answer} :
    Paired ρ.failure (fun answer answer' => answer' = ρ.answer answer) x x' ↔
      x' = ρ.result x := by
  constructor
  · intro h
    cases h with
    | error failure => rfl
    | ok same => exact congrArg _ same
  · rintro rfl
    cases x with
    | error failure => exact .error failure
    | ok answer => exact .ok rfl

theorem surfaced_paired {α : Type} {R : α → α → Prop} {o o' : Outcome World α} (outage : Outage)
    (event : Event) (h : Paired ρ.failure R o.result o'.result) :
    Paired ρ.failure R (o.surfaced outage event).result (o'.surfaced outage event).result := by
  unfold Outcome.surfaced
  rcases o with ⟨x, state, log⟩
  rcases o' with ⟨x', state', log'⟩
  cases h with
  | ok related => exact .ok related
  | error failure =>
    cases failure with
    | refused refusal => exact .error (Failure.refused refusal)
    | schemaMissing | unavailable | timedOut | system | driver | breakdown | arithmetic =>
      exact .error (Failure.unavailable outage)

theorem surfaced_renamed {o o' : Outcome World Answer} (outage : Outage) (event : Event)
    (same : o'.result = ρ.result o.result) :
    (o'.surfaced outage event).result = ρ.result (o.surfaced outage event).result :=
  paired_result.1 (surfaced_paired outage event (paired_result.2 same))

theorem serveAfterRepair_mirrors (h : Mirrors ρ owner s₀ t₀ u w v) (own : op.owner = owner)
    (w₀ v₀ : World)
    (later : ((v₀.stores terms (op.renamed ρ.id)).serveAfterRepair
      (tryDurable terms (op.renamed ρ.id)) op.method v).state.supply.Later u) :
    let served := (w₀.stores terms op).serveAfterRepair (tryDurable terms op) op.method w
    let served' := (v₀.stores terms (op.renamed ρ.id)).serveAfterRepair
      (tryDurable terms (op.renamed ρ.id)) op.method v
    served'.result = ρ.result served.result ∧
      Mirrors ρ owner s₀ t₀ u served.state served'.state := by
  obtain ⟨fixed, repaired⟩ := repair_mirrors h
  replace fixed := surfaced_paired (.afterRepair op.method) (.repairFailed op.method) fixed
  simp only [Stores.serveAfterRepair, stores, Outcome.surfaced_state] at later ⊢
  generalize ((repair w).surfaced (.afterRepair op.method) (.repairFailed op.method)).result = x
    at fixed ⊢
  generalize ((repair v).surfaced (.afterRepair op.method) (.repairFailed op.method)).result = x'
    at fixed later ⊢
  cases fixed with
  | error failure => exact ⟨rfl, repaired⟩
  | ok same =>
    simp only [Served.after_result, Served.after_state, Served.ofOutcome_result,
      Served.ofOutcome_state, Outcome.surfaced_state] at later ⊢
    obtain ⟨result, mirrors⟩ := tryDurable_mirrors repaired own later
    exact ⟨surfaced_renamed _ _ result, mirrors⟩

theorem serve_mirrors (h : Mirrors ρ owner s₀ t₀ u w v) (own : op.owner = owner)
    (later : (v.serve terms (op.renamed ρ.id)).state.supply.Later u) :
    (v.serve terms (op.renamed ρ.id)).result = ρ.result (w.serve terms op).result ∧
      Mirrors ρ owner s₀ t₀ u (w.serve terms op).state
        (v.serve terms (op.renamed ρ.id)).state := by
  rcases h.durable_cases with ⟨none, none'⟩ | ⟨d, d', durable, durable', -⟩
  · simp only [serve_memory none, serve_memory none', Served.after_result, Served.after_state,
      Stores.serveFromMemory, Served.ofOutcome_result, Served.ofOutcome_state,
      Outcome.surfaced_state, stores, Operation.renamed_method] at later ⊢
    obtain ⟨result, mirrors⟩ := callMemory_mirrors h own later
    exact ⟨surfaced_renamed _ _ result, mirrors⟩
  · -- What the first attempt takes is part of what the whole call takes.
    have before : (tryDurable terms (op.renamed ρ.id) v).state.supply.Later u := by
      refine Supply.Later.trans ?_ later
      refine serve_keeps_tried durable'
        (fun v' => (tryDurable terms (op.renamed ρ.id) v).state.supply.Later v'.supply)
        (fun h => h.trans (tryDurable_later terms _ _))
        (fun h => h.trans (repair_supply _ ▸ .refl _))
        (fun h => h.trans (callMemory_later terms _ _)) (.refl _)
    obtain ⟨first, tried⟩ := tryDurable_mirrors h own before
    simp only [serve, Stores.serve, stores_durable durable, stores_durable durable', first]
      at later ⊢
    cases result : (tryDurable terms op w).result with
    | ok answer =>
      rw [result] at first
      exact ⟨first.trans (by rw [Served.ofOutcome_result, result]), tried⟩
    | error failure =>
      rw [result] at first
      cases failure with
      | refused refusal =>
        exact ⟨first.trans (by rw [Served.ofOutcome_result, result]), tried⟩
      | schemaMissing fault =>
        simp only [result, Renaming.result, Renaming.failure, Served.after_result,
          Served.after_state, Operation.renamed_method] at later ⊢
        exact serveAfterRepair_mirrors tried own w v later
      | unavailable | timedOut | system | driver | breakdown | arithmetic =>
        simp only [result, Renaming.result, Renaming.failure, Served.after_result,
          Served.after_state, Stores.serveFromMemory, Served.ofOutcome_result,
          Served.ofOutcome_state, Outcome.surfaced_state, stores, Operation.renamed_method]
          at later ⊢
        obtain ⟨remembered, mirrors⟩ := callMemory_mirrors tried own later
        exact ⟨surfaced_renamed _ _ remembered, mirrors⟩

theorem perform_mirrors {call : Call} (h : Mirrors ρ owner s₀ t₀ u w v)
    (own : call.owner = owner)
    (later : (v.perform terms (call.renamed ρ.id)).state.supply.Later u) :
    (v.perform terms (call.renamed ρ.id)).result = ρ.result (w.perform terms call).result ∧
      Mirrors ρ owner s₀ t₀ u (w.perform terms call).state
        (v.perform terms (call.renamed ρ.id)).state := by
  simp only [perform, Call.operation_renamed] at later ⊢
  cases valid : call.operation terms with
  | error failure =>
    have same : ρ.failure failure = failure := Call.failure_of_operation valid ρ
    exact ⟨by simp only [Except.map, Renaming.result, same], h⟩
  | ok op =>
    simp only [valid, Except.map] at later ⊢
    exact serve_mirrors h ((Call.operation_owner valid).trans own) later

end Passbook.World
