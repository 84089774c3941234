import Passbook.Proofs.Service.World
import Passbook.Proofs.Store.Durable

/-!
# One store serves a call, or none does

Whatever failures a script injects, a call that fails leaves the records of both stores as they
were, and one that succeeds is one operation of one store. Main statement: `run_effects`, a run is
a sequence of such operations.

- `World.Kept`: both stores hold the same records as before
- `Effect`: what one call does to the two stores
- `tryDurable_ok`, `callMemory_ok`, ...: what one attempt at a store does
-/

namespace Passbook.World
variable {terms : Terms} {op : Operation} {w w' w'' : World} {d : Durable}

def database? (w : World) : Option Database := w.durable.map (·.database)

def Filled (w w' : World) : Prop :=
  w'.database? = w.database? ∨ w'.database? = w.database?.map Database.provisioned

theorem Filled.trans (h : Filled w w') (h' : Filled w' w'') : Filled w w'' := by
  have twice (found : Option Database) :
      (found.map Database.provisioned).map Database.provisioned =
        found.map Database.provisioned := by
    cases found <;> rfl
  rcases h with h | h <;> rcases h' with h' | h' <;> rw [h] at h'
  · exact .inl h'
  · exact .inr h'
  · exact .inr h'
  · exact .inr (h'.trans (twice _))

theorem Filled.durable_after (h : Filled w w') (durable : w.durable = some d) :
    ∃ d', w'.durable = some d' ∧ d'.healthy = d.healthy := by
  have before : w.database? = some d.database := by rw [database?, durable, Option.map_some]
  rw [Filled, before, Option.map_some, database?, Option.map_eq_some_iff,
    Option.map_eq_some_iff] at h
  rcases h with ⟨d', durable', same⟩ | ⟨d', durable', same⟩ <;> refine ⟨d', durable', ?_⟩ <;>
    simp only [Durable.healthy, same, Database.provisioned_provisioned]

theorem Filled.durable_before (h : Filled w w') (durable : w'.durable = some d) :
    ∃ d₀, w.durable = some d₀ ∧ d₀.healthy = d.healthy := by
  cases before : w.durable with
  | none => simp [Filled, database?, before, durable] at h
  | some d₀ =>
    obtain ⟨d', after, same⟩ := h.durable_after before
    rw [durable, Option.some.injEq] at after
    exact ⟨d₀, rfl, by rw [after, same]⟩

/-- No record has changed in either store. Tables may have been created, and identifiers, moments
and draws may have been taken. -/
structure Kept (w w' : World) : Prop where
  book : w'.book = w.book
  filled : Filled w w'
  supply : w.supply.Later w'.supply

theorem Kept.refl (w : World) : Kept w w := ⟨rfl, .inl rfl, .refl _⟩

theorem Kept.trans (h : Kept w w') (h' : Kept w' w'') : Kept w w'' :=
  ⟨h'.book.trans h.book, h.filled.trans h'.filled, h.supply.trans h'.supply⟩

/-! ## Attempts -/

theorem tryDurable_ok {answer : Answer} (durable : w.durable = some d)
    (h : (tryDurable terms op w).result = .ok answer) :
    ∃ d' log, (tryDurable terms op w).state.durable = some d' ∧
      (tryDurable terms op w).state.book = w.book ∧
      d.healthy.run terms.attempts false op w.supply =
        ⟨.ok answer, (d'.healthy, (tryDurable terms op w).state.supply), log⟩ := by
  rw [tryDurable_eq _ _ _ durable] at h ⊢
  obtain ⟨script, ⟨failure, eq⟩ | ⟨vanished, eq⟩⟩ := callDurable_eq terms op w d <;>
    rw [eq] at h ⊢
  · cases h
  · exact ⟨_, _, rfl, rfl, Durable.run_ok h⟩

theorem tryDurable_error {failure : Failure} (durable : w.durable = some d)
    (h : (tryDurable terms op w).result = .error failure) :
    Kept w (tryDurable terms op w).state := by
  rw [tryDurable_eq _ _ _ durable] at h ⊢
  obtain ⟨script, ⟨failure, eq⟩ | ⟨vanished, eq⟩⟩ := callDurable_eq terms op w d <;>
    rw [eq] at h ⊢
  · exact ⟨rfl, .inl rfl, .refl _⟩
  · refine ⟨rfl, .inl ?_, Durable.run_later⟩
    have same := Durable.run_error h
    simp only [Outcome.within, database?, durable, Option.map_some, same]

theorem callMemory_ok {answer : Answer} (h : (callMemory terms op w).result = .ok answer) :
    (callMemory terms op w).state.durable = w.durable ∧ ∃ log,
      w.book.run terms.forBook op w.supply =
        ⟨.ok answer, ((callMemory terms op w).state.book, (callMemory terms op w).state.supply),
          log⟩ := by
  obtain ⟨script, ⟨failure, eq⟩ | eq⟩ := callMemory_eq terms op w <;> rw [eq] at h ⊢
  · cases h
  · refine ⟨rfl, (w.book.run terms.forBook op w.supply).log, ?_⟩
    simp only [Outcome.within] at h ⊢
    rw [← h]

theorem callMemory_error {failure : Failure} (checked : op.Checked)
    (h : (callMemory terms op w).result = .error failure) :
    Kept w (callMemory terms op w).state := by
  obtain ⟨script, ⟨failure, eq⟩ | eq⟩ := callMemory_eq terms op w <;> rw [eq] at h ⊢
  · exact ⟨rfl, .inl rfl, .refl _⟩
  · exact ⟨(Book.run_does checked).book_of_error h, .inl rfl, Book.run_later⟩

theorem repair_kept (durable : w.durable = some d) : Kept w (repair w).state := by
  obtain ⟨script, ⟨failure, eq⟩ | eq⟩ := repair_eq w durable <;> rw [eq]
  · exact ⟨rfl, .inl rfl, .refl _⟩
  · refine ⟨rfl, ?_, .refl _⟩
    simp only [Outcome.within, Filled, database?, durable, Option.map_some, Durable.ensureTables]
    split
    · rename_i database provisioned
      exact .inr (by rw [(Database.ensureTables_eq_ok.1 provisioned).2])
    · exact .inl rfl

/-! ## Calls -/

/-- What a call does: it fails and keeps all records, or it is one operation of the store that it
names. `healthy` reads a table that is missing as an empty one. -/
inductive Effect (terms : Terms) (call : Call) :
    World → Option StoreCall → Except Failure Answer → World → Prop
  | failed {w w' failure} (kept : Kept w w') : Effect terms call w none (.error failure) w'
  | durable {w w' op d d' supply answer log} (valid : call.operation terms = .ok op)
      (before : w.durable = some d) (after : w'.durable = some d')
      (later : w.supply.Later supply)
      (operation : d.healthy.run terms.attempts false op supply =
        ⟨.ok answer, (d'.healthy, w'.supply), log⟩)
      (book : w'.book = w.book) :
    Effect terms call w (some .durable) (.ok answer) w'
  | memory {w w' op supply answer log} (valid : call.operation terms = .ok op)
      (later : w.supply.Later supply)
      (operation : w.book.run terms.forBook op supply =
        ⟨.ok answer, (w'.book, w'.supply), log⟩)
      (filled : Filled w w') :
    Effect terms call w (some .memory) (.ok answer) w'

theorem Effect.after {call : Call} {store : Option StoreCall} {result : Except Failure Answer}
    (h : Effect terms call w' store result w'') (kept : Kept w w') :
    Effect terms call w store result w'' := by
  cases h with
  | failed kept' => exact .failed (kept.trans kept')
  | memory valid later operation filled =>
    rw [kept.book] at operation
    exact .memory valid (kept.supply.trans later) operation (kept.filled.trans filled)
  | durable valid before after later operation book =>
    obtain ⟨d₀, durable₀, same⟩ := kept.filled.durable_before before
    rw [← same] at operation
    exact .durable valid durable₀ after (kept.supply.trans later) operation
      (book.trans kept.book)

/-- A store that serves a call is the last one that was called. -/
def Attributed (store : Option StoreCall) (served : Served World) : Prop :=
  ∀ answer, served.result = .ok answer → ∃ last, store = some last ∧
    served.calls.getLast? = some last

theorem Attributed.after {store : Option StoreCall} {served : Served World}
    (h : Attributed store served) (log : List Event) (calls : List StoreCall) :
    Attributed store (served.after log calls) := by
  intro answer ok
  obtain ⟨last, same, is_last⟩ := h answer ok
  refine ⟨last, same, ?_⟩
  simp only [Served.after, List.getLast?_append, is_last, Option.some_or]

theorem Attributed.store_eq {store : Option StoreCall} {served : Served World}
    (h : Attributed store served) (answered : served.result.isOk) :
    store = served.calls.getLast? := by
  cases result : served.result with
  | error failure =>
    rw [result] at answered
    cases answered
  | ok answer =>
    obtain ⟨last, same, is_last⟩ := h answer result
    rw [same, is_last]

theorem serveFromMemory_effect {call : Call} (valid : call.operation terms = .ok op) (w₀ : World) :
    let served := (w₀.stores terms op).serveFromMemory op.method w
    ∃ store, Effect terms call w store served.result served.state ∧ Attributed store served := by
  simp only [Stores.serveFromMemory, stores, Served.ofOutcome_result, Served.ofOutcome_state,
    Outcome.surfaced_state]
  cases h : (callMemory terms op w).result with
  | ok answer =>
    obtain ⟨durable, log, operation⟩ := callMemory_ok h
    have filled : Filled w (callMemory terms op w).state := .inl (by rw [database?, durable]; rfl)
    rw [Outcome.surfaced_of_ok h, h]
    exact ⟨_, .memory valid (.refl _) operation filled, fun _ _ => ⟨_, rfl, rfl⟩⟩
  | error failure =>
    have checked := Call.operation_checked valid
    obtain ⟨surfaced, same⟩ := Outcome.surfaced_of_error (.noStore op.method)
      (.memoryFailed op.method) h
    rw [same]
    refine ⟨none, .failed (callMemory_error checked h), fun answer ok => ?_⟩
    rw [Served.ofOutcome_result, same] at ok
    cases ok

theorem serveAfterRepair_effect {call : Call} (valid : call.operation terms = .ok op)
    (durable : w.durable = some d) (w₀ : World) :
    let served := (w₀.stores terms op).serveAfterRepair (tryDurable terms op) op.method w
    ∃ store, Effect terms call w store served.result served.state ∧ Attributed store served := by
  simp only [Stores.serveAfterRepair, stores, Outcome.surfaced_state]
  have repaired := repair_kept durable
  obtain ⟨d', durable', -⟩ := repaired.filled.durable_after durable
  cases fixed : ((repair w).surfaced (.afterRepair op.method) (.repairFailed op.method)).result with
  | error failure => exact ⟨none, .failed repaired, fun answer ok => by cases ok⟩
  | ok =>
    simp only [Served.after_result, Served.after_state, Served.ofOutcome_result,
      Served.ofOutcome_state, Outcome.surfaced_state]
    cases h : (tryDurable terms op (repair w).state).result with
    | ok answer =>
      obtain ⟨after, log, has, book, operation⟩ := tryDurable_ok durable' h
      rw [Outcome.surfaced_of_ok h, h]
      have effect := Effect.durable valid durable' has (.refl _) operation book
      exact ⟨_, effect.after repaired, fun _ _ => ⟨_, rfl, rfl⟩⟩
    | error failure =>
      obtain ⟨surfaced, same⟩ := Outcome.surfaced_of_error (.afterRepair op.method)
        (.repairFailed op.method) h
      have kept := repaired.trans (tryDurable_error durable' h)
      rw [same]
      refine ⟨none, .failed kept, fun answer ok => ?_⟩
      rw [Served.after_result, Served.ofOutcome_result, same] at ok
      cases ok

theorem serve_effect {call : Call} (valid : call.operation terms = .ok op)
    (durable : w.durable = some d) :
    ∃ store, Effect terms call w store (w.serve terms op).result (w.serve terms op).state ∧
      Attributed store (w.serve terms op) := by
  have tried : (w.stores terms op).durable = some (tryDurable terms op) := by
    rw [stores, durable, Option.map_some]
  simp only [serve, Stores.serve, tried]
  cases h : (tryDurable terms op w).result with
  | ok answer =>
    obtain ⟨after, log, has, book, operation⟩ := tryDurable_ok durable h
    refine ⟨_, ?_, fun _ _ => ⟨_, rfl, rfl⟩⟩
    simp only [Served.ofOutcome_result, Served.ofOutcome_state, h]
    exact .durable valid durable has (.refl _) operation book
  | error failure =>
    have kept := tryDurable_error durable h
    obtain ⟨d', durable', -⟩ := kept.filled.durable_after durable
    cases failure with
    | refused refusal =>
      refine ⟨none, ?_, fun answer ok => ?_⟩
      · simp only [Served.ofOutcome_result, Served.ofOutcome_state, h]
        exact .failed kept
      · simp only [Served.ofOutcome_result, h] at ok
        cases ok
    | schemaMissing detail =>
      obtain ⟨store, effect, last⟩ := serveAfterRepair_effect valid durable' w
      have last := last.after ((tryDurable terms op w).log ++ [.schemaMissing op.method]) [.durable]
      exact ⟨store, effect.after kept, last⟩
    | unavailable | timedOut | system | driver | breakdown | arithmetic =>
      obtain ⟨store, effect, last⟩ := serveFromMemory_effect
        (w := (tryDurable terms op w).state) valid w
      have last := last.after ((tryDurable terms op w).log ++ [.durableFailed op.method]) [.durable]
      exact ⟨store, effect.after kept, last⟩

theorem perform_effect (terms : Terms) (call : Call) (durable : w.durable = some d) :
    ∃ store, Effect terms call w store (w.perform terms call).result (w.perform terms call).state ∧
      Attributed store (w.perform terms call) := by
  unfold perform
  split
  · exact ⟨none, .failed (.refl _), fun answer ok => by cases ok⟩
  · rename_i op valid
    exact serve_effect valid durable

theorem Effect.durable_after {call : Call} {store : Option StoreCall}
    {result : Except Failure Answer} (h : Effect terms call w store result w')
    (durable : w.durable = some d) : ∃ d', w'.durable = some d' := by
  cases h with
  | durable valid before after => exact ⟨_, after⟩
  | failed kept =>
    obtain ⟨d', after, -⟩ := kept.filled.durable_after durable
    exact ⟨d', after⟩
  | memory valid later operation filled =>
    obtain ⟨d', after, -⟩ := filled.durable_after durable
    exact ⟨d', after⟩

/-! ## Runs -/

inductive Effects (terms : Terms) :
    List Call → World → List (Option StoreCall) → List (Except Failure Answer) → World → Prop
  | nil (w : World) : Effects terms [] w [] [] w
  | cons {call calls w store stores answers w'}
      (effect : Effect terms call w store (w.perform terms call).result
        (w.perform terms call).state)
      (attributed : Attributed store (w.perform terms call))
      (rest : Effects terms calls (w.perform terms call).state stores answers w') :
    Effects terms (call :: calls) w (store :: stores) ((w.perform terms call).result :: answers) w'

/-- With a durable store, whatever the stores hold and whatever failures the script has for their
methods, for the repair and for the sessions: every call of a run either fails and keeps the
records of both stores, or is one operation of one of them, with the answer of that operation, and
keeps the records of the other. -/
theorem run_effects (book : Book) (d : Durable) (supply : Supply) (script : Script)
    (calls : List Call) :
    let w : World := ⟨book, some d, supply, script⟩
    ∃ stores, Effects terms calls w stores (run terms calls w).1 (run terms calls w).2 := by
  intro w
  have durable : w.durable = some d := rfl
  generalize w = w at durable
  induction calls generalizing w d with
  | nil => exact ⟨[], .nil w⟩
  | cons call calls ih =>
    obtain ⟨store, effect, attributed⟩ := perform_effect terms call durable
    obtain ⟨d', durable'⟩ := effect.durable_after durable
    obtain ⟨stores, rest⟩ := ih d' _ durable'
    exact ⟨store :: stores, .cons effect attributed rest⟩

def servers (terms : Terms) : List Call → World → List (Option StoreCall)
  | [], _ => []
  | call :: calls, w =>
    (w.perform terms call).calls.getLast? :: servers terms calls (w.perform terms call).state

theorem Effects.stores_eq {calls : List Call} {stores : List (Option StoreCall)}
    {answers : List (Except Failure Answer)} (h : Effects terms calls w stores answers w')
    (answered : ∀ answer ∈ answers, answer.isOk) : stores = servers terms calls w := by
  induction h with
  | nil => rfl
  | cons effect attributed rest ih =>
    obtain ⟨first, others⟩ := List.forall_mem_cons.1 answered
    rw [servers, attributed.store_eq first, ih others]

/-- The first call finds no tables, the second finds them, and the third gets no answer from the
durable store in time. -/
theorem run_effects_mixed :
    let calls := [.createAccount ⟨1⟩ none none none,
      .createPayee ⟨1⟩ (some "Landlord") (some "123456"), .listAccounts ⟨1⟩]
    let script : Script := ⟨Script.setQueue (fun _ => []) .listAccounts [.hang], fun _ => [], []⟩
    let w : World := ⟨.empty, some ⟨.empty, []⟩, ⟨0, 0, 0, id⟩, script⟩
    (w.perform .standard (.createAccount ⟨1⟩ none none none)).calls =
        [.durable, .repair, .durable] ∧
      Effects .standard calls w [some .durable, some .durable, some .memory]
        (run .standard calls w).1 (run .standard calls w).2 := by
  intro calls script w
  obtain ⟨stores, effects⟩ := run_effects .empty ⟨.empty, []⟩ ⟨0, 0, 0, id⟩ script calls
  have answered : ∀ answer ∈ (run .standard calls w).1, answer.isOk := by decide +kernel
  have served : servers .standard calls w = [some .durable, some .durable, some .memory] := by
    decide +kernel
  have same := effects.stores_eq answered
  exact ⟨by decide +kernel, served ▸ same ▸ effects⟩

end Passbook.World
