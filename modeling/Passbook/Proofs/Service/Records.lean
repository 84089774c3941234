import Passbook.Proofs.Api.Breakdown

namespace Passbook

/-! ## Records -/

def Method.fallbackRecord (method : Method) : Level × String :=
  (.error, "Durable store failed during " ++ method.name ++ ", falling back to volatile store")

def Method.missingRecord (method : Method) : Level × String :=
  (.warning, "Ledger schema missing during " ++ method.name ++ ", provisioning and retrying once")

def serviceSource : String := "ledger.services.ledger_service"

def Discreet (log : List Event) : Prop := ∀ event ∈ log, event.source ≠ serviceSource

theorem Method.name_injective : Function.Injective Method.name := by
  intro a b same
  cases a <;> cases b <;> first | rfl | exact absurd same (by decide)

namespace Event
variable {name : Uuid → String} {event : Event} {method : Method}

def record (name : Uuid → String) (event : Event) : Level × String :=
  (event.level, event.message name)

theorem record_eq_fallback :
    event.record name = method.fallbackRecord ↔ event = .durableFailed method := by
  constructor
  · intro same
    obtain ⟨level, text⟩ := Prod.ext_iff.1 same
    cases event with
    | durableFailed other =>
      have names : other.name = method.name :=
        (String.append_right_inj _).1 ((String.append_left_inj _).1 text)
      rw [Method.name_injective names]
    | repairFailed other =>
      have text : "Ensure schema + retry failed during " ++ other.name = _ := text
      simpa [Method.fallbackRecord] using congrArg String.toList text
    | memoryFailed other =>
      have text : "Volatile fallback failed during " ++ other.name = _ := text
      simpa [Method.fallbackRecord] using congrArg String.toList text
    | _ => cases level
  · rintro rfl
    rfl

theorem record_eq_missing :
    event.record name = method.missingRecord ↔ event = .schemaMissing method := by
  constructor
  · intro same
    obtain ⟨level, text⟩ := Prod.ext_iff.1 same
    cases event with
    | schemaMissing other =>
      have names : other.name = method.name :=
        (String.append_right_inj _).1 ((String.append_left_inj _).1 text)
      rw [Method.name_injective names]
    | tablesDropped =>
      have text : "Dropped ledger tables" = _ := text
      simpa [Method.missingRecord] using congrArg String.toList text
    | numberTaken owner attempt attempts =>
      have text : "Account number collision for owner " ++ name owner ++ " (attempt " ++
        toString attempt ++ "/" ++ toString attempts ++ ")" = _ := text
      simpa [Method.missingRecord] using congrArg String.toList text
    | _ => cases level
  · rintro rfl
    rfl

end Event

section Count
variable {name : Uuid → String} {log : List Event} {method : Method}

theorem count_fallback : (log.map (·.record name)).count method.fallbackRecord =
    log.count (.durableFailed method) := by
  simp only [List.count, List.countP_map]
  exact List.countP_congr fun event _ => by simp [Event.record_eq_fallback]

theorem count_missing : (log.map (·.record name)).count method.missingRecord =
    log.count (.schemaMissing method) := by
  simp only [List.count, List.countP_map]
  exact List.countP_congr fun event _ => by simp [Event.record_eq_missing]

theorem Discreet.count_eq_zero {event : Event} (discreet : Discreet log)
    (own : event.source = serviceSource) : log.count event = 0 :=
  List.count_eq_zero.2 fun inside => discreet event inside own

end Count

/-! ## What the last word of a store adds -/

section Surfaced
variable {σ α : Type} {outage : Outage} {event : Event} {o : Outcome σ α}

theorem Outcome.log_surfaced (outage : Outage) (event : Event) (o : Outcome σ α) :
    (o.surfaced outage event).log = o.log ∨ (o.surfaced outage event).log = o.log ++ [event] := by
  unfold surfaced
  split
  · exact .inl rfl
  · exact .inl rfl
  · exact .inr rfl

theorem Outcome.mem_log_surfaced {failure : Failure} (failed : o.result = .error failure)
    (notRefused : ∀ r, failure ≠ .refused r) : event ∈ (o.surfaced outage event).log := by
  unfold surfaced
  split <;> rename_i same <;> rw [failed] at same
  · cases same
  · exact absurd (Except.error.inj same) (notRefused _)
  · exact List.mem_append_right _ (List.mem_singleton_self _)

theorem surface_unavailable {result : Except Failure α} {x : Outage}
    (out : surface outage result = .error (.unavailable x)) :
    ∃ failure, result = .error failure ∧ ∀ r, failure ≠ .refused r := by
  cases result with
  | ok a => cases out
  | error failure =>
    refine ⟨failure, rfl, ?_⟩
    rintro r rfl
    cases out

end Surfaced

/-! ## Stores that write no records of the service -/

def OnceIf (p : Prop) (n : Nat) : Prop := (p → n = 1) ∧ (¬p → n = 0)

theorem OnceIf.once {p : Prop} (holds : p) {n : Nat} (one : n = 1) : OnceIf p n :=
  ⟨fun _ => one, fun fails => absurd holds fails⟩

theorem OnceIf.never {p : Prop} (fails : ¬p) {n : Nat} (zero : n = 0) : OnceIf p n :=
  ⟨fun holds => absurd holds fails, fun _ => zero⟩

/-- What the log of a call tells of the calls of stores that were written down in `trace`, and of
its answer. -/
structure Logged (name : Uuid → String) (method : Method) (trace : List Attempt)
    (result : Except Failure Answer) (log : List Event) : Prop where
  fallback : OnceIf (∃ attempt ∈ trace, attempt.store = .memory)
    ((log.map (·.record name)).count method.fallbackRecord)
  missing : OnceIf (∃ fault, trace.head?.map (·.result) = some (.error (.schemaMissing fault)))
    ((log.map (·.record name)).count method.missingRecord)
  outage : ∀ outage, result = .error (.unavailable outage) → ∃ event ∈ log, event.level = .error
  silent : (∃ answer, trace.head?.map (·.result) = some (.ok answer)) ∨
    (∃ r, trace.head?.map (·.result) = some (.error (.refused r))) → Discreet log

section Past
variable {σ α : Type} {outage : Outage} {mark event : Event} {method : Method} {o : Outcome σ α}
  {front middle log : List Event}

theorem count_past_first {own : Event} (source : own.source = serviceSource) (ne : own ≠ event)
    (parts : log = front ++ [mark] ++ (middle ++ (o.surfaced outage event).log))
    (first : Discreet front) (second : Discreet middle) (last : Discreet o.log) :
    log.count own = [mark].count own := by
  have final : (o.surfaced outage event).log.count own = 0 := by
    rcases o.log_surfaced outage event with same | same
    · rw [same, last.count_eq_zero source]
    · rw [same, List.count_append, last.count_eq_zero source, List.count_singleton,
        if_neg (by simpa using ne.symm)]
  rw [parts, List.count_append, List.count_append, List.count_append, first.count_eq_zero source,
    second.count_eq_zero source, final, Nat.zero_add]
  rfl

end Past

theorem discreet_nil : Discreet [] := nofun

/-! ## The stores of a world -/

theorem Book.run_discreet (terms : BookTerms) (op : Operation) (b : Book) (s : Supply) :
    Discreet (b.run terms op s).log := by
  cases op with
  | createAccount =>
    simp only [run]
    split <;> exact discreet_nil
  | listAccounts =>
    simp only [run]
    split_ifs
    · split
      · exact discreet_nil
      · simp [Discreet, Event.source, serviceSource]
    · exact discreet_nil
  | applyTransaction | createPayee =>
    simp only [run, settle]
    split <;> exact discreet_nil
  | listTransactions | listPayees | deletePayees => exact discreet_nil

theorem Durable.createAccount_discreet {owner : Uuid} {label currency : Option String}
    {opening : Decimal} {attempts left : Nat} {d : Durable} {s : Supply} :
    Discreet (createAccount owner label currency opening attempts left d s).log := by
  induction left generalizing d s with
  | zero => exact discreet_nil
  | succ left ih =>
    simp only [createAccount]
    split
    · exact discreet_nil
    · split
      · exact discreet_nil
      · exact discreet_nil
      · -- the number was taken: one record of the durable store, and the next attempt
        intro event inside
        rcases List.mem_append.1 inside with taken | later
        · simp [List.mem_singleton.1 taken, Event.source, serviceSource]
        · exact ih event later

theorem Durable.run_discreet (attempts : Nat) (vanished : Bool) (op : Operation) (d : Durable)
    (s : Supply) : Discreet (d.run attempts vanished op s).log := by
  cases op with
  | createAccount => exact createAccount_discreet
  | listAccounts | listTransactions | applyTransaction | listPayees | createPayee
    | deletePayees => exact discreet_nil

theorem Durable.ensureTables_discreet (d : Durable) : Discreet d.ensureTables.log := by
  unfold ensureTables
  split
  · simp [Discreet, Event.source, serviceSource]
  · exact discreet_nil

namespace Stores
variable {σ : Type} {stores : Stores σ} {method : Method} {s : σ} {trace : List Attempt}
  {result : Except Failure Answer}

structure AreDiscreet (stores : Stores σ) : Prop where
  durable : ∀ durable ∈ stores.durable, ∀ s, Discreet (durable s).log
  repair : ∀ s, Discreet (stores.repair s).log
  memory : ∀ s, Discreet (stores.memory s).log

theorem logged_first {log : List Event} {name : Uuid → String}
    {first : Except Failure (Option Answer)} (quiet : Discreet log)
    (stands : ∀ fault, first ≠ .error (.schemaMissing fault))
    (served : ∀ outage, result ≠ .error (.unavailable outage)) :
    Logged name method [⟨.durable, first⟩] result log where
  fallback := .never (by simp) (count_fallback.trans (quiet.count_eq_zero rfl))
  missing := .never (by simpa using stands) (count_missing.trans (quiet.count_eq_zero rfl))
  outage x out := absurd out (served x)
  silent _ := quiet

theorem Course.logged (course : Course stores method s trace result)
    (discreet : stores.AreDiscreet) (has : stores.durable.isSome) (name : Uuid → String) :
    Logged name method trace result (stores.serve method s).log := by
  cases course with
  | alone none => simp [none] at has
  | answered some ok =>
    rw [serve_answered some ok]
    exact logged_first (discreet.durable _ some s) nofun nofun
  | refused some refused =>
    rw [serve_refused some refused]
    exact logged_first (discreet.durable _ some s) nofun nofun
  | @unrepaired durable fault failure some missing failed =>
    have parts : (stores.serve method s).log = (durable s).log ++ [.schemaMissing method] ++
        ([] ++ ((stores.repair (durable s).state).surfaced (.afterRepair method)
          (.repairFailed method)).log) := by
      rw [serve_missing some missing, serveAfterRepair_failed failed]
      rfl
    have first := discreet.durable _ some s
    have last := discreet.repair (durable s).state
    refine ⟨.never (by simp) ?_, .once ⟨fault, rfl⟩ ?_, fun x out => ?_, by simp⟩
    · exact count_fallback.trans (count_past_first rfl (by simp) parts first discreet_nil last)
    · rw [count_missing, count_past_first rfl (by simp) parts first discreet_nil last,
        List.count_singleton_self]
    · obtain ⟨_, same, notRefused⟩ := surface_unavailable out
      cases same
      refine ⟨.repairFailed method, parts ▸ List.mem_append_right _ ?_, rfl⟩
      exact Outcome.mem_log_surfaced failed notRefused
  | @retried durable fault some missing repaired =>
    have parts : (stores.serve method s).log = (durable s).log ++ [.schemaMissing method] ++
        ((stores.repair (durable s).state).log ++
          ((durable (stores.repair (durable s).state).state).surfaced (.afterRepair method)
            (.repairFailed method)).log) := by
      rw [serve_missing some missing, serveAfterRepair_retried repaired]
      rfl
    have first := discreet.durable _ some s
    have second := discreet.repair (durable s).state
    have last := discreet.durable _ some (stores.repair (durable s).state).state
    refine ⟨.never (by simp) ?_, .once ⟨fault, rfl⟩ ?_, fun x out => ?_, by simp⟩
    · exact count_fallback.trans (count_past_first rfl (by simp) parts first second last)
    · rw [count_missing, count_past_first rfl (by simp) parts first second last,
        List.count_singleton_self]
    · obtain ⟨failure, failed, notRefused⟩ := surface_unavailable out
      refine ⟨.repairFailed method, parts ▸ List.mem_append_right _ ?_, rfl⟩
      exact List.mem_append_right _ (Outcome.mem_log_surfaced failed notRefused)
  | @fallen durable failure some failed notRefused notMissing =>
    have parts : (stores.serve method s).log = (durable s).log ++ [.durableFailed method] ++
        ([] ++ ((stores.memory (durable s).state).surfaced (.noStore method)
          (.memoryFailed method)).log) := by
      rw [serve_fallen some failed notRefused notMissing]
      rfl
    have first := discreet.durable _ some s
    have last := discreet.memory (durable s).state
    refine ⟨.once (by simp) ?_, .never (by simpa using notMissing) ?_, fun x out => ?_,
      by simp [notRefused]⟩
    · rw [count_fallback, count_past_first rfl (by simp) parts first discreet_nil last,
        List.count_singleton_self]
    · exact count_missing.trans (count_past_first rfl (by simp) parts first discreet_nil last)
    · exact ⟨.durableFailed method, parts ▸ by simp, rfl⟩

end Stores

namespace World
variable (terms : Terms) (op : Operation)

theorem callMemory_discreet (w : World) : Discreet (callMemory terms op w).log := by
  obtain ⟨script, ⟨failure, eq⟩ | eq⟩ := callMemory_eq terms op w
  · rw [eq]
    exact discreet_nil
  · rw [eq]
    exact Book.run_discreet terms.forBook op w.book w.supply

theorem tryDurable_discreet (w : World) : Discreet (tryDurable terms op w).log := by
  cases has : w.durable with
  | none =>
    simp only [tryDurable, has]
    exact discreet_nil
  | some d =>
    rw [tryDurable_eq terms op w has]
    obtain ⟨script, ⟨failure, eq⟩ | ⟨vanished, eq⟩⟩ := callDurable_eq terms op w d
    · rw [eq]
      exact discreet_nil
    · rw [eq]
      exact Durable.run_discreet terms.attempts vanished op d w.supply

theorem repair_discreet (w : World) : Discreet (repair w).log := by
  cases has : w.durable with
  | none =>
    simp only [repair, has, scripted]
    split <;> exact discreet_nil
  | some d =>
    obtain ⟨script, ⟨failure, eq⟩ | eq⟩ := repair_eq w has
    · rw [eq]
      exact discreet_nil
    · rw [eq]
      exact d.ensureTables_discreet

theorem stores_discreet (w : World) : (w.stores terms op).AreDiscreet where
  durable := by
    intro durable has s
    cases none : w.durable <;> simp only [stores, none, Option.map_none, Option.map_some] at has
    · cases has
    · cases has
      exact tryDurable_discreet terms op s
  repair := repair_discreet
  memory := callMemory_discreet terms op

variable {op}

/-- No failure of a store goes unnoticed. A call that is turned away calls no store and logs
nothing; any other call logs the course that it takes, whatever the stores hold, whatever failures
are scripted, and however owners are named. -/
theorem perform_logged (name : Uuid → String) (book : Book) (d : Durable) (supply : Supply)
    (script : Script) (call : Call) :
    let w : World := ⟨book, some d, supply, script⟩
    let served := w.perform terms call
    (∀ failure, call.operation terms = .error failure →
      served.calls = [] ∧ served.log = [] ∧
        ∀ outage, served.result ≠ .error (.unavailable outage)) ∧
    ∀ op, call.operation terms = .ok op → ∃ trace,
      (w.stores terms op).watched.serve op.method (w, []) = served.within (·, trace) ∧
        served.calls = trace.map (·.store) ∧
        Logged name op.method trace served.result served.log := by
  intro w served
  refine ⟨fun failure invalid => ?_, fun op valid => ?_⟩
  · have turned : served = ⟨.error failure, w, [], []⟩ := by simp only [served, perform, invalid]
    rw [turned]
    refine ⟨rfl, rfl, fun outage out => ?_⟩
    cases out
    rcases call.operation_cases terms with ⟨-, ⟨op, valid⟩ | ⟨r, refused⟩⟩ | ⟨-, fault, broken⟩
    · cases invalid.symm.trans valid
    · cases invalid.symm.trans refused
    · cases invalid.symm.trans broken
  · have same : served = (w.stores terms op).serve op.method w := by
      simp only [served, perform, valid, serve]
    obtain ⟨trace, ran, calls, course⟩ := (w.stores terms op).watched_serve op.method w
    rw [same]
    exact ⟨trace, ran, calls, course.logged (stores_discreet terms op w) rfl name⟩

theorem perform_logged_outage :
    let down : List Fault := [.fails (.unavailable .storeFailed)]
    let w : World := ⟨.empty, some ⟨Database.empty, []⟩, ⟨0, 0, 0, id⟩,
      ⟨fun _ => down, fun _ => down, []⟩⟩
    let served := w.perform .standard (.listPayees ⟨1⟩)
    served.result = .error (.unavailable (.noStore .listPayees)) ∧
      served.calls = [.durable, .memory] ∧
      (served.log.map (·.record Uuid.text)).count Method.listPayees.fallbackRecord = 1 ∧
      ∃ event ∈ served.log, event.level = .error := by
  intro down w served
  have result : served.result = .error (.unavailable (.noStore .listPayees)) := by decide +kernel
  have calls : served.calls = [.durable, .memory] := by decide +kernel
  obtain ⟨trace, -, called, logged⟩ := (perform_logged .standard Uuid.text .empty
    ⟨Database.empty, []⟩ ⟨0, 0, 0, id⟩ w.script (.listPayees ⟨1⟩)).2 (.listPayees ⟨1⟩) rfl
  have stores : trace.map (·.store) = [.durable, .memory] := called.symm.trans calls
  have fallen : ∃ attempt ∈ trace, attempt.store = .memory := by
    rw [← List.mem_map, stores]
    decide
  exact ⟨result, calls, logged.fallback.1 fallen, logged.outage _ result⟩

end World

end Passbook
