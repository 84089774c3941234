import Passbook.Proofs.Service.World

/-!
# Which stores a call turns to

- `Stores.watched`: the same stores, with every call of one written down with what came of it
- `Stores.Course`: the courses that a call can take, with what is written down and what is answered
- `Selection`: the protocol, as a property of what is written down and of the answer
- `World.perform_selection`: a call that is not turned away follows it, whatever the stores do
-/

namespace Passbook

/-- A call of a store and what came of it. A repair that succeeds gives no answer. -/
structure Attempt where
  store : StoreCall
  result : Except Failure (Option Answer)

def Served.within {σ τ : Type} (r : Served σ) (enter : σ → τ) : Served τ :=
  ⟨r.result, enter r.state, r.log, r.calls⟩

/-- The protocol, for a call with or without a durable store, what was written down of its calls
of the stores and what it answered. -/
structure Selection (method : Method) (durable : Bool) (trace : List Attempt)
    (result : Except Failure Answer) : Prop where
  alone : durable = false → ∃ only, trace = [⟨.memory, only⟩]
  first : durable = true → ∃ first rest, trace = ⟨.durable, first⟩ :: rest ∧
    match first with
    | .ok _ | .error (.refused _) => rest = []
    | .error (.schemaMissing _) =>
      (∃ failure, rest = [⟨.repair, .error failure⟩]) ∨
        ∃ retry, rest = [⟨.repair, .ok none⟩, ⟨.durable, retry⟩]
    | .error _ => ∃ fallback, rest = [⟨.memory, fallback⟩]
  refusal : ∀ r, (∃ attempt ∈ trace, attempt.result = .error (.refused r)) ↔
    result = .error (.refused r)
  answer : ∀ a, (∃ attempt ∈ trace, attempt.result = .ok (some a)) ↔ result = .ok a
  outage : ∀ failure, result = .error failure → (∃ r, failure = .refused r) ∨
    failure = .unavailable (.noStore method) ∨ failure = .unavailable (.afterRepair method)

section Surfaced
variable {σ τ α : Type}

def surface (outage : Outage) : Except Failure α → Except Failure α
  | .ok a => .ok a
  | .error (.refused r) => .error (.refused r)
  | .error _ => .error (.unavailable outage)

theorem Outcome.surfaced_result (outage : Outage) (event : Event) (o : Outcome σ α) :
    (o.surfaced outage event).result = surface outage o.result := by
  obtain ⟨result, state, log⟩ := o
  cases result with
  | ok a => rfl
  | error failure => cases failure <;> rfl

theorem Outcome.surfaced_within (outage : Outage) (event : Event) (o : Outcome σ α)
    (enter : σ → τ) :
    (o.within enter).surfaced outage event = (o.surfaced outage event).within enter := by
  obtain ⟨result, state, log⟩ := o
  cases result with
  | ok a => rfl
  | error failure => cases failure <;> rfl

theorem surface_eq_ok {outage : Outage} {result : Except Failure α} {a : α} :
    surface outage result = .ok a ↔ result = .ok a := by
  unfold surface
  split <;> simp

theorem surface_eq_refused {outage : Outage} {result : Except Failure α} {r : Refusal} :
    surface outage result = .error (.refused r) ↔ result = .error (.refused r) := by
  unfold surface
  split <;> simp_all

theorem surface_eq_error {outage : Outage} {result : Except Failure α} {failure : Failure}
    (h : surface outage result = .error failure) :
    (∃ r, failure = .refused r) ∨ failure = .unavailable outage := by
  unfold surface at h
  split at h <;> cases h
  · exact .inl ⟨_, rfl⟩
  · exact .inr rfl

theorem map_some_eq_ok {result : Except Failure α} {a : α} :
    result.map some = .ok (some a) ↔ result = .ok a := by
  cases result <;> simp [Except.map]

theorem map_eq_error {β : Type} {f : α → β} {result : Except Failure α} {failure : Failure} :
    result.map f = .error failure ↔ result = .error failure := by
  cases result <;> simp [Except.map]

end Surfaced

namespace Stores
variable {σ α : Type}

/-! ## What a call does, by how the durable store met it -/

section Serve
variable {stores : Stores σ} {method : Method} {durable : σ → Outcome σ Answer} {s : σ}

theorem serve_alone (none : stores.durable = none) :
    stores.serve method s = (stores.serveFromMemory method s).after [.noDurableStore method] [] := by
  rw [serve, none]

theorem serve_answered (some : stores.durable = some durable) {a : Answer}
    (ok : (durable s).result = .ok a) : stores.serve method s = .ofOutcome (durable s) [.durable] := by
  simp only [serve, some, ok]

theorem serve_refused (some : stores.durable = some durable) {r : Refusal}
    (refused : (durable s).result = .error (.refused r)) :
    stores.serve method s = .ofOutcome (durable s) [.durable] := by
  simp only [serve, some, refused]

theorem serve_missing (some : stores.durable = some durable) {fault : SchemaFault}
    (missing : (durable s).result = .error (.schemaMissing fault)) :
    stores.serve method s = (stores.serveAfterRepair durable method (durable s).state).after
      ((durable s).log ++ [.schemaMissing method]) [.durable] := by
  simp only [serve, some, missing]

theorem serve_fallen (some : stores.durable = some durable) {failure : Failure}
    (failed : (durable s).result = .error failure) (notRefused : ∀ r, failure ≠ .refused r)
    (notMissing : ∀ fault, failure ≠ .schemaMissing fault) :
    stores.serve method s = (stores.serveFromMemory method (durable s).state).after
      ((durable s).log ++ [.durableFailed method]) [.durable] := by
  simp only [serve, some, failed]

theorem serveFromMemory_result :
    (stores.serveFromMemory method s).result = surface (.noStore method) (stores.memory s).result :=
  Outcome.surfaced_result ..

theorem serveAfterRepair_failed {failure : Failure}
    (failed : (stores.repair s).result = .error failure) :
    stores.serveAfterRepair durable method s =
      ⟨surface (.afterRepair method) (.error failure), (stores.repair s).state,
        ((stores.repair s).surfaced (.afterRepair method) (.repairFailed method)).log,
        [.repair]⟩ := by
  cases failure <;> simp only [serveAfterRepair, Outcome.surfaced, failed, surface]

theorem serveAfterRepair_retried (repaired : (stores.repair s).result = .ok ()) :
    stores.serveAfterRepair durable method s =
      (Served.ofOutcome ((durable (stores.repair s).state).surfaced (.afterRepair method)
        (.repairFailed method)) [.durable]).after (stores.repair s).log [.repair] := by
  simp only [serveAfterRepair, Outcome.surfaced_of_ok repaired, repaired]

end Serve

/-! ## Writing down the calls -/

def noted (store : StoreCall) (answer : α → Option Answer) (call : σ → Outcome σ α)
    (s : σ × List Attempt) : Outcome (σ × List Attempt) α :=
  let o := call s.1
  o.within fun after => (after, s.2 ++ [⟨store, o.result.map answer⟩])

/-- The same stores, with the calls written down as they are made. -/
def watched (stores : Stores σ) : Stores (σ × List Attempt) where
  durable := stores.durable.map (noted .durable some)
  repair := noted .repair (fun _ => none) stores.repair
  memory := noted .memory some stores.memory

inductive Course (stores : Stores σ) (method : Method) (s : σ) :
    List Attempt → Except Failure Answer → Prop
  | alone (none : stores.durable = none) :
      Course stores method s [⟨.memory, (stores.memory s).result.map some⟩]
        (surface (.noStore method) (stores.memory s).result)
  | answered {durable a} (some : stores.durable = some durable)
      (ok : (durable s).result = .ok a) :
      Course stores method s [⟨.durable, .ok (.some a)⟩] (.ok a)
  | refused {durable r} (some : stores.durable = some durable)
      (refused : (durable s).result = .error (.refused r)) :
      Course stores method s [⟨.durable, .error (.refused r)⟩] (.error (.refused r))
  | unrepaired {durable fault failure} (some : stores.durable = some durable)
      (missing : (durable s).result = .error (.schemaMissing fault))
      (failed : (stores.repair (durable s).state).result = .error failure) :
      Course stores method s [⟨.durable, .error (.schemaMissing fault)⟩, ⟨.repair, .error failure⟩]
        (surface (.afterRepair method) (.error failure))
  | retried {durable fault} (some : stores.durable = some durable)
      (missing : (durable s).result = .error (.schemaMissing fault))
      (repaired : (stores.repair (durable s).state).result = .ok ()) :
      Course stores method s
        [⟨.durable, .error (.schemaMissing fault)⟩, ⟨.repair, .ok none⟩,
          ⟨.durable, (durable (stores.repair (durable s).state).state).result.map .some⟩]
        (surface (.afterRepair method) (durable (stores.repair (durable s).state).state).result)
  | fallen {durable failure} (some : stores.durable = some durable)
      (failed : (durable s).result = .error failure)
      (notRefused : ∀ r, failure ≠ .refused r) (notMissing : ∀ fault, failure ≠ .schemaMissing fault) :
      Course stores method s
        [⟨.durable, .error failure⟩, ⟨.memory, (stores.memory (durable s).state).result.map .some⟩]
        (surface (.noStore method) (stores.memory (durable s).state).result)

section Watched
variable (stores : Stores σ) (method : Method) (s : σ) (before : List Attempt)

theorem watched_memory :
    stores.watched.serveFromMemory method (s, before) =
      (stores.serveFromMemory method s).within fun after =>
        (after, before ++ [⟨.memory, (stores.memory s).result.map some⟩]) := by
  simp only [serveFromMemory, watched, noted, Outcome.surfaced_within]
  rfl

theorem watched_failed (durable : σ → Outcome σ Answer) {failure : Failure}
    (failed : (stores.repair s).result = .error failure) :
    stores.watched.serveAfterRepair (noted .durable some durable) method (s, before) =
      (stores.serveAfterRepair durable method s).within
        (·, before ++ [⟨.repair, .error failure⟩]) := by
  have failedWatched : (stores.watched.repair (s, before)).result = .error failure := failed
  rw [serveAfterRepair_failed failed, serveAfterRepair_failed failedWatched]
  simp only [watched, noted, Outcome.surfaced_within, failed, Except.map]
  rfl

theorem watched_retried (durable : σ → Outcome σ Answer)
    (repaired : (stores.repair s).result = .ok ()) :
    stores.watched.serveAfterRepair (noted .durable some durable) method (s, before) =
      (stores.serveAfterRepair durable method s).within (·, before ++ [⟨.repair, .ok none⟩,
        ⟨.durable, (durable (stores.repair s).state).result.map some⟩]) := by
  have repairedWatched : (stores.watched.repair (s, before)).result = .ok () := repaired
  rw [serveAfterRepair_retried repaired, serveAfterRepair_retried repairedWatched]
  simp only [watched, noted, Outcome.surfaced_within, repaired]
  simp only [Served.within, Served.after, Served.ofOutcome, Outcome.within, Outcome.surfaced_state,
    List.append_assoc, List.cons_append, List.nil_append, Except.map]

theorem watched_serve : ∃ trace,
    stores.watched.serve method (s, []) = (stores.serve method s).within (·, trace) ∧
      (stores.serve method s).calls = trace.map (·.store) ∧
      Course stores method s trace (stores.serve method s).result := by
  cases has : stores.durable with
  | none =>
    have hasWatched : stores.watched.durable = none := by simp only [watched, has, Option.map_none]
    have course : Course stores method s _ _ := .alone has
    rw [serve_alone hasWatched, serve_alone has, watched_memory]
    exact ⟨_, rfl, rfl, serveFromMemory_result ▸ course⟩
  | some durable =>
    have hasWatched : stores.watched.durable = some (noted .durable some durable) := by
      simp only [watched, has, Option.map_some]
    cases met : (durable s).result with
    | ok a =>
      have metWatched : (noted .durable some durable (s, [])).result = .ok a := met
      rw [serve_answered hasWatched metWatched, serve_answered has met]
      have course : Course stores method s _ _ := .answered has met
      refine ⟨[⟨.durable, (durable s).result.map some⟩], rfl, rfl, ?_⟩
      rw [Served.ofOutcome_result, met]
      exact course
    | error failure =>
      have metWatched : (noted .durable some durable (s, [])).result = .error failure := met
      have written : (noted .durable some durable (s, [])).state =
          ((durable s).state, [⟨.durable, .error failure⟩]) := by
        simp only [noted, Outcome.within, met, Except.map, List.nil_append]
      by_cases refused : ∃ r, failure = .refused r
      · obtain ⟨r, rfl⟩ := refused
        have course : Course stores method s _ _ := .refused has met
        rw [serve_refused hasWatched metWatched, serve_refused has met]
        refine ⟨[⟨.durable, (durable s).result.map some⟩], rfl, rfl, ?_⟩
        rw [Served.ofOutcome_result, met]
        exact course
      by_cases missing : ∃ fault, failure = .schemaMissing fault
      · obtain ⟨fault, rfl⟩ := missing
        rw [serve_missing hasWatched metWatched, serve_missing has met, written]
        cases repaired : (stores.repair (durable s).state).result with
        | error failure =>
          have course : Course stores method s _ _ := .unrepaired has met repaired
          rw [watched_failed _ _ _ _ durable repaired, serveAfterRepair_failed repaired]
          exact ⟨_, rfl, rfl, course⟩
        | ok _ =>
          have course : Course stores method s _ _ := .retried has met repaired
          rw [watched_retried _ _ _ _ durable repaired, serveAfterRepair_retried repaired]
          refine ⟨_, rfl, rfl, ?_⟩
          rw [Served.after_result, Served.after_result, Served.ofOutcome_result,
            Outcome.surfaced_result]
          exact course
      · rw [not_exists] at refused missing
        have course : Course stores method s _ _ := .fallen has met refused missing
        rw [serve_fallen hasWatched metWatched refused missing,
          serve_fallen has met refused missing, written, watched_memory]
        exact ⟨_, rfl, rfl, serveFromMemory_result ▸ course⟩

end Watched

namespace Course
variable {stores : Stores σ} {method : Method} {s : σ} {trace : List Attempt}
  {result : Except Failure Answer}

theorem refusal (course : Course stores method s trace result) (r : Refusal) :
    (∃ attempt ∈ trace, attempt.result = .error (.refused r)) ↔ result = .error (.refused r) := by
  cases course with
  | fallen has met notRefused => simp [surface_eq_refused, map_eq_error, notRefused]
  | _ => simp [surface_eq_refused, map_eq_error]

theorem answer (course : Course stores method s trace result) (a : Answer) :
    (∃ attempt ∈ trace, attempt.result = .ok (some a)) ↔ result = .ok a := by
  cases course <;> simp [surface_eq_ok, map_some_eq_ok]

theorem outage (course : Course stores method s trace result) {failure : Failure}
    (failed : result = .error failure) : (∃ r, failure = .refused r) ∨
      failure = .unavailable (.noStore method) ∨ failure = .unavailable (.afterRepair method) := by
  cases course with
  | alone | fallen => exact (surface_eq_error failed).imp_right .inl
  | unrepaired | retried => exact (surface_eq_error failed).imp_right .inr
  | answered => cases failed
  | refused => exact .inl ⟨_, (Except.error.inj failed).symm⟩

theorem selection (course : Course stores method s trace result) :
    Selection method stores.durable.isSome trace result where
  alone without := by
    cases course with
    | alone => exact ⟨_, rfl⟩
    | answered has | refused has | unrepaired has | retried has | fallen has =>
      rw [has] at without
      cases without
  first has := by
    cases course with
    | alone none =>
      rw [none] at has
      cases has
    | answered | refused => exact ⟨_, _, rfl, rfl⟩
    | unrepaired => exact ⟨_, _, rfl, .inl ⟨_, rfl⟩⟩
    | retried => exact ⟨_, _, rfl, .inr ⟨_, rfl⟩⟩
    | fallen _ _ notRefused notMissing =>
      refine ⟨_, _, rfl, ?_⟩
      split <;> rename_i same
      · cases same
      · exact absurd (Except.error.inj same) (notRefused _)
      · exact absurd (Except.error.inj same) (notMissing _)
      · exact ⟨_, rfl⟩
  refusal := course.refusal
  answer := course.answer
  outage _ := course.outage

end Course

end Stores

namespace World

/-- A call that is not turned away is served by the protocol, with a durable store if the world has
one. Whatever the stores do, the calls of them that it makes are in order, and its answer is that of
the last one. -/
theorem perform_selection {terms : Terms} {call : Call} {op : Operation}
    (valid : call.operation terms = .ok op) :
    (∀ w : World, w.perform terms call = (w.stores terms op).serve op.method w ∧
        (w.stores terms op).durable.isSome = w.durable.isSome) ∧
      ∀ (σ : Type) (stores : Stores σ) (s : σ), ∃ trace,
        let served := stores.serve op.method s
        stores.watched.serve op.method (s, []) = served.within (·, trace) ∧
          served.calls = trace.map (·.store) ∧
          Selection op.method stores.durable.isSome trace served.result := by
  refine ⟨fun w => ⟨?_, Option.isSome_map⟩, fun σ stores s => ?_⟩
  · simp only [perform, valid, serve]
  · obtain ⟨trace, ran, calls, course⟩ := stores.watched_serve op.method s
    exact ⟨trace, ran, calls, course.selection⟩

theorem perform_selection_retried :
    let call := Call.applyTransaction ⟨1⟩ ⟨2⟩ (some (.ofCents 500)) (some "debit") none none
    let op := Operation.applyTransaction ⟨1⟩ ⟨2⟩ (.ofCents 500) none .debit (some "")
    let w : World := ⟨.empty, some ⟨.empty, []⟩, ⟨0, 0, 0, id⟩, .empty⟩
    let served := w.perform .standard call
    call.operation .standard = .ok op ∧ served.result = refuse (.accountNotFound ⟨2⟩) ∧
      ∃ trace : List Attempt, trace.map (·.store) = [.durable, .repair, .durable] ∧
        Selection .applyTransaction w.durable.isSome trace served.result := by
  intro call op w served
  have valid : call.operation .standard = .ok op := by decide +kernel
  obtain ⟨same, has⟩ := (perform_selection valid).1 w
  obtain ⟨trace, -, calls, selection⟩ := (perform_selection valid).2 World (w.stores .standard op) w
  rw [← same, has] at selection
  rw [← same] at calls
  have order : served.calls = [.durable, .repair, .durable] := by decide +kernel
  exact ⟨valid, by decide +kernel, trace, calls.symm.trans order, selection⟩

end World

end Passbook
