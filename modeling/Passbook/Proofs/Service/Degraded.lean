import Passbook.Proofs.Owner.Isolation

/-!
# A database that can never be opened

The memory store then serves every call, as it does where there is no database. What the attempts at
the database take from the supply is lost, so that the two services give out different identifiers,
account numbers and moments.
-/

namespace Passbook
open Supply (Aligned Tracked)

/-! ## What an operation draws -/

namespace Supply
variable {s t : Supply}

theorem later_wasted (s : Supply) (draws : Nat) : Later s (s.wasted draws) :=
  ⟨rfl, Nat.le_add_right _ _, rfl, Nat.le_succ _, Nat.le_add_right _ _⟩

theorem advanced_wasted (s t : Supply) (draws : Nat) :
    s.advanced t (t.wasted draws) = s.wasted draws := by
  simp [advanced, wasted, Clock.after, Clock.next]

theorem findNumber_first {taken : String → Bool} (attempts : Nat)
    (free : taken s.drawNumber.1 = false) :
    s.findNumber taken attempts =
      if attempts = 0 then (none, s) else (some s.drawNumber.1, s.drawNumber.2) := by
  cases attempts with
  | zero => rfl
  | succ attempts =>
    simp only [findNumber, free, Bool.false_eq_true, if_false, Nat.add_eq_zero_iff, and_false,
      one_ne_zero]

/-- The supply after an attempt at a database that cannot be opened. Opening an account fails before
anything is taken if there are no attempts at a number. -/
def tried (s : Supply) (attempts : Nat) (method : Method) : Supply :=
  if attempts = 0 ∧ method = .createAccount then s else s.wasted method.draws

theorem later_tried (s : Supply) (attempts : Nat) (method : Method) :
    Later s (s.tried attempts method) := by
  unfold tried
  split_ifs
  · exact .refl s
  · exact s.later_wasted _

end Supply

namespace Book
variable {ρ : Renaming} {b b' : Book} {terms : BookTerms} {op : Operation} {s : Supply}

def draws (terms : BookTerms) (b : Book) : Operation → Nat
  | .createAccount .. => min terms.attempts 1
  | .listAccounts owner =>
    if (b.shelf owner).accounts.isEmpty then min terms.attempts 1 else 0
  | _ => 0

def notes (terms : BookTerms) (b : Book) (op : Operation) : List Event :=
  match op with
  | .listAccounts owner => List.replicate (b.draws terms op) (.defaultAccount owner)
  | _ => []

theorem run_taken (terms : BookTerms) (op : Operation) (free : b.isTaken s.drawNumber.1 = false) :
    (b.run terms op s).state.2 = s.wasted (b.draws terms op) ∧
      (b.run terms op s).log = b.notes terms op := by
  have found := Supply.findNumber_first (s := s.stamp.2) terms.attempts free
  cases op with
  | createAccount owner label currency opening =>
    simp only [run, found, draws, notes]
    split_ifs with none
    · simp [none, Supply.wasted, Supply.stamp]
    · simp [Nat.min_eq_right (Nat.pos_of_ne_zero none), Supply.wasted, Supply.stamp,
        Supply.drawNumber]
  | listAccounts owner =>
    simp only [run, found, draws, notes]
    split_ifs with bare none
    · simp [none, Supply.wasted, Supply.stamp]
    · simp [Nat.min_eq_right (Nat.pos_of_ne_zero none), Supply.wasted, Supply.stamp,
        Supply.drawNumber]
    · simp [Supply.wasted, Supply.stamp]
  | applyTransaction | createPayee => simp only [run, settle]; split <;> exact ⟨rfl, rfl⟩
  | listTransactions | listPayees | deletePayees => exact ⟨rfl, rfl⟩

theorem draws_mirrors (terms : BookTerms) (h : Mirrors ρ op.owner b b') (f : Uuid → Uuid) :
    b'.draws terms (op.renamed f) = b.draws terms op ∧
      b'.notes terms (op.renamed f) = b.notes terms op := by
  cases op with
  | listAccounts owner =>
    replace h : Mirrors ρ owner b b' := h
    have bare : (b'.shelf owner).accounts.isEmpty = (b.shelf owner).accounts.isEmpty := by
      rw [h.accounts, List.isEmpty_map]
    simp only [Operation.renamed, draws, notes, bare, and_self]
  | createAccount | listTransactions | applyTransaction | listPayees | createPayee
  | deletePayees => exact ⟨rfl, rfl⟩

theorem run_shelf_other (terms : BookTerms) (b : Book) (s : Supply) (checked : op.Checked)
    {owner : Uuid} (ne : owner ≠ op.owner) :
    (b.run terms op s).state.1.shelf owner = b.shelf owner :=
  have does : Does terms s.stamp.1 b op _ _ := run_does checked
  does.shelf_other ne

end Book

/-! ## One call -/

theorem Operation.Checked.renamed {op : Operation} (checked : op.Checked) (f : Uuid → Uuid) :
    (op.renamed f).Checked := by
  cases op <;> exact checked

def Event.degraded : Event → Event
  | .noDurableStore method => .durableFailed method
  | event => event

theorem Book.notes_degraded (terms : BookTerms) (b : Book) (op : Operation) :
    (b.notes terms op).map Event.degraded = b.notes terms op := by
  cases op <;> simp [notes, Event.degraded]

theorem Outcome.surfaced_log {ρ : Renaming} {o o' : Outcome World Answer} (method : Method)
    (result : o'.result = ρ.result o.result) (log : o'.log = o.log.map Event.degraded) :
    (o'.surfaced (.noStore method) (.memoryFailed method)).log =
      (o.surfaced (.noStore method) (.memoryFailed method)).log.map Event.degraded := by
  rcases o with ⟨x, state, events⟩
  rcases o' with ⟨x', state', events'⟩
  simp only at result log
  subst result log
  cases x with
  | ok answer => rfl
  | error failure =>
    cases failure with
    | refused refusal => rfl
    | schemaMissing | unavailable | timedOut | system | driver | breakdown | arithmetic =>
      simp [Outcome.surfaced, Renaming.result, Renaming.failure, Event.degraded]

namespace World
variable {ρ : Renaming} {v w : World} {terms : Terms} {op : Operation}

theorem tryDurable_closed (terms : Terms) (quiet : w.script = .empty)
    (closed : w.durable = some ⟨.unreachable, []⟩) (checked : op.Checked) :
    ∃ outage, tryDurable terms op w = ⟨.error (.unavailable outage),
      { w with supply := w.supply.tried terms.attempts op.method }, []⟩ := by
  rcases w with ⟨book, durable, s, script⟩
  cases closed
  cases quiet
  rw [tryDurable_eq _ _ _ rfl, callDurable_quiet rfl]
  by_cases untried : terms.attempts = 0 ∧ op.method = .createAccount
  · refine ⟨.noFreeNumber, ?_⟩
    cases op <;> cases untried.2
    simp only [untried.1, Durable.run, Durable.createAccount, Outcome.within, Supply.tried,
      Operation.method, and_self, if_true]
  · have tries : terms.attempts ≠ 0 ∨ op.method ≠ .createAccount := by
      rwa [← not_and_or]
    refine ⟨.storeFailed, ?_⟩
    rw [Durable.run_bare ⟨rfl, rfl, rfl⟩ checked tries]
    simp only [Outcome.within, Supply.tried, if_neg untried]
    rfl

theorem serve_closed (quiet : w.script = .empty) (closed : w.durable = some ⟨.unreachable, []⟩)
    (checked : op.Checked) :
    w.serve terms op = ((w.stores terms op).serveFromMemory op.method
      { w with supply := w.supply.tried terms.attempts op.method }).after
        [.durableFailed op.method] [.durable] := by
  obtain ⟨outage, failed⟩ := tryDurable_closed terms quiet closed checked
  simp only [serve, Stores.serve, stores_durable closed, failed, List.nil_append]

/-- The service `w`, whose database can never be opened, holds in memory what `v` holds, which has
none. -/
structure Follows (ρ : Renaming) (v w : World) : Prop where
  alone : v.durable = none
  closed : w.durable = some ⟨.unreachable, []⟩
  quiet : v.script = .empty
  quiet' : w.script = .empty
  numbered : v.Numbered
  numbered' : w.Numbered
  book : ∀ owner, Book.Mirrors ρ owner v.book w.book

theorem callMemory_follows (follows : Follows ρ v w) (checked : op.Checked)
    (aligned : Aligned ρ v.supply w.supply (w.supply.wasted (v.book.draws terms.forBook op))) :
    let o := callMemory terms op v
    let o' := callMemory terms (op.renamed ρ.id) w
    o'.result = ρ.result o.result ∧ o'.log = o.log.map Event.degraded ∧
      Follows ρ o.state o'.state ∧
      o.state.supply = v.supply.wasted (v.book.draws terms.forBook op) ∧
      o'.state.supply = w.supply.wasted (v.book.draws terms.forBook op) := by
  have numbered := callMemory_numbered terms op follows.numbered
  have numbered' := callMemory_numbered terms (op.renamed ρ.id) follows.numbered'
  have free := follows.numbered.book.free follows.numbered.draws
  have free' := follows.numbered'.book.free follows.numbered'.draws
  obtain ⟨draws, notes⟩ := Book.draws_mirrors terms.forBook (follows.book op.owner) ρ.id
  obtain ⟨taken, written⟩ := Book.run_taken terms.forBook op free
  obtain ⟨taken', written'⟩ := Book.run_taken terms.forBook (op.renamed ρ.id) free'
  rw [draws] at taken'
  rw [notes] at written'
  obtain ⟨result, own, -⟩ := Book.run_mirrors (follows.book op.owner) rfl free free'
    (.start aligned) (by rw [taken']; exact .refl _)
  rw [callMemory_quiet follows.quiet] at numbered ⊢
  rw [callMemory_quiet follows.quiet'] at numbered' ⊢
  refine ⟨result, ?_, ⟨follows.alone, follows.closed, follows.quiet, follows.quiet', numbered,
    numbered', fun owner => ?_⟩, taken, taken'⟩
  · simp only [Outcome.within, written, written', Book.notes_degraded]
  · by_cases same : owner = op.owner
    · rw [same]
      exact own
    · have kept := Book.run_shelf_other terms.forBook v.book v.supply checked same
      have kept' := Book.run_shelf_other terms.forBook w.book w.supply (checked.renamed ρ.id)
        (op.renamed_owner ρ.id ▸ same)
      simp only [Outcome.within, Book.Mirrors, kept, kept']
      exact follows.book owner

theorem Follows.tried (follows : Follows ρ v w) (attempts : Nat) (method : Method) :
    Follows ρ v { w with supply := w.supply.tried attempts method } := by
  have later := w.supply.later_tried attempts method
  refine ⟨follows.alone, follows.closed, follows.quiet, follows.quiet', follows.numbered,
    ⟨?_, follows.numbered'.book.later later,
      fun d durable => (follows.numbered'.durable d durable).later later⟩, follows.book⟩
  rw [later.draw]
  exact follows.numbered'.draws

/-- What a call takes from the supply, where no number that is drawn is in use: an attempt at the
database, if there is one, and then a stamp and so many draws. -/
structure Toll where
  method : Method
  draws : Nat

def Toll.of (terms : Terms) (w : World) (op : Operation) : Toll :=
  ⟨op.method, w.book.draws terms.forBook op⟩

theorem Follows.toll (follows : Follows ρ v w) (terms : Terms) (op : Operation) :
    Toll.of terms w (op.renamed ρ.id) = Toll.of terms v op := by
  rw [Toll.of, Toll.of, Operation.renamed_method,
    (Book.draws_mirrors terms.forBook (follows.book op.owner) ρ.id).1]

theorem serve_follows (follows : Follows ρ v w) (checked : op.Checked)
    (aligned : Aligned ρ v.supply (w.supply.tried terms.attempts op.method)
      ((w.supply.tried terms.attempts op.method).wasted (Toll.of terms v op).draws)) :
    let served := v.serve terms op
    let served' := w.serve terms (op.renamed ρ.id)
    served'.result = ρ.result served.result ∧ served'.log = served.log.map Event.degraded ∧
      Follows ρ served.state served'.state ∧
      served.state.supply = v.supply.wasted (Toll.of terms v op).draws ∧
      served'.state.supply =
        (w.supply.tried terms.attempts op.method).wasted (Toll.of terms v op).draws := by
  obtain ⟨result, log, after, taken, taken'⟩ :=
    callMemory_follows (follows.tried terms.attempts op.method) checked aligned
  rw [serve_memory follows.alone, serve_closed follows.quiet' follows.closed
    (checked.renamed ρ.id)]
  simp only [Stores.serveFromMemory, stores, Operation.renamed_method, Served.after_result,
    Served.after_state, Served.ofOutcome_result, Served.ofOutcome_state, Outcome.surfaced_state]
  refine ⟨surfaced_renamed _ _ result, ?_, after, taken, taken'⟩
  simp only [Served.after, Served.ofOutcome, List.map_append, List.map_cons, List.map_nil,
    Event.degraded, Outcome.surfaced_log op.method result log]

/-! ## Runs -/

def tolls (terms : Terms) : List Call → World → List Toll
  | [], _ => []
  | call :: calls, w =>
    let rest := tolls terms calls (w.perform terms call).state
    match call.operation terms with
    | .error _ => rest
    | .ok op => .of terms w op :: rest

/-- The renaming carries what the calls take from `s` in memory to what they take from `t` after
their attempts at the database. -/
def Tolled (ρ : Renaming) (attempts : Nat) : List Toll → Supply → Supply → Prop
  | [], _, _ => True
  | toll :: tolls, s, t =>
    let t := t.tried attempts toll.method
    Aligned ρ s t (t.wasted toll.draws) ∧
      Tolled ρ attempts tolls (s.wasted toll.draws) (t.wasted toll.draws)

theorem exists_tolled (ρ : Renaming) (attempts : Nat) {o : Supply}
    (draws : Function.Injective o.draw) (rising : o.clock.Rising) (tolls : List Toll) {s t : Supply}
    (later : o.Later s) (shares : o.Shares t) (tracked : Tracked ρ o s t) :
    ∃ ρ', ρ.Agrees ρ' o s ∧ Tolled ρ' attempts tolls s t := by
  induction tolls generalizing ρ s t with
  | nil => exact ⟨ρ, .refl ρ o s, trivial⟩
  | cons toll tolls ih =>
    -- The attempt uses up the supply; only what follows has to be matched.
    have tried := t.later_tried attempts toll.method
    have shares' := shares.trans tried.shares
    replace tracked := tracked.mono rising tried
    generalize eq : t.tried attempts toll.method = t' at shares' tracked
    obtain ⟨ρ₁, agrees, aligned⟩ := Supply.exists_aligned draws rising later.shares shares' tracked
      (t'.wasted toll.draws)
    have onward := tracked.advanced agrees aligned rising later.shares shares'
      (t'.later_wasted toll.draws)
    rw [Supply.advanced_wasted] at onward
    have taken := s.later_wasted toll.draws
    obtain ⟨ρ', agrees', rest⟩ := ih ρ₁ (t := t'.wasted toll.draws) (later.trans taken)
      (shares'.trans (t'.later_wasted toll.draws).shares) onward
    refine ⟨ρ', agrees.trans (agrees'.before taken), ?_⟩
    simp only [Tolled, eq]
    exact ⟨aligned.agrees later (by rwa [Supply.advanced_wasted]), rest⟩

def logs (terms : Terms) : List Call → World → List (List Event)
  | [], _ => []
  | call :: calls, w =>
    (w.perform terms call).log :: logs terms calls (w.perform terms call).state

/-- Call by call, `w` gives the answers of `v` under other names, and it writes another record where
`v` writes that there is no durable store. -/
structure LikeInMemory (terms : Terms) (ρ : Renaming) (calls calls' : List Call) (v w : World) :
    Prop where
  answers : (run terms calls' w).1 = (run terms calls v).1.map ρ.result
  logs : logs terms calls' w = (logs terms calls v).map (·.map Event.degraded)

theorem run_follows (calls : List Call) (follows : Follows ρ v w) {paid : List Toll}
    (either : paid = tolls terms calls v ∨
      paid = tolls terms (calls.map (Call.renamed ρ.id)) w)
    (tolled : Tolled ρ terms.attempts paid v.supply w.supply) :
    LikeInMemory terms ρ calls (calls.map (Call.renamed ρ.id)) v w := by
  induction calls generalizing v w paid with
  | nil => exact ⟨rfl, rfl⟩
  | cons call calls ih =>
    cases valid : call.operation terms with
    | error failure =>
      have same : ρ.failure failure = failure := Call.failure_of_operation valid ρ
      simp only [tolls, List.map_cons, Call.operation_renamed, valid, Except.map, perform]
        at either
      obtain ⟨answers, logs⟩ := ih follows either tolled
      constructor
      · simp only [run, perform, List.map_cons, Call.operation_renamed, valid, Except.map, answers,
          Renaming.result, same]
      · simp only [World.logs, perform, List.map_cons, Call.operation_renamed, valid, Except.map,
          logs, List.map_nil]
    | ok op =>
      have checked := Call.operation_checked valid
      simp only [tolls, List.map_cons, Call.operation_renamed, valid, Except.map, perform,
        follows.toll] at either
      obtain ⟨rest, rfl, onward⟩ : ∃ rest, paid = .of terms v op :: rest ∧
          (rest = tolls terms calls (v.serve terms op).state ∨
            rest = tolls terms (calls.map (Call.renamed ρ.id))
              (w.serve terms (op.renamed ρ.id)).state) := by
        rcases either with rfl | rfl
        · exact ⟨_, rfl, .inl rfl⟩
        · exact ⟨_, rfl, .inr rfl⟩
      obtain ⟨aligned, tolled⟩ := tolled
      obtain ⟨result, log, after, taken, taken'⟩ := serve_follows follows checked aligned
      obtain ⟨answers, logs⟩ := ih after onward (by rwa [taken, taken'])
      constructor
      · simp only [run, perform, List.map_cons, Call.operation_renamed, valid, Except.map, answers,
          result]
      · simp only [World.logs, perform, List.map_cons, Call.operation_renamed, valid, Except.map,
          logs, log]

theorem follows_blank (ρ : Renaming) {s : Supply} (draws : Function.Injective s.draw) :
    Follows ρ (blank none s) (blank (some ⟨.unreachable, []⟩) s) :=
  ⟨rfl, rfl, rfl, rfl, IsBlank.none.numbered draws, IsBlank.unreachable.numbered draws,
    fun _ => rfl⟩

theorem logs_redraw (terms : Terms) {f : Nat → Nat} (calls : List Call)
    (h : w.Draws f (2 * calls.length)) : logs terms calls (w.redraw f) = logs terms calls w := by
  induction calls generalizing w with
  | nil => rfl
  | cons call calls ih =>
    obtain ⟨same, left⟩ := perform_redraw terms call (n := 2 * calls.length) h
    simp only [logs, same, Served.within, ih left]

theorem LikeInMemory.redraw {calls calls' : List Call} {f : Nat → Nat}
    (h : LikeInMemory terms ρ calls calls' v w) (draws : v.Draws f (2 * calls.length))
    (draws' : w.Draws f (2 * calls'.length)) :
    LikeInMemory terms ρ calls calls' (v.redraw f) (w.redraw f) := by
  constructor
  · rw [run_redraw terms calls draws, run_redraw terms calls' draws']
    exact h.answers
  · rw [logs_redraw terms calls draws, logs_redraw terms calls' draws']
    exact h.logs

theorem like_memory_of_injective (s : Supply) (draws : Function.Injective s.draw)
    (rising : s.clock.Rising) (terms : Terms) (calls : List Call) :
    let alone := blank none s
    let degraded := blank (some ⟨.unreachable, []⟩) s
    (∃ ρ, ρ.moments = Set.range s.clock.time ∧
      LikeInMemory terms ρ calls (calls.map (Call.renamed ρ.id)) alone degraded) ∧
    ∃ ρ, ρ.moments = Set.range s.clock.time ∧
      LikeInMemory terms ρ (calls.map (Call.renamed ρ.id.symm)) calls alone degraded := by
  intro alone degraded
  obtain ⟨ρ₀, tracked⟩ := Supply.exists_tracked (t := s) rising rfl
  have known (paid : List Toll) : ∃ ρ : Renaming, ρ.moments = Set.range s.clock.time ∧
      Tolled ρ terms.attempts paid s s := by
    obtain ⟨ρ, agrees, tolled⟩ := exists_tolled ρ₀ terms.attempts draws rising paid (.refl s)
      ⟨rfl, rfl⟩ tracked
    exact ⟨ρ, agrees.moments.trans tracked.moments, tolled⟩
  constructor
  · obtain ⟨ρ, moments, tolled⟩ := known (tolls terms calls alone)
    exact ⟨ρ, moments, run_follows calls (follows_blank ρ draws) (.inl rfl) tolled⟩
  · obtain ⟨ρ, moments, tolled⟩ := known (tolls terms calls degraded)
    have named : (calls.map (Call.renamed ρ.id.symm)).map (Call.renamed ρ.id) = calls := by
      simp [Function.comp_def, Call.renamed_renamed ρ.id.apply_symm_apply]
    have follows := run_follows (calls.map (Call.renamed ρ.id.symm)) (follows_blank ρ draws)
      (.inr rfl) (by rwa [named])
    rw [named] at follows
    exact ⟨ρ, moments, follows⟩

/-- Of two new services, one has no durable store and the database of the other can never be opened.
Whatever calls the first is given, the second answers them alike, under other identifiers, account
numbers and moments; and so the other way round. A call takes two draws at most. -/
theorem degraded_like_memory (s : Supply) (terms : Terms) (calls : List Call)
    (draws : Set.InjOn s.draw (Set.Ico s.drawn (s.drawn + 2 * calls.length)))
    (rising : s.clock.Rising) :
    let alone := blank none s
    let degraded := blank (some ⟨.unreachable, []⟩) s
    (∃ ρ, ρ.moments = Set.range s.clock.time ∧
      LikeInMemory terms ρ calls (calls.map (Call.renamed ρ.id)) alone degraded) ∧
    ∃ ρ, ρ.moments = Set.range s.clock.time ∧
      LikeInMemory terms ρ (calls.map (Call.renamed ρ.id.symm)) calls alone degraded := by
  intro alone degraded
  obtain ⟨f, injective, same⟩ := Supply.exists_draws draws
  have new : alone.IsNew := ⟨rfl, rfl, .inl rfl⟩
  have new' : degraded.IsNew := ⟨rfl, rfl, .inr (.inr rfl)⟩
  have back := new.draws injective same
  have back' := new'.draws injective same
  obtain ⟨⟨ρ, moments, like⟩, ρ', moments', like'⟩ :=
    like_memory_of_injective (s.redraw f) injective rising terms calls
  refine ⟨⟨ρ, moments, like.redraw back ?_⟩, ρ', moments', like'.redraw ?_ back'⟩
  · rw [List.length_map]
    exact back'
  · rw [List.length_map]
    exact back

def creditedCalls : List Call :=
  [.listAccounts ⟨1⟩,
   .applyTransaction ⟨1⟩ (Supply.issuedId 0) (some (.ofCents 1000)) (some "credit") none none,
   .listAccounts ⟨1⟩]

theorem degraded_like_memory_credited :
    let s : Supply := ⟨0, 0, 0, (· % 900000000000)⟩
    let alone := blank none s
    let degraded := blank (some ⟨.unreachable, []⟩) s
    (Set.InjOn s.draw (Set.Ico 0 6) ∧ s.clock.Rising) ∧
      (run .standard creditedCalls degraded).1 ≠ (run .standard creditedCalls alone).1 ∧
      (∃ ρ, ρ.moments = Set.range s.clock.time ∧ LikeInMemory .standard ρ creditedCalls
        (creditedCalls.map (Call.renamed ρ.id)) alone degraded) ∧
      ∃ ρ, ρ.moments = Set.range s.clock.time ∧ LikeInMemory .standard ρ
        (creditedCalls.map (Call.renamed ρ.id.symm)) creditedCalls alone degraded := by
  intro s alone degraded
  have draws : Set.InjOn s.draw (Set.Ico 0 6) := fun i hi j hj same => by
    rw [Set.mem_Ico] at hi hj
    simp only [s] at same
    omega
  have rising : s.clock.Rising := Clock.rising_ofNat 0
  exact ⟨⟨draws, rising⟩, by decide +kernel,
    degraded_like_memory s .standard creditedCalls draws rising⟩

end World
end Passbook
