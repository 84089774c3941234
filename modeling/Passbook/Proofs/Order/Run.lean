import Passbook.Proofs.History.Run
import Passbook.Proofs.Order.Account
import Passbook.Proofs.Service.FaultFree

/-!
# Transactions on different accounts commute

What becomes of an account is decided by the calls that name it, in their order. Calls that name
other accounts may come before, after or in between.

- `World.SameOn`: the stores of two worlds keep the same on an account
- `perform_on`, `Change.on_other`: a call on this account, and a call on another one
- `run_on`: a run comes to the same on an account as the run of its calls alone
- `transactions_commute`: calls in another order
-/

namespace Passbook

theorem surface_map {α β : Type} (f : α → β) (outage : Outage) (result : Except Failure α) :
    (surface outage result).map f = surface outage (result.map f) := by
  cases result with
  | ok a => rfl
  | error failure => cases failure <;> rfl

namespace World
variable {terms : Terms} {call : Call} {op : Operation} {v v' w w' : World} {id : Uuid}

/-! ## Calls on other accounts -/

structure SameOn (id : Uuid) (v w : World) : Prop where
  book : Book.SameOn id v.book w.book
  rows : v.rows.on id = w.rows.on id

theorem SameOn.refl (id : Uuid) (w : World) : SameOn id w w := ⟨fun _ => rfl, rfl⟩

theorem SameOn.trans {u : World} (h : SameOn id u v) (h' : SameOn id v w) : SameOn id u w :=
  ⟨fun owner => (h.book owner).trans (h'.book owner), h.rows.trans h'.rows⟩

theorem SameOn.symm (h : SameOn id v w) : SameOn id w v :=
  ⟨fun owner => (h.book owner).symm, h.rows.symm⟩

theorem Change.on_other {result : Except Failure Answer} (change : Change terms call w result w')
    (moves : call.Moves) (other : call.account? ≠ some id) : SameOn id w' w := by
  cases change with
  | failed answered book rows => exact ⟨fun owner => by rw [book], by rw [rows]⟩
  | database valid answered before after does book =>
    refine ⟨fun owner => by rw [book], ?_⟩
    exact does.on_other ((Call.moves_iff valid).1 moves) (by rwa [Call.operation_account valid])
  | memory valid answered before after does rows =>
    refine ⟨?_, by rw [rows]⟩
    exact does.on_other ((Call.moves_iff valid).1 moves) (by rwa [Call.operation_account valid])

/-! ## Calls on the account -/

theorem serve_on (orderly : v.Orderly) (orderly' : w.Orderly)
    (alike : v.database?.map (·.reachable) = w.database?.map (·.reachable))
    (checked : op.Checked) (asked : op.method = .applyTransaction) (names : op.account? = some id)
    (same : SameOn id v w) :
    (v.serve terms op).result.map Answer.undated = (w.serve terms op).result.map Answer.undated ∧
      SameOn id (v.serve terms op).state (w.serve terms op).state := by
  rcases orderly.faultFree.cases orderly'.faultFree alike with
    ⟨memory, memory'⟩ | ⟨db, db', healthy, healthy'⟩
  · obtain ⟨s, -, result, state⟩ := serve_inMemory terms memory checked
    obtain ⟨s', -, result', state'⟩ := serve_inMemory terms memory' checked
    obtain ⟨answers, book⟩ := Book.run_on same.book asked names terms.forBook s s'
    rw [result, result', state, state', surface_map, surface_map, answers]
    exact ⟨rfl, book, same.rows⟩
  · have opens : op.method ≠ .createAccount := by
      rw [asked]
      exact Method.noConfusion
    have numbers := orderly.numbers
    have numbers' := orderly'.numbers
    have rows := same.rows
    rw [rows_of_durable healthy.durable] at numbers rows
    rw [rows_of_durable healthy'.durable] at numbers' rows
    have numeric : db.Numeric := ⟨healthy.reachable, numbers⟩
    have numeric' : db'.Numeric := ⟨healthy'.reachable, numbers'⟩
    obtain ⟨s, after, -, -, result, state, left, -⟩ :=
      serve_repaired healthy numeric checked (not_runsOut healthy numeric checked opens)
    obtain ⟨s', after', -, -, result', state', left', -⟩ :=
      serve_repaired healthy' numeric' checked (not_runsOut healthy' numeric' checked opens)
    obtain ⟨answers, held⟩ :=
      Durable.run_on numeric numeric' rows asked names checked terms.attempts s s'
    rw [result, result', state, state']
    refine ⟨answers, same.book, ?_⟩
    rw [rows_of_durable rfl, rows_of_durable rfl, left, left']
    exact held

theorem perform_on (orderly : v.Orderly) (orderly' : w.Orderly)
    (alike : v.database?.map (·.reachable) = w.database?.map (·.reachable))
    (moves : call.Moves) (names : call.account? = some id) (same : SameOn id v w) :
    (v.perform terms call).result.map Answer.undated =
        (w.perform terms call).result.map Answer.undated ∧
      SameOn id (v.perform terms call).state (w.perform terms call).state := by
  simp only [perform]
  cases valid : call.operation terms with
  | error failure => exact ⟨rfl, same⟩
  | ok op =>
    exact serve_on orderly orderly' alike (Call.operation_checked valid)
      ((Call.moves_iff valid).1 moves) ((Call.operation_account valid).trans names) same

/-! ## Runs -/

def answersOn (id : Uuid) :
    List Call → List (Except Failure Answer) → List (Except Failure Answer)
  | call :: calls, answer :: answers =>
    if call.account? = some id then answer.map Answer.undated :: answersOn id calls answers
    else answersOn id calls answers
  | _, _ => []

theorem run_on (calls : List Call) (moves : ∀ call ∈ calls, call.Moves) (orderly : v.Orderly)
    (orderly' : w.Orderly)
    (alike : v.database?.map (·.reachable) = w.database?.map (·.reachable))
    (same : SameOn id v w) :
    let own := calls.filter (·.account? = some id)
    answersOn id calls (run terms calls v).1 =
        (run terms own w).1.map (·.map Answer.undated) ∧
      SameOn id (run terms calls v).2 (run terms own w).2 := by
  induction calls generalizing v w with
  | nil => exact ⟨rfl, same⟩
  | cons call calls ih =>
    have move := moves call List.mem_cons_self
    have rest : ∀ call ∈ calls, call.Moves :=
      fun call mem => moves call (List.mem_cons_of_mem _ mem)
    have next := perform_orderly terms call orderly
    have reachable := perform_reachable terms call v
    by_cases names : call.account? = some id
    · have next' := perform_orderly terms call orderly'
      have reachable' := perform_reachable terms call w
      obtain ⟨answer, after⟩ := perform_on orderly orderly' alike move names same
      obtain ⟨answers, final⟩ :=
        ih rest next next' (reachable.trans (alike.trans reachable'.symm)) after
      simp only [List.filter_cons, names, decide_true, if_true, run, answersOn, answer, answers,
        List.map_cons]
      exact ⟨trivial, final⟩
    · have apart := ((perform_change terms call v).on_other move names).trans same
      obtain ⟨answers, final⟩ := ih rest next orderly' (reachable.trans alike) apart
      simp only [List.filter_cons, names, decide_false, Bool.false_eq_true, if_false, run,
        answersOn]
      exact ⟨answers, final⟩

/-- The same calls in another order, which is the old one among those that name one account. -/
structure Reordering (calls calls' : List Call) : Prop where
  perm : calls'.Perm calls
  order : ∀ id : Uuid,
    calls'.filter (·.account? = some id) = calls.filter (·.account? = some id)

theorem Reordering.swap {call call' : Call} (other : call.account? ≠ call'.account?)
    (calls : List Call) : Reordering (call :: call' :: calls) (call' :: call :: calls) := by
  refine ⟨.swap _ _ _, fun id => ?_⟩
  by_cases names : call.account? = some id
  · have strange : call'.account? ≠ some id := fun names' => other (names.trans names'.symm)
    simp [List.filter_cons, strange]
  · simp [List.filter_cons, names]

theorem InTime.transactionsOf (h : w.InTime) (owner id : Uuid) :
    (w.rows.transactionsOf owner (some id)).map TransactionRow.undated =
      ((w.rows.on id).transactions.filter (·.owner == owner)).reverse := by
  have falling := (h.rows.filter
    fun row => row.owner == owner && (some id).all (row.account == ·)).mergeSort_reverse
  rw [Rows.transactionsOf, Rows.on, List.filter_map, List.filter_filter, ← List.map_reverse]
  exact congrArg (List.map _) falling

/-- Whatever calls came before on new stores, under whatever failures, as long as none is left:
transactions and payments of any owners may be asked for in another order, if those that name one
account keep theirs. On every account, the calls then have the same outcomes and both stores keep
the same of it; and so does its listing, unless the clock stands still. Identifiers of transactions
and moments apart. -/
theorem transactions_commute (terms : Terms) (durable : Option Durable) (supply : Supply)
    (script : Script) (before : List Call) {calls calls' : List Call}
    (bare : ∀ d, durable = some d → d.database.rows = ⟨[], [], []⟩)
    (faultFree : (run terms before ⟨Book.empty, durable, supply, script⟩).2.FaultFree)
    (moves : ∀ call ∈ calls, call.Moves) (reordering : Reordering calls calls') (id : Uuid) :
    let w := (run terms before ⟨Book.empty, durable, supply, script⟩).2
    let v := run terms calls w
    let v' := run terms calls' w
    answersOn id calls v.1 = answersOn id calls' v'.1 ∧ SameOn id v.2 v'.2 ∧
      (supply.clock.Rising → ∀ owner,
        (v.2.rows.transactionsOf owner (some id)).map TransactionRow.undated =
        (v'.2.rows.transactionsOf owner (some id)).map TransactionRow.undated) := by
  intro w v v'
  have dated : w.Dated :=
    run_induction Dated (perform_dated terms) before _ (dated_empty supply script bare)
  have orderly : w.Orderly := by
    refine ⟨faultFree, run_numbers before ?_⟩
    rw [rows_empty bare]
    intro row mem
    cases mem
  have moves' : ∀ call ∈ calls', call.Moves :=
    fun call mem => moves call (reordering.perm.subset mem)
  obtain ⟨answers, same⟩ := run_on calls moves orderly orderly rfl (.refl id w)
  obtain ⟨answers', same'⟩ := run_on calls' moves' orderly orderly rfl (.refl id w)
  rw [reordering.order] at answers' same'
  have final : SameOn id v.2 v'.2 := same.trans same'.symm
  refine ⟨answers.trans answers'.symm, final, fun rising owner => ?_⟩
  have inTime : w.InTime := run_inTime terms before (dated_empty supply script bare)
    (inTime_empty script bare rising)
  rw [(run_inTime terms calls dated inTime).transactionsOf,
    (run_inTime terms calls' dated inTime).transactionsOf, final.rows]

def twoAccounts : List Call :=
  [.createAccount ⟨1⟩ none none (some (some (.ofCents 10000))),
   .createAccount ⟨2⟩ none none (some (some (.ofCents 5000)))]

def rentPayment : Call :=
  .makePayment ⟨1⟩ (Supply.issuedId 2) (some (.ofCents 3000)) (some "Rent") (some "17") none

def heavyDebit : Call :=
  .applyTransaction ⟨2⟩ (Supply.issuedId 4) (some (.ofCents 6000)) (some "debit") none none

theorem transactions_commute_payment :
    let w := (run .standard twoAccounts newService).2
    let v := run .standard [rentPayment, heavyDebit] w
    let v' := run .standard [heavyDebit, rentPayment] w
    w.FaultFree ∧ v.1 ≠ v'.1.reverse ∧
      answersOn (Supply.issuedId 2) [rentPayment, heavyDebit] v.1 =
        [.ok (.transaction ⟨⟨0⟩, Supply.issuedId 2, ⟨1⟩, .ofCents 3000, some "NZD", .debit,
          some "Payment to Rent (17)", ⟨0⟩⟩)] ∧
      answersOn (Supply.issuedId 2) [rentPayment, heavyDebit] v.1 =
        answersOn (Supply.issuedId 2) [heavyDebit, rentPayment] v'.1 ∧
      SameOn (Supply.issuedId 2) v.2 v'.2 := by
  intro w v v'
  have new : newService.IsNew := ⟨rfl, rfl, .inr (.inl rfl)⟩
  have faultFree : w.FaultFree :=
    run_induction FaultFree (fun call _ => perform_faultFree .standard call) _ _ new.faultFree
  have moves : ∀ call ∈ [rentPayment, heavyDebit], call.Moves := by
    intro call mem
    fin_cases mem <;> trivial
  have commute := transactions_commute .standard (some ⟨.empty, []⟩) newService.supply .empty
    twoAccounts (by rintro d ⟨⟩; rfl) faultFree moves (Reordering.swap (by decide) [])
    (Supply.issuedId 2)
  exact ⟨faultFree, by decide +kernel, by decide +kernel, commute.1, commute.2.1⟩

end World
end Passbook
