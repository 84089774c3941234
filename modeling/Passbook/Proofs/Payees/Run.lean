import Passbook.Proofs.Payees.Saved
import Passbook.Proofs.Service.FaultFree

/-!
# The payee book of an owner

- `World.payees`: the payees of an owner in the store that serves the calls
- `perform_payeeStep`: without failures, every call is one step on them
- `PayeeBook`: what an owner can rely on
- `payee_book`: this holds after all calls of all owners, in memory and in the database
-/

namespace Passbook

def Call.OnPayees (owner : Uuid) : Call → Prop
  | .listPayees holder | .createPayee holder _ _ | .deletePayees holder => holder = owner
  | .createAccount .. | .listAccounts .. | .listTransactions .. | .applyTransaction ..
  | .makePayment .. => False

theorem Call.operation_onPayees {terms : Terms} {call : Call} {op : Operation} {owner : Uuid}
    (valid : call.operation terms = .ok op) (on : op.OnPayees owner) : call.OnPayees owner := by
  have own := (Call.operation_owner valid).symm.trans on.owner_eq
  cases call with
  | listPayees | createPayee | deletePayees => exact own
  | listAccounts | listTransactions => cases valid; exact on
  | createAccount | makePayment =>
    obtain ⟨_, -, valid⟩ := Except.bind_eq_ok.1 valid
    cases valid
    exact on
  | applyTransaction =>
    obtain ⟨_, -, valid⟩ := Except.bind_eq_ok.1 valid
    obtain ⟨_, -, valid⟩ := Except.bind_eq_ok.1 valid
    cases valid
    exact on

/-! ## In the database -/

namespace Durable
variable {db : Database} {op : Operation} {attempts : Nat} {s : Supply} {owner : Uuid}

theorem run_onPayees_error {failure : Failure} (reachable : db.reachable) (checked : op.Checked)
    (on : op.OnPayees owner)
    (failed : (run attempts false op ⟨db.provisioned, []⟩ s).result = .error failure) :
    ∃ name number, op = .createPayee owner name number ∧
      failure = .refused (.duplicatePayee number) ∧
      ∃ p ∈ db.rows.savedBy owner, p.number = number := by
  cases op with
  | createAccount | listAccounts | listTransactions | applyTransaction => exact on.elim
  | listPayees holder =>
    rw [run, perform_done (listPayees_provisioned reachable holder)] at failed
    cases failed
  | deletePayees holder =>
    rw [run, perform_done (deletePayees_provisioned reachable holder)] at failed
    cases failed
  | createPayee holder name number =>
    obtain rfl : holder = owner := on
    obtain ⟨⟨name, rfl, -⟩, number, rfl, -⟩ := checked
    have inserted := createPayee_provisioned reachable s.stamp.1 holder (trimmed name)
      (trimmed number)
    split_ifs at inserted with known
    · rw [run, perform_failed inserted] at failed
      cases failed
      obtain ⟨row, mem, same⟩ := List.any_eq_true.1 known
      rw [Bool.and_eq_true, beq_iff_eq, beq_iff_eq] at same
      exact ⟨_, _, rfl, rfl, _, Rows.mem_savedBy.2 ⟨row, mem, same.1, rfl⟩,
        congrArg some same.2⟩
    · rw [run, perform_done inserted] at failed
      cases failed

theorem run_payeeStep {now : Int} (reachable : db.reachable) (checked : op.Checked)
    (order : InOrder (·.createdAt.micros) now (db.rows.savedBy owner)) :
    let o := run attempts false op ⟨db.provisioned, []⟩ s
    ∃ stamp, PayeeStep false stamp owner (db.rows.savedBy owner) op o.result
      (o.state.1.database.rows.savedBy owner) := by
  intro o
  cases done : o.result with
  | ok answer =>
    obtain ⟨t, -, -, does, -⟩ := run_does done
    exact ⟨t.stamp.1, does.payeeStep checked order⟩
  | error failure =>
    have same : o.state.1.database = db.provisioned := run_error done
    rw [same, Database.rows_provisioned]
    by_cases on : op.OnPayees owner
    · obtain ⟨name, number, rfl, rfl, known⟩ := run_onPayees_error reachable checked on done
      exact ⟨s.stamp.1, .duplicate known⟩
    · exact ⟨s.stamp.1, .apart on _⟩

end Durable

/-! ## One call -/

section
variable {memory : Bool} {stamp : Stamp} {owner : Uuid} {ps ps' : List Payee} {op : Operation}
  {result : Except Failure Answer}

theorem PayeeStep.eq_of_apart (h : PayeeStep memory stamp owner ps op result ps')
    (other : ¬op.OnPayees owner) : ps' = ps := by
  cases h with
  | apart => rfl
  | listed | demo | duplicate | saved | cleared => exact absurd rfl other

theorem PayeeStep.created {name number : Option String}
    (h : PayeeStep memory stamp owner ps (.createPayee owner name number) result ps') :
    (∃ p ∈ ps, p.number = number) ∧ result = refuse (.duplicatePayee number) ∨
      (∀ p ∈ ps, p.number ≠ number) ∧ ∃ p : Payee, p.owner = owner ∧ p.name = name ∧
        p.number = number ∧ result = .ok (.payee p) ∧ ps' = ps ++ [p] := by
  cases h with
  | apart other => exact absurd rfl other
  | duplicate known => exact .inl ⟨known, rfl⟩
  | saved fresh => exact .inr ⟨fresh, _, rfl, rfl, rfl, rfl, rfl⟩

theorem PayeeStep.shown (h : PayeeStep memory stamp owner ps (.listPayees owner) result ps') :
    result = .ok (.payees ps'.reverse) ∧
      ps' = if ps = [] ∧ memory then [Book.demoPayee stamp owner] else ps := by
  cases h with
  | apart other => exact absurd rfl other
  | listed shown => exact ⟨rfl, (if_neg fun h => shown h.2 h.1).symm⟩
  | demo inMemory bare => exact ⟨rfl, (if_pos ⟨bare, inMemory⟩).symm⟩

theorem PayeeStep.removed (h : PayeeStep memory stamp owner ps (.deletePayees owner) result ps') :
    result = .ok (.removed ps.length) ∧ ps' = [] := by
  cases h with
  | apart other => exact absurd rfl other
  | cleared => exact ⟨rfl, rfl⟩

theorem PayeeStep.surface (h : PayeeStep memory stamp owner ps op result ps')
    (outage : Outage) : PayeeStep memory stamp owner ps op (surface outage result) ps' := by
  cases h with
  | apart other => exact .apart other _
  | listed shown => exact .listed shown
  | demo inMemory bare => exact .demo inMemory bare
  | duplicate known => exact .duplicate known
  | saved fresh => exact .saved fresh
  | cleared => exact .cleared

end

namespace World
variable {terms : Terms} {call : Call} {op : Operation} {w : World} {db : Database}

def payees (owner : Uuid) (w : World) : List Payee :=
  if w.usesDatabase then w.rows.savedBy owner else (w.book.shelf owner).payees

theorem perform_payees_apart (kept : w.PayeesKept) (valid : call.operation terms = .ok op)
    {owner : Uuid} (other : ¬op.OnPayees owner) :
    (w.perform terms call).state.payees owner = w.payees owner := by
  have step : ((w.perform terms call).state.book.shelf owner).payees = (w.book.shelf owner).payees ∧
      (w.perform terms call).state.rows.savedBy owner = w.rows.savedBy owner := by
    cases perform_change terms call w with
    | failed answered book rows => rw [book, rows]; exact ⟨rfl, rfl⟩
    | database valid' answered before after does book =>
      cases valid.symm.trans valid'
      have step := does.payeeStep (Call.operation_checked valid) (kept.rows owner).order
      exact ⟨by rw [book], step.eq_of_apart other⟩
    | memory valid' answered before after does rows =>
      cases valid.symm.trans valid'
      exact ⟨does.payees_apart other, by rw [rows]⟩
  rw [payees, payees, perform_usesDatabase, step.1, step.2]

theorem perform_payeeStep (h : w.Orderly) (kept : w.PayeesKept)
    (valid : call.operation terms = .ok op) (owner : Uuid) : ∃ stamp,
    PayeeStep (!w.usesDatabase) stamp owner (w.payees owner) op (w.perform terms call).result
      ((w.perform terms call).state.payees owner) := by
  have checked := Call.operation_checked valid
  by_cases on : op.OnPayees owner
  · have uses := perform_usesDatabase terms call w
    have served : w.perform terms call = w.serve terms op := by simp only [perform, valid]
    rw [served] at uses ⊢
    rcases h.faultFree.cases h.faultFree rfl with ⟨memory, -⟩ | ⟨db, -, healthy, -⟩
    · obtain ⟨s, -, result, state⟩ := serve_inMemory terms memory checked
      rw [payees, payees, uses, memory.usesDatabase, result, state]
      exact ⟨s.stamp.1, ((Book.run_does checked).payeeStep owner).surface _⟩
    · -- No account is opened, so the database has no account numbers to run out of.
      have opens : op.method ≠ .createAccount := by
        cases op with
        | createAccount => exact on.elim
        | listAccounts | listTransactions | applyTransaction | listPayees | createPayee
          | deletePayees => exact Method.noConfusion
      have numbers := h.numbers
      have order := (kept.rows owner).order
      rw [rows_of_durable healthy.durable] at numbers order
      have numeric : db.Numeric := ⟨healthy.reachable, numbers⟩
      obtain ⟨s, after, -, -, result, state, left, -⟩ :=
        serve_repaired healthy numeric checked (not_runsOut healthy numeric checked opens)
      rw [payees, payees, uses, healthy.usesDatabase, result, state, if_pos rfl, if_pos rfl,
        rows_of_durable healthy.durable, rows_of_durable rfl, left]
      exact Durable.run_payeeStep healthy.reachable checked order
  · rw [perform_payees_apart kept valid on]
    exact ⟨w.supply.stamp.1, .apart on _⟩

/-! ## What an owner can rely on -/

/-- The payees of an owner, and what calls come to on them. -/
structure PayeeBook (terms : Terms) (owner : Uuid) (w : World) : Prop where
  distinct : ((w.payees owner).map (·.number)).Nodup
  tidy : ∀ p ∈ w.payees owner, p.owner = owner ∧ IsTidy p.name ∧ IsTidy p.number
  order : (w.payees owner).Pairwise (·.createdAt.micros < ·.createdAt.micros)
  refuses : ∀ name number, trimmed name ≠ "" → trimmed number ≠ "" →
    ((∃ shown, (w.perform terms (.createPayee owner name number)).result =
        refuse (.duplicatePayee shown)) ↔
      ∃ p ∈ w.payees owner, p.number = some (trimmed number))
  known : ∀ name number, trimmed name ≠ "" → trimmed number ≠ "" →
    (∃ p ∈ w.payees owner, p.number = some (trimmed number)) →
      let served := w.perform terms (.createPayee owner name number)
      served.result = refuse (.duplicatePayee (some (trimmed number))) ∧
        served.state.book = w.book ∧ served.state.rows = w.rows
  adds : ∀ name number, trimmed name ≠ "" → trimmed number ≠ "" →
    (∀ p ∈ w.payees owner, p.number ≠ some (trimmed number)) →
      let served := w.perform terms (.createPayee owner name number)
      ∃ p : Payee, p.owner = owner ∧ p.name = some (trimmed name) ∧
        p.number = some (trimmed number) ∧ served.result = .ok (.payee p) ∧
        served.state.payees owner = w.payees owner ++ [p]
  blank : ∀ name number, trimmed name = "" ∨ trimmed number = "" →
    w.perform terms (.createPayee owner name number) =
      ⟨refuse (.invalidRequest .payeeFields), w, [], []⟩
  lists :
    let served := w.perform terms (.listPayees owner)
    served.result = .ok (.payees (served.state.payees owner).reverse) ∧
      ∃ stamp, served.state.payees owner =
        if w.payees owner = [] ∧ !w.usesDatabase then [Book.demoPayee stamp owner]
        else w.payees owner
  deletes :
    let served := w.perform terms (.deletePayees owner)
    served.result = .ok (.removed (w.payees owner).length) ∧ served.state.payees owner = []
  apart : ∀ call : Call, ¬call.OnPayees owner →
    (w.perform terms call).state.payees owner = w.payees owner
  others : ∀ call : Call, call.owner ≠ owner →
    (w.perform terms call).state.book.shelf owner = w.book.shelf owner ∧
      (w.perform terms call).state.rows.of owner = w.rows.of owner

theorem PayeesKept.payees (h : w.PayeesKept) (owner : Uuid) :
    PayeesSound w.supply.now owner (w.payees owner) := by
  unfold World.payees
  split_ifs
  · exact h.rows owner
  · exact h.shelves owner

theorem payeesKept_empty (empty : w.book = .empty) (bare : w.rows = ⟨[], [], []⟩)
    (rising : w.supply.clock.Rising) : w.PayeesKept := by
  refine ⟨rising, fun owner => ?_, fun owner => ?_⟩
  · rw [empty]
    exact .nil _ owner
  · rw [bare]
    exact .nil _ owner

theorem createPayee_operation (terms : Terms) (owner : Uuid) {name number : Option String}
    (given : trimmed name ≠ "") (given' : trimmed number ≠ "") :
    (Call.createPayee owner name number).operation terms =
      .ok (.createPayee owner (some (trimmed name)) (some (trimmed number))) := by
  rw [Call.operation, if_neg (not_or.2 ⟨given, given'⟩)]

theorem Orderly.payeeBook (orderly : w.Orderly) (kept : w.PayeesKept) (terms : Terms)
    (owner : Uuid) : PayeeBook terms owner w := by
  have sound := kept.payees owner
  have create {name number : Option String} (given : trimmed name ≠ "")
      (given' : trimmed number ≠ "") :=
    (perform_payeeStep orderly kept (createPayee_operation terms owner given given') owner).imp
      fun _ => PayeeStep.created
  refine ⟨sound.distinct, sound.tidy, sound.order.sorted, ?refuses, ?known, ?adds, ?blank, ?lists,
    ?deletes, ?apart, fun call other => perform_apart terms w other⟩
  case refuses =>
    intro name number given given'
    obtain ⟨stamp, ⟨known, refused⟩ | ⟨fresh, p, -, -, -, done, -⟩⟩ := create given given'
    · exact ⟨fun _ => known, fun _ => ⟨_, refused⟩⟩
    · refine ⟨fun ⟨shown, refused⟩ => ?_, fun ⟨p, mem, same⟩ => absurd same (fresh p mem)⟩
      cases done.symm.trans refused
  case known =>
    rintro name number given given' ⟨q, mem, same⟩
    obtain ⟨stamp, ⟨-, refused⟩ | ⟨fresh, -⟩⟩ := create given given'
    · exact ⟨refused, perform_refused refused⟩
    · exact absurd same (fresh q mem)
  case adds =>
    intro name number given given' fresh
    obtain ⟨stamp, ⟨⟨q, mem, same⟩, -⟩ | ⟨-, added⟩⟩ := create given given'
    · exact absurd same (fresh q mem)
    · exact added
  case blank =>
    intro name number blank
    simp only [perform, Call.operation, if_pos blank]
    rfl
  case lists =>
    have valid : (Call.listPayees owner).operation terms = .ok (.listPayees owner) := rfl
    obtain ⟨stamp, step⟩ := perform_payeeStep orderly kept valid owner
    obtain ⟨answer, after⟩ := step.shown
    exact ⟨answer, stamp, after⟩
  case deletes =>
    have valid : (Call.deletePayees owner).operation terms = .ok (.deletePayees owner) := rfl
    obtain ⟨stamp, step⟩ := perform_payeeStep orderly kept valid owner
    exact step.removed
  case apart =>
    intro call other
    cases valid : call.operation terms with
    | error failure => simp only [perform, valid]
    | ok op =>
      exact perform_payees_apart kept valid fun on => other (Call.operation_onPayees valid on)

theorem payee_book (terms : Terms) {start : World} (empty : start.book = .empty)
    (bare : start.rows = ⟨[], [], []⟩) (faultFree : start.FaultFree)
    (rising : start.supply.clock.Rising) (calls : List Call) (owner : Uuid) :
    PayeeBook terms owner (run terms calls start).2 := by
  have orderly : start.Orderly := ⟨faultFree, by simp [bare]⟩
  have orderly' := run_induction Orderly (fun call _ => perform_orderly terms call) calls _ orderly
  exact orderly'.payeeBook (run_payeesKept calls (payeesKept_empty empty bare rising)) terms owner

def memoryService : World := ⟨.empty, none, ⟨0, 0, 0, id⟩, .empty⟩

def payeeCalls : List Call :=
  [.listPayees ⟨1⟩, .createPayee ⟨2⟩ (some "Bob") (some "12"),
   .createPayee ⟨1⟩ (some " Ann ") (some "12 ")]

theorem payee_book_demo :
    let w := (run .standard payeeCalls memoryService).2
    (w.payees ⟨1⟩).map (·.number) = [some "DEMO1234567890", some "12"] ∧
      PayeeBook .standard ⟨1⟩ w ∧
      (w.perform .standard (.createPayee ⟨1⟩ (some "Eve") (some " DEMO1234567890"))).result =
        refuse (.duplicatePayee (some "DEMO1234567890")) ∧
      (w.perform .standard (.deletePayees ⟨1⟩)).result = .ok (.removed 2) := by
  intro w
  have numbers : (w.payees ⟨1⟩).map (·.number) = [some "DEMO1234567890", some "12"] := by
    decide +kernel
  have book : PayeeBook .standard ⟨1⟩ w :=
    payee_book .standard rfl rfl ⟨rfl, .inl rfl⟩ (Clock.rising_ofNat 0) payeeCalls ⟨1⟩
  have trim : trimmed (some " DEMO1234567890") = "DEMO1234567890" := by decide +kernel
  have demo : ∃ p ∈ w.payees ⟨1⟩, p.number = some "DEMO1234567890" := by
    rw [← List.mem_map, numbers]
    exact List.mem_cons_self
  rw [← trim] at demo
  have known := book.known (some "Eve") (some " DEMO1234567890") (by decide +kernel)
    (by decide +kernel) demo
  rw [trim] at known
  have two : (w.payees ⟨1⟩).length = 2 := by
    rw [← List.length_map, numbers]
    rfl
  exact ⟨numbers, book, known.1, two ▸ book.deletes.1⟩

end World

end Passbook
