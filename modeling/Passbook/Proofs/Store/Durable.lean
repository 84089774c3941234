import Passbook.Proofs.Ledger.Supply
import Passbook.Proofs.Store.Table
import Passbook.Store.Durable

namespace Passbook.Durable
variable {d d' : Durable} {db db' : Database} {s s' : Supply}

def healthy (d : Durable) : Durable := ⟨d.database.provisioned, []⟩

/-! ## Sessions -/

@[simp] theorem openSession_database (d : Durable) : d.openSession.2.database = d.database := by
  unfold openSession
  split <;> rfl

@[simp] theorem openSession_healthy (d : Durable) : d.healthy.openSession = (none, d.healthy) := rfl

variable {α : Type} {body : Database → Except Failure (α × Database)}

theorem openSession_none (h : d.sessions = []) : d.openSession = (none, d) := by
  simp only [openSession, h]

theorem work_ok {a : α} (h : (d.work body).1 = .ok a) :
    body d.database = .ok (a, (d.work body).2.database) := by
  have same := d.openSession_database
  unfold work at h ⊢
  split at h
  · cases h
  · rename_i d' opened
    rw [opened] at same
    dsimp only at same
    rw [← same]
    split at h <;> rename_i done
    · cases h
      simp [done]
    · cases h

theorem work_error {failure : Failure} (h : (d.work body).1 = .error failure) :
    (d.work body).2.database = d.database := by
  have same := d.openSession_database
  unfold work at h ⊢
  split at h
  · rename_i opened
    rwa [opened] at same
  · rename_i d' opened
    rw [opened] at same
    split at h <;> rename_i done
    · cases h
    · simpa [done] using same

theorem work_sessions (h : d.sessions = []) : (d.work body).2.sessions = [] := by
  simp only [work, openSession_none h]
  split <;> exact h

/-! ## The work itself -/

/-- The work does not hang on tables that are missing, unless it fails for that. -/
def Steady (body : Database → Except Failure (α × Database)) : Prop :=
  ∀ db : Database, Follows Failure.IsMissing (Prod.map id Database.provisioned) (body db)
    (body db.provisioned)

theorem orFail_eq_ok {x : Statement α} {a : α} : x.orFail = .ok a ↔ x = .ok a :=
  Except.mapError_eq_ok

theorem orFail_missing {fault : StatementFault} (h : fault.IsMissing) :
    (Failure.driver fault.error).classified.IsMissing ∧ fault.isConstraint = false := by
  obtain ⟨table, rfl⟩ := h
  exact ⟨⟨.reported, by cases table <;> decide +kernel⟩, rfl⟩

theorem orFail_follows {β : Type} {f : α → β} {x : Statement α} {x' : Statement β}
    (h : Follows StatementFault.IsMissing f x x') :
    Follows Failure.IsMissing f x.orFail x'.orFail := by
  rcases h with ⟨fault, rfl, missing⟩ | rfl
  · exact .inl ⟨_, rfl, (orFail_missing missing).1⟩
  · cases x <;> exact .inr rfl

theorem steady_listAccounts (owner : Uuid) : Steady (listAccounts owner) := fun db =>
  (orFail_follows (db.selectAccounts_follows owner)).bind fun _ => .inr rfl

theorem steady_listPayees (owner : Uuid) : Steady (listPayees owner) := fun db =>
  (orFail_follows (db.selectPayees_follows owner)).bind fun _ => .inr rfl

theorem steady_deletePayees (owner : Uuid) : Steady (deletePayees owner) := fun db =>
  (orFail_follows (db.deletePayees_follows owner)).bind fun _ => .inr rfl

theorem steady_listTransactions (owner : Uuid) (account : Option Uuid) :
    Steady (listTransactions owner account) := by
  intro db
  have select := orFail_follows (db.selectTransactions_follows owner account)
  cases account with
  | none => exact select.bind fun _ => .inr rfl
  | some account =>
    exact (orFail_follows (db.findAccount_follows owner account)).bind fun found =>
      .ite (.inr rfl) (select.bind fun _ => .inr rfl)

def transactionOn (stamp : Stamp) (row : AccountRow) (owner id : Uuid) (amount : Decimal)
    (currency : Option String) (kind : Kind) (description : Option String) : Transaction :=
  { id := stamp.first, account := id, owner, amount,
    currency := resolveCurrency currency (some row.currency), kind,
    description := some (description.getD ""), createdAt := stamp.now }

theorem apply_eq_ok {stamp : Stamp} {vanished : Bool} {owner id : Uuid} {amount : Decimal}
    {currency : Option String} {kind : Kind} {description : Option String} {answer : Answer} :
    apply stamp vanished owner id amount currency kind description db = .ok (answer, db') ↔
      vanished = false ∧ ∃ row delta column db₁, db.findAccount owner id = .ok (some row) ∧
        signedDelta row.id row.balance.toCents amount kind = .ok delta ∧
        moneyColumn delta = .ok column ∧ db.updateBalance owner id column stamp.now = .ok db₁ ∧
        db₁.insertTransaction
          (transactionOn stamp row owner id amount currency kind description) = .ok db' ∧
        answer = .transaction
          (transactionOn stamp row owner id amount currency kind description) := by
  constructor
  · intro h
    obtain ⟨found, hfound, h⟩ := Except.bind_eq_ok.1 h
    cases found with
    | none => cases h
    | some row =>
      obtain ⟨delta, hdelta, h⟩ := Except.bind_eq_ok.1 h
      obtain ⟨column, hcolumn, h⟩ := Except.bind_eq_ok.1 h
      split_ifs at h with gone
      · cases h
      · obtain ⟨db₁, hupdate, h⟩ := Except.bind_eq_ok.1 h
        obtain ⟨db₂, hinsert, h⟩ := Except.bind_eq_ok.1 h
        cases h
        exact ⟨by simpa using gone, row, delta, column, db₁, orFail_eq_ok.1 hfound, hdelta,
          orFail_eq_ok.1 hcolumn, orFail_eq_ok.1 hupdate, orFail_eq_ok.1 hinsert, rfl⟩
  · rintro ⟨rfl, row, delta, column, db₁, hfound, hdelta, hcolumn, hupdate, hinsert, rfl⟩
    refine Except.bind_eq_ok.2 ⟨some row, orFail_eq_ok.2 hfound, ?_⟩
    refine Except.bind_eq_ok.2 ⟨delta, hdelta, ?_⟩
    refine Except.bind_eq_ok.2 ⟨column, orFail_eq_ok.2 hcolumn, ?_⟩
    refine Except.bind_eq_ok.2 ⟨db₁, orFail_eq_ok.2 hupdate, ?_⟩
    exact Except.bind_eq_ok.2 ⟨db', orFail_eq_ok.2 hinsert, rfl⟩

theorem steady_apply (stamp : Stamp) (vanished : Bool) (owner id : Uuid) (amount : Decimal)
    (currency : Option String) (kind : Kind) (description : Option String) :
    Steady (apply stamp vanished owner id amount currency kind description) := by
  intro db
  refine (orFail_follows (db.findAccount_follows owner id)).bind fun found => ?_
  cases found with
  | none => exact .inr rfl
  | some row =>
    refine .step _ fun delta => .step _ fun column => .ite (.inr rfl) ?_
    refine (orFail_follows (db.updateBalance_follows owner id column stamp.now)).bind fun db₁ => ?_
    exact (orFail_follows (db₁.insertTransaction_follows _)).bind fun db₂ => .inr rfl

theorem steady_createPayee (stamp : Stamp) (owner : Uuid) (name number : Option String) :
    Steady (createPayee stamp owner name number) := by
  intro db
  simp only [createPayee]
  rcases db.insertPayee_follows ⟨stamp.first, owner, name, number, stamp.now⟩ with
    ⟨fault, failed, missing⟩ | same
  · obtain ⟨is_missing, noConstraint⟩ := orFail_missing missing
    refine .inl ⟨_, ?_, is_missing⟩
    simp only [failed, noConstraint, Bool.false_eq_true, if_false]
    rfl
  · rw [same]
    cases db.insertPayee ⟨stamp.first, owner, name, number, stamp.now⟩ with
    | error fault => exact .ite (.inr rfl) (.inr rfl)
    | ok db₁ => exact .inr rfl

/-! ## Opening an account -/

theorem insertOpened_follows (stamp : Stamp) (account : Account) (db : Database) :
    Follows Failure.IsMissing (Option.map Database.provisioned) (insertOpened stamp account db)
      (insertOpened stamp account db.provisioned) := by
  simp only [insertOpened]
  rcases db.insertAccount_follows account with ⟨fault, failed, missing⟩ | same
  · obtain ⟨is_missing, noConstraint⟩ := orFail_missing missing
    refine .inl ⟨_, ?_, is_missing⟩
    simp only [failed, noConstraint, Bool.false_and, Bool.false_eq_true, if_false]
    rfl
  · rw [same]
    cases db.insertAccount account with
    | error fault => exact .ite (.inr rfl) (.inr rfl)
    | ok db₁ =>
      cases account.balance.exceeds? Money.zero with
      | none => exact .inr rfl
      | some above =>
        cases above with
        | false => exact .inr rfl
        | true =>
          rcases orFail_follows (db₁.insertTransaction_follows (account.openingCredit stamp)) with
            ⟨failure, failed, is_missing⟩ | same
          · exact .inl ⟨failure, by simp only [failed]; rfl, is_missing⟩
          · refine .inr ?_
            simp only [Except.map] at same ⊢
            rw [same]
            cases (db₁.insertTransaction (account.openingCredit stamp)).orFail <;> rfl

variable {owner : Uuid} {label currency : Option String} {opening : Decimal} {attempts left : Nat}

theorem createAccount_later :
    Supply.Later s (createAccount owner label currency opening attempts left d s).state.2 := by
  induction left generalizing d s with
  | zero => exact .refl s
  | succ left ih =>
    simp only [createAccount]
    split
    · exact s.later_stamp
    · have drawn := s.later_stamp.trans (Supply.later_drawNumber s.stamp.2)
      split
      · exact drawn
      · exact drawn
      · exact drawn.trans ih

theorem createAccount_error {failure : Failure}
    (h : (createAccount owner label currency opening attempts left d s).result = .error failure) :
    (createAccount owner label currency opening attempts left d s).state.1.database =
      d.database := by
  induction left generalizing d s with
  | zero => rfl
  | succ left ih =>
    have same := d.openSession_database
    rcases opened : d.openSession with ⟨_ | closed, d'⟩ <;> rw [opened] at same <;>
      simp only [createAccount, opened] at h ⊢
    · split at h <;> rename_i done
      · simpa only [done] using same
      · cases h
      · simp only [Outcome.after] at h ⊢
        rw [ih h]
        exact same
    · exact same

theorem createAccount_sessions (h : d.sessions = []) :
    (createAccount owner label currency opening attempts left d s).state.1.sessions = [] := by
  induction left generalizing s with
  | zero => exact h
  | succ left ih =>
    simp only [createAccount, openSession_none h]
    split
    · exact h
    · exact h
    · exact ih

/-- What an operation comes to with missing tables and with scripted sessions, against what it comes
to on the healthy store. -/
def Healed (d : Durable) (o : Outcome (Durable × Supply) Answer)
    (healed : Outcome (Durable × Supply) Answer) : Prop :=
  (∃ failure, o.result = .error failure ∧ (d.sessions = [] → failure.IsMissing)) ∨
    healed = ⟨o.result, (o.state.1.healthy, o.state.2), o.log⟩

theorem createAccount_healed :
    Healed d (createAccount owner label currency opening attempts left d s)
      (createAccount owner label currency opening attempts left d.healthy s) := by
  induction left generalizing d s with
  | zero => exact .inr rfl
  | succ left ih =>
    have same := d.openSession_database
    rcases opened : d.openSession with ⟨_ | closed, d'⟩ <;> rw [opened] at same <;>
      simp only [createAccount, opened, openSession_healthy]
    · have start : d'.healthy = d.healthy := by rw [healthy, healthy, ← same]
      rw [← start]
      rcases insertOpened_follows s.stamp.1 (.opened s.stamp.1 s.stamp.2.drawNumber.1 owner label
        currency opening) d'.database with ⟨failure, failed, missing⟩ | done
      · refine .inl ⟨failure, ?_, fun _ => missing⟩
        simp only [failed]
      · have result : insertOpened s.stamp.1 (.opened s.stamp.1 s.stamp.2.drawNumber.1 owner label
            currency opening) d'.healthy.database = _ := done
        rw [result]
        cases insertOpened s.stamp.1 (.opened s.stamp.1 s.stamp.2.drawNumber.1 owner label
          currency opening) d'.database with
        | error failure => exact .inr rfl
        | ok inserted =>
          cases inserted with
          | some database => exact .inr rfl
          | none =>
            -- The number is taken in both, so both go on to the same attempt.
            rcases ih (d := d') (s := s.stamp.2.drawNumber.2) with ⟨failure, failed, missing⟩ | next
            · refine .inl ⟨failure, failed, fun none => missing ?_⟩
              rw [openSession_none none] at opened
              cases opened
              exact none
            · refine .inr ?_
              simp only [Except.map, Option.map_none, next]
              rfl
    · refine .inl ⟨closed, rfl, fun none => ?_⟩
      rw [openSession_none none] at opened
      cases opened

/-! ## All operations -/

theorem run_later {vanished : Bool} {op : Operation} :
    Supply.Later s (d.run attempts vanished op s).state.2 := by
  cases op with
  | createAccount => exact createAccount_later
  | listAccounts | listTransactions | applyTransaction | listPayees | createPayee
    | deletePayees => exact s.later_stamp

theorem run_error {vanished : Bool} {op : Operation} {failure : Failure}
    (h : (d.run attempts vanished op s).result = .error failure) :
    (d.run attempts vanished op s).state.1.database = d.database := by
  cases op with
  | createAccount => exact createAccount_error h
  | listAccounts | listTransactions | applyTransaction | listPayees | createPayee
    | deletePayees => exact work_error h

theorem perform_healed {body : Stamp → Database → Except Failure (Answer × Database)}
    (steady : Steady (body s.stamp.1)) : Healed d (d.perform body s) (d.healthy.perform body s) := by
  have same := d.openSession_database
  rcases opened : d.openSession with ⟨_ | closed, d'⟩ <;> rw [opened] at same <;>
    simp only [perform, work, opened, openSession_healthy]
  · have start : d'.healthy = d.healthy := by rw [healthy, healthy, ← same]
    rw [← start]
    rcases steady d'.database with ⟨failure, failed, missing⟩ | done
    · refine .inl ⟨failure, ?_, fun _ => missing⟩
      simp only [failed]
    · have result : body s.stamp.1 d'.healthy.database = _ := done
      rw [result]
      cases body s.stamp.1 d'.database with
      | error failure => exact .inr rfl
      | ok done => exact .inr rfl
  · refine .inl ⟨closed, rfl, fun none => ?_⟩
    rw [openSession_none none] at opened
    cases opened

theorem run_healed (attempts : Nat) (op : Operation) (d : Durable) (s : Supply) :
    Healed d (d.run attempts false op s) (d.healthy.run attempts false op s) := by
  cases op with
  | createAccount => exact createAccount_healed
  | listAccounts owner => exact perform_healed (steady_listAccounts owner)
  | listTransactions owner account => exact perform_healed (steady_listTransactions owner account)
  | applyTransaction owner id amount currency kind description =>
    exact perform_healed (steady_apply _ false owner id amount currency kind description)
  | listPayees owner => exact perform_healed (steady_listPayees owner)
  | createPayee owner name number => exact perform_healed (steady_createPayee _ owner name number)
  | deletePayees owner => exact perform_healed (steady_deletePayees owner)

theorem run_sessions {vanished : Bool} {op : Operation} (h : d.sessions = []) :
    (d.run attempts vanished op s).state.1.sessions = [] := by
  cases op with
  | createAccount owner label currency opening => exact createAccount_sessions h
  | listAccounts | listTransactions | applyTransaction | listPayees | createPayee
    | deletePayees => exact work_sessions h

theorem run_vanished {op : Operation} {answer : Answer}
    (h : (d.run attempts true op s).result = .ok answer) :
    d.run attempts true op s = d.run attempts false op s := by
  cases op with
  | createAccount | listAccounts | listTransactions | listPayees | createPayee | deletePayees => rfl
  | applyTransaction => exact absurd (apply_eq_ok.1 (work_ok h)).1 (by decide)

theorem run_ok {vanished : Bool} {op : Operation} {answer : Answer}
    (h : (d.run attempts vanished op s).result = .ok answer) :
    let o := d.run attempts vanished op s
    d.healthy.run attempts false op s = ⟨.ok answer, (o.state.1.healthy, o.state.2), o.log⟩ := by
  have same : d.run attempts vanished op s = d.run attempts false op s := by
    cases vanished with
    | false => rfl
    | true => exact run_vanished h
  rw [same] at h ⊢
  rcases run_healed attempts op d s with ⟨failure, failed, -⟩ | healed
  · rw [h] at failed
    cases failed
  · rw [healed, h]

theorem run_provisioned (attempts : Nat) (op : Operation) (db : Database) (s : Supply) :
    let after := (run attempts false op ⟨db.provisioned, []⟩ s).state.1.database
    after.provisioned = after := by
  cases result : (run attempts false op ⟨db.provisioned, []⟩ s).result with
  | error failure => simp only [run_error result, Database.provisioned_provisioned]
  | ok answer =>
    have healed := run_ok result
    simp only [healthy, Database.provisioned_provisioned] at healed
    exact (congrArg (·.state.1.database) healed).symm

end Passbook.Durable
