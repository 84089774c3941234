import Passbook.Proofs.Owner.Book
import Passbook.Proofs.Owner.Database

namespace Passbook.Durable
open Passbook.Except (Paired)

variable {ρ : Renaming} {owner : Uuid} {d d' : Durable} {db db' : Database}
  {s t s₀ t₀ u : Supply} {stamp : Stamp} {op : Operation} {attempts left : Nat}

theorem orFail_mirrors {α β : Type} {R : α → β → Prop} {x : Statement α} {y : Statement β}
    (h : Paired id R x y) : Paired ρ.failure R x.orFail y.orFail := by
  cases h with
  | ok related => exact .ok related
  | error fault =>
    have paired : Paired ρ.failure R (.error fault.error.failure)
        (.error (ρ.failure fault.error.failure)) := .error _
    rwa [ρ.failure_driver] at paired

def Matched (ρ : Renaming) (owner : Uuid) (done done' : Answer × Database) : Prop :=
  done'.1 = ρ.answer done.1 ∧ Database.Mirrors ρ owner done.2 done'.2

theorem listAccounts_mirrors (h : Database.Mirrors ρ owner db db') :
    Paired ρ.failure (Matched ρ owner) (listAccounts owner db) (listAccounts owner db') := by
  apply (orFail_mirrors (Database.selectAccounts_mirrors h)).bind
  rintro rows - rfl
  exact .ok ⟨by simp [Renaming.answer, Function.comp_def], h⟩

theorem listTransactions_mirrors (h : Database.Mirrors ρ owner db db') (account : Option Uuid) :
    Paired ρ.failure (Matched ρ owner) (listTransactions owner account db)
      (listTransactions owner (account.map ρ.id) db') := by
  have selected : Paired ρ.failure _ _ _ :=
    orFail_mirrors (Database.selectTransactions_mirrors h account)
  cases account with
  | none =>
    apply selected.bind
    rintro rows - rfl
    exact .ok ⟨by simp [Renaming.answer, Function.comp_def], h⟩
  | some id =>
    apply (orFail_mirrors (Database.findAccount_mirrors h id)).bind
    rintro found - rfl
    refine .ite (by simp) (.error (Failure.refused (.accountNotFound id))) (selected.bind ?_)
    rintro rows - rfl
    exact .ok ⟨by simp [Renaming.answer, Function.comp_def], h⟩

theorem apply_mirrors (h : Database.Mirrors ρ owner db db') (now : stamp.now.micros ∈ ρ.moments)
    (vanished : Bool) (id : Uuid) (amount : Decimal) (currency : Option String) (kind : Kind)
    (description : Option String) :
    Paired ρ.failure (Matched ρ owner)
      (apply stamp vanished owner id amount currency kind description db)
      (apply (ρ.stamp stamp) vanished owner (ρ.id id) amount currency kind description db') := by
  apply (orFail_mirrors (Database.findAccount_mirrors h id)).bind
  rintro found - rfl
  cases found with
  | none => exact .error (Failure.refused (.accountNotFound id))
  | some row =>
    apply (signedDelta_renamed ρ row.id row.balance.toCents amount kind).bind
    rintro delta - rfl
    apply (orFail_mirrors (Paired.refl (moneyColumn delta))).bind
    rintro column - rfl
    refine .ite Iff.rfl (.error (Failure.refused (.accessDenied .account))) ?_
    apply (orFail_mirrors (Database.updateBalance_mirrors h id column stamp.now)).bind
    intro db₁ db₁' h₁
    let t := transactionOn stamp row owner id amount currency kind description
    apply (orFail_mirrors (Database.insertTransaction_mirrors (t := t) h₁ rfl now)).bind
    intro db₂ db₂' h₂
    exact .ok ⟨rfl, h₂⟩

theorem listPayees_mirrors (h : Database.Mirrors ρ owner db db') :
    Paired ρ.failure (Matched ρ owner) (listPayees owner db) (listPayees owner db') := by
  apply (orFail_mirrors (Database.selectPayees_mirrors h)).bind
  rintro rows - rfl
  exact .ok ⟨by simp [Renaming.answer, Function.comp_def], h⟩

theorem createPayee_mirrors (h : Database.Mirrors ρ owner db db')
    (now : stamp.now.micros ∈ ρ.moments) (name number : Option String) :
    Paired ρ.failure (Matched ρ owner) (createPayee stamp owner name number db)
      (createPayee (ρ.stamp stamp) owner name number db') := by
  let p : Payee := ⟨stamp.first, owner, name, number, stamp.now⟩
  have inserted := Database.insertPayee_mirrors (p := p) h rfl now
  have renamed : ρ.payee p = ⟨(ρ.stamp stamp).first, owner, name, number, (ρ.stamp stamp).now⟩ := rfl
  rw [renamed] at inserted
  simp only [createPayee]
  generalize db.insertPayee _ = x at inserted ⊢
  generalize db'.insertPayee _ = x' at inserted ⊢
  cases inserted with
  | ok related => exact .ok ⟨rfl, related⟩
  | error fault =>
    refine .ite Iff.rfl (.error (Failure.refused (.duplicatePayee number))) ?_
    exact orFail_mirrors (.error fault)

theorem deletePayees_mirrors (h : Database.Mirrors ρ owner db db') :
    Paired ρ.failure (Matched ρ owner) (deletePayees owner db) (deletePayees owner db') := by
  apply (orFail_mirrors (Database.deletePayees_mirrors h)).bind
  rintro ⟨count, db₁⟩ ⟨count', db₁'⟩ ⟨same, related⟩
  cases same
  exact .ok ⟨rfl, related⟩

theorem insertOpened_mirrors {stamp : Stamp} {a : Account} (h : Database.Mirrors ρ owner db db')
    (mine : a.owner = owner) (now : stamp.now.micros ∈ ρ.moments)
    (same : a.createdAt = stamp.now) (free : ∀ row ∈ db.rows.accounts, row.number ≠ a.number)
    (free' : ∀ row ∈ db'.rows.accounts, row.number ≠ (ρ.account a).number) :
    Paired ρ.failure (Option.Rel (Database.Mirrors ρ owner)) (insertOpened stamp a db)
      (insertOpened (ρ.stamp stamp) (ρ.account a) db') := by
  have inserted := Database.insertAccount_mirrors h mine (same ▸ now) free free'
  have balance : (ρ.account a).balance = a.balance := rfl
  simp only [insertOpened, balance]
  generalize db.insertAccount a = x at inserted ⊢
  generalize db'.insertAccount (ρ.account a) = x' at inserted ⊢
  cases inserted with
  | error fault => exact .ite Iff.rfl (.ok .none) (orFail_mirrors (.error fault))
  | ok related =>
    cases a.balance.exceeds? Money.zero with
    | none => exact .error (Failure.arithmetic .invalid)
    | some above =>
      cases above with
      | false => exact .ok (.some related)
      | true =>
        have credited : Paired ρ.failure _ _ _ := orFail_mirrors
          (Database.insertTransaction_mirrors (t := a.openingCredit stamp) related mine now)
        exact credited.map fun _ _ related => .some related

/-! ## All operations -/

structure Mirrors (ρ : Renaming) (owner : Uuid) (d d' : Durable) : Prop where
  sessions : d.sessions = []
  sessions' : d'.sessions = []
  database : Database.Mirrors ρ owner d.database d'.database

def Numbered (d : Durable) (s : Supply) : Prop :=
  ∀ row ∈ d.database.rows.accounts, s.Drawn row.number

theorem Numbered.later (h : d.Numbered s) (later : s.Later t) : d.Numbered t :=
  fun row mem => (h row mem).later later

theorem Numbered.free (h : d.Numbered s) (draws : Function.Injective s.draw) :
    ∀ row ∈ d.database.rows.accounts, row.number ≠ s.drawNumber.1 :=
  fun row mem => (h row mem).ne draws

theorem createAccount_numbered {label currency : Option String} {opening : Decimal}
    (h : d.Numbered s) :
    (createAccount owner label currency opening attempts left d s).state.1.Numbered
      (createAccount owner label currency opening attempts left d s).state.2 := by
  induction left generalizing d s with
  | zero => exact h
  | succ left ih =>
    have same := d.openSession_database
    have later := s.later_stamp.trans s.stamp.2.later_drawNumber
    rcases opened : d.openSession with ⟨_ | closed, d'⟩ <;> rw [opened] at same <;>
      simp only [createAccount, opened]
    · have h' : d'.Numbered s.stamp.2.drawNumber.2 := fun row mem =>
        (h row (same ▸ mem)).later later
      split
      · exact h'
      · rename_i database done
        intro row mem
        obtain ⟨does, -⟩ := insertOpened_ok done
        have added : row ∈ d'.database.rows.accounts ∨ row.number = s.stamp.2.drawNumber.1 := by
          generalize database.rows = r at does mem
          cases does <;> refine (List.mem_append.1 mem).imp_right fun one => ?_ <;>
            rw [List.mem_singleton.1 one] <;> rfl
        rcases added with mem | new
        · exact h' row mem
        · rw [new]
          exact s.stamp.2.drawn_drawNumber
      · exact ih h'
    · intro row mem
      exact (h row (same ▸ mem)).later s.later_stamp

theorem run_numbered {vanished : Bool} (h : d.Numbered s) :
    (d.run attempts vanished op s).state.1.Numbered (d.run attempts vanished op s).state.2 := by
  cases result : (d.run attempts vanished op s).result with
  | error failure =>
    intro row mem
    rw [run_error result] at mem
    exact (h row mem).later run_later
  | ok answer =>
    by_cases creates : op.method = .createAccount
    · cases op <;> cases creates
      exact createAccount_numbered h
    · obtain ⟨s₀, -, -, does, -⟩ := run_does result
      intro row mem
      have kept := List.mem_map_of_mem (f := (·.number)) mem
      rw [does.numbers creates] at kept
      obtain ⟨row', mem', same⟩ := List.mem_map.1 kept
      rw [← same]
      exact (h row' mem').later run_later

theorem createAccount_mirrors {label currency : Option String} {opening : Decimal}
    (h : d.Mirrors ρ owner d') (numbered : d.Numbered s) (numbered' : d'.Numbered t)
    (draws : Function.Injective s.draw) (draws' : Function.Injective t.draw)
    (abreast : Supply.Abreast ρ s₀ t₀ u s t)
    (later : (createAccount owner label currency opening attempts left d' t).state.2.Later u) :
    (createAccount owner label currency opening attempts left d' t).result =
        ρ.result (createAccount owner label currency opening attempts left d s).result ∧
      Mirrors ρ owner (createAccount owner label currency opening attempts left d s).state.1
        (createAccount owner label currency opening attempts left d' t).state.1 ∧
      Supply.Abreast ρ s₀ t₀ u
        (createAccount owner label currency opening attempts left d s).state.2
        (createAccount owner label currency opening attempts left d' t).state.2 := by
  induction left generalizing s t with
  | zero => exact ⟨rfl, h, abreast⟩
  | succ left ih =>
    have taken : t.stamp.2.drawNumber.2.Later u := by
      refine Supply.Later.trans ?_ later
      simp only [createAccount, openSession_none h.sessions']
      split
      · exact .refl _
      · exact .refl _
      · exact createAccount_later
    obtain ⟨stamp, stamped⟩ := abreast.stamp (t.stamp.2.later_drawNumber.trans taken)
    obtain ⟨number, drawn⟩ := stamped.drawNumber taken
    simp only [createAccount, openSession_none h.sessions, openSession_none h.sessions', ← stamp,
      ← number, ← ρ.account_opened] at later ⊢
    have free' : ∀ row ∈ d'.database.rows.accounts,
        row.number ≠ ρ.number s.stamp.2.drawNumber.1 := by
      rw [number]
      exact numbered'.free draws'
    have inserted := insertOpened_mirrors
      (a := .opened s.stamp.1 s.stamp.2.drawNumber.1 owner label currency opening) h.database rfl
      (abreast.aligned.moments _) rfl (numbered.free draws) free'
    generalize insertOpened _ _ d.database = x at inserted later ⊢
    generalize insertOpened _ _ d'.database = x' at inserted later ⊢
    cases inserted with
    | error failure => exact ⟨rfl, h, drawn⟩
    | ok related =>
      cases related with
      | some related => exact ⟨rfl, ⟨h.sessions, h.sessions', related⟩, drawn⟩
      | none =>
        exact ih (numbered.later (s.later_stamp.trans s.stamp.2.later_drawNumber))
          (numbered'.later (t.later_stamp.trans t.stamp.2.later_drawNumber)) draws draws' drawn
          later

theorem perform_mirrors {body body' : Stamp → Database → Except Failure (Answer × Database)}
    (h : d.Mirrors ρ owner d')
    (paired : ∀ stamp : Stamp, stamp.now.micros ∈ ρ.moments → Paired ρ.failure (Matched ρ owner)
      (body stamp d.database) (body' (ρ.stamp stamp) d'.database))
    (abreast : Supply.Abreast ρ s₀ t₀ u s t)
    (later : (d'.perform body' t).state.2.Later u) :
    (d'.perform body' t).result = ρ.result (d.perform body s).result ∧
      Mirrors ρ owner (d.perform body s).state.1 (d'.perform body' t).state.1 ∧
      Supply.Abreast ρ s₀ t₀ u (d.perform body s).state.2 (d'.perform body' t).state.2 := by
  obtain ⟨stamp, next⟩ := abreast.stamp later
  have done := paired s.stamp.1 (abreast.aligned.moments _)
  simp only [perform, work, openSession_none h.sessions, openSession_none h.sessions', ← stamp]
  generalize body s.stamp.1 d.database = x at done ⊢
  generalize body' (ρ.stamp s.stamp.1) d'.database = x' at done ⊢
  cases done with
  | error failure => exact ⟨rfl, h, next⟩
  | ok matched =>
    exact ⟨congrArg _ matched.1, ⟨h.sessions, h.sessions', matched.2⟩, next⟩

theorem run_mirrors (h : d.Mirrors ρ owner d') (own : op.owner = owner) (numbered : d.Numbered s)
    (numbered' : d'.Numbered t) (draws : Function.Injective s.draw)
    (draws' : Function.Injective t.draw) (abreast : Supply.Abreast ρ s₀ t₀ u s t)
    (later : (d'.run attempts false (op.renamed ρ.id) t).state.2.Later u) :
    (d'.run attempts false (op.renamed ρ.id) t).result =
        ρ.result (d.run attempts false op s).result ∧
      Mirrors ρ owner (d.run attempts false op s).state.1
        (d'.run attempts false (op.renamed ρ.id) t).state.1 ∧
      Supply.Abreast ρ s₀ t₀ u (d.run attempts false op s).state.2
        (d'.run attempts false (op.renamed ρ.id) t).state.2 := by
  subst own
  cases op with
  | createAccount owner label currency opening =>
    exact createAccount_mirrors h numbered numbered' draws draws' abreast later
  | listAccounts owner =>
    exact perform_mirrors h (fun _ _ => listAccounts_mirrors h.database) abreast later
  | listTransactions owner account =>
    exact perform_mirrors h (fun _ _ => listTransactions_mirrors h.database account) abreast later
  | applyTransaction owner id amount currency kind description =>
    exact perform_mirrors h
      (fun _ now => apply_mirrors h.database now false id amount currency kind description) abreast
      later
  | listPayees owner =>
    exact perform_mirrors h (fun _ _ => listPayees_mirrors h.database) abreast later
  | createPayee owner name number =>
    exact perform_mirrors h (fun _ now => createPayee_mirrors h.database now name number) abreast
      later
  | deletePayees owner =>
    exact perform_mirrors h (fun _ _ => deletePayees_mirrors h.database) abreast later

theorem ensureTables_mirrors (h : d.Mirrors ρ owner d') :
    Paired ρ.failure Eq d.ensureTables.result d'.ensureTables.result ∧
      Mirrors ρ owner d.ensureTables.state d'.ensureTables.state := by
  have provisioned := Database.ensureTables_mirrors h.database
  unfold ensureTables
  generalize d.database.ensureTables = x at provisioned ⊢
  generalize d'.database.ensureTables = x' at provisioned ⊢
  cases provisioned with
  | error fault => exact ⟨.error (Failure.unavailable .provisioning), h⟩
  | ok related => exact ⟨.ok rfl, h.sessions, h.sessions', related⟩

end Passbook.Durable
