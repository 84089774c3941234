import Passbook.Proofs.Owner.Pace
import Passbook.Proofs.Store.Rows

namespace Passbook
open Passbook.Except (Paired)

section
variable {α ε : Type} {own : α → Bool} {f : α → α} {as bs : List α}

def Mirrored (own : α → Bool) (f : α → α) (as bs : List α) : Prop :=
  bs.filter own = (as.filter own).map f

namespace Mirrored

theorem append {a : α} (h : Mirrored own f as bs) (mine : own a) (mine' : own (f a)) :
    Mirrored own f (as ++ [a]) (bs ++ [f a]) := by
  simp [Mirrored, h.symm, mine, mine']

theorem find? {p : α → Bool} (h : Mirrored own f as bs) :
    bs.find? (fun b => own b ∧ p b) = (as.find? (fun a => own a ∧ p (f a))).map f := by
  rw [← List.find?_filter, h, List.find?_map, List.find?_filter]
  rfl

theorem any {p : α → Bool} (h : Mirrored own f as bs) :
    bs.any (fun b => own b && p b) = as.any (fun a => own a && p (f a)) := by
  rw [← List.any_filter, h, List.any_map, List.any_filter]
  rfl

theorem filter {p : α → Bool} (h : Mirrored own f as bs) :
    bs.filter (fun b => own b && p b) = (as.filter (fun a => own a && p (f a))).map f := by
  have swap (p : α → Bool) (l : List α) :
      l.filter (fun a => own a && p a) = (l.filter own).filter p := by
    rw [List.filter_filter]
    exact List.filter_congr fun a _ => Bool.and_comm _ _
  rw [swap, swap, h, List.filter_map]
  rfl

theorem getD {found found' : Option (List α)} (h : Option.Rel (Mirrored own f) found found') :
    Mirrored own f (found.getD []) (found'.getD []) := by
  cases h with
  | none => rfl
  | some related => exact related

theorem mergeSort {r : α → α → Bool}
    (keeps : ∀ a ∈ as, ∀ b ∈ as, r (f a) (f b) = r a b) :
    (as.map f).mergeSort r = (as.mergeSort r).map f :=
  (List.map_mergeSort fun a ha b hb => (keeps a ha b hb).symm).symm

theorem mapM_filter {k : α → Except ε α} (others : ∀ a, own a = false → k a = .ok a)
    (mine : ∀ a b, own a → k a = .ok b → own b) (as : List α) :
    Paired id (fun all some => some = all.filter own) (as.mapM k) ((as.filter own).mapM k) := by
  induction as with
  | nil => exact .ok rfl
  | cons a as ih =>
    rw [List.mapM_cons]
    cases mine_a : own a with
    | true =>
      rw [List.filter_cons_of_pos mine_a, List.mapM_cons]
      cases first : k a with
      | error e => exact .error e
      | ok b =>
        refine ih.bind fun all some same => .ok ?_
        rw [same, List.filter_cons_of_pos (mine a b mine_a first)]
    | false =>
      rw [List.filter_cons_of_neg (by simp [mine_a]), others a mine_a]
      generalize (as.filter own).mapM k = some at ih ⊢
      generalize as.mapM k = all at ih ⊢
      cases ih with
      | error e => exact .error e
      | ok same => exact .ok (by rw [same, List.filter_cons_of_neg (by simp [mine_a])])

theorem mapM_map {k k' : α → Except ε α}
    (step : ∀ a ∈ as, Paired id (fun b b' => b' = f b) (k a) (k' (f a))) :
    Paired id (fun bs bs' => bs' = bs.map f) (as.mapM k) ((as.map f).mapM k') := by
  induction as with
  | nil => exact .ok rfl
  | cons a as ih =>
    rw [List.mapM_cons, List.map_cons, List.mapM_cons]
    apply (step a List.mem_cons_self).bind
    rintro b - rfl
    apply (ih fun a mem => step a (List.mem_cons_of_mem _ mem)).bind
    rintro bs - rfl
    exact .ok rfl

theorem mapM {k k' : α → Except ε α} (h : Mirrored own f as bs)
    (others : ∀ a, own a = false → k a = .ok a) (others' : ∀ a, own a = false → k' a = .ok a)
    (mine : ∀ a b, own a → k a = .ok b → own b) (mine' : ∀ a b, own a → k' a = .ok b → own b)
    (step : ∀ a, own a → Paired id (fun b b' => b' = f b) (k a) (k' (f a))) :
    Paired id (Mirrored own f) (as.mapM k) (bs.mapM k') := by
  have left := mapM_filter others mine as
  have right := mapM_filter others' mine' bs
  have between : Paired id (fun cs cs' => cs' = cs.map f) ((as.filter own).mapM k)
      (((as.filter own).map f).mapM k') :=
    mapM_map fun a mem => step a (List.mem_filter.1 mem).2
  rw [← h] at between
  generalize as.mapM k = x at left ⊢
  generalize bs.mapM k' = x' at right ⊢
  generalize (as.filter own).mapM k = y at left between
  generalize (bs.filter own).mapM k' = y' at right between
  cases left with
  | error e =>
    cases between
    cases right
    exact .error e
  | ok left =>
    cases between with
    | ok between =>
      cases right with
      | ok right => exact .ok (by rw [Mirrored, ← right, ← left, between])

end Mirrored

end

structure Rows.Timed (moments : Set Int) (r : Rows) : Prop where
  accounts : ∀ row ∈ r.accounts, row.createdAt.micros ∈ moments
  transactions : ∀ row ∈ r.transactions, row.createdAt.micros ∈ moments
  payees : ∀ row ∈ r.payees, row.createdAt.micros ∈ moments

namespace Database
variable {ρ : Renaming} {owner : Uuid} {db db' : Database}

structure Mirrors (ρ : Renaming) (owner : Uuid) (db db' : Database) : Prop where
  reachable : db'.reachable = db.reachable
  accounts : Option.Rel (Mirrored (·.owner == owner) ρ.accountRow) db.accounts db'.accounts
  transactions :
    Option.Rel (Mirrored (·.owner == owner) ρ.transactionRow) db.transactions db'.transactions
  payees : Option.Rel (Mirrored (·.owner == owner) ρ.payeeRow) db.payees db'.payees
  timed : db.rows.Timed ρ.moments

theorem rowsOf_mirrors {α : Type} {R : List α → List α → Prop} {found found' : Option (List α)}
    (h : Mirrors ρ owner db db') (table : Table) (same : Option.Rel R found found') :
    Paired id (fun rows rows' => R rows rows' ∧ found = some rows ∧ found' = some rows')
      (db.rowsOf table found) (db'.rowsOf table found') := by
  unfold rowsOf
  rw [h.reachable]
  refine .ite Iff.rfl ?_ (.error _)
  cases same with
  | none => exact .error _
  | some related => exact .ok ⟨related, rfl, rfl⟩

theorem accountRows_mirrors (h : Mirrors ρ owner db db') :
    Paired id (fun rows rows' => Mirrored (·.owner == owner) ρ.accountRow rows rows' ∧
      rows = db.rows.accounts ∧ rows' = db'.rows.accounts) db.accountRows db'.accountRows :=
  (rowsOf_mirrors h .accounts h.accounts).mono fun rows rows' ⟨related, found, found'⟩ =>
    ⟨related, by simp [Database.rows, found], by simp [Database.rows, found']⟩

theorem transactionRows_mirrors (h : Mirrors ρ owner db db') :
    Paired id (fun rows rows' => Mirrored (·.owner == owner) ρ.transactionRow rows rows' ∧
      rows = db.rows.transactions) db.transactionRows db'.transactionRows :=
  (rowsOf_mirrors h .transactions h.transactions).mono fun rows rows' ⟨related, found, _⟩ =>
    ⟨related, by simp [Database.rows, found]⟩

theorem payeeRows_mirrors (h : Mirrors ρ owner db db') :
    Paired id (fun rows rows' => Mirrored (·.owner == owner) ρ.payeeRow rows rows' ∧
      rows = db.rows.payees) db.payeeRows db'.payeeRows :=
  (rowsOf_mirrors h .payees h.payees).mono fun rows rows' ⟨related, found, _⟩ =>
    ⟨related, by simp [Database.rows, found]⟩

theorem insertAccount_mirrors {a : Account} (h : Mirrors ρ owner db db') (mine : a.owner = owner)
    (now : a.createdAt.micros ∈ ρ.moments)
    (free : ∀ row ∈ db.rows.accounts, row.number ≠ a.number)
    (free' : ∀ row ∈ db'.rows.accounts, row.number ≠ (ρ.account a).number) :
    Paired id (Mirrors ρ owner) (db.insertAccount a) (db'.insertAccount (ρ.account a)) := by
  apply (Paired.refl (moneyColumn a.balance)).bind
  rintro balance - rfl
  apply (accountRows_mirrors h).bind
  rintro rows rows' ⟨related, rfl, rfl⟩
  apply (Paired.refl (required a.label)).bind
  rintro label - rfl
  apply (Paired.refl (stored balance)).bind
  rintro held - rfl
  apply (Paired.refl (required a.currency)).bind
  rintro currency - rfl
  have unused : ¬db.rows.accounts.any (·.number == a.number) := by simpa using free
  have unused' : ¬db'.rows.accounts.any (·.number == (ρ.account a).number) := by simpa using free'
  rw [if_neg unused, if_neg unused']
  exact .ok ⟨h.reachable, .some (related.append (by simp [mine]) (by simp [mine])),
    h.transactions, h.payees,
    List.forall_mem_append.2 ⟨h.timed.accounts, List.forall_mem_singleton.2 now⟩,
    h.timed.transactions, h.timed.payees⟩

theorem insertTransaction_mirrors {t : Transaction} (h : Mirrors ρ owner db db')
    (mine : t.owner = owner) (now : t.createdAt.micros ∈ ρ.moments) :
    Paired id (Mirrors ρ owner) (db.insertTransaction t)
      (db'.insertTransaction (ρ.transaction t)) := by
  apply (Paired.refl (moneyColumn t.amount)).bind
  rintro amount - rfl
  apply (transactionRows_mirrors h).bind
  rintro rows rows' ⟨related, rfl⟩
  apply (Paired.refl (stored amount)).bind
  rintro held - rfl
  apply (Paired.refl (required t.currency)).bind
  rintro currency - rfl
  apply (Paired.refl (required t.kind.text)).bind
  rintro kind - rfl
  apply (Paired.refl (required t.description)).bind
  rintro description - rfl
  refine .ite Iff.rfl (.error _) (.ok ?_)
  exact ⟨h.reachable, h.accounts, .some (related.append (by simp [mine]) (by simp [mine])),
    h.payees, h.timed.accounts,
    List.forall_mem_append.2 ⟨h.timed.transactions, List.forall_mem_singleton.2 now⟩,
    h.timed.payees⟩

theorem insertPayee_mirrors {p : Payee} (h : Mirrors ρ owner db db') (mine : p.owner = owner)
    (now : p.createdAt.micros ∈ ρ.moments) :
    Paired id (Mirrors ρ owner) (db.insertPayee p) (db'.insertPayee (ρ.payee p)) := by
  subst mine
  apply (payeeRows_mirrors h).bind
  rintro rows rows' ⟨related, rfl⟩
  apply (Paired.refl (required p.name)).bind
  rintro name - rfl
  apply (Paired.refl (required p.number)).bind
  rintro number - rfl
  have same : rows'.any (fun row => row.owner == p.owner && row.number == number) =
      db.rows.payees.any (fun row => row.owner == p.owner && row.number == number) := related.any
  refine .ite (by rw [← same]; rfl) (.error _) (.ok ?_)
  exact ⟨h.reachable, h.accounts, h.transactions, .some (related.append (by simp) (by simp)),
    h.timed.accounts, h.timed.transactions,
    List.forall_mem_append.2 ⟨h.timed.payees, List.forall_mem_singleton.2 now⟩⟩

theorem findAccount_mirrors (h : Mirrors ρ owner db db') (account : Uuid) :
    Paired id (fun found found' => found' = found.map ρ.accountRow)
      (db.findAccount owner account) (db'.findAccount owner (ρ.id account)) := by
  apply (accountRows_mirrors h).bind
  rintro rows rows' ⟨related, -, -⟩
  have same := related.find? (p := (·.id == ρ.id account))
  have kept (id : Uuid) (rows : List AccountRow) : rows.find? (isKeptUnder owner id) =
      rows.find? fun row => row.owner == owner ∧ row.id == id := by
    congr 1
    funext row
    rw [Bool.eq_iff_iff]
    simp [isKeptUnder, and_comm]
  refine .ok ?_
  rw [kept, kept, same]
  simp [Renaming.accountRow]

theorem addToBalance_other {id : Uuid} {delta : Binary64} {now : Instant} {row : AccountRow}
    (other : (row.owner == owner) = false) : addToBalance owner id delta now row = .ok row := by
  simp [addToBalance, isKeptUnder, other]

theorem addToBalance_owner {id : Uuid} {delta : Binary64} {now : Instant} {row row' : AccountRow}
    (done : addToBalance owner id delta now row = .ok row') : row'.owner = row.owner := by
  rw [addToBalance_ok done, AccountRow.moved]
  split <;> rfl

theorem addToBalance_renamed (ρ : Renaming) (account : Uuid) (delta : Binary64) (now : Instant)
    (row : AccountRow) :
    Paired id (fun moved moved' => moved' = ρ.accountRow moved)
      (addToBalance owner account delta now row)
      (addToBalance owner (ρ.id account) delta (ρ.instant now) (ρ.accountRow row)) := by
  have same : isKeptUnder owner (ρ.id account) (ρ.accountRow row) =
      isKeptUnder owner account row := by
    simp [isKeptUnder, Renaming.accountRow]
  unfold addToBalance
  rw [same]
  refine .ite Iff.rfl ((Paired.refl _).bind ?_) (.ok rfl)
  rintro balance - rfl
  exact .ok rfl

theorem updateBalance_mirrors (h : Mirrors ρ owner db db') (account : Uuid) (delta : Binary64)
    (now : Instant) :
    Paired id (Mirrors ρ owner) (db.updateBalance owner account delta now)
      (db'.updateBalance owner (ρ.id account) delta (ρ.instant now)) := by
  apply (accountRows_mirrors h).bind
  rintro rows rows' ⟨related, rfl, -⟩
  have paired : Paired id (Mirrored (·.owner == owner) ρ.accountRow)
      (db.rows.accounts.mapM (addToBalance owner account delta now))
      (rows'.mapM (addToBalance owner (ρ.id account) delta (ρ.instant now))) := by
    refine related.mapM (fun _ => addToBalance_other) (fun _ => addToBalance_other) ?_ ?_ ?_
    · intro row row' mine done
      rwa [addToBalance_owner done]
    · intro row row' mine done
      rwa [addToBalance_owner done]
    · intro row _
      exact addToBalance_renamed ρ account delta now row
  apply paired.known.bind
  rintro moved moved' ⟨related, done⟩
  refine .ok ⟨h.reachable, .some related, h.transactions, h.payees, fun row mem => ?_,
    h.timed.transactions, h.timed.payees⟩
  rw [Except.mapM_eq_map addToBalance_ok done] at mem
  obtain ⟨old, hold, rfl⟩ := List.mem_map.1 mem
  rw [AccountRow.moved_createdAt]
  exact h.timed.accounts old hold

theorem selectAccounts_mirrors (h : Mirrors ρ owner db db') :
    Paired id (fun rows rows' => rows' = rows.map ρ.accountRow) (db.selectAccounts owner)
      (db'.selectAccounts owner) := by
  apply (accountRows_mirrors h).bind
  rintro rows rows' ⟨related, rfl, -⟩
  refine .ok ?_
  rw [related, Mirrored.mergeSort]
  intro a ha b hb
  exact decide_eq_decide.2 (ρ.instant_le (h.timed.accounts a (List.mem_filter.1 ha).1)
    (h.timed.accounts b (List.mem_filter.1 hb).1))

theorem selectTransactions_mirrors (h : Mirrors ρ owner db db') (account : Option Uuid) :
    Paired id (fun rows rows' => rows' = rows.map ρ.transactionRow)
      (db.selectTransactions owner account) (db'.selectTransactions owner (account.map ρ.id)) := by
  apply (transactionRows_mirrors h).bind
  rintro rows rows' ⟨related, rfl⟩
  refine .ok ?_
  have same := related.filter (p := fun row => (account.map ρ.id).all (row.account == ·))
  rw [same, Mirrored.mergeSort]
  · cases account <;> simp [Renaming.transactionRow]
  · intro a ha b hb
    exact decide_eq_decide.2 (ρ.instant_le (h.timed.transactions b (List.mem_filter.1 hb).1)
      (h.timed.transactions a (List.mem_filter.1 ha).1))

theorem selectPayees_mirrors (h : Mirrors ρ owner db db') :
    Paired id (fun rows rows' => rows' = rows.map ρ.payeeRow) (db.selectPayees owner)
      (db'.selectPayees owner) := by
  apply (payeeRows_mirrors h).bind
  rintro rows rows' ⟨related, rfl⟩
  refine .ok ?_
  rw [related, Mirrored.mergeSort]
  intro a ha b hb
  exact decide_eq_decide.2 (ρ.instant_le (h.timed.payees b (List.mem_filter.1 hb).1)
    (h.timed.payees a (List.mem_filter.1 ha).1))

theorem deletePayees_mirrors (h : Mirrors ρ owner db db') :
    Paired id (fun done done' => done'.1 = done.1 ∧ Mirrors ρ owner done.2 done'.2)
      (db.deletePayees owner) (db'.deletePayees owner) := by
  apply (payeeRows_mirrors h).bind
  rintro rows rows' ⟨related, rfl⟩
  refine .ok ⟨?_, h.reachable, h.accounts, h.transactions, .some ?_, h.timed.accounts,
    h.timed.transactions, fun row mem => h.timed.payees row (List.mem_filter.1 mem).1⟩
  · rw [related, List.length_map]
  · simp [Mirrored, List.filter_filter, bne]

theorem ensureTables_mirrors (h : Mirrors ρ owner db db') :
    Paired id (Mirrors ρ owner) db.ensureTables db'.ensureTables := by
  unfold ensureTables
  rw [h.reachable]
  refine .ite Iff.rfl (.ok ⟨rfl, ?_, ?_, ?_, h.timed⟩) (.error _)
  · exact .some (.getD h.accounts)
  · exact .some (.getD h.transactions)
  · exact .some (.getD h.payees)

end Database
end Passbook
