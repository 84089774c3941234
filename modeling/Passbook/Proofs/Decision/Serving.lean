import Passbook.Proofs.Decision.Verdict
import Passbook.Proofs.History.Run

namespace Passbook.World
variable {terms : Terms} {call : Call} {w : World} {db : Database} {owner id : Uuid}

def accounts (owner : Uuid) (w : World) : List Account :=
  if w.usesDatabase then (w.rows.accountsOf owner).map (·.toAccount)
  else (w.book.shelf owner).accounts

def transactions (owner : Uuid) (w : World) : List Transaction :=
  if w.usesDatabase then (w.rows.of owner).transactions.map (·.toTransaction)
  else (w.book.shelf owner).transactions

section
variable (owner)

theorem InMemory.accounts (h : w.InMemory) : w.accounts owner = (w.book.shelf owner).accounts := by
  rw [World.accounts, h.usesDatabase]
  rfl

theorem Healthy.accounts (h : w.Healthy db) :
    w.accounts owner = (db.rows.accountsOf owner).map (·.toAccount) := by
  rw [World.accounts, h.usesDatabase, rows_of_durable h.durable]
  rfl

theorem InMemory.transactions (h : w.InMemory) :
    w.transactions owner = (w.book.shelf owner).transactions := by
  rw [World.transactions, h.usesDatabase]
  rfl

theorem Healthy.transactions (h : w.Healthy db) :
    w.transactions owner = (db.rows.of owner).transactions.map (·.toTransaction) := by
  rw [World.transactions, h.usesDatabase, rows_of_durable h.durable]
  rfl

end

/-! ## Worlds in order -/

structure Regular (w : World) : Prop where
  faultFree : w.FaultFree
  dated : w.Dated
  tame : ∀ owner, (w.book.shelf owner).Tame

theorem Dated.finite (h : w.Dated) : ∀ row ∈ w.rows.accounts, row.balance.isFinite := by
  intro row mem
  cases durable : w.durable with
  | none =>
    rw [rows_of_none durable] at mem
    cases mem
  | some d =>
    obtain ⟨answers, tallied⟩ := h.tallied d durable
    rw [rows_of_durable durable] at mem
    rw [tallied.rows.balance row mem]
    exact (Binary64.tally_bounded (tallied.movements row.id)).1

theorem Regular.orderly (h : w.Regular) : w.Orderly := by
  refine ⟨h.faultFree, fun row mem nan => ?_⟩
  have finite := h.dated.finite row mem
  rw [nan] at finite
  cases finite

theorem Regular.numeric (h : w.Regular) (healthy : w.Healthy db) : db.Numeric := by
  have numbers := h.orderly.numbers
  rw [rows_of_durable healthy.durable] at numbers
  exact ⟨healthy.reachable, numbers⟩

theorem Regular.cases (h : w.Regular) : w.InMemory ∨ ∃ db, w.Healthy db := by
  rcases h.faultFree.cases h.faultFree rfl with ⟨memory, -⟩ | ⟨db, -, healthy, -⟩
  · exact .inl memory
  · exact .inr ⟨db, healthy⟩

theorem perform_tame (terms : Terms) (call : Call) (h : w.Dated)
    (tame : ∀ owner, (w.book.shelf owner).Tame) (owner : Uuid) :
    ((w.perform terms call).state.book.shelf owner).Tame := by
  cases perform_change terms call w with
  | failed answered book | database valid answered before after does book =>
    rw [book]
    exact tame owner
  | memory valid answered before after does =>
    exact Book.does_tame tame (fun owner => (h.book.shelves owner).distinct)
      (Call.operation_checked valid) does owner

theorem perform_regular (terms : Terms) (call : Call) (w : World) (h : w.Regular) :
    (w.perform terms call).state.Regular :=
  ⟨perform_faultFree terms call h.faultFree, perform_dated terms call w h.dated,
    perform_tame terms call h.dated h.tame⟩

theorem regular_empty (empty : w.book = .empty) (bare : w.rows = ⟨[], [], []⟩)
    (faultFree : w.FaultFree) : w.Regular := by
  obtain ⟨book, durable, supply, script⟩ := w
  obtain rfl : book = .empty := empty
  refine ⟨faultFree, dated_empty supply script fun d same => ?_, fun owner a mem => by cases mem⟩
  rw [← bare, rows_of_durable (w := ⟨.empty, durable, supply, script⟩) same]

theorem run_regular (terms : Terms) (calls : List Call) (empty : w.book = .empty)
    (bare : w.rows = ⟨[], [], []⟩) (faultFree : w.FaultFree) : (run terms calls w).2.Regular :=
  run_induction Regular (perform_regular terms) calls w (regular_empty empty bare faultFree)

theorem Regular.distinct (h : w.Regular) (owner : Uuid) :
    ((w.accounts owner).map (·.id)).Nodup := by
  unfold World.accounts
  split_ifs
  · obtain ⟨answers, tallied⟩ := h.dated.rows_tallied
    have kept : ((w.rows.accounts.filter (·.owner == owner)).map (·.id)).Nodup :=
      tallied.distinct.sublist (List.filter_sublist.map _)
    rw [List.map_map]
    exact ((List.mergeSort_perm _ _).map _).nodup_iff.2 kept
  · exact (h.dated.book.shelves owner).distinct

theorem Regular.one (h : w.Regular) {a b : Account} (ha : a ∈ w.accounts owner)
    (hb : b ∈ w.accounts owner) (same : a.id = b.id) : a = b :=
  List.inj_on_of_nodup_map (h.distinct owner) ha hb same

/-! ## Calls -/

theorem listAccounts_shown (h : w.Regular)
    (some : w.usesDatabase ∨ w.accounts owner ≠ []) :
    (w.perform terms (.listAccounts owner)).result = .ok (.accounts (w.accounts owner)) := by
  rcases h.cases with memory | ⟨db, healthy⟩
  · rw [memory.usesDatabase, memory.accounts] at some
    have checked : (Operation.listAccounts owner).Checked := trivial
    obtain ⟨s, -, result, -⟩ := serve_inMemory terms memory checked
    have shown : (w.book.run terms.forBook (.listAccounts owner) s).result =
        .ok (.accounts (w.book.shelf owner).accounts) := by
      have nonempty : (w.book.shelf owner).accounts.isEmpty = false := by simpa using some
      simp only [Book.run, nonempty, Bool.false_eq_true, if_false]
    rw [memory.accounts]
    exact result.trans (surface_eq_ok.2 shown)
  · rw [healthy.accounts]
    exact healthy.listAccounts terms owner

section
variable {amount : Decimal} {currency description : Option String} {kind : Kind}
  {accounts : List Account} {result : Except Failure Answer}

theorem Verdict.surface (outage : Outage)
    (h : Verdict accounts owner id amount currency kind description result) :
    Verdict accounts owner id amount currency kind description (surface outage result) := by
  cases h with
  | unknown none => exact .unknown none
  | short mem same debit less => exact .short mem same debit less
  | recorded stamp mem same covered => exact .recorded stamp mem same covered

theorem perform_verdict (h : w.Regular)
    (valid : call.operation terms =
      .ok (.applyTransaction owner id amount currency kind description)) :
    Verdict (w.accounts owner) owner id amount currency kind description
      (w.perform terms call).result := by
  have checked := Call.operation_checked valid
  simp only [perform, valid]
  rcases h.cases with memory | ⟨db, healthy⟩
  · obtain ⟨s, -, result, -⟩ := serve_inMemory terms memory checked
    rw [result, memory.accounts]
    exact Verdict.surface _ (Book.run_verdict (h.tame owner) checked.1 s)
  · have numeric := h.numeric healthy
    have finite := h.dated.finite
    rw [rows_of_durable healthy.durable] at finite
    obtain ⟨s, after, -, -, result, -⟩ := serve_repaired healthy numeric checked
      (not_runsOut healthy numeric checked Method.noConfusion)
    rw [result, healthy.accounts]
    exact Durable.run_verdict healthy.reachable finite checked.1 checked.2.1 checked.2.2 s

end

end Passbook.World
