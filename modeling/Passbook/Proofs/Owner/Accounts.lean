import Passbook.Proofs.Owner.Apart

namespace Passbook

/-! ## Accounts have one owner -/

namespace World
variable {terms : Terms} {call : Call} {w w' : World} {owner id : Uuid}

def Holds (w : World) (owner id : Uuid) : Prop :=
  id ∈ w.book.ids owner ∨ ∃ row ∈ w.rows.accounts, row.owner = owner ∧ row.id = id

structure Owned (w : World) : Prop where
  issued : ∀ {owner id}, w.Holds owner id → w.supply.Issued id
  one : ∀ {owner other id}, w.Holds owner id → w.Holds other id → owner = other

def Came (w w' : World) (caller owner id : Uuid) : Prop :=
  w.Holds owner id ∨ owner = caller ∧ ¬w.supply.Issued id ∧ w'.supply.Issued id

theorem perform_came (terms : Terms) (call : Call) (w : World)
    (h : (w.perform terms call).state.Holds owner id) :
    Came w (w.perform terms call).state call.owner owner id := by
  cases perform_change terms call w with
  | failed answered book rows =>
    rw [Holds, book, rows] at h
    exact .inl h
  | @database op answer s valid answered before after does book =>
    rw [Holds, book] at h
    rcases h with mem | ⟨row, mem, rfl, rfl⟩
    · exact .inl (.inl mem)
    · rcases does.known mem with ⟨own, first⟩ | held
      · rw [Came, first]
        refine .inr ⟨own.trans (Call.operation_owner valid), ?_, s.issued_first.later after⟩
        exact fun old => s.not_issued_first (old.later before)
      · exact .inl (.inr held)
  | @memory op answer s valid answered before after does rows =>
    rw [Holds, rows] at h
    rcases h with mem | held
    · rcases does.ids_mem mem with old | ⟨own, rfl⟩
      · exact .inl (.inl old)
      · refine .inr ⟨own.trans (Call.operation_owner valid), ?_, s.issued_first.later after⟩
        exact fun old => s.not_issued_first (old.later before)
    · exact .inl (.inr held)

theorem perform_owned (terms : Terms) (call : Call) (h : w.Owned) :
    (w.perform terms call).state.Owned := by
  have later := perform_later terms call w
  constructor
  · intro owner id held
    rcases perform_came terms call w held with before | ⟨-, -, new⟩
    · exact (h.issued before).later later
    · exact new
  · intro owner other id held held'
    rcases perform_came terms call w held with before | ⟨own, new, -⟩ <;>
      rcases perform_came terms call w held' with before' | ⟨own', new', -⟩
    · exact h.one before before'
    · exact absurd (h.issued before) new'
    · exact absurd (h.issued before') new
    · exact own.trans own'.symm

end World

/-! ## Accounts that the caller does not have -/

def Operation.account? : Operation → Option Uuid
  | .listTransactions _ account => account
  | .applyTransaction _ account .. => some account
  | _ => none

namespace Call

def account? : Call → Option Uuid
  | .listTransactions _ account => account
  | .applyTransaction _ account .. | .makePayment _ account .. => some account
  | _ => none

def missing (terms : Terms) (call : Call) (id : Uuid) : Except Failure Answer := do
  let _ ← call.operation terms
  refuse (.accountNotFound id)

theorem operation_account {terms : Terms} {call : Call} {op : Operation}
    (h : call.operation terms = .ok op) : op.account? = call.account? := by
  cases call with
  | createAccount =>
    obtain ⟨_, -, h⟩ := Except.bind_eq_ok.1 h
    cases h
    rfl
  | applyTransaction =>
    obtain ⟨_, -, h⟩ := Except.bind_eq_ok.1 h
    obtain ⟨_, -, h⟩ := Except.bind_eq_ok.1 h
    cases h
    rfl
  | makePayment =>
    obtain ⟨_, -, h⟩ := Except.bind_eq_ok.1 h
    cases h
    rfl
  | createPayee =>
    simp only [operation] at h
    split_ifs at h <;> cases h
    rfl
  | listAccounts | listTransactions | listPayees | deletePayees => cases h; rfl

end Call

theorem Book.run_missing {terms : BookTerms} {b : Book} {op : Operation} {id : Uuid}
    (names : op.account? = some id) (unheld : id ∉ b.ids op.owner) (s : Supply) :
    (b.run terms op s).result = refuse (.accountNotFound id) := by
  cases op with
  | createAccount | listAccounts | listPayees | createPayee | deletePayees => cases names
  | listTransactions owner account =>
    cases names
    have none : (b.shelf owner).accounts.any (·.id == id) = false := by
      simpa [Book.ids, Operation.owner] using unheld
    simp only [run, listTransactions, none, Bool.false_eq_true, if_false]
  | applyTransaction owner account amount currency kind description =>
    cases names
    have none : (b.shelf owner).accounts.find? (·.id == id) = none := by
      simpa [Book.ids, Operation.owner] using unheld
    simp only [run, apply_unknown none]
    rfl

theorem Durable.run_missing {attempts : Nat} {db : Database} {op : Operation} {id : Uuid}
    (reachable : db.reachable) (names : op.account? = some id)
    (unheld : ¬∃ row ∈ db.rows.accounts, row.owner = op.owner ∧ row.id = id) (s : Supply) :
    (run attempts false op ⟨db.provisioned, []⟩ s).result = refuse (.accountNotFound id) := by
  have none : db.rows.accounts.find? (Database.isKeptUnder op.owner id) = none := by
    rw [List.find?_eq_none]
    exact fun row mem kept => unheld ⟨row, mem, (isKeptUnder_iff.1 kept).symm⟩
  cases op with
  | createAccount | listAccounts | listPayees | createPayee | deletePayees => cases names
  | listTransactions owner account =>
    cases names
    simp only [Operation.owner] at none
    simp only [run, perform, work, openSession, listTransactions_unknown reachable none]
    rfl
  | applyTransaction owner account amount currency kind description =>
    cases names
    simp only [Operation.owner] at none
    simp only [run, perform, work, openSession, apply_unknown reachable none]
    rfl

namespace World
variable {terms : Terms} {call : Call} {op : Operation} {w : World} {id : Uuid}

/-- No failure is scripted; there is no durable store, or it can be opened, or it never can. -/
def FaultFree (w : World) : Prop :=
  w.script = .empty ∧
    (w.durable = none ∨ (∃ db, w.durable = some ⟨db, []⟩ ∧ db.reachable) ∨
      w.durable = some ⟨.unreachable, []⟩)

theorem callMemory_missing (quiet : w.script = .empty) (names : op.account? = some id)
    (unheld : id ∉ w.book.ids op.owner) :
    (callMemory terms op w).result = refuse (.accountNotFound id) := by
  rw [callMemory_quiet quiet]
  exact Book.run_missing names unheld w.supply

theorem serve_missing (h : w.FaultFree) (checked : op.Checked) (names : op.account? = some id)
    (unheld : ¬w.Holds op.owner id) : (w.serve terms op).result = refuse (.accountNotFound id) := by
  obtain ⟨quiet, none | ⟨db, durable, reachable⟩ | durable⟩ := h
  · have refused : (callMemory terms op w).result = refuse (.accountNotFound id) :=
      callMemory_missing quiet names fun mem => unheld (.inl mem)
    rw [serve_memory none, Served.after_result]
    simp only [Stores.serveFromMemory, stores, Outcome.surfaced_of_refused refused,
      Served.ofOutcome_result, refused]
  · refine serve_answer ⟨durable, reachable, quiet⟩ (.inr ⟨_, rfl⟩) ?_
    refine Durable.run_missing reachable names fun row => unheld (.inr ?_)
    rw [rows_of_durable durable]
    exact row
  · have tries : terms.attempts ≠ 0 ∨ op.method ≠ .createAccount := by
      refine .inr fun creates => ?_
      cases op <;> cases creates
      cases names
    have bare : Database.unreachable.IsBare := ⟨rfl, rfl, rfl⟩
    have failed := Durable.run_bare bare checked tries w.supply
    have first : tryDurable terms op w =
        ⟨.error (.unavailable .storeFailed), { w with
          durable := some ⟨.unreachable, []⟩, supply := w.supply.wasted op.method.draws }, []⟩ := by
      rw [tryDurable_eq _ _ _ durable, callDurable_quiet quiet, failed]
      rfl
    have refused : (callMemory terms op (tryDurable terms op w).state).result =
        refuse (.accountNotFound id) := by
      rw [first]
      exact callMemory_missing quiet names fun mem => unheld (.inl mem)
    rw [first] at refused
    simp only [serve, Stores.serve, stores_durable durable, first, Served.after_result,
      Stores.serveFromMemory]
    simp only [stores, Outcome.surfaced_of_refused refused, Served.ofOutcome_result, refused]

theorem perform_missing (h : w.FaultFree) (names : call.account? = some id)
    (unheld : ¬w.Holds call.owner id) : (w.perform terms call).result = call.missing terms id := by
  unfold perform
  split
  · rename_i failure invalid
    rw [Call.missing, invalid]
    rfl
  · rename_i op valid
    rw [Call.missing, valid]
    refine serve_missing h (Call.operation_checked valid)
      ((Call.operation_account valid).trans names) ?_
    rw [Call.operation_owner valid]
    exact unheld

theorem perform_faultFree (terms : Terms) (call : Call) (h : w.FaultFree) :
    (w.perform terms call).state.FaultFree := by
  have reachable := perform_reachable terms call w
  obtain ⟨quiet, none | ⟨db, durable, opens⟩ | durable⟩ := h
  · have steady := perform_steady terms call ⟨quiet, by simp [none], by simp [none]⟩
    rw [database?, database?, none] at reachable
    exact ⟨steady.quiet, .inl (by simpa using reachable)⟩
  · have healthy : w.Healthy db := ⟨durable, opens, quiet⟩
    obtain ⟨db', healthy⟩ : ∃ db', (w.perform terms call).state.Healthy db' :=
      perform_healthy call healthy
    exact ⟨healthy.quiet, .inr (.inl ⟨db', healthy.durable, healthy.reachable⟩)⟩
  · have steady := perform_steady terms call (w := w)
      ⟨quiet, by simp [durable], by simp [durable, Database.Complete]⟩
    generalize (w.perform terms call).state = w' at *
    rw [database?, database?, durable, Option.map_some, Option.map_some, Option.map_map,
      Option.map_eq_some_iff] at reachable
    obtain ⟨d, durable', closed⟩ := reachable
    refine ⟨steady.quiet, .inr (.inr ?_)⟩
    have sessions := steady.sessions d durable'
    rcases steady.complete d durable' with ⟨opens, -⟩ | same
    · exact absurd (opens.symm.trans closed) (by decide)
    · rw [durable', ← sessions, ← same]

end World
end Passbook
