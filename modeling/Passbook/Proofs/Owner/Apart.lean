import Passbook.Proofs.Owner.World
import Passbook.Proofs.Service.Change
import Passbook.Proofs.Store.Bare

namespace Passbook
open Passbook.Except (Paired)

theorem Rows.Does.of_other {stamp : Stamp} {r r' : Rows} {op : Operation} {answer : Answer}
    {owner : Uuid} (does : Rows.Does stamp r op answer r') (ne : op.owner ≠ owner) :
    r'.of owner = r.of owner := by
  cases does with
  | accounts | transactions | payees => rfl
  | opened | openedEmpty | saved =>
    simp only [Operation.owner] at ne
    simp [Rows.of, Account.toRow, Transaction.toRow, Payee.toRow, ne]
  | cleared =>
    simp only [Operation.owner] at ne
    simp only [Rows.of, List.filter_filter, mk.injEq, true_and]
    refine List.filter_congr fun row _ => ?_
    by_cases same : row.owner = owner
    · simp [same, ne.symm]
    · simp [same]
  | moved =>
    simp only [Operation.owner] at ne
    simp [Rows.of, filter_moved_other _ _ _ ne.symm, Transaction.toRow, Durable.transactionOn, ne]

namespace World
variable {owner : Uuid} {call : Call}

/-- A call leaves the records of every other owner alone. -/
theorem perform_apart (terms : Terms) (w : World) (other : call.owner ≠ owner) :
    (w.perform terms call).state.book.shelf owner = w.book.shelf owner ∧
      (w.perform terms call).state.rows.of owner = w.rows.of owner := by
  cases perform_change terms call w with
  | failed answered book rows =>
    rw [book, rows]
    exact ⟨rfl, rfl⟩
  | database valid answered before after does book =>
    rw [← Call.operation_owner valid] at other
    rw [book]
    exact ⟨rfl, does.of_other other⟩
  | memory valid answered before after does rows =>
    rw [← Call.operation_owner valid] at other
    rw [rows]
    exact ⟨does.shelf_other other.symm, rfl⟩

end World

/-! ## Steady worlds -/

namespace Database
variable {ρ : Renaming} {owner : Uuid} {db db' db'' : Database}

def Complete (db : Database) : Prop :=
  (db.reachable ∧ db.provisioned = db) ∨ db = unreachable

theorem rel_of_filter {α : Type} {own : α → Bool} {f : α → α} {x y z : Option (List α)}
    (h : Option.Rel (Mirrored own f) x y) (hy : some (y.getD []) = y) (hz : some (z.getD []) = z)
    (same : (z.getD []).filter own = (y.getD []).filter own) :
    Option.Rel (Mirrored own f) x z := by
  rw [← hz]
  cases h with
  | none => cases hy
  | some related => exact .some (same.trans related)

theorem Mirrors.of_rows (h : Mirrors ρ owner db db') (complete : db'.Complete)
    (complete' : db''.Complete) (reachable : db''.reachable = db'.reachable)
    (same : db''.rows.of owner = db'.rows.of owner) : Mirrors ρ owner db db'' := by
  rcases complete with ⟨opens, full⟩ | rfl
  · rcases complete' with ⟨-, full'⟩ | rfl
    · simp only [Database.rows, Rows.of, Rows.mk.injEq] at same
      obtain ⟨accounts, transactions, payees⟩ := same
      refine ⟨reachable.trans h.reachable, ?_, ?_, ?_, h.timed⟩
      · exact rel_of_filter h.accounts (congrArg Database.accounts full)
          (congrArg Database.accounts full') accounts
      · exact rel_of_filter h.transactions (congrArg Database.transactions full)
          (congrArg Database.transactions full') transactions
      · exact rel_of_filter h.payees (congrArg Database.payees full)
          (congrArg Database.payees full') payees
    · rw [opens] at reachable
      cases reachable
  · rcases complete' with ⟨opens, -⟩ | rfl
    · rw [opens] at reachable
      cases reachable
    · exact h

end Database

namespace Durable
variable {d : Durable} {s : Supply} {attempts : Nat} {op : Operation}

theorem run_unreachable (attempts : Nat) (checked : op.Checked) (s : Supply) :
    ∃ failure, (run attempts false op ⟨.unreachable, []⟩ s).result = .error failure := by
  have bare : Database.unreachable.IsBare := ⟨rfl, rfl, rfl⟩
  by_cases tries : attempts ≠ 0 ∨ op.method ≠ .createAccount
  · exact ⟨_, congrArg Outcome.result (run_bare bare checked tries s)⟩
  · obtain ⟨rfl, creates⟩ := by simpa only [not_or, not_not] using tries
    cases op <;> cases creates
    exact ⟨_, rfl⟩

theorem run_complete (sessions : d.sessions = []) (complete : d.database.Complete)
    (checked : op.Checked) : (d.run attempts false op s).state.1.database.Complete := by
  rcases d with ⟨db, _⟩
  cases sessions
  rcases complete with ⟨opens, full⟩ | rfl
  · have kept := run_provisioned attempts op db s
    replace full : db.provisioned = db := full
    rw [full] at kept
    exact .inl ⟨run_reachable.trans opens, kept⟩
  · obtain ⟨failure, failed⟩ := run_unreachable attempts checked s
    exact .inr (run_error failed)

theorem ensureTables_complete (complete : d.database.Complete) : d.ensureTables.state = d := by
  unfold ensureTables
  split
  · rename_i database provisioned
    obtain ⟨opens, rfl⟩ := Database.ensureTables_eq_ok.1 provisioned
    rcases complete with ⟨-, full⟩ | unreachable
    · rw [full]
    · rw [unreachable] at opens
      cases opens
  · rfl

end Durable

namespace World
variable {ρ : Renaming} {owner : Uuid} {w v : World} {terms : Terms} {op : Operation}
  {call : Call} {d : Durable}

/-- No failure is scripted, and no table will ever have to be created. -/
structure Steady (w : World) : Prop where
  quiet : w.script = .empty
  sessions : ∀ d, w.durable = some d → d.sessions = []
  complete : ∀ d, w.durable = some d → d.database.Complete

theorem perform_steady (terms : Terms) (call : Call) (h : w.Steady) :
    (w.perform terms call).state.Steady := by
  unfold perform
  split
  · exact h
  · rename_i op valid
    have checked := Call.operation_checked valid
    refine serve_keeps Steady ?_ ?_ ?_ h
    · intro w h
      cases durable : w.durable with
      | none =>
        rw [tryDurable, durable]
        exact h
      | some d =>
        rw [tryDurable_eq _ _ _ durable, callDurable_quiet h.quiet]
        refine ⟨h.quiet, ?_, ?_⟩ <;> rintro d' same <;> cases same
        · exact Durable.run_sessions (h.sessions d durable)
        · exact Durable.run_complete (h.sessions d durable) (h.complete d durable) checked
    · intro w h
      cases durable : w.durable with
      | none =>
        simp only [repair, h.quiet, Script.takeRepair, Script.empty, Script.next, scripted,
          Fault.failure?, durable]
        exact ⟨rfl, by simp, by simp⟩
      | some d =>
        rw [repair_quiet h.quiet durable]
        have same := Durable.ensureTables_complete (h.complete d durable)
        refine ⟨h.quiet, ?_, ?_⟩ <;> rintro d' eq <;> cases eq <;> rw [same]
        · exact h.sessions d durable
        · exact h.complete d durable
    · intro w h
      rw [callMemory_quiet h.quiet]
      exact ⟨h.quiet, h.sessions, h.complete⟩

theorem perform_reachable (terms : Terms) (call : Call) (w : World) :
    (w.perform terms call).state.database?.map (·.reachable) =
      w.database?.map (·.reachable) := by
  unfold perform
  split
  · rfl
  · rename_i op valid
    refine serve_keeps (fun v => v.database?.map (·.reachable) = w.database?.map (·.reachable))
      ?_ ?_ ?_ rfl
    · intro v h
      cases durable : v.durable with
      | none =>
        rw [tryDurable, durable]
        exact h
      | some d =>
        rw [database?, durable] at h
        rw [← h, tryDurable_eq _ _ _ durable]
        obtain ⟨script, ⟨failure, eq⟩ | ⟨vanished, eq⟩⟩ := callDurable_eq terms op v d <;> rw [eq]
        · rw [database?, durable]
        · exact congrArg some Durable.run_reachable
    · intro v h
      cases durable : v.durable with
      | none =>
        rw [database?, durable] at h
        simp only [repair, scripted, durable]
        split <;> exact h
      | some d =>
        rw [database?, durable] at h
        rw [← h]
        obtain ⟨script, ⟨failure, eq⟩ | eq⟩ := repair_eq v durable <;> rw [eq]
        · rw [database?, durable]
        · apply congrArg some
          simp only [Durable.ensureTables]
          split
          · rename_i database provisioned
            rw [(Database.ensureTables_eq_ok.1 provisioned).2]
            rfl
          · rfl
    · intro v h
      obtain ⟨script, ⟨failure, eq⟩ | eq⟩ := callMemory_eq terms op v <;> rw [eq] <;> exact h

theorem perform_alike (h : Alike ρ owner w v) (steady : v.Steady) (other : call.owner ≠ owner) :
    Alike ρ owner w (v.perform terms call).state := by
  obtain ⟨shelf, rows⟩ := perform_apart terms v other
  have steady' := perform_steady terms call steady
  have reachable := perform_reachable terms call v
  have numbered := perform_numbered terms call h.numbered'
  generalize (v.perform terms call).state = v' at *
  have book : Book.Mirrors ρ owner w.book v'.book := shelf.trans h.book
  refine ⟨book, ?_, h.quiet, steady'.quiet, h.numbered, numbered⟩
  rcases h.durable_cases with ⟨none, none'⟩ | ⟨d, d', durable, durable', related⟩
  · rw [database?, database?, none'] at reachable
    have none'' : v'.durable = Option.none := by simpa using reachable
    rw [none, none'']
    exact .none
  · rw [database?, database?, durable', Option.map_some, Option.map_some, Option.map_map,
      Option.map_eq_some_iff] at reachable
    obtain ⟨d'', durable'', same⟩ := reachable
    rw [rows_of_durable durable', rows_of_durable durable''] at rows
    rw [durable, durable'']
    refine .some ⟨related.sessions, steady'.sessions d'' durable'', ?_⟩
    exact related.database.of_rows (steady.complete d' durable') (steady'.complete d'' durable'')
      same rows

end World
end Passbook
