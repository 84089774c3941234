import Passbook.Proofs.Service.Healthy
import Passbook.Proofs.Store.Answers

/-!
# The first calls on a database without tables

The first call that reaches the durable store finds no tables, has them created and starts over. It
has then wasted a stamp, and otherwise answers as if the tables had been there from the start.
-/

namespace Passbook.World
variable {terms : Terms} {op : Operation} {db : Database}

def blank (durable : Option Durable) (s : Supply) : World := ⟨.empty, durable, s, .empty⟩

theorem blank_tries (terms : Terms) (op : Operation) (db : Database) (s : Supply) :
    tryDurable terms op (blank (some ⟨db, []⟩) s) =
      (Durable.run terms.attempts false op ⟨db, []⟩ s).within fun (d, supply) =>
        blank (some d) supply := by
  rw [tryDurable_eq _ _ _ rfl, callDurable_quiet rfl]
  rfl

theorem serve_healed (checked : op.Checked)
    (tries : terms.attempts ≠ 0 ∨ op.method ≠ .createAccount) (s : Supply) :
    let served := (blank (some ⟨.empty, []⟩) s).serve terms op
    let healed := (blank (some ⟨Database.empty.provisioned, []⟩) (s.wasted op.method.draws)).serve
      terms op
    served.result = healed.result ∧ served.state = healed.state := by
  have bare : Database.empty.IsBare := ⟨rfl, rfl, rfl⟩
  have failed := Durable.run_bare bare checked tries s
  have first : tryDurable terms op (blank (some ⟨.empty, []⟩) s) = ⟨.error (.schemaMissing .reported),
      blank (some ⟨.empty, []⟩) (s.wasted op.method.draws), []⟩ := by
    rw [blank_tries, failed]
    rfl
  have repaired : repair (blank (some ⟨.empty, []⟩) (s.wasted op.method.draws)) = ⟨.ok (),
      blank (some ⟨Database.empty.provisioned, []⟩) (s.wasted op.method.draws),
      [.tablesEnsured]⟩ := by
    rw [repair_quiet rfl rfl]
    rfl
  have retried := congrArg Outcome.result
    (blank_tries terms op Database.empty.provisioned (s.wasted op.method.draws))
  have tried : ((blank (some ⟨.empty, []⟩) s).stores terms op).durable = _ := stores_durable rfl
  have tried' : ((blank (some ⟨Database.empty.provisioned, []⟩)
      (s.wasted op.method.draws)).stores terms op).durable = _ := stores_durable rfl
  generalize blank (some ⟨Database.empty.provisioned, []⟩) (s.wasted op.method.draws) = healed
    at repaired retried tried' ⊢
  rcases Durable.run_first checked tries (s.wasted op.method.draws) with
    ⟨answer, done⟩ | ⟨refusal, done⟩ <;>
    replace retried := retried.trans done <;>
    simp only [serve, Stores.serve, tried, tried', first, retried, Stores.serveAfterRepair,
      Served.after_result, Served.after_state, Served.ofOutcome_result, Served.ofOutcome_state] <;>
    simp only [stores, repaired, Outcome.surfaced, retried, Served.after_result,
      Served.after_state, Served.ofOutcome_result, Served.ofOutcome_state, and_self]

theorem serve_untried (none : terms.attempts = 0) (creates : op.method = .createAccount)
    (db : Database) (s : Supply) :
    let served := (blank (some ⟨db, []⟩) s).serve terms op
    served.result = .error (.unavailable (.noStore .createAccount)) ∧
      served.state = blank (some ⟨db, []⟩) s.stamp.2 := by
  cases op with
  | listAccounts | listTransactions | applyTransaction | listPayees | createPayee | deletePayees =>
    cases creates
  | createAccount owner label currency opening =>
    have first : tryDurable terms (.createAccount owner label currency opening)
        (blank (some ⟨db, []⟩) s) =
          ⟨.error (.unavailable .noFreeNumber), blank (some ⟨db, []⟩) s, []⟩ := by
      rw [blank_tries, none]
      rfl
    have second : callMemory terms (.createAccount owner label currency opening)
        (blank (some ⟨db, []⟩) s) =
          ⟨.error (.unavailable .noFreeNumber), blank (some ⟨db, []⟩) s.stamp.2, []⟩ := by
      rw [callMemory_quiet rfl]
      simp only [Book.run, Terms.forBook, blank, none]
      rfl
    have tried : ((blank (some ⟨db, []⟩) s).stores terms
        (.createAccount owner label currency opening)).durable = _ := stores_durable rfl
    simp only [serve, Stores.serve, tried, first, Stores.serveFromMemory]
    simp only [stores, second]
    exact ⟨rfl, rfl⟩

/-- The draws that are lost until the tables are created. -/
def lost (terms : Terms) : List Call → Nat
  | [] => 0
  | call :: calls =>
    match call.operation terms with
    | .error _ => lost terms calls
    | .ok op =>
      if terms.attempts ≠ 0 ∨ op.method ≠ .createAccount then op.method.draws
      else lost terms calls

theorem run_healed (terms : Terms) (calls : List Call) (s : Supply) :
    (run terms calls (blank (some ⟨.empty, []⟩) s)).1 =
      (run terms calls
        (blank (some ⟨Database.empty.provisioned, []⟩) (s.wasted (lost terms calls)))).1 := by
  induction calls generalizing s with
  | nil => rfl
  | cons call calls ih =>
    cases valid : call.operation terms with
    | error failure => simp only [run, perform, valid, lost, ih s]
    | ok op =>
      have checked := Call.operation_checked valid
      by_cases tries : terms.attempts ≠ 0 ∨ op.method ≠ .createAccount
      · obtain ⟨result, state⟩ := serve_healed checked tries s
        simp only [run, perform, valid, lost, if_pos tries, result, state]
      · obtain ⟨none, creates⟩ := by simpa only [not_or, not_not] using tries
        have left := serve_untried none creates .empty s
        have right := serve_untried none creates Database.empty.provisioned
          (s.wasted (lost terms calls))
        simp only [run, perform, valid, lost, if_neg tries, left, right, ih s.stamp.2]
        rfl

end Passbook.World
