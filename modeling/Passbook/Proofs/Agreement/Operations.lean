import Passbook.Proofs.Agreement.Records

namespace Passbook

/-- The results match, and the stores are twins again when the database's supply is at `t'`. -/
structure Agrees (π : Pairing) (o : Outcome (Book × Supply) Answer)
    (o' : Outcome (Durable × Supply) Answer) (t' : Supply) (now : Int) : Prop where
  result : Matches π o.result o'.result
  state : ∃ db', o'.state = (⟨db'.provisioned, []⟩, t') ∧ Twins π o.state.1 db' o.state.2 t' now

section
variable {π : Pairing} {terms : BookTerms} {b b' : Book} {db db' : Database} {s t : Supply}
  {o : Outcome (Book × Supply) Answer} {answer answer' : Answer} {owner : Uuid}
  {body : Stamp → Database → Except Failure (Answer × Database)} {now now' : Int}

namespace Agrees

theorem answered (db' : Database) (memory : o = ⟨.ok answer, (b', s.stamp.2), []⟩)
    (done : body t.stamp.1 db.provisioned = .ok (answer', db'.provisioned))
    (same : answer.Matches π answer') (twins : Twins π b' db' s.stamp.2 t.stamp.2 now') :
    Agrees π o (Durable.perform ⟨db.provisioned, []⟩ body t) t.stamp.2 now' := by
  rw [memory, Durable.perform_done done]
  exact ⟨.answer same, db', rfl, twins⟩

theorem refused {refusal refusal' : Refusal} (h : Twins π b db s t now)
    (memory : o = ⟨refuse refusal, (b, s.stamp.2), []⟩)
    (done : body t.stamp.1 db.provisioned = refuse refusal')
    (same : refusal.Matches π refusal') (le : now ≤ now') :
    Agrees π o (Durable.perform ⟨db.provisioned, []⟩ body t) t.stamp.2 now' := by
  rw [memory, Durable.perform_failed done]
  exact ⟨.refused same, db, rfl, h.later s.later_stamp t.later_stamp h.drawn le⟩

end Agrees

/-! ## Listings -/

section
variable {id : Uuid} {a : Account} {row : AccountRow} {amount : Decimal} {units : Nat}
  (h : Twins π b db s t now) (within : t.clock.Within now now') (attempts : Nat)
  (meets : s.stamp.1.Meets π t.stamp.1)
  (mine : (b.shelf owner).accounts.find? (·.id == id) = some a)
  (theirs : db.rows.accounts.find? (Database.isKeptUnder owner (π.id id)) = some row)
  (twin : a.Twin π row) (pos : 0 < units) (whole : amount.IsWhole units)
  (currency : Option String) (description : String)
include h within meets mine theirs twin pos whole

end

end

end Passbook
