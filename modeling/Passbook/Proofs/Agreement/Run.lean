import Passbook.Proofs.Agreement.Operations

/-!
# The same operations on both stores

The identifiers of the one store can be renamed to those of the other, in advance and for the whole
run.
-/

namespace Passbook

/-! ## What the database takes from its supply -/

namespace Supply

def lastStamp (s : Supply) : Stamp :=
  ⟨⟨s.clock.time (s.clock.reading - 1)⟩, issuedId (s.nextId - 2), issuedId (s.nextId - 1)⟩

theorem lastStamp_stamp (s : Supply) : s.stamp.2.lastStamp = s.stamp.1 := rfl

end Supply

namespace Step

def readings (m : Step) : Nat :=
  if m.op.method = .createAccount then m.after.drawn - m.before.drawn else 1

def follow (m : Step) (t : Supply) : Supply :=
  if m.op.method = .createAccount then t.attempted m.readings else t.stamp.2

theorem follow_nextId (m : Step) (t : Supply) :
    (m.follow t).nextId = t.nextId + 2 * m.readings := by
  unfold follow readings
  split_ifs <;> rfl

theorem follow_time (m : Step) (t : Supply) : (m.follow t).clock.time = t.clock.time := by
  unfold follow
  split_ifs <;> rfl

/-- Unless the database takes no stamp at all, its last one stands for that of the book. -/
def Keeps (m : Step) (π : Pairing) (t : Supply) : Prop :=
  0 < m.readings → m.before.stamp.1.Meets π (m.follow t).lastStamp

end Step

def idPairs : List Step → Nat → List (Nat × Nat)
  | [], _ => []
  | m :: ms, next =>
    let next' := next + 2 * m.readings
    (if m.readings = 0 then []
      else [(m.before.nextId, next' - 2), (m.before.nextId + 1, next' - 1)]) ++ idPairs ms next'

theorem Step.keeps {m : Step} {ms : List Step} {π : Pairing} {t : Supply}
    (ids : ∀ p ∈ idPairs (m :: ms) t.nextId, π.id (Supply.issuedId p.1) = Supply.issuedId p.2)
    (times : ∀ i j, π.time ⟨m.before.clock.time i⟩ ⟨t.clock.time j⟩) : m.Keeps π t := by
  intro pos
  have both : ∀ p ∈ [(m.before.nextId, (m.follow t).nextId - 2),
      (m.before.nextId + 1, (m.follow t).nextId - 1)],
      π.id (Supply.issuedId p.1) = Supply.issuedId p.2 := by
    intro p mem
    rw [m.follow_nextId] at mem
    exact ids p (List.mem_append_left _ (by rwa [if_neg pos.ne']))
  obtain ⟨first, second⟩ := List.forall_mem_cons.1 both
  refine ⟨first.symm, (second _ List.mem_cons_self).symm, ?_⟩
  simp only [Supply.lastStamp, m.follow_time]
  exact times _ _

/-! ## Runs -/

section
variable {π : Pairing} {terms : BookTerms} {b : Book} {db : Database} {s t : Supply}
  {clock : Nat → Nat → Int}

theorem Operation.Suits.during {op : Operation} (suits : op.Suits terms b s) (time : Nat → Int) :
    op.Suits terms b (s.during time) := by
  cases op <;> exact suits

end

/-! ## Identifiers -/

end Passbook
