import Passbook.Proofs.Ledger.Money
import Passbook.Proofs.Number.Binary64

namespace Passbook.Binary64
variable {k : Int} {ks : List Int}

def IsMovement (k : Int) : Prop := k ≠ 0 ∧ k.natAbs ≤ greatestCents

def tally (ks : List Int) : Binary64 :=
  ks.foldl (fun b k => (b.add (ofCents k)).settled) (nought false)

/-- What the movements come to if each is stored in binary and read back for itself. -/
def readBack (ks : List Int) : Int := (ks.map fun k => (ofCents k).cents).sum

/-- The running sum is less than half a cent off, or half a cent off from an even number of cents;
and it is not below nought. -/
def Faithful (ks : List Int) : Prop :=
  IsNearest (100 * (tally ks).value) (readBack ks) ∧ 0 ≤ readBack ks

theorem tally_concat (ks : List Int) (k : Int) :
    tally (ks ++ [k]) = ((tally ks).add (ofCents k)).settled := by
  simp [tally, List.foldl_append]

theorem IsMovement.ofCents_eq (h : IsMovement k) :
    ∃ m e, ofCents k = .finite (k < 0) m e ∧ m ≠ 0 ∧ IsCanonical m e ∧ (m : ℚ) * 2 ^ e ≤ 2 ^ 54 := by
  apply Binary64.ofCents_eq h.1
  have : (k.natAbs : ℚ) ≤ greatestCents := by exact_mod_cast h.2
  rw [div_le_iff₀ (by norm_num)]
  apply this.trans
  norm_num [greatestCents]

/-- Half a unit of a balance of `2 ^ 128` is more than any movement. -/
theorem tally_bounded (h : ∀ k ∈ ks, IsMovement k) :
    (tally ks).isFinite ∧ |(tally ks).value| ≤ 2 ^ ((76 : Int) + 52) := by
  induction ks using List.reverseRecOn with
  | nil =>
    refine ⟨rfl, ?_⟩
    rw [tally, List.foldl_nil, value_nought, abs_zero]
    positivity
  | append_singleton ks k ih =>
    obtain ⟨finite, bounded⟩ := ih fun k mem => h k (by simp [mem])
    obtain ⟨m, e, binary, -, -, small⟩ := (h k (by simp)).ofCents_eq
    rw [tally_concat, isFinite_settled, value_settled]
    refine add_bounded finite (by rw [binary]; rfl) bounded ?_ (by decide) (by decide)
    rw [binary, abs_value]
    exact small.trans_lt (by norm_num)

theorem tally_singleton (h : IsMovement k) : tally [k] = ofCents k := by
  obtain ⟨m, e, binary, nonzero, canonical, -⟩ := h.ofCents_eq
  rw [← List.nil_append [k], tally_concat, binary]
  exact (congrArg settled (nought_add false _ nonzero canonical)).trans (settled_finite _ nonzero e)

theorem cents_finite_neg (m : Nat) (e : Int) :
    (finite true m e).cents = -(finite false m e).cents := by
  simp [cents, Decimal.signed]

theorem cents_ofRatio_neg (n d : Nat) : (ofRatio true n d).cents = -(ofRatio false n d).cents := by
  unfold ofRatio
  dsimp only
  split_ifs
  · exact cents_finite_neg _ _
  · rfl
  · exact cents_finite_neg _ _
  · rfl
  · exact cents_finite_neg _ _

theorem cents_ofCents_neg (pos : 0 < k) : (ofCents (-k)).cents = -(ofCents k).cents := by
  have below : decide (-k < 0) = true := by simpa using pos
  have above : decide (k < 0) = false := by simpa using pos.le
  rw [ofCents, ofCents, below, above, Int.natAbs_neg, cents_ofRatio_neg]

theorem faithful_iff (h : ∀ k ∈ ks, IsMovement k) :
    Faithful ks ↔ (tally ks).cents = readBack ks ∧ 0 ≤ (tally ks).cents := by
  have near := cents_nearest (tally_bounded h).1
  constructor
  · rintro ⟨near', nonneg⟩
    have same := near.unique near'
    exact ⟨same, same ▸ nonneg⟩
  · rintro ⟨same, nonneg⟩
    exact ⟨same ▸ near, same ▸ nonneg⟩

end Passbook.Binary64
