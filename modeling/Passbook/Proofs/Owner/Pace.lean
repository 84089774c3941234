import Passbook.Proofs.Owner.Renaming

/-!
# Two supplies side by side

One owner's calls take from the supply what they take, whether other owners call in between or not.
A renaming carries what they take in the one run to what they take in the other.
-/

namespace Passbook

/-! ## Continuing a renaming -/

theorem exists_perm_continuing {α : Type} [DecidableEq α] {g : Nat → α}
    (inj : Function.Injective g) (e : Equiv.Perm α) {first n m : Nat}
    (known : ∀ i, first ≤ i → i < n → ∃ j < m, e (g i) = g j) (count : Nat) :
    ∃ e' : Equiv.Perm α, (∀ i, first ≤ i → i < n → e' (g i) = e (g i)) ∧
      ∀ j < count, e' (g (n + j)) = g (m + j) := by
  induction count with
  | zero => exact ⟨e, fun i _ _ => rfl, fun j hj => absurd hj (Nat.not_lt_zero j)⟩
  | succ count ih =>
    obtain ⟨e', old, new⟩ := ih
    obtain ⟨e'', sent, kept⟩ := exists_perm_sending e' (g (n + count)) (g (m + count))
    refine ⟨e'', fun i least lt => ?_, fun j hj => ?_⟩
    · obtain ⟨j, hj, same⟩ := known i least lt
      rw [kept _ (inj.ne (by omega)), old i least lt]
      rw [old i least lt, same]
      exact inj.ne (by omega)
    · rcases Nat.lt_succ_iff_lt_or_eq.1 hj with lt | rfl
      · rw [kept _ (inj.ne (by omega)), new j lt]
        rw [new j lt]
        exact inj.ne (by omega)
      · exact sent

theorem exists_time_continuing {time : Nat → Int} (clock : StrictMono time) {τ : Int → Int}
    (rising : StrictMonoOn τ (Set.range time)) {n m : Nat} (known : ∀ i < n, τ (time i) < time m) :
    ∃ τ' : Int → Int, StrictMonoOn τ' (Set.range time) ∧
      (∀ i < n, τ' (time i) = τ (time i)) ∧ ∀ j, τ' (time (n + j)) = time (m + j) := by
  let σ (i : Nat) : Int := if i < n then τ (time i) else time (m + (i - n))
  have mono : StrictMono σ := by
    intro i j lt
    by_cases before : j < n
    · simp only [σ, lt.trans before, before, if_true]
      exact rising ⟨i, rfl⟩ ⟨j, rfl⟩ (clock lt)
    · by_cases before' : i < n
      · simp only [σ, before', before, if_true, if_false]
        exact (known i before').trans_le (clock.monotone (Nat.le_add_right _ _))
      · simp only [σ, before', before, if_false]
        exact clock (by omega)
  have extends_σ (i : Nat) : Function.extend time σ id (time i) = σ i :=
    clock.injective.extend_apply σ id i
  refine ⟨Function.extend time σ id, ?_, fun i lt => ?_, fun j => ?_⟩
  · rintro _ ⟨i, rfl⟩ _ ⟨j, rfl⟩ lt
    rw [extends_σ, extends_σ]
    exact mono (clock.lt_iff_lt.1 lt)
  · rw [extends_σ]
    exact if_pos lt
  · rw [extends_σ]
    simp only [σ, Nat.not_lt.2 (Nat.le_add_right n j), if_false, Nat.add_sub_cancel_left]

namespace Supply
variable {ρ ρ' : Renaming} {o s s' t t' u s₀ t₀ : Supply}

theorem accountNumber_injective : Function.Injective accountNumber := by
  intro n m same
  simp only [accountNumber, Nat.toString_eq_ofList_toDigits, String.ofList_inj] at same
  have value := congrArg (Nat.ofDigitChars 10 · 0) same
  simp only [Nat.ofDigitChars_ten_toDigits] at value
  omega

theorem issuedId_injective : Function.Injective issuedId := fun _ _ => issuedId_inj.1

/-! ## What is given out next -/

/-- Until `t` is at `u`, the renaming carries what `s` gives out to what `t` gives out. -/
structure Aligned (ρ : Renaming) (s t u : Supply) : Prop where
  ids : ∀ j, t.nextId + j < u.nextId → ρ.id (issuedId (s.nextId + j)) = issuedId (t.nextId + j)
  numbers : ∀ j, t.drawn + j < u.drawn →
    ρ.number (accountNumber (s.draw (s.drawn + j))) = accountNumber (t.draw (t.drawn + j))
  times : ∀ j, t.clock.reading + j < u.clock.reading →
    ρ.time (s.clock.time (s.clock.reading + j)) = t.clock.time (t.clock.reading + j)
  moments : ∀ n, s.clock.time n ∈ ρ.moments

theorem Aligned.stamp (h : Aligned ρ s t u) (later : Later t.stamp.2 u) :
    ρ.stamp s.stamp.1 = t.stamp.1 ∧ Aligned ρ s.stamp.2 t.stamp.2 u := by
  have nextId : t.nextId + 2 ≤ u.nextId := later.nextId
  have reading : t.clock.reading + 1 ≤ u.clock.reading := later.reading
  constructor
  · have first := h.ids 0 (by omega)
    have second := h.ids 1 (by omega)
    have time : ρ.time s.now = t.now := h.times 0 (by omega)
    simp only [add_zero] at first
    simp only [Supply.stamp, Renaming.stamp, Renaming.instant, first, second, time]
  · refine ⟨fun j hj => ?_, h.numbers, fun j hj => ?_, h.moments⟩
    · simp only [Supply.stamp, Nat.add_assoc] at hj ⊢
      exact h.ids (2 + j) hj
    · simp only [Supply.stamp, Clock.next, Nat.add_assoc] at hj ⊢
      exact h.times (1 + j) hj

theorem Aligned.drawNumber (h : Aligned ρ s t u) (later : Later t.drawNumber.2 u) :
    ρ.number s.drawNumber.1 = t.drawNumber.1 ∧ Aligned ρ s.drawNumber.2 t.drawNumber.2 u := by
  have drawn : t.drawn + 1 ≤ u.drawn := later.drawn
  refine ⟨h.numbers 0 (by omega), h.ids, fun j hj => ?_, h.times, h.moments⟩
  simp only [Supply.drawNumber, Nat.add_assoc] at hj ⊢
  exact h.numbers (1 + j) hj

def advanced (s t t' : Supply) : Supply :=
  { s with
    nextId := s.nextId + (t'.nextId - t.nextId)
    clock := s.clock.after (t'.clock.reading - t.clock.reading)
    drawn := s.drawn + (t'.drawn - t.drawn) }

theorem later_advanced (s t t' : Supply) : Later s (s.advanced t t') :=
  ⟨rfl, Nat.le_add_right _ _, rfl, Nat.le_add_right _ _, Nat.le_add_right _ _⟩

/-- Since they were at `s₀` and `t₀`, the supplies have given out as much as each other; until `t` is
at `u`, they go on with what the renaming matches. -/
structure Abreast (ρ : Renaming) (s₀ t₀ u s t : Supply) : Prop where
  taken : s = s₀.advanced t₀ t
  later : Later t₀ t
  aligned : Aligned ρ s t u

theorem Abreast.start (h : Aligned ρ s t u) : Abreast ρ s t u s t :=
  ⟨by simp [advanced, Clock.after], .refl t, h⟩

theorem Abreast.stamp (h : Abreast ρ s₀ t₀ u s t) (later : Later t.stamp.2 u) :
    ρ.stamp s.stamp.1 = t.stamp.1 ∧ Abreast ρ s₀ t₀ u s.stamp.2 t.stamp.2 := by
  obtain ⟨same, next⟩ := h.aligned.stamp later
  refine ⟨same, ?_, h.later.trans t.later_stamp, next⟩
  have ids := h.later.nextId
  have times := h.later.reading
  rw [h.taken]
  simp only [Supply.stamp, advanced, Clock.next, Clock.after, mk.injEq, Clock.mk.injEq, and_true]
  omega

theorem Abreast.drawNumber (h : Abreast ρ s₀ t₀ u s t) (later : Later t.drawNumber.2 u) :
    ρ.number s.drawNumber.1 = t.drawNumber.1 ∧
      Abreast ρ s₀ t₀ u s.drawNumber.2 t.drawNumber.2 := by
  obtain ⟨same, next⟩ := h.aligned.drawNumber later
  refine ⟨same, ?_, h.later.trans t.later_drawNumber, next⟩
  have drawn := h.later.drawn
  rw [h.taken]
  simp only [Supply.drawNumber, advanced, mk.injEq, and_true, true_and]
  omega

/-! ## Renamings that are right so far -/

structure Tracked (ρ : Renaming) (o s t : Supply) : Prop where
  ids : ∀ i, o.nextId ≤ i → i < s.nextId → ∃ j < t.nextId, ρ.id (issuedId i) = issuedId j
  numbers : ∀ i, o.drawn ≤ i → i < s.drawn →
    ∃ j < t.drawn, ρ.number (accountNumber (o.draw i)) = accountNumber (o.draw j)
  times : ∀ i < s.clock.reading, ρ.time (o.clock.time i) < o.clock.time t.clock.reading
  moments : ρ.moments = Set.range o.clock.time

theorem Tracked.mono (h : Tracked ρ o s t) (rising : o.clock.Rising) (later : Later t t') :
    Tracked ρ o s t' := by
  refine ⟨fun i least lt => ?_, fun i least lt => ?_, fun i lt => ?_, h.moments⟩
  · obtain ⟨j, hj, same⟩ := h.ids i least lt
    exact ⟨j, hj.trans_le later.nextId, same⟩
  · obtain ⟨j, hj, same⟩ := h.numbers i least lt
    exact ⟨j, hj.trans_le later.drawn, same⟩
  · exact (h.times i lt).trans_le (rising.monotone later.reading)

end Supply

namespace Renaming
variable {ρ ρ' ρ'' : Renaming} {o s s' t u : Supply}

structure Agrees (ρ ρ' : Renaming) (o s : Supply) : Prop where
  ids : ∀ i, o.nextId ≤ i → i < s.nextId →
    ρ'.id (Supply.issuedId i) = ρ.id (Supply.issuedId i)
  numbers : ∀ i, o.drawn ≤ i → i < s.drawn →
    ρ'.number (accountNumber (o.draw i)) = ρ.number (accountNumber (o.draw i))
  times : ∀ i < s.clock.reading, ρ'.time (o.clock.time i) = ρ.time (o.clock.time i)
  moments : ρ'.moments = ρ.moments

theorem Agrees.refl (ρ : Renaming) (o s : Supply) : Agrees ρ ρ o s :=
  ⟨fun _ _ _ => rfl, fun _ _ _ => rfl, fun _ _ => rfl, rfl⟩

theorem Agrees.trans (h : Agrees ρ ρ' o s) (h' : Agrees ρ' ρ'' o s) : Agrees ρ ρ'' o s :=
  ⟨fun i least lt => (h'.ids i least lt).trans (h.ids i least lt),
    fun i least lt => (h'.numbers i least lt).trans (h.numbers i least lt),
    fun i lt => (h'.times i lt).trans (h.times i lt), h'.moments.trans h.moments⟩

theorem Agrees.before (h : Agrees ρ ρ' o s') (later : s.Later s') : Agrees ρ ρ' o s :=
  ⟨fun i least lt => h.ids i least (lt.trans_le later.nextId),
    fun i least lt => h.numbers i least (lt.trans_le later.drawn),
    fun i lt => h.times i (lt.trans_le later.reading), h.moments⟩

end Renaming

namespace Supply
variable {ρ ρ' : Renaming} {o s t t' u : Supply}

structure Shares (o s : Supply) : Prop where
  draw : s.draw = o.draw
  time : s.clock.time = o.clock.time

theorem Later.shares (h : Later o s) : Shares o s := ⟨h.draw, h.time⟩

theorem Shares.trans (h : Shares o s) (h' : Shares s t) : Shares o t :=
  ⟨h'.draw.trans h.draw, h'.time.trans h.time⟩

theorem exists_tracked (rising : s.clock.Rising) (same : t.clock = s.clock) :
    ∃ ρ, Tracked ρ s s t := by
  refine ⟨⟨1, 1, Set.range s.clock.time, id, strictMonoOn_id⟩, ?_, ?_, fun i lt => ?_, rfl⟩
  · intro i least lt
    omega
  · intro i least lt
    omega
  · rw [same]
    exact rising lt

theorem Aligned.agrees (h : Aligned ρ s t u) (later : Later o s)
    (agrees : ρ.Agrees ρ' o (s.advanced t u)) : Aligned ρ' s t u := by
  have ids := later.nextId
  have drawn := later.drawn
  refine ⟨fun j hj => ?_, fun j hj => ?_, fun j hj => ?_, fun n => ?_⟩
  · rw [agrees.ids _ (by omega) (by simp only [advanced]; omega)]
    exact h.ids j hj
  · rw [later.draw, agrees.numbers _ (by omega) (by simp only [advanced]; omega), ← later.draw]
    exact h.numbers j hj
  · rw [later.time, agrees.times _ (by simp only [advanced, Clock.after]; omega), ← later.time]
    exact h.times j hj
  · rw [agrees.moments]
    exact h.moments n

theorem exists_aligned (draws : Function.Injective o.draw) (rising : o.clock.Rising)
    (hs : Shares o s) (ht : Shares o t) (tracked : Tracked ρ o s t) (u : Supply) :
    ∃ ρ' : Renaming, ρ.Agrees ρ' o s ∧ Aligned ρ' s t u := by
  obtain ⟨id, ids, newIds⟩ := exists_perm_continuing issuedId_injective ρ.id tracked.ids
    (u.nextId - t.nextId)
  obtain ⟨number, numbers, newNumbers⟩ :=
    exists_perm_continuing (accountNumber_injective.comp draws) ρ.number tracked.numbers
      (u.drawn - t.drawn)
  obtain ⟨time, mono, times, newTimes⟩ :=
    exists_time_continuing rising (tracked.moments ▸ ρ.rising) tracked.times
  refine ⟨⟨id, number, _, time, mono⟩, ⟨ids, numbers, times, tracked.moments.symm⟩, ?_, ?_, ?_, ?_⟩
  · intro j hj
    exact newIds j (by omega)
  · intro j hj
    rw [hs.draw, ht.draw]
    exact newNumbers j (by omega)
  · intro j _
    rw [hs.time, ht.time]
    exact newTimes j
  · intro n
    exact ⟨n, by rw [hs.time]⟩

theorem Tracked.advanced (h : Tracked ρ o s t) (agrees : ρ.Agrees ρ' o s)
    (aligned : Aligned ρ' s t u) (rising : o.clock.Rising) (hs : Shares o s) (ht : Shares o t)
    (later : Later t u) : Tracked ρ' o (s.advanced t u) u := by
  have nextId := later.nextId
  have drawn := later.drawn
  have reading := later.reading
  refine ⟨fun i least lt => ?_, fun i least lt => ?_, fun i lt => ?_,
    agrees.moments.trans h.moments⟩ <;>
    simp only [Supply.advanced, Clock.after] at lt
  · by_cases old : i < s.nextId
    · obtain ⟨j, hj, same⟩ := h.ids i least old
      exact ⟨j, by omega, (agrees.ids i least old).trans same⟩
    · have new := aligned.ids (i - s.nextId) (by omega)
      rw [Nat.add_sub_cancel' (by omega)] at new
      exact ⟨_, by omega, new⟩
  · by_cases old : i < s.drawn
    · obtain ⟨j, hj, same⟩ := h.numbers i least old
      exact ⟨j, by omega, (agrees.numbers i least old).trans same⟩
    · have new := aligned.numbers (i - s.drawn) (by omega)
      rw [Nat.add_sub_cancel' (by omega), hs.draw, ht.draw] at new
      exact ⟨_, by omega, new⟩
  · by_cases old : i < s.clock.reading
    · rw [agrees.times i old]
      exact (h.times i old).trans_le (rising.monotone reading)
    · have new := aligned.times (i - s.clock.reading) (by omega)
      rw [Nat.add_sub_cancel' (by omega), hs.time, ht.time] at new
      rw [new]
      exact rising (by omega)

end Supply
end Passbook
