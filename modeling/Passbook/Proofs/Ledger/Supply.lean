import Mathlib.Tactic
import Passbook.Ledger.Supply

namespace Passbook

theorem nodup_map_concat {α κ : Type} {key : α → κ} {as : List α} {a : α}
    (distinct : (as.map key).Nodup) (fresh : ∀ b ∈ as, key b ≠ key a) :
    ((as ++ [a]).map key).Nodup := by
  rw [List.map_append, List.map_singleton, ← List.concat_eq_append]
  refine distinct.concat fun mem => ?_
  obtain ⟨b, hb, same⟩ := List.mem_map.1 mem
  exact fresh b hb same

section
variable (stamp : Stamp) (number : String) (owner : Uuid) (label currency : Option String)
  (balance : Decimal) (a : Account)

@[simp] theorem Account.opened_id :
    (opened stamp number owner label currency balance).id = stamp.first := rfl

@[simp] theorem Account.opened_owner :
    (opened stamp number owner label currency balance).owner = owner := rfl

@[simp] theorem Account.opened_balance :
    (opened stamp number owner label currency balance).balance = balance := rfl

@[simp] theorem Account.openingCredit_account : (openingCredit stamp a).account = a.id := rfl

@[simp] theorem Account.openingCredit_owner : (openingCredit stamp a).owner = a.owner := rfl

@[simp] theorem Account.openingCredit_amount : (openingCredit stamp a).amount = a.balance := rfl

@[simp] theorem Account.openingCredit_kind : (openingCredit stamp a).kind = .credit := rfl

end

namespace Clock

def after (c : Clock) (n : Nat) : Clock := { c with reading := c.reading + n }

def Rising (c : Clock) : Prop := StrictMono c.time

theorem rising_ofNat (n : Nat) : (OfNat.ofNat n : Clock).Rising := fun _ _ lt =>
  Int.add_lt_add_left (Int.ofNat_lt.2 lt) n

end Clock

namespace Supply

structure Later (s s' : Supply) : Prop where
  draw : s'.draw = s.draw
  nextId : s.nextId ≤ s'.nextId
  time : s'.clock.time = s.clock.time
  reading : s.clock.reading ≤ s'.clock.reading
  drawn : s.drawn ≤ s'.drawn

theorem Later.refl (s : Supply) : Later s s := ⟨rfl, le_rfl, rfl, le_rfl, le_rfl⟩

theorem Later.trans {s s' s'' : Supply} (h : Later s s') (h' : Later s' s'') : Later s s'' :=
  ⟨h'.draw.trans h.draw, h.nextId.trans h'.nextId, h'.time.trans h.time,
    h.reading.trans h'.reading, h.drawn.trans h'.drawn⟩

theorem later_stamp (s : Supply) : Later s s.stamp.2 :=
  ⟨rfl, Nat.le_add_right _ _, rfl, Nat.le_succ _, le_rfl⟩

theorem later_drawNumber (s : Supply) : Later s s.drawNumber.2 :=
  ⟨rfl, le_rfl, rfl, le_rfl, Nat.le_succ _⟩

/-! ## The clock -/

theorem Later.rising {s s' : Supply} (h : Later s s') (rising : s.clock.Rising) :
    s'.clock.Rising := by
  rwa [Clock.Rising, h.time]

theorem Later.now {s s' : Supply} (h : Later s s') (rising : s.clock.Rising) : s.now ≤ s'.now := by
  rw [Supply.now, Supply.now, Clock.now, Clock.now, h.time]
  exact rising.monotone h.reading

theorem Later.stamped {s s' : Supply} (h : Later s.stamp.2 s') (rising : s.clock.Rising) :
    s.stamp.1.now.micros < s'.now := by
  have time : s'.clock.time = s.clock.time := h.time
  rw [Supply.now, Clock.now, time]
  exact rising (Nat.lt_of_succ_le h.reading)

/-! ## Identifiers -/

theorem issuedId_inj {n m : Nat} : issuedId n = issuedId m ↔ n = m := by simp [issuedId]

def Issued (s : Supply) (id : Uuid) : Prop := ∃ n < s.nextId, id = issuedId n

theorem Issued.later {s s' : Supply} {id : Uuid} (h : s.Issued id) (l : Later s s') :
    s'.Issued id := by
  obtain ⟨n, hn, rfl⟩ := h
  exact ⟨n, hn.trans_le l.nextId, rfl⟩

theorem not_issued_first (s : Supply) : ¬s.Issued s.stamp.1.first := by
  rintro ⟨n, hn, h⟩
  have : s.nextId = n := issuedId_inj.1 h
  omega

theorem issued_first (s : Supply) : s.stamp.2.Issued s.stamp.1.first :=
  ⟨s.nextId, by simp [stamp], rfl⟩

/-! ## Account numbers -/

theorem later_findNumber (taken : String → Bool) (attempts : Nat) (s : Supply) :
    Later s (s.findNumber taken attempts).2 := by
  induction attempts generalizing s with
  | zero => exact .refl s
  | succ attempts ih =>
    simp only [findNumber]
    split
    · exact (later_drawNumber s).trans (ih _)
    · exact later_drawNumber s

theorem findNumber_free {taken : String → Bool} {attempts : Nat} {s : Supply} {number : String}
    (h : (s.findNumber taken attempts).1 = some number) : taken number = false := by
  induction attempts generalizing s with
  | zero => cases h
  | succ attempts ih =>
    simp only [findNumber] at h
    split at h
    · exact ih h
    · rename_i free
      cases h
      simpa using free

end Supply

/-! ## Lists in order of time -/

section
variable {α : Type} {moment : α → Int} {now now' : Int} {rows : List α} {a : α}

/-- Rows that came one after another, before now. -/
structure InOrder (moment : α → Int) (now : Int) (rows : List α) : Prop where
  sorted : rows.Pairwise (moment · < moment ·)
  past : ∀ a ∈ rows, moment a < now

namespace InOrder

theorem nil (moment : α → Int) (now : Int) : InOrder moment now [] :=
  ⟨.nil, fun a mem => by cases mem⟩

theorem later (h : InOrder moment now rows) (le : now ≤ now') : InOrder moment now' rows :=
  ⟨h.sorted, fun a mem => (h.past a mem).trans_le le⟩

theorem append (h : InOrder moment now rows) (since : now ≤ moment a) (before : moment a < now') :
    InOrder moment now' (rows ++ [a]) := by
  have le : now ≤ now' := since.trans before.le
  refine ⟨List.pairwise_append.2 ⟨h.sorted, List.pairwise_singleton _ _, ?_⟩, fun other mem => ?_⟩
  · intro old mem new same
    rw [List.mem_singleton.1 same]
    exact (h.past old mem).trans_le since
  · rcases List.mem_append.1 mem with old | new
    · exact (h.past other old).trans_le le
    · rwa [List.mem_singleton.1 new]

theorem extend (h : InOrder moment now rows) {rows' : List α} (le : now ≤ now')
    (few : rows'.length ≤ 1) (each : ∀ a ∈ rows', now ≤ moment a ∧ moment a < now') :
    InOrder moment now' (rows ++ rows') := by
  match rows', few with
  | [], _ =>
    rw [List.append_nil]
    exact h.later le
  | [a], _ =>
    have mine := each a List.mem_cons_self
    exact h.append mine.1 mine.2

theorem filter (h : InOrder moment now rows) (p : α → Bool) : InOrder moment now (rows.filter p) :=
  ⟨h.sorted.filter p, fun a mem => h.past a (List.mem_filter.1 mem).1⟩

theorem map (h : InOrder moment now rows) {f : α → α} (same : ∀ a, moment (f a) = moment a) :
    InOrder moment now (rows.map f) := by
  refine ⟨List.pairwise_map.2 (h.sorted.imp fun {a b} lt => by rwa [same, same]), fun a mem => ?_⟩
  obtain ⟨old, hold, rfl⟩ := List.mem_map.1 mem
  rw [same]
  exact h.past old hold

theorem map_iff {β : Type} {moment : β → Int} {f : α → β} :
    InOrder moment now (rows.map f) ↔ InOrder (fun a => moment (f a)) now rows := by
  constructor
  · intro h
    exact ⟨(List.pairwise_map (f := f)).1 h.sorted,
      fun a mem => h.past (f a) (List.mem_map_of_mem mem)⟩
  · intro h
    exact ⟨List.pairwise_map.2 h.sorted, List.forall_mem_map.2 h.past⟩

theorem mergeSort (h : InOrder moment now rows) :
    rows.mergeSort (fun a b => moment a ≤ moment b) = rows :=
  List.mergeSort_of_pairwise (h.sorted.imp fun lt => decide_eq_true lt.le)

theorem mergeSort_reverse (h : InOrder moment now rows) :
    rows.mergeSort (fun a b => moment b ≤ moment a) = rows.reverse := by
  have falling : rows.reverse.Pairwise (moment · > moment ·) := List.pairwise_reverse.2 h.sorted
  have sorted := @List.pairwise_mergeSort _ (fun a b => decide (moment b ≤ moment a))
    (fun a b c => by simp only [decide_eq_true_eq]; omega)
    (fun a b => by simp only [Bool.or_eq_true, decide_eq_true_eq]; omega) rows
  -- No two moments are the same, so there is only one such order.
  have distinct : (rows.map moment).Nodup := List.pairwise_map.2 (h.sorted.imp ne_of_lt)
  refine List.Perm.eq_of_pairwise (fun a b ha hb le ge => ?_) sorted
    (falling.imp fun gt => decide_eq_true gt.le)
    ((List.mergeSort_perm _ _).trans rows.reverse_perm.symm)
  exact List.inj_on_of_nodup_map distinct (List.mem_mergeSort.1 ha) (List.mem_reverse.1 hb)
    (le_antisymm (of_decide_eq_true ge) (of_decide_eq_true le))

end InOrder

end

end Passbook
