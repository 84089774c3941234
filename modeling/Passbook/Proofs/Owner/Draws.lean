import Passbook.Proofs.Owner.World
import Passbook.Proofs.Service.Selection

/-!
# Draws that are not taken do not matter

As long as no draw meets a number in use, a store takes at most one for a call, and a call of the
service at most two.
-/

namespace Passbook

namespace Supply
variable {s s' : Supply} {f : Nat → Nat} {k n : Nat}

def redraw (s : Supply) (f : Nat → Nat) : Supply := { s with draw := f }

def Draws (s : Supply) (f : Nat → Nat) (n : Nat) : Prop :=
  ∀ i, s.drawn ≤ i → i < s.drawn + n → f i = s.draw i

theorem Draws.mono (h : s.Draws f n) (le : k ≤ n) : s.Draws f k :=
  fun i ge lt => h i ge (lt.trans_le (Nat.add_le_add_left le _))

theorem Draws.later (h : s.Draws f (n + 1)) (later : s.Later s') (few : s'.drawn ≤ s.drawn + 1) :
    s'.Draws f n := by
  intro i ge lt
  rw [later.draw]
  exact h i (later.drawn.trans ge) (by omega)

theorem Draws.drawNumber (h : s.Draws f (n + 1)) :
    (s.redraw f).drawNumber = (s.drawNumber.1, s.drawNumber.2.redraw f) := by
  have same : f s.drawn = s.draw s.drawn := h s.drawn le_rfl (by omega)
  simp only [Supply.drawNumber, redraw, same]

theorem findNumber_redraw {taken : String → Bool} (attempts : Nat)
    (free : taken s.drawNumber.1 = false) (h : s.Draws f (n + 1)) :
    (s.redraw f).findNumber taken attempts =
        ((s.findNumber taken attempts).1, (s.findNumber taken attempts).2.redraw f) ∧
      (s.findNumber taken attempts).2.drawn ≤ s.drawn + 1 := by
  cases attempts with
  | zero => exact ⟨rfl, Nat.le_succ _⟩
  | succ attempts =>
    simp only [findNumber, h.drawNumber, free, Bool.false_eq_true, if_false]
    exact ⟨trivial, le_rfl⟩

/-- Draws that do not repeat for some time go on without repeating. -/
theorem exists_draws (distinct : Set.InjOn s.draw (Set.Ico s.drawn (s.drawn + n))) :
    ∃ f, Function.Injective f ∧ s.Draws f n := by
  obtain ⟨bound, above⟩ := (Set.finite_Ico s.drawn (s.drawn + n)).image s.draw |>.bddAbove
  replace above (i : Nat) (mem : i ∈ Set.Ico s.drawn (s.drawn + n)) : s.draw i ≤ bound :=
    above (Set.mem_image_of_mem _ mem)
  refine ⟨fun i => if i ∈ Set.Ico s.drawn (s.drawn + n) then s.draw i else bound + 1 + i, ?_,
    fun i ge lt => if_pos ⟨ge, lt⟩⟩
  intro i j same
  dsimp only at same
  split_ifs at same with hi hj hj
  · exact distinct hi hj same
  · have := above i hi
    omega
  · have := above j hj
    omega
  · omega

end Supply

/-! ## The stores -/

section
variable {s : Supply} {f : Nat → Nat} {n : Nat} {b : Book}

theorem Book.run_redraw (terms : BookTerms) (op : Operation) (numbered : b.Numbered s)
    (draws : Function.Injective s.draw) (h : s.Draws f (n + 1)) :
    b.run terms op (s.redraw f) = (b.run terms op s).within (fun (b, s) => (b, s.redraw f)) ∧
      (b.run terms op s).state.2.drawn ≤ s.drawn + 1 := by
  have stamped : s.stamp.2.Draws f (n + 1) := h
  have free : b.isTaken s.stamp.2.drawNumber.1 = false :=
    (numbered.later s.later_stamp).free draws
  obtain ⟨found, few⟩ := Supply.findNumber_redraw terms.attempts free stamped
  have stamp : (s.redraw f).stamp = (s.stamp.1, s.stamp.2.redraw f) := rfl
  cases op with
  | createAccount owner label currency opening =>
    simp only [run, stamp, found]
    generalize s.stamp.2.findNumber b.isTaken terms.attempts = search at few
    rcases search with ⟨_ | number, s'⟩
    · exact ⟨rfl, few⟩
    · exact ⟨rfl, few⟩
  | listAccounts owner =>
    simp only [run, stamp, found]
    generalize s.stamp.2.findNumber b.isTaken terms.attempts = search at few
    split_ifs
    · rcases search with ⟨_ | number, s'⟩
      · exact ⟨rfl, few⟩
      · exact ⟨rfl, few⟩
    · exact ⟨rfl, Nat.le_succ _⟩
  | listTransactions owner account => exact ⟨rfl, Nat.le_succ _⟩
  | listPayees owner => exact ⟨rfl, Nat.le_succ _⟩
  | deletePayees owner => exact ⟨rfl, Nat.le_succ _⟩
  | applyTransaction | createPayee =>
    simp only [run, stamp, settle_supply]
    refine ⟨?_, Nat.le_succ _⟩
    unfold settle
    split <;> rfl

theorem StatementFault.eq_numberTaken (fault : StatementFault)
    (collides : fault.isConstraint && fault.error.isNumberCollision) : fault = .numberTaken := by
  cases fault with
  | numberTaken => rfl
  | cannotOpen | noTable | notANumber => cases collides
  | missingValue | payeeTaken | notPositive =>
    revert collides
    decide +kernel

theorem moneyColumn_error {x : Decimal} {fault : StatementFault}
    (h : moneyColumn x = .error fault) : fault = .notANumber := by
  unfold moneyColumn at h
  split at h <;> cases h
  rfl

theorem required_error {α : Type} {found : Option α} {fault : StatementFault}
    (h : required found = .error fault) : fault = .missingValue := by
  cases found <;> cases h
  rfl

theorem stored_error {x : Binary64} {fault : StatementFault} (h : stored x = .error fault) :
    fault = .missingValue := by
  unfold stored at h
  split at h <;> cases h
  rfl

theorem Database.rowsOf_error {α : Type} {db : Database} {table : Table} {found : Option (List α)}
    {fault : StatementFault} (h : db.rowsOf table found = .error fault) :
    fault = .noTable table ∨ fault = .cannotOpen := by
  unfold rowsOf at h
  split_ifs at h
  · split at h <;> cases h
    exact .inl rfl
  · cases h
    exact .inr rfl

theorem Database.insertAccount_taken {a : Account} {db : Database}
    (h : db.insertAccount a = .error .numberTaken) :
    ∃ row ∈ db.rows.accounts, row.number = a.number := by
  rcases Except.bind_eq_error.1 h with failed | ⟨column, -, h⟩
  · cases moneyColumn_error failed
  rcases Except.bind_eq_error.1 h with failed | ⟨rows, read, h⟩
  · rcases rowsOf_error failed with other | other <;> cases other
  rcases Except.bind_eq_error.1 h with failed | ⟨label, -, h⟩
  · cases required_error failed
  rcases Except.bind_eq_error.1 h with failed | ⟨balance, -, h⟩
  · cases stored_error failed
  rcases Except.bind_eq_error.1 h with failed | ⟨currency, -, h⟩
  · cases required_error failed
  split_ifs at h with taken
  rw [accountRows_ok read]
  simpa using taken

namespace Durable
variable {d : Durable} {attempts left : Nat} {owner : Uuid} {label currency : Option String}
  {opening : Decimal}

theorem insertOpened_none {stamp : Stamp} {a : Account} {db : Database}
    (h : insertOpened stamp a db = .ok none) : ∃ row ∈ db.rows.accounts, row.number = a.number := by
  unfold insertOpened at h
  cases inserted : db.insertAccount a with
  | ok db₁ =>
    simp only [inserted] at h
    split at h
    · cases h
    · cases credited : (db₁.insertTransaction (a.openingCredit stamp)).orFail <;>
        rw [credited] at h <;> cases h
    · cases h
  | error fault =>
    simp only [inserted] at h
    split_ifs at h with collides
    · rw [fault.eq_numberTaken collides] at inserted
      exact Database.insertAccount_taken inserted
    · cases h

theorem createAccount_redraw (numbered : d.Numbered s) (draws : Function.Injective s.draw)
    (h : s.Draws f (n + 1)) :
    createAccount owner label currency opening attempts left d (s.redraw f) =
        (createAccount owner label currency opening attempts left d s).within
          (fun (d, s) => (d, s.redraw f)) ∧
      (createAccount owner label currency opening attempts left d s).state.2.drawn ≤
        s.drawn + 1 := by
  cases left with
  | zero => exact ⟨rfl, Nat.le_succ _⟩
  | succ left =>
    have stamp : (s.redraw f).stamp = (s.stamp.1, s.stamp.2.redraw f) := rfl
    have stamped : s.stamp.2.Draws f (n + 1) := h
    have free := (numbered.later s.later_stamp).free draws
    have same := d.openSession_database
    simp only [createAccount, stamp, stamped.drawNumber]
    generalize d.openSession = opened at same
    rcases opened with ⟨_ | failure, d'⟩
    · dsimp only at same ⊢
      split
      · exact ⟨rfl, le_rfl⟩
      · exact ⟨rfl, le_rfl⟩
      · rename_i inserted
        obtain ⟨row, mem, used⟩ := insertOpened_none inserted
        exact absurd used (free row (same ▸ mem))
    · exact ⟨rfl, Nat.le_succ _⟩

theorem run_redraw (attempts : Nat) (vanished : Bool) (op : Operation) (numbered : d.Numbered s)
    (draws : Function.Injective s.draw) (h : s.Draws f (n + 1)) :
    d.run attempts vanished op (s.redraw f) =
        (d.run attempts vanished op s).within (fun (d, s) => (d, s.redraw f)) ∧
      (d.run attempts vanished op s).state.2.drawn ≤ s.drawn + 1 := by
  cases op with
  | createAccount => exact createAccount_redraw numbered draws h
  | listAccounts | listTransactions | applyTransaction | listPayees | createPayee | deletePayees =>
    exact ⟨rfl, Nat.le_succ _⟩

end Durable
end

/-! ## The service -/

namespace World
variable {w : World} {f : Nat → Nat} {n : Nat}

def redraw (f : Nat → Nat) (w : World) : World := { w with supply := w.supply.redraw f }

/-- The numbers in use were drawn, and the next draws, so many of them, are those of `f`. -/
structure Draws (w : World) (f : Nat → Nat) (n : Nat) : Prop where
  numbered : w.Numbered
  same : w.supply.Draws f n

theorem Draws.mono (h : w.Draws f n) {k : Nat} (le : k ≤ n) : w.Draws f k :=
  ⟨h.numbered, h.same.mono le⟩

theorem callMemory_redraw (terms : Terms) (op : Operation) (h : w.Draws f (n + 1)) :
    callMemory terms op (w.redraw f) = (callMemory terms op w).within (redraw f) ∧
      (callMemory terms op w).state.Draws f n := by
  obtain ⟨same, few⟩ :=
    Book.run_redraw terms.forBook op h.numbered.book h.numbered.draws h.same
  have numbered := callMemory_numbered terms op h.numbered
  have later := callMemory_later terms op w
  refine ⟨?_, numbered, h.same.later later ?_⟩
  · simp only [callMemory, scripted, redraw]
    split
    · rfl
    · simp only [same]
      rfl
  · obtain ⟨script, ⟨failure, eq⟩ | eq⟩ := callMemory_eq terms op w <;> rw [eq]
    · exact Nat.le_succ _
    · exact few

theorem tryDurable_redraw (terms : Terms) (op : Operation) (h : w.Draws f (n + 1)) :
    tryDurable terms op (w.redraw f) = (tryDurable terms op w).within (redraw f) ∧
      (tryDurable terms op w).state.Draws f n := by
  have numbered := tryDurable_numbered terms op h.numbered
  have later := tryDurable_later terms op w
  cases durable : w.durable with
  | none =>
    have durable' : (w.redraw f).durable = none := durable
    simp only [tryDurable, durable, durable']
    exact ⟨rfl, h.mono (Nat.le_succ n)⟩
  | some d =>
    have run (vanished : Bool) := Durable.run_redraw terms.attempts vanished op
      (h.numbered.durable d durable) h.numbered.draws h.same
    refine ⟨?_, numbered, h.same.later later ?_⟩
    · rw [tryDurable_eq _ _ _ durable, tryDurable_eq _ _ (w.redraw f) durable]
      simp only [callDurable, scripted, redraw]
      split
      · rfl
      · simp only [(run _).1]
        rfl
    · rw [tryDurable_eq _ _ _ durable]
      obtain ⟨script, ⟨failure, eq⟩ | ⟨vanished, eq⟩⟩ := callDurable_eq terms op w d <;> rw [eq]
      · exact Nat.le_succ _
      · exact (run vanished).2

theorem repair_redraw (h : w.Draws f n) :
    repair (w.redraw f) = (repair w).within (redraw f) ∧ (repair w).state.Draws f n := by
  refine ⟨?_, repair_numbered h.numbered, ?_⟩
  · simp only [repair, scripted, redraw]
    split
    · rfl
    · cases w.durable <;> rfl
  · rw [repair_supply]
    exact h.same

theorem serveFromMemory_redraw (v v' : World) (terms : Terms) (op : Operation) (method : Method)
    (h : w.Draws f (n + 1)) :
    (v'.stores terms op).serveFromMemory method (w.redraw f) =
        ((v.stores terms op).serveFromMemory method w).within (redraw f) ∧
      ((v.stores terms op).serveFromMemory method w).state.Draws f n := by
  obtain ⟨same, left⟩ := callMemory_redraw terms op h
  simp only [Stores.serveFromMemory, stores, same, Outcome.surfaced_within,
    Served.ofOutcome_state, Outcome.surfaced_state]
  exact ⟨rfl, left⟩

theorem serveAfterRepair_redraw (v v' : World) (terms : Terms) (op : Operation) (method : Method)
    (h : w.Draws f (n + 1)) :
    (v'.stores terms op).serveAfterRepair (tryDurable terms op) method (w.redraw f) =
        ((v.stores terms op).serveAfterRepair (tryDurable terms op) method w).within (redraw f) ∧
      ((v.stores terms op).serveAfterRepair (tryDurable terms op) method w).state.Draws f n := by
  obtain ⟨mended, left⟩ := repair_redraw h
  obtain ⟨retried, last⟩ := tryDurable_redraw terms op left
  simp only [Stores.serveAfterRepair, stores, mended, Outcome.surfaced_within]
  simp only [Outcome.within, Outcome.surfaced_state]
  cases ((repair w).surfaced (.afterRepair method) (.repairFailed method)).result with
  | error failure => exact ⟨rfl, left.mono (Nat.le_succ n)⟩
  | ok done =>
    simp only [retried, Outcome.surfaced_within, Served.after_state, Served.ofOutcome_state,
      Outcome.surfaced_state]
    exact ⟨rfl, last⟩

theorem serve_redraw (terms : Terms) (op : Operation) (h : w.Draws f (n + 2)) :
    (w.redraw f).serve terms op = (w.serve terms op).within (redraw f) ∧
      (w.serve terms op).state.Draws f n := by
  cases durable : w.durable with
  | none =>
    have durable' : (w.redraw f).durable = none := durable
    obtain ⟨same, left⟩ := serveFromMemory_redraw w (w.redraw f) terms op op.method
      (h.mono (Nat.le_succ (n + 1)))
    rw [serve_memory durable, serve_memory durable', same]
    exact ⟨rfl, left⟩
  | some d =>
    have durable' : (w.redraw f).durable = some d := durable
    obtain ⟨first, left⟩ := tryDurable_redraw terms op h
    obtain ⟨memory, other⟩ := serveFromMemory_redraw w (w.redraw f) terms op op.method left
    obtain ⟨retry, last⟩ := serveAfterRepair_redraw w (w.redraw f) terms op op.method left
    simp only [serve, Stores.serve, stores_durable durable, stores_durable durable', first,
      Outcome.within, memory, retry]
    split
    · exact ⟨rfl, left.mono (Nat.le_succ n)⟩
    · exact ⟨rfl, left.mono (Nat.le_succ n)⟩
    · exact ⟨rfl, last⟩
    · exact ⟨rfl, other⟩

theorem perform_redraw (terms : Terms) (call : Call) (h : w.Draws f (n + 2)) :
    (w.redraw f).perform terms call = (w.perform terms call).within (redraw f) ∧
      (w.perform terms call).state.Draws f n := by
  unfold perform
  cases call.operation terms with
  | error failure => exact ⟨rfl, h.mono (Nat.le_add_right n 2)⟩
  | ok op => exact serve_redraw terms op h

theorem run_redraw (terms : Terms) (calls : List Call) (h : w.Draws f (2 * calls.length)) :
    run terms calls (w.redraw f) = ((run terms calls w).1, (run terms calls w).2.redraw f) := by
  induction calls generalizing w with
  | nil => rfl
  | cons call calls ih =>
    obtain ⟨same, left⟩ := perform_redraw terms call (n := 2 * calls.length) h
    simp only [run, same, Served.within, ih left]

end World

end Passbook
