import Passbook.Proofs.Balance.Durable
import Passbook.Proofs.Balance.Memory
import Passbook.Proofs.History.Step

/-!
# History is only added to

Whatever failures a script injects: no call alters or removes a transaction, and accounts change
only by transactions.

- `World.Dated`: what runs keep
- `Change.appends`: what a call makes of the records
-/

namespace Passbook

theorem Shelf.Sound.fresh {shelf : Shelf} {s : Supply} (h : shelf.Sound s) :
    (∀ a ∈ shelf.accounts, a.id ≠ s.stamp.1.first) ∧
      ∀ t ∈ shelf.transactions, t.account ≠ s.stamp.1.first :=
  ⟨fun a mem same => s.not_issued_first (same ▸ h.issued a mem),
    fun _ mem same => s.not_issued_first (same ▸ h.issued_known mem)⟩

theorem Book.Sound.later {b : Book} {s s' : Supply} (h : b.Sound s) (l : s.Later s') : b.Sound s' :=
  ⟨fun owner => (h.shelves owner).later l, h.apart⟩

namespace World
variable {terms : Terms} {call : Call} {w w' : World} {owner : Uuid}

theorem Effect.durable_before {store : Option StoreCall} {result : Except Failure Answer}
    {d : Durable} (effect : Effect terms call w store result w') (after : w'.durable = some d) :
    ∃ d₀, w.durable = some d₀ := by
  cases effect with
  | failed kept => exact (kept.filled.durable_before after).imp fun _ => And.left
  | durable valid before => exact ⟨_, before⟩
  | memory valid later operation filled =>
    exact (filled.durable_before after).imp fun _ => And.left

/-! ## What runs keep -/

structure Dated (w : World) : Prop where
  book : w.book.Sound w.supply
  shelves : ∀ owner, (w.book.shelf owner).Of owner ∧ ∀ a ∈ (w.book.shelf owner).accounts,
    Layout.memory.LastChanged (w.book.shelf owner).transactions a
  tallied : ∀ d, w.durable = some d → ∃ answers, w.Tallied d answers
  rows : ∀ a ∈ w.rows.accounts, Layout.database.LastChanged w.rows.transactions a

structure InTime (w : World) : Prop where
  rising : w.supply.clock.Rising
  shelves : ∀ owner,
    InOrder (·.createdAt.micros) w.supply.now (w.book.shelf owner).transactions
  rows : InOrder (·.createdAt.micros) w.supply.now w.rows.transactions

theorem Dated.rows_tallied (h : w.Dated) : ∃ answers, w.rows.Tallied w.supply answers := by
  cases durable : w.durable with
  | none =>
    rw [rows_of_none durable]
    exact ⟨[], by simp, by simp, by simp, by simp, by simp⟩
  | some d =>
    obtain ⟨answers, tallied⟩ := h.tallied d durable
    rw [rows_of_durable durable]
    exact ⟨answers, tallied.rows⟩

theorem Dated.fresh (h : w.Dated) {s : Supply} (later : w.supply.Later s) :
    (∀ a ∈ w.rows.accounts, a.id ≠ s.stamp.1.first) ∧
      ∀ t ∈ w.rows.transactions, t.account ≠ s.stamp.1.first := by
  obtain ⟨answers, tallied⟩ := h.rows_tallied
  have fresh (a : AccountRow) (mem : a ∈ w.rows.accounts) : a.id ≠ s.stamp.1.first :=
    fun same => s.not_issued_first (same ▸ (tallied.issued a mem).later later)
  refine ⟨fresh, fun t mem same => ?_⟩
  obtain ⟨a, ha, account, -⟩ := tallied.known t mem
  exact fresh a ha (account.trans same)

theorem perform_dated (terms : Terms) (call : Call) (w : World) (h : w.Dated) :
    (w.perform terms call).state.Dated := by
  have tallied (d : Durable) (same : (w.perform terms call).state.durable = some d) :
      ∃ answers, (w.perform terms call).state.Tallied d answers := by
    obtain ⟨store, effect, -⟩ := exists_effect terms call w
    obtain ⟨d₀, before⟩ := effect.durable_before same
    obtain ⟨answers, tallied⟩ := h.tallied d₀ before
    obtain ⟨d', tallied⟩ := tallied.effect effect
    rw [tallied.durable, Option.some.injEq] at same
    exact ⟨_, same ▸ tallied⟩
  cases perform_change terms call w with
  | failed answered book rows later =>
    refine ⟨?_, ?_, tallied, ?_⟩
    · rw [book]
      exact h.book.later later
    · rw [book]
      exact h.shelves
    · rw [rows]
      exact h.rows
  | @database op answer s valid answered before after does book =>
    have later := before.trans (s.later_stamp.trans after)
    obtain ⟨answers, sound⟩ := h.rows_tallied
    obtain ⟨fresh, strange⟩ := h.fresh before
    refine ⟨?_, ?_, tallied, ?_⟩
    · rw [book]
      exact h.book.later later
    · rw [book]
      exact h.shelves
    · exact (does.step sound.distinct).lastChanged h.rows fresh strange
  | @memory op answer s valid answered before after does rows =>
    have checked := Call.operation_checked valid
    refine ⟨Book.does_sound (h.book.later before) checked does after, fun owner => ?_, tallied, ?_⟩
    · by_cases own : owner = op.owner
      · subst own
        have shelf := (h.book.shelves op.owner).later before
        have step := does.step shelf.distinct (h.shelves _).1
        exact ⟨step.owned (h.shelves _).1,
          step.lastChanged (h.shelves _).2 shelf.fresh.1 shelf.fresh.2⟩
      · rw [does.shelf_other own]
        exact h.shelves owner
    · rw [rows]
      exact h.rows

theorem perform_inTime (terms : Terms) (call : Call) (dated : w.Dated) (h : w.InTime) :
    (w.perform terms call).state.InTime := by
  have rising := h.rising
  have later := (perform_change terms call w).later
  have le := later.now rising
  cases perform_change terms call w with
  | failed answered book rows =>
    refine ⟨later.rising rising, fun owner => ?_, ?_⟩
    · rw [book]
      exact (h.shelves owner).later le
    · rw [rows]
      exact h.rows.later le
  | @database op answer s valid answered before after does book =>
    obtain ⟨answers, sound⟩ := dated.rows_tallied
    refine ⟨later.rising rising, fun owner => ?_, ?_⟩
    · rw [book]
      exact (h.shelves owner).later le
    · exact (does.step sound.distinct).ordered h.rows rising before after
  | @memory op answer s valid answered before after does rows =>
    refine ⟨later.rising rising, fun owner => ?_, ?_⟩
    · by_cases own : owner = op.owner
      · subst own
        exact (does.step (dated.book.shelves _).distinct (dated.shelves _).1).ordered
          (h.shelves op.owner) rising before after
      · rw [does.shelf_other own]
        exact (h.shelves owner).later le
    · rw [rows]
      exact h.rows.later le

theorem run_inTime (terms : Terms) (calls : List Call) (dated : w.Dated) (h : w.InTime) :
    (run terms calls w).2.InTime :=
  (run_induction (fun w => w.Dated ∧ w.InTime)
    (fun call w h => ⟨perform_dated terms call w h.1, perform_inTime terms call h.1 h.2⟩) calls w
    ⟨dated, h⟩).2

theorem rows_empty {book : Book} {durable : Option Durable} {supply : Supply} {script : Script}
    (bare : ∀ d, durable = some d → d.database.rows = ⟨[], [], []⟩) :
    World.rows ⟨book, durable, supply, script⟩ = ⟨[], [], []⟩ := by
  cases durable with
  | none => rfl
  | some d => exact bare d rfl

theorem dated_empty {durable : Option Durable} (supply : Supply) (script : Script)
    (bare : ∀ d, durable = some d → d.database.rows = ⟨[], [], []⟩) :
    Dated ⟨Book.empty, durable, supply, script⟩ := by
  refine ⟨Book.sound_empty supply, fun owner => ⟨by simp [Shelf.Of, Book.empty, Shelf.empty],
    by simp [Book.empty, Shelf.empty]⟩, fun d same => ⟨[], same, ?_, by simp [history],
      by simp [history], by simp [Book.ids, Book.empty, Shelf.empty]⟩, ?_⟩
  · rw [bare d same]
    exact ⟨by simp, by simp, by simp, by simp, by simp⟩
  · rw [rows_empty bare]
    simp

theorem inTime_empty {durable : Option Durable} {supply : Supply} (script : Script)
    (bare : ∀ d, durable = some d → d.database.rows = ⟨[], [], []⟩)
    (rising : supply.clock.Rising) : InTime ⟨Book.empty, durable, supply, script⟩ := by
  refine ⟨rising, fun owner => .nil _ _, ?_⟩
  rw [rows_empty bare]
  exact .nil _ _

/-! ## What one call does -/

theorem Change.appends {result : Except Failure Answer} (change : Change terms call w result w')
    (h : w.Dated) :
    (∀ owner, Layout.memory.Appends call result (w.book.shelf owner).accounts
      (w.book.shelf owner).transactions (w'.book.shelf owner).accounts
      (w'.book.shelf owner).transactions) ∧
    Layout.database.Appends call result w.rows.accounts w.rows.transactions w'.rows.accounts
      w'.rows.transactions := by
  obtain ⟨answers, sound⟩ := h.rows_tallied
  have shelf (owner : Uuid) := h.book.shelves owner
  cases change with
  | failed answered book rows later =>
    rw [book, rows]
    exact ⟨fun owner => .refl _ _ _ (shelf owner).distinct, .refl _ _ _ sound.distinct⟩
  | database valid answered before after does book =>
    rw [book]
    refine ⟨fun owner => .refl _ _ _ (shelf owner).distinct, ?_⟩
    exact (answered ▸ does.step sound.distinct).appends valid sound.distinct (h.fresh before).1
  | @memory op answer s valid answered before after does rows =>
    rw [rows]
    refine ⟨fun owner => ?_, .refl _ _ _ sound.distinct⟩
    by_cases own : owner = op.owner
    · subst own
      have fresh := ((shelf op.owner).later before).fresh.1
      exact (answered ▸ does.step (shelf _).distinct (h.shelves _).1).appends valid
        (shelf _).distinct fresh
    · rw [does.shelf_other own]
      exact .refl _ _ _ (shelf owner).distinct

theorem Change.recorded {answer : Answer} (change : Change terms call w (.ok answer) w')
    (moves : call.Moves) : ∃ t, answer = .transaction t ∧ call.account? = some t.account ∧
      ((w'.book.shelf call.owner).transactions =
            (w.book.shelf call.owner).transactions ++ [t] ∧ w'.rows = w.rows ∨
        w'.rows.transactions = w.rows.transactions ++ [t.toRow] ∧ w'.book = w.book) := by
  cases change with
  | failed answered => cases answered
  | database valid answered before after does book =>
    cases answered
    obtain ⟨t, same, names, new⟩ := does.recorded ((Call.moves_iff valid).1 moves)
    exact ⟨t, same, (Call.operation_account valid).symm.trans names, .inr ⟨new, book⟩⟩
  | memory valid answered before after does rows =>
    cases answered
    obtain ⟨t, same, names, new⟩ := does.recorded ((Call.moves_iff valid).1 moves)
    rw [Call.operation_owner valid] at new
    exact ⟨t, same, (Call.operation_account valid).symm.trans names, .inl ⟨new, rows⟩⟩

/-- After any calls of any owners on new stores, with whatever failures a script injects: accounts
lie on the shelf of their owner and have their transactions there. In either store, an account was
last changed at the moment of its newest transaction, or when it was opened if it has none. The
next call leaves what other owners have alone. It keeps all transactions as they are and adds at
most one, and it keeps all accounts with their particulars; an account that it changes otherwise is
the one that it names, its owner's, and then it has recorded one transaction on it. A call that
returns a transaction has recorded it. The newest transaction is the one that was recorded last; if
the clock never stands still, it has the latest moment. -/
theorem perform_history (terms : Terms) (durable : Option Durable) (supply : Supply)
    (script : Script) (calls : List Call) (call : Call)
    (bare : ∀ d, durable = some d → d.database.rows = ⟨[], [], []⟩) :
    let w := (run terms calls ⟨Book.empty, durable, supply, script⟩).2
    let served := w.perform terms call
    (∀ owner, ∀ a ∈ (w.book.shelf owner).accounts, a.owner = owner ∧
      Layout.memory.LastChanged (w.book.shelf owner).transactions a ∧
      ∀ other, ∀ t ∈ (w.book.shelf other).transactions, t.account = a.id → other = owner) ∧
    (∀ a ∈ w.rows.accounts, Layout.database.LastChanged w.rows.transactions a) ∧
    (supply.clock.Rising →
      (∀ owner, (w.book.shelf owner).transactions.Pairwise
        fun t t' => t.createdAt.micros < t'.createdAt.micros) ∧
      w.rows.transactions.Pairwise fun t t' => t.createdAt.micros < t'.createdAt.micros) ∧
    (∀ owner, Layout.memory.Appends call served.result (w.book.shelf owner).accounts
      (w.book.shelf owner).transactions (served.state.book.shelf owner).accounts
      (served.state.book.shelf owner).transactions) ∧
    Layout.database.Appends call served.result w.rows.accounts w.rows.transactions
      served.state.rows.accounts served.state.rows.transactions ∧
    (∀ owner ≠ call.owner, served.state.book.shelf owner = w.book.shelf owner ∧
      served.state.rows.of owner = w.rows.of owner) ∧
    (call.Moves → ∀ answer, served.result = .ok answer → ∃ t, answer = .transaction t ∧
      call.account? = some t.account ∧
      ((served.state.book.shelf call.owner).transactions =
            (w.book.shelf call.owner).transactions ++ [t] ∧ served.state.rows = w.rows ∨
        served.state.rows.transactions = w.rows.transactions ++ [t.toRow] ∧
          served.state.book = w.book)) := by
  intro w served
  have dated : w.Dated := run_induction Dated (perform_dated terms) calls _
    (dated_empty supply script bare)
  have change := perform_change terms call w
  obtain ⟨memory, database⟩ := change.appends dated
  refine ⟨fun owner a mem => ?_, dated.rows, fun rising => ?_, memory, database,
    fun owner other => perform_apart terms w other.symm, fun moves answer answered => ?_⟩
  · refine ⟨(dated.shelves owner).1 a mem, (dated.shelves owner).2 a mem, ?_⟩
    intro other t ht on
    have known := (dated.book.shelves other).known t ht
    exact dated.book.apart known (on ▸ List.mem_map_of_mem mem)
  · have inTime := run_inTime terms calls (dated_empty supply script bare)
      (inTime_empty script bare rising)
    exact ⟨fun owner => (inTime.shelves owner).sorted, inTime.rows.sorted⟩
  · exact (answered ▸ change : Change terms call w (.ok answer) _).recorded moves

theorem perform_history_debit :
    let debit (id : Uuid) := Call.applyTransaction ⟨1⟩ id (some (.ofCents 3025)) (some "debit")
      none none
    let w := (run .standard (soberCalls.take 1) newDurable).2
    let stored := w.perform .standard (debit (Supply.issuedId 2))
    let v := (run .standard (soberCalls.take 1) ⟨.empty, none, ⟨0, 0, 0, id⟩, .empty⟩).2
    let kept := v.perform .standard (debit (Supply.issuedId 0))
    (w.rows.transactions.length = 1 ∧ stored.state.rows.transactions.length = 2) ∧
    (∀ a ∈ w.rows.accounts, Layout.database.LastChanged w.rows.transactions a) ∧
    Layout.database.Appends (debit (Supply.issuedId 2)) stored.result w.rows.accounts
      w.rows.transactions stored.state.rows.accounts stored.state.rows.transactions ∧
    ((v.book.shelf ⟨1⟩).transactions.length = 1 ∧
      (kept.state.book.shelf ⟨1⟩).transactions.length = 2) ∧
    (∀ a ∈ (v.book.shelf ⟨1⟩).accounts,
      Layout.memory.LastChanged (v.book.shelf ⟨1⟩).transactions a) ∧
    kept.state.book.shelf ⟨2⟩ = v.book.shelf ⟨2⟩ := by
  intro debit w stored v kept
  obtain ⟨-, changed, -, -, appends, -⟩ := perform_history .standard (some ⟨Database.empty, []⟩)
    ⟨0, 0, 0, id⟩ .empty (soberCalls.take 1) (debit (Supply.issuedId 2)) (by rintro d ⟨⟩; rfl)
  obtain ⟨shelves, -, -, -, -, apart, -⟩ := perform_history .standard none ⟨0, 0, 0, id⟩ .empty
    (soberCalls.take 1) (debit (Supply.issuedId 0)) (by rintro d ⟨⟩)
  exact ⟨by decide +kernel, changed, appends, by decide +kernel,
    fun a mem => (shelves _ a mem).2.1, (apart ⟨2⟩ (by decide)).1⟩

end World

end Passbook
