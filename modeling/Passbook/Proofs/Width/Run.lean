import Passbook.Proofs.History.Run
import Passbook.Proofs.Store.Numbering
import Passbook.Proofs.Width.Records
import Passbook.Api.Form

namespace Passbook
open Passbook.Text

variable {terms : Terms} {call : Call} {op : Operation} {n : Nat}

namespace Call

def Bounded : Call → Prop
  | .createAccount _ label currency _ =>
    Within Form.labelWidth label ∧ Within Form.currencyWidth currency
  | .applyTransaction _ _ _ _ currency description =>
    Within Form.currencyWidth currency ∧ Within Form.descriptionWidth description
  | .makePayment _ _ _ payeeName payeeNumber description =>
    Within Form.payeeNameWidth payeeName ∧ Within Form.payeeNumberWidth payeeNumber ∧
      Within Form.descriptionWidth description
  | .createPayee _ name number =>
    Within Form.payeeNameWidth name ∧ Within Form.payeeNumberWidth number
  | _ => True

def written : Call → Option String
  | .createAccount _ _ currency _ | .applyTransaction _ _ _ _ currency _ =>
    Passbook.written currency
  | _ => none

theorem written_within {currency : Option String} (h : Within n currency) :
    Within (3 * n) (Passbook.written currency) := by
  rintro text mem
  obtain ⟨given, same, rfl⟩ := Option.mem_map.1 mem
  exact (length_upper_le _).trans (Nat.mul_le_mul_left 3 ((length_strip_le _).trans (h given same)))

theorem Bounded.written (h : call.Bounded) : Within 9 call.written := by
  cases call with
  | createAccount owner label currency deposit => exact written_within h.2
  | applyTransaction owner account amount kind currency description => exact written_within h.1
  | _ => simp [Call.written, Within]

end Call

structure Terms.Fit (terms : Terms) : Prop where
  label : terms.label.length ≤ 50
  currency : terms.currency.length ≤ 3

theorem length_orElse_le {s standard : String} (given : s.length ≤ n)
    (usual : standard.length ≤ n) : (Terms.orElse s standard).length ≤ n := by
  unfold Terms.orElse
  split_ifs
  · exact usual
  · exact given

theorem Terms.Fit.forBook (fit : terms.Fit) :
    terms.forBook.label.length ≤ 50 ∧ terms.forBook.currency.length ≤ 3 :=
  ⟨length_orElse_le fit.label (by decide), length_orElse_le fit.currency (by decide)⟩

theorem length_trimmed_le {s : Option String} (h : Within n s) : (trimmed s).length ≤ n :=
  (length_strip_le _).trans (within_iff.1 h)

theorem upper_trimmed (s : Option String) :
    upper (trimmed s) = (written s).getD "" := by
  cases s with
  | none => rfl
  | some text => rfl

theorem length_paymentDescription_le {description payeeName payeeNumber : Option String}
    (text : Within 500 description) (name : Within 200 payeeName) (number : Within 50 payeeNumber) :
    (paymentDescription description payeeName payeeNumber).length ≤ 500 := by
  unfold paymentDescription
  split
  · rename_i given same
    exact text _ (Option.filter_eq_some_iff.1 same).1
  · rename_i payee _ same
    have payee_le := name _ (Option.filter_eq_some_iff.1 same).1
    have number_le := within_iff.1 number
    simp only [String.length_append]
    have words : "Payment to ".length + " (".length + ")".length = 14 := by decide
    omega
  · decide

theorem operation_fits (valid : call.operation terms = .ok op) (fit : terms.Fit)
    (bounded : call.Bounded) (least : 3 ≤ n) (asked : Within n call.written) : op.Fits n := by
  cases call with
  | listAccounts | listTransactions | listPayees | deletePayees => cases valid; trivial
  | createAccount =>
    obtain ⟨opening, -, valid⟩ := Except.bind_eq_ok.1 valid
    cases valid
    refine ⟨within_some.2 (length_orElse_le (length_trimmed_le bounded.1) fit.label),
      within_some.2 (length_orElse_le ?_ (fit.currency.trans least))⟩
    rw [upper_trimmed]
    exact within_iff.1 asked
  | applyTransaction =>
    obtain ⟨amount, -, valid⟩ := Except.bind_eq_ok.1 valid
    obtain ⟨kind, hkind, valid⟩ := Except.bind_eq_ok.1 valid
    cases valid
    exact ⟨asked, normalizeKind_ok hkind, within_some.2 (within_iff.1 bounded.2)⟩
  | makePayment =>
    obtain ⟨amount, -, valid⟩ := Except.bind_eq_ok.1 valid
    cases valid
    refine ⟨by simp [Passbook.written, Within], .inr rfl, within_some.2 ?_⟩
    exact length_paymentDescription_le bounded.2.2 bounded.1 bounded.2.1
  | createPayee =>
    simp only [Call.operation] at valid
    split_ifs at valid <;> cases valid
    exact ⟨within_some.2 (length_trimmed_le bounded.1), within_some.2 (length_trimmed_le bounded.2)⟩

theorem written_of_operation (valid : call.operation terms = .ok op) (h : Within n op.written) :
    Within n call.written := by
  cases call with
  | listAccounts | listTransactions | listPayees | deletePayees | makePayment | createPayee =>
    simp [Call.written, Within]
  | createAccount owner label currency deposit =>
    obtain ⟨opening, -, valid⟩ := Except.bind_eq_ok.1 valid
    cases valid
    rw [Operation.written, within_some, Terms.orElse, upper_trimmed] at h
    rw [Call.written, within_iff]
    split_ifs at h with blank
    · rw [blank]
      exact Nat.zero_le n
    · exact h
  | applyTransaction =>
    obtain ⟨amount, -, valid⟩ := Except.bind_eq_ok.1 valid
    obtain ⟨kind, hkind, valid⟩ := Except.bind_eq_ok.1 valid
    cases valid
    exact h

/-! ## Account numbers -/

namespace World
variable {w w' : World} {store : Option StoreCall} {result : Except Failure Answer}

structure InForm (w : World) : Prop where
  draws : w.supply.InRange
  book : w.book.Registered
  durable : ∀ d, w.durable = some d → d.database.Registered

theorem Effect.inForm (effect : Effect terms call w store result w') (h : w.InForm)
    (later : w.supply.Later w'.supply) : w'.InForm := by
  have range {s : Supply} (later : w.supply.Later s) : s.InRange := fun k => by
    rw [later.draw]
    exact h.draws k
  -- A table that is created holds no numbers.
  have filled (f : Filled w w') (d : Durable) (after : w'.durable = some d) :
      d.database.Registered := by
    obtain ⟨d₀, before, same⟩ := f.durable_before after
    have rows : d₀.database.rows = d.database.rows := congrArg (·.database.rows) same
    exact (h.durable d₀ before).of_rows (by rw [rows])
  cases effect with
  | failed kept =>
    refine ⟨range later, ?_, filled kept.filled⟩
    rw [kept.book]
    exact h.book
  | @durable w' op d₀ d' supply answer log valid before after later' operation book =>
    refine ⟨range later, ?_, fun d same => ?_⟩
    · rw [book]
      exact h.book
    · rw [after, Option.some.injEq] at same
      have registered :
          (d₀.healthy.run terms.attempts false op supply).state.1.database.Registered :=
        Durable.run_registered false op (range later') ((h.durable d₀ before).of_rows rfl)
      rw [operation] at registered
      exact same ▸ registered.of_rows rfl
  | @memory w' op supply answer log valid later' operation f =>
    refine ⟨range later, ?_, filled f⟩
    have numbers := Book.run_numbers terms.forBook op w.book supply
    rw [operation] at numbers
    exact h.book.run numbers (range later')

theorem perform_inForm (terms : Terms) (call : Call) (w : World) (h : w.InForm) :
    (w.perform terms call).state.InForm := by
  obtain ⟨store, effect, -⟩ := exists_effect terms call w
  exact effect.inForm h (perform_later terms call w)

theorem InForm.shelf (h : w.InForm) (owner : Uuid) :
    ∀ a ∈ (w.book.shelf owner).accounts, a.number.length ≤ 20 := by
  intro a mem
  rw [(h.book.formed a.number ⟨owner, List.mem_map_of_mem mem⟩).length]
  decide

theorem InForm.rows (h : w.InForm) : ∀ a ∈ w.rows.accounts, a.number.length ≤ 20 := by
  intro a mem
  cases durable : w.durable with
  | none =>
    rw [rows_of_none durable] at mem
    cases mem
  | some d =>
    rw [rows_of_durable durable] at mem
    rw [((h.durable d durable).formed a mem).length]
    decide

/-! ## Records -/

structure Fits (n : Nat) (w : World) : Prop where
  shelves : ∀ owner, (w.book.shelf owner).Fits n
  rows : w.rows.Fits n

structure CurrenciesWithin (n : Nat) (w : World) : Prop where
  shelves : ∀ owner, (w.book.shelf owner).CurrenciesWithin n
  rows : w.rows.CurrenciesWithin n

theorem Fits.currencies (h : w.Fits n) : w.CurrenciesWithin n :=
  ⟨fun owner => (h.shelves owner).currencies, h.rows.currencies⟩

theorem Change.fits (change : Change terms call w result w') (h : w.Fits n) (dated : w.Dated)
    (inForm : w'.InForm) (fit : terms.Fit) (bounded : call.Bounded) (least : 3 ≤ n)
    (asked : ∀ answer, result = .ok answer → Within n call.written) : w'.Fits n := by
  cases change with
  | failed answered book rows =>
    refine ⟨?_, ?_⟩
    · rw [book]
      exact h.shelves
    · rw [rows]
      exact h.rows
  | database valid answered before after does book =>
    have fits := operation_fits valid fit bounded least (asked _ answered)
    refine ⟨?_, does.fits fits inForm.rows h.rows⟩
    rw [book]
    exact h.shelves
  | @memory op answer s valid answered before after does rows =>
    have fits := operation_fits valid fit bounded least (asked _ answered)
    refine ⟨fun owner => ?_, ?_⟩
    · by_cases own : owner = op.owner
      · subst own
        exact does.fits fits ⟨fit.forBook.1, fit.forBook.2.trans least⟩
          (dated.book.shelves _).distinct (inForm.shelf _) (h.shelves _)
      · rw [does.shelf_other own]
        exact h.shelves owner
    · rw [rows]
      exact h.rows

theorem Change.written_within {answer : Answer} (change : Change terms call w (.ok answer) w')
    (h : w'.CurrenciesWithin n) : Within n call.written := by
  cases change with
  | failed answered => cases answered
  | database valid answered before after does book =>
    exact written_of_operation valid (does.written_within h.rows)
  | memory valid answered before after does rows =>
    exact written_of_operation valid (does.written_within (h.shelves _))

end World

theorem Layout.Appends.currencies {α τ : Type} {f : Layout α τ} {as as' : List α} {ts ts' : List τ}
    {result : Except Failure Answer} (row : τ → TransactionRow)
    (appends : f.Appends call result as ts as' ts')
    (h : CurrenciesWithin n (as'.map f.particulars) (ts'.map row)) :
    CurrenciesWithin n (as.map f.particulars) (ts.map row) := by
  obtain ⟨opened, accounts⟩ := appends.accounts
  obtain ⟨new, -, rfl⟩ := appends.transactions
  rw [accounts, List.map_append] at h
  exact ⟨fun p mem => h.1 p (List.mem_append_left _ mem),
    fun t mem => h.2 t (List.mem_append_left _ mem)⟩

namespace World
variable {w w' : World} {result : Except Failure Answer}

theorem Change.currencies (change : Change terms call w result w') (dated : w.Dated)
    (h : w'.CurrenciesWithin n) : w.CurrenciesWithin n := by
  obtain ⟨shelves, rows⟩ := change.appends dated
  have h_rows := h.rows
  refine ⟨fun owner => (shelves owner).currencies Transaction.toRow (h.shelves owner), ?_⟩
  have same (r : Rows) : r.CurrenciesWithin n ↔
      Passbook.CurrenciesWithin n (r.accounts.map Layout.database.particulars)
        (r.transactions.map id) := by
    rw [List.map_id]
    rfl
  rw [same] at h_rows ⊢
  exact rows.currencies id h_rows

/-! ## Runs -/

theorem inForm_empty {durable : Option Durable} {supply : Supply} (script : Script)
    (draws : supply.InRange) (bare : ∀ d, durable = some d → d.database.rows = ⟨[], [], []⟩) :
    InForm ⟨Book.empty, durable, supply, script⟩ := by
  refine ⟨draws, Book.registered_empty, fun d same => ?_⟩
  have rows := bare d same
  exact ⟨by simp [rows], by simp [rows]⟩

theorem fits_empty (n : Nat) {durable : Option Durable} (supply : Supply) (script : Script)
    (bare : ∀ d, durable = some d → d.database.rows = ⟨[], [], []⟩) :
    Fits n ⟨Book.empty, durable, supply, script⟩ := by
  refine ⟨fun owner => ⟨by simp [Book.empty, Shelf.empty], by simp [Book.empty, Shelf.empty],
    by simp [Book.empty, Shelf.empty]⟩, ?_⟩
  rw [rows_empty bare]
  exact ⟨by simp, by simp, by simp⟩

def Accepted (calls : List Call) (answers : List (Except Failure Answer)) (call : Call) : Prop :=
  ∃ answer, (call, Except.ok answer) ∈ calls.zip answers

theorem run_fits {calls : List Call} (h : w.Fits n) (dated : w.Dated) (inForm : w.InForm)
    (fit : terms.Fit) (bounded : ∀ call ∈ calls, call.Bounded) (least : 3 ≤ n)
    (asked : ∀ call, Accepted calls (run terms calls w).1 call → Within n call.written) :
    (run terms calls w).2.Fits n := by
  induction calls generalizing w with
  | nil => exact h
  | cons call calls ih =>
    have dated' := perform_dated terms call w dated
    have inForm' := perform_inForm terms call w inForm
    refine ih ?_ dated' inForm' (fun call mem => bounded call (by simp [mem])) ?_
    · refine (perform_change terms call w).fits h dated inForm' fit
        (bounded call List.mem_cons_self) least ?_
      intro answer ok
      exact asked call ⟨answer, by simp [run, ok]⟩
    · rintro later ⟨answer, mem⟩
      exact asked later ⟨answer, List.mem_cons_of_mem _ mem⟩

theorem run_currencies {calls : List Call} (dated : w.Dated)
    (h : (run terms calls w).2.CurrenciesWithin n) :
    w.CurrenciesWithin n ∧
      ∀ call, Accepted calls (run terms calls w).1 call → Within n call.written := by
  induction calls generalizing w with
  | nil =>
    refine ⟨h, ?_⟩
    rintro call ⟨answer, mem⟩
    cases mem
  | cons call calls ih =>
    have change := perform_change terms call w
    obtain ⟨after, rest⟩ := ih (perform_dated terms call w dated) h
    refine ⟨change.currencies dated after, ?_⟩
    rintro other ⟨answer, mem⟩
    rcases List.mem_cons.1 mem with same | mem
    · obtain ⟨rfl, ok⟩ := Prod.mk.inj same
      rw [← ok] at change
      exact change.written_within after
    · exact rest other ⟨answer, mem⟩

end World

end Passbook
