import Passbook.Proofs.Api.Requests
import Passbook.Proofs.Width.Run

namespace Passbook
open Passbook.Text

/-! ## Forms -/

namespace Form

theorem text_ok {least most : Nat} {value : Json} {s : String} (h : text least most value = .ok s) :
    s.length ≤ most := by
  unfold text at h
  split at h
  · split_ifs at h with short long
    cases h
    omega
  · cases h
  · cases h

theorem located_ok {α : Type} {name : String} {value : Json} {x : Except FieldFault α} {a : α}
    (h : located name value x = .ok a) : x = .ok a := by
  cases x <;> cases h
  rfl

theorem required_text {body : Json} {name s : String} {least most : Nat}
    (h : required body name (text least most) = .ok s) : s.length ≤ most := by
  unfold required at h
  split at h
  · exact text_ok (located_ok h)
  · cases located_ok h

theorem optional_text {body : Json} {name : String} {least most : Nat} {s : Option String}
    (h : optional body name (text least most) = .ok s) : Within most s := by
  unfold optional at h
  split at h
  · cases h
    simp [Within]
  · cases h
    simp [Within]
  · rename_i value _ _
    have read := located_ok h
    cases found : text least most value with
    | error fault =>
      rw [found] at read
      cases read
    | ok given =>
      rw [found] at read
      cases read
      exact within_some.2 (text_ok found)

end Form

theorem AccountForm.ofJson_ok {body : Json} {form : AccountForm} (h : ofJson body = .ok form) :
    Within Form.labelWidth form.label ∧ Within Form.currencyWidth form.currency := by
  simp only [ofJson] at h
  split at h
  · rename_i label currency deposit
    cases h
    exact ⟨Form.optional_text label, Form.optional_text currency⟩
  · cases h

theorem TransactionForm.ofJson_ok {body : Json} {form : TransactionForm}
    (h : ofJson body = .ok form) :
    Within Form.currencyWidth form.currency ∧ Within Form.descriptionWidth form.description := by
  simp only [ofJson] at h
  split at h
  · rename_i account amount currency description kind
    cases h
    exact ⟨Form.optional_text currency, Form.optional_text description⟩
  · cases h

theorem PaymentForm.ofJson_ok {body : Json} {form : PaymentForm} (h : ofJson body = .ok form) :
    Within Form.payeeNameWidth form.payeeName ∧ Within Form.payeeNumberWidth form.payeeNumber ∧
      Within Form.descriptionWidth form.description := by
  simp only [ofJson] at h
  split at h
  · rename_i account amount description number name
    cases h
    exact ⟨Form.optional_text name, Form.optional_text number, Form.optional_text description⟩
  · cases h

theorem PayeeForm.ofJson_ok {body : Json} {form : PayeeForm} (h : ofJson body = .ok form) :
    form.name.length ≤ Form.payeeNameWidth ∧ form.number.length ≤ Form.payeeNumberWidth := by
  simp only [ofJson] at h
  split at h
  · rename_i number name
    cases h
    exact ⟨Form.required_text name, Form.required_text number⟩
  · cases h

/-! ## Requests -/

namespace App
variable {app : App} {now : Int} {r : Request}

theorem callOf_bounded {owner : Uuid} {query : List (String × String)} {payload : Payload}
    {action : Action} {call : Call} (h : callOf owner query payload action = .ok call) :
    call.Bounded := by
  cases action with
  | listAccounts | listPayees | deletePayees => cases h; trivial
  | listTransactions =>
    obtain ⟨account, -, h⟩ := Except.bind_eq_ok.1 h
    cases h
    trivial
  | createAccount =>
    obtain ⟨body, -, h⟩ := Except.bind_eq_ok.1 h
    obtain ⟨form, read, h⟩ := Except.bind_eq_ok.1 h
    cases h
    exact AccountForm.ofJson_ok read
  | createTransaction =>
    obtain ⟨body, -, h⟩ := Except.bind_eq_ok.1 h
    obtain ⟨form, read, h⟩ := Except.bind_eq_ok.1 h
    cases h
    exact TransactionForm.ofJson_ok read
  | createPayment =>
    obtain ⟨body, -, h⟩ := Except.bind_eq_ok.1 h
    obtain ⟨form, read, h⟩ := Except.bind_eq_ok.1 h
    cases h
    exact PaymentForm.ofJson_ok read
  | createPayee =>
    obtain ⟨body, -, h⟩ := Except.bind_eq_ok.1 h
    obtain ⟨form, read, h⟩ := Except.bind_eq_ok.1 h
    cases h
    exact (PayeeForm.ofJson_ok read).imp within_some.2 within_some.2

theorem call?_bounded {call : Call} (h : app.call? now r = some call) : call.Bounded := by
  simp only [call?] at h
  split at h
  · rename_i action _
    cases prepared : app.prepare now { r with method := upper r.method } true action with
    | error response =>
      rw [prepared] at h
      cases h
    | ok made =>
      rw [prepared] at h
      cases h
      obtain ⟨owner, payload, read⟩ := prepare_ok prepared
      exact callOf_bounded read
  · cases h

end App

/-- After any requests to an app on new stores, with whatever failures a script injects, if what
accounts are opened with fits by itself and draws of account numbers are in range: all texts in both
stores fit their columns, but for currencies, which have up to three times as many characters as
they may. Currencies fit as well exactly if none that an accepted request asked for has more than
three characters when it is written in capitals. -/
theorem requests_fit (app : App) (requests : List (Int × Request)) (durable : Option Durable)
    (supply : Supply) (script : Script) (fit : app.terms.Fit) (draws : supply.InRange)
    (bare : ∀ d, durable = some d → d.database.rows = ⟨[], [], []⟩) :
    let start : World := ⟨Book.empty, durable, supply, script⟩
    let calls := app.calls requests
    let done := World.run app.terms calls start
    app.worldAfter requests (some start) = some done.2 ∧ done.2.Fits 9 ∧
      (done.2.Fits 3 ↔ ∀ call, World.Accepted calls done.1 call → Within 3 call.written) := by
  intro start calls done
  have dated : start.Dated := World.dated_empty supply script bare
  have bounded : ∀ call ∈ calls, call.Bounded := by
    intro call mem
    obtain ⟨request, -, made⟩ := List.mem_filterMap.1 mem
    exact App.call?_bounded made
  have inForm : start.InForm := World.inForm_empty script draws bare
  have fits (n : Nat) : start.Fits n := World.fits_empty n supply script bare
  refine ⟨app.worldAfter_calls requests start, ?_, fun h => ?_, fun asked => ?_⟩
  · refine World.run_fits (fits 9) dated inForm fit bounded (by decide) ?_
    rintro call ⟨answer, mem⟩
    exact (bounded call (List.of_mem_zip mem).1).written
  · exact (World.run_currencies dated h.currencies).2
  · exact World.run_fits (fits 3) dated inForm fit bounded le_rfl asked

def openingRequest (currency : String) : Request :=
  { method := "POST", path := "/accounts", query := []
    authorization := some sampleAuthorization
    contentType := some "application/json"
    body := "\x7b\"currency\": \"" ++ currency ++ "\"\x7d" }

def openingCall? (currency : String) : Option Call :=
  (Payload.ofRequest (openingRequest currency)).toOption.bind fun payload =>
    (App.callOf ⟨1⟩ [] payload .createAccount).toOption

theorem openingRequest_calls (currency : String) :
    sampleApp.calls [(0, openingRequest currency)] = (openingCall? currency).toList := by
  have method : upper "POST" = "POST" := by decide +kernel
  have endpoint : Endpoint.at? "POST" "/accounts" = .ok (.ledger .createAccount) := by rfl
  have made : sampleApp.call? 0 (openingRequest currency) = openingCall? currency := by
    have post : (openingRequest currency).method = "POST" := rfl
    have path : (openingRequest currency).path = "/accounts" := rfl
    simp only [App.call?, post, method, path, endpoint]
    exact App.prepare_toOption (sampleApp_owner rfl) rfl
  rw [App.calls, List.filterMap_cons, made]
  cases openingCall? currency <;> rfl

theorem requests_fit_plain :
    ∃ w, sampleApp.worldAfter [(0, openingRequest "nzd")]
      (some ⟨Book.empty, some ⟨Database.empty, []⟩, ⟨0, 0, 0, fun _ => 0⟩, .empty⟩) = some w ∧
        w.rows.accounts.length = 1 ∧ w.Fits 3 := by
  have call : openingCall? "nzd" = some (.createAccount ⟨1⟩ none (some "nzd") none) := by
    decide +kernel
  obtain ⟨after, -, fits⟩ := requests_fit sampleApp [(0, openingRequest "nzd")]
    (some ⟨Database.empty, []⟩) ⟨0, 0, 0, fun _ => 0⟩ .empty ⟨by decide, by decide⟩
    (fun _ => by simp [accountNumberSpan]) (by rintro d ⟨⟩; rfl)
  rw [openingRequest_calls, call] at after fits
  refine ⟨_, after, by decide +kernel, fits.2 ?_⟩
  rintro call ⟨answer, mem⟩
  obtain rfl := List.mem_singleton.1 (List.of_mem_zip mem).1
  exact within_some.2 (by decide +kernel)

/-- The capital form of this letter is two letters. -/
theorem requests_overflow :
    ∃ w, sampleApp.worldAfter [(0, openingRequest "ßßß")]
      (some ⟨Book.empty, some ⟨Database.empty, []⟩, ⟨0, 0, 0, fun _ => 0⟩, .empty⟩) = some w ∧
        w.rows.accounts.map (·.currency) = ["SSSSSS"] ∧ ¬w.Fits 3 := by
  have call : openingCall? "ßßß" = some (.createAccount ⟨1⟩ none (some "ßßß") none) := by
    decide +kernel
  have after := sampleApp.worldAfter_calls [(0, openingRequest "ßßß")]
    ⟨Book.empty, some ⟨Database.empty, []⟩, ⟨0, 0, 0, fun _ => 0⟩, .empty⟩
  rw [openingRequest_calls, call] at after
  set w := (World.run sampleApp.terms (some _).toList _).2
  have wide : w.rows.accounts.map (·.currency) = ["SSSSSS"] := by decide +kernel
  refine ⟨w, after, wide, fun fits => ?_⟩
  obtain ⟨row, mem, same⟩ := List.mem_map.1 (wide ▸ List.mem_singleton_self "SSSSSS")
  have narrow := within_some.1 (fits.rows.accounts _ (List.mem_map_of_mem mem)).currency
  rw [same] at narrow
  exact absurd narrow (by decide)

end Passbook
