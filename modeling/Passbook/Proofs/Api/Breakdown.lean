import Passbook.Proofs.Api.Requests
import Passbook.Proofs.Ledger.Rules
import Passbook.Proofs.Ledger.Validation
import Passbook.Proofs.Service.Selection

/-!
# When a request with an amount breaks down

- `Call.operation_cases`: a call whose amount overflows breaks down, all others are tested to an end
- `App.perform_status`: the stores never let a call break down
- `App.handle_status`: the requests that break down
- `App.amounts_answered`: so all amounts are answered for but those that overflow
-/

namespace Passbook
open Money (Overflows Answered)

/-! ## Calls -/

namespace Call
variable {terms : Terms}

def money? : Call → Option Decimal
  | createAccount _ _ _ deposit => deposit.join
  | applyTransaction _ _ amount .. | makePayment _ _ amount .. => amount
  | _ => none

def Tested (result : Except Failure Operation) : Prop :=
  (∃ op, result = .ok op) ∨ ∃ r, result = .error (.refused r)

theorem tested_bind {field : String} {result : Except Failure Decimal}
    {rest : Decimal → Except Failure Operation} (h : Answered field result)
    (next : ∀ a, Tested (rest a)) : Tested (result >>= rest) := by
  rcases h with ⟨a, rfl⟩ | ⟨fault, rfl⟩
  · exact next a
  · exact .inr ⟨_, rfl⟩

theorem operation_of_check {field : String} {allowZero : Bool} {given : Option Decimal}
    {rest : Decimal → Except Failure Operation} (next : ∀ a, Tested (rest a)) :
    (¬Overflows given ∧ Tested (Money.check field allowZero given >>= rest)) ∨
      Overflows given ∧ ∃ fault, Money.check field allowZero given >>= rest =
        .error (.arithmetic fault) := by
  rcases Money.check_cases field allowZero given with ⟨fits, answered⟩ | ⟨overflows, fault, broken⟩
  · exact .inl ⟨fits, tested_bind answered next⟩
  · exact .inr ⟨overflows, fault, by rw [broken, Except.error_bind]⟩

theorem operation_cases (terms : Terms) (call : Call) :
    (¬Overflows call.money? ∧ Tested (call.operation terms)) ∨
      Overflows call.money? ∧ ∃ fault, call.operation terms = .error (.arithmetic fault) := by
  have noMoney : ¬Overflows none := by simp [Money.Overflows]
  cases call with
  | createAccount owner label currency deposit =>
    cases deposit with
    | none => exact .inl ⟨noMoney, .inl ⟨_, rfl⟩⟩
    | some given => exact operation_of_check fun a => .inl ⟨_, rfl⟩
  | applyTransaction owner account amount kind currency description =>
    refine operation_of_check fun a => ?_
    unfold normalizeKind
    split
    · exact .inl ⟨_, rfl⟩
    · exact .inl ⟨_, rfl⟩
    · exact .inr ⟨_, rfl⟩
  | makePayment => exact operation_of_check fun a => .inl ⟨_, rfl⟩
  | createPayee owner name number =>
    refine .inl ⟨noMoney, ?_⟩
    simp only [operation]
    split_ifs
    · exact .inr ⟨_, rfl⟩
    · exact .inl ⟨_, rfl⟩
  | listAccounts | listTransactions | listPayees | deletePayees =>
    exact .inl ⟨noMoney, .inl ⟨_, rfl⟩⟩

end Call

/-! ## Responses -/

namespace App
variable {app : App} {now : Int} {r : Request} {action : Action}

/-- A request with a body breaks down if its token does, if a fault of its fields is about a value
that cannot be reported, or if its amount overflows. -/
def BreaksDown (app : App) (now : Int) (r : Request) (action : Action) : Prop :=
  ∃ payload, Payload.ofRequest r = .ok payload ∧
    ((∃ token fault, bearerToken? r.authorization = some token ∧
      Token.owner app.secret now token = .error (.breakdown fault)) ∨
    ∃ owner, app.ownerOf now r = .ok owner ∧
      ((∃ errors, callOf owner r.query payload action = .error errors ∧
        ∃ e ∈ errors, e.value.isReportable = false) ∨
      ∃ call, callOf owner r.query payload action = .ok call ∧ Overflows call.money?))

theorem statusOf_ne (refusal : Refusal) : Response.statusOf refusal ≠ 500 := by
  cases refusal <;> simp [Response.statusOf]

theorem answer_ok_status (action : Action) (a : Answer) : (answer action (.ok a)).status ≠ 500 := by
  cases action <;> simp [answer, Action.successStatus, Action.hasBody]

theorem served_status {σ : Type} (action : Action) (stores : Stores σ) (method : Method) (s : σ) :
    (answer action (stores.serve method s).result).status ≠ 500 := by
  obtain ⟨trace, -, -, course⟩ := stores.watched_serve method s
  cases result : (stores.serve method s).result with
  | ok a => exact answer_ok_status action a
  | error failure =>
    rcases course.outage result with ⟨refusal, rfl⟩ | rfl | rfl
    · exact statusOf_ne refusal
    · simp [answer, Response.ofFailure]
    · simp [answer, Response.ofFailure]

theorem perform_status (terms : Terms) (action : Action) (call : Call) (w : World) :
    (answer action (w.perform terms call).result).status = 500 ↔ Overflows call.money? := by
  rcases call.operation_cases terms with ⟨fits, ⟨op, valid⟩ | ⟨refusal, refused⟩⟩ |
    ⟨overflows, fault, broken⟩
  · simp only [fits, iff_false, World.perform, valid]
    exact served_status action _ _ _
  · simp only [fits, iff_false, World.perform, refused]
    exact statusOf_ne refusal
  · simp only [overflows, iff_true, World.perform, broken]
    rfl

theorem invalid_status (errors : List FieldError) :
    (Response.invalid errors).status = 500 ↔ ∃ e ∈ errors, e.value.isReportable = false := by
  unfold Response.invalid
  split_ifs with reportable
  · simpa using reportable
  · simpa [Response.breakdown] using reportable

theorem ofRequest_status {response : Response} (h : Payload.ofRequest r = .error response) :
    response.status ≠ 500 := by
  unfold Payload.ofRequest at h
  split_ifs at h
  split at h <;> cases h <;> decide

theorem ownerOf_status {response : Response} (h : app.ownerOf now r = .error response) :
    response.status = 500 ↔ ∃ token fault, bearerToken? r.authorization = some token ∧
      Token.owner app.secret now token = .error (.breakdown fault) := by
  unfold ownerOf at h
  split at h
  · rename_i none
    cases h
    simp [none, Response.notAuthenticated]
  · rename_i token given
    split at h <;> rename_i owned <;> cases h
    · simp [given, owned, Response.notValid]
    · simp [given, owned, Response.breakdown]

theorem respond_status (w : World) (endpoint : Endpoint.at? r.method r.path = .ok (.ledger action))
    (body : action.hasBody) :
    (app.respond now r (some w)).response.status = 500 ↔ app.BreaksDown now r action := by
  simp only [BreaksDown, respond, endpoint, prepare, body, if_true, Option.isSome_some,
    Bool.not_true, Bool.false_eq_true, if_false]
  cases read : Payload.ofRequest r with
  | error response => simp [ofRequest_status read]
  | ok payload =>
  simp only [Except.ok_bind, Except.ok.injEq, exists_eq_left']
  cases known : app.ownerOf now r with
  | error response =>
    simp only [Except.error_bind, ownerOf_status known]
    simp
  | ok owner =>
  have held : ¬∃ token fault, bearerToken? r.authorization = some token ∧
      Token.owner app.secret now token = .error (.breakdown fault) := by
    rintro ⟨token, fault, given, broken⟩
    simp [ownerOf, given, broken] at known
  simp only [Except.ok_bind, Except.ok.injEq, exists_eq_left', held, false_or]
  cases asked : callOf owner r.query payload action with
  | error errors =>
    simp only [Except.mapError, invalid_status]
    simp
  | ok call =>
    simp only [Except.mapError, perform_status]
    simp

theorem handle_status (w : World)
    (endpoint : Endpoint.at? (Text.upper r.method) r.path = .ok (.ledger action))
    (body : action.hasBody) :
    (app.handle now r (some w)).response.status = 500 ↔ app.BreaksDown now r action := by
  have same : (app.handle now r (some w)).response.status =
      (app.respond now { r with method := Text.upper r.method } (some w)).response.status := by
    simp only [handle]
    split <;> rfl
  have owner : app.ownerOf now { r with method := Text.upper r.method } = app.ownerOf now r :=
    ownerOf_congr rfl
  have payload :
      Payload.ofRequest { r with method := Text.upper r.method } = Payload.ofRequest r := by
    simp only [Payload.ofRequest]
  rw [same, respond_status w endpoint body]
  simp only [BreaksDown, owner, payload]

end App

/-- An amount that is given as a JSON value is taken or turned away, unless it is a number in parts
with a part that 64 bits cannot hold or a number whose size overflows. A request to an endpoint that
takes a body is answered with status 500 exactly if its token breaks down, a fault of its fields
cannot be reported, or its amount overflows; the stores are never the reason. -/
theorem amounts_answered (app : App) (now : Int) (r : Request) (w : World) (action : Action)
    (endpoint : Endpoint.at? (Text.upper r.method) r.path = .ok (.ledger action))
    (body : action.hasBody) :
    (∀ field allowZero v, Answered field (Money.validate field allowZero v) ↔
      ¬(v.toDecimal = .error .beyondWord ∨
        ∃ x, (v.Denotes x ∨ v.DenotesInParts x) ∧ Decimal.overflowBound ≤ |x|)) ∧
    ((app.handle now r (some w)).response.status = 500 ↔ app.BreaksDown now r action) :=
  ⟨Money.validate_answered, App.handle_status w endpoint body⟩

/-- The deposit of this request is a number, but too large to be rounded. -/
theorem amounts_answered_overflow :
    let r : Request :=
      { method := "POST", path := "/accounts", query := []
        authorization := some sampleAuthorization
        contentType := some "application/json"
        body := "\x7b\"initial_deposit\": \"1e1000000\"\x7d" }
    let w : World := ⟨Book.empty, none, ⟨0, 0, 0, fun _ => 0⟩, .empty⟩
    Endpoint.at? (Text.upper r.method) r.path = .ok (.ledger .createAccount) ∧
      (sampleApp.handle 0 r (some w)).response.status = 500 := by
  intro r w
  have endpoint : Endpoint.at? (Text.upper r.method) r.path = .ok (.ledger .createAccount) := by
    have method : Text.upper r.method = "POST" := by decide +kernel
    have path : r.path = "/accounts" := rfl
    rw [method, path]
    rfl
  have asked : (Payload.ofRequest r).toOption.bind (fun payload =>
      (App.callOf ⟨1⟩ [] payload .createAccount).toOption) =
        some (.createAccount ⟨1⟩ none none (some (some (.finite false 1 1000000)))) := by
    decide +kernel
  have large : Overflows (some (.finite false 1 1000000)) := by
    have broken : ∃ fault, Money.check "Initial deposit" true (some (.finite false 1 1000000)) =
      .error (.arithmetic fault) := ⟨.overflow, by decide⟩
    exact Money.check_overflows.1 broken
  have breaks : sampleApp.BreaksDown 0 r .createAccount := by
    obtain ⟨payload, read, asked⟩ := Option.bind_eq_some_iff.1 asked
    exact ⟨payload, Except.toOption_eq_some.1 read,
      .inr ⟨⟨1⟩, sampleApp_owner rfl, .inr ⟨_, Except.toOption_eq_some.1 asked, large⟩⟩⟩
  exact ⟨endpoint, (amounts_answered sampleApp 0 r w .createAccount endpoint rfl).2.2 breaks⟩

theorem amounts_unanswered :
    ¬Answered "Amount" (Money.validate "Amount" false (.string "1e1000000")) := by
  have result : Money.validate "Amount" false (.string "1e1000000") =
      .error (.arithmetic .overflow) := by decide +kernel
  rw [result]
  exact fun answered => answered.not_arithmetic _ rfl

end Passbook
