import Passbook.Ledger.Rules
import Passbook.Number.Shortest

/-!
The fields of request bodies: which values they take and what they become. The faults of a body are
listed by the names of its fields.
-/

namespace Passbook

inductive FieldFault
  | missing
  | notAString
  | brokenString
  | tooShort
  | tooLong
  | notAnIdString
  | notAnId
  | badValue
  | notJson
  | notAnObject
  | notADecimal
  | unreadableDecimal
  | notFinite
  | tooManyPlaces
  | notAboveBound
  | belowBound
deriving DecidableEq

def FieldFault.name : FieldFault → String
  | missing => "missing"
  | notAString => "string_type"
  | brokenString => "string_unicode"
  | tooShort => "string_too_short"
  | tooLong => "string_too_long"
  | notAnIdString => "uuid_type"
  | notAnId => "uuid_parsing"
  | badValue => "value_error"
  | notJson => "json_invalid"
  | notAnObject => "model_attributes_type"
  | notADecimal => "decimal_type"
  | unreadableDecimal => "decimal_parsing"
  | notFinite => "finite_number"
  | tooManyPlaces => "decimal_max_places"
  | notAboveBound => "greater_than"
  | belowBound => "greater_than_equal"

structure FieldError where
  location : List String
  fault : FieldFault
  value : Json

abbrev Checked (α : Type) := Except (List FieldError) α

namespace Form

def labelWidth : Nat := 50
def currencyWidth : Nat := 3
def descriptionWidth : Nat := 500
def payeeNameWidth : Nat := 200
def payeeNumberWidth : Nat := 50

def decimal : Json → Except FieldFault Decimal
  | .string s =>
    match Decimal.ofText? s with
    | some x => .ok x
    | none => .error .unreadableDecimal
  | .int i => .ok (.ofInt i)
  | .float x =>
    match Decimal.ofText? x.text with
    | some x => .ok x
    | none => .error .unreadableDecimal
  | .quoted _ => .error .unreadableDecimal
  | _ => .error .notADecimal

def testAmount (allowZero : Bool) (x : Decimal) : Except FieldFault Decimal :=
  if !x.isFinite then .error .notFinite
  else if 2 < x.places then .error .tooManyPlaces
  else if allowZero then
    if Money.isBelow x Money.zero then .error .belowBound else .ok x
  else if Money.isAbove x Money.zero then .ok x
  else .error .notAboveBound

def amount (allowZero : Bool) (value : Json) : Except FieldFault Decimal := do
  testAmount allowZero (← decimal value)

def text (least most : Nat) : Json → Except FieldFault String
  | .string s =>
    if s.length < least then .error .tooShort
    else if most < s.length then .error .tooLong
    else .ok s
  | .quoted _ => .error .brokenString
  | _ => .error .notAString

def accountId : Json → Except FieldFault Uuid
  | .string s =>
    match Uuid.ofText? s with
    | some id => .ok id
    | none => .error .notAnId
  | .quoted _ => .error .notAnId
  | _ => .error .notAnIdString

def kind : Json → Except FieldFault Kind
  | .string s =>
    match normalizeKind (some s) with
    | .ok kind => .ok kind
    | .error _ => .error .badValue
  | .quoted _ => .error .badValue
  | _ => .error .notAString

def located {α : Type} (name : String) (value : Json) : Except FieldFault α → Checked α
  | .ok a => .ok a
  | .error fault => .error [⟨["body", name], fault, value⟩]

/-- A field that must be there. That it is missing is reported with the whole body. -/
def required {α : Type} (body : Json) (name : String) (read : Json → Except FieldFault α) :
    Checked α :=
  match body.field? name with
  | some value => located name value (read value)
  | none => located name body (.error .missing)

def optional {α : Type} (body : Json) (name : String) (read : Json → Except FieldFault α) :
    Checked (Option α) :=
  match body.field? name with
  | none | some .null => .ok none
  | some value => located name value ((read value).map some)

def errorsOf {α : Type} : Checked α → List FieldError
  | .ok _ => []
  | .error errors => errors

end Form

structure AccountForm where
  label : Option String
  currency : Option String
  deposit : Option Decimal
deriving DecidableEq

structure TransactionForm where
  account : Uuid
  amount : Decimal
  currency : Option String
  description : Option String
  kind : Kind
deriving DecidableEq

structure PaymentForm where
  account : Uuid
  amount : Decimal
  description : Option String
  payeeNumber : Option String
  payeeName : Option String
deriving DecidableEq

structure PayeeForm where
  number : String
  name : String
deriving DecidableEq

open Form (required optional errorsOf accountId)

def AccountForm.ofJson (body : Json) : Checked AccountForm :=
  let label := optional body "account_type" (Form.text 0 Form.labelWidth)
  let currency := optional body "currency" (Form.text 0 Form.currencyWidth)
  let deposit := optional body "initial_deposit" (Form.amount true)
  match label, currency, deposit with
  | .ok label, .ok currency, .ok deposit => .ok { label, currency, deposit }
  | _, _, _ => .error (errorsOf label ++ errorsOf currency ++ errorsOf deposit)

def TransactionForm.ofJson (body : Json) : Checked TransactionForm :=
  let account := required body "account_id" accountId
  let amount := required body "amount" (Form.amount false)
  let currency := optional body "currency" (Form.text 0 Form.currencyWidth)
  let description := optional body "description" (Form.text 0 Form.descriptionWidth)
  let kind := required body "type" Form.kind
  match account, amount, currency, description, kind with
  | .ok account, .ok amount, .ok currency, .ok description, .ok kind =>
    .ok { account, amount, currency, description, kind }
  | _, _, _, _, _ =>
    .error (errorsOf account ++ errorsOf amount ++ errorsOf currency ++ errorsOf description ++
      errorsOf kind)

def PaymentForm.ofJson (body : Json) : Checked PaymentForm :=
  let account := required body "account_id" accountId
  let amount := required body "amount" (Form.amount false)
  let description := optional body "description" (Form.text 0 Form.descriptionWidth)
  let payeeNumber := optional body "payee_account_number" (Form.text 0 Form.payeeNumberWidth)
  let payeeName := optional body "payee_name" (Form.text 0 Form.payeeNameWidth)
  match account, amount, description, payeeNumber, payeeName with
  | .ok account, .ok amount, .ok description, .ok payeeNumber, .ok payeeName =>
    .ok { account, amount, description, payeeNumber, payeeName }
  | _, _, _, _, _ =>
    .error (errorsOf account ++ errorsOf amount ++ errorsOf description ++ errorsOf payeeNumber ++
      errorsOf payeeName)

def PayeeForm.ofJson (body : Json) : Checked PayeeForm :=
  let number := required body "account_number" (Form.text 1 Form.payeeNumberWidth)
  let name := required body "name" (Form.text 1 Form.payeeNameWidth)
  match number, name with
  | .ok number, .ok name => .ok { number, name }
  | _, _ => .error (errorsOf number ++ errorsOf name)

end Passbook
