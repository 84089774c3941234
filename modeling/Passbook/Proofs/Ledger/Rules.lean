import Mathlib.Data.List.TakeWhile
import Passbook.Ledger.Operation
import Passbook.Ledger.Rules
import Passbook.Proofs.Ledger.Money

namespace Passbook
open Decimal

theorem lt_centsBound {cents : Nat} (h : cents ≤ greatestCents) : cents < centsBound :=
  h.trans_lt (by decide)

theorem signedDelta_credit (id : Uuid) (balance amount : Decimal) {kind : Kind}
    (credit : kind ≠ .debit) : signedDelta id balance amount kind = .ok amount := by
  rw [signedDelta, if_neg credit]

theorem signedDelta_short (id : Uuid) {balance amount : Decimal}
    (short : amount.exceeds? balance = some true) :
    signedDelta id balance amount .debit = refuse (.insufficientFunds id amount balance) := by
  rw [signedDelta, if_pos rfl, short]

theorem signedDelta_covered (id : Uuid) {balance amount : Decimal}
    (covered : amount.exceeds? balance = some false) :
    signedDelta id balance amount .debit = amount.negate?.mapError .arithmetic := by
  rw [signedDelta, if_pos rfl, covered]

theorem signedDelta_debit (id : Uuid) {balance : Decimal} {k : Int} (hb : balance.IsCents k)
    {cents : Nat} (pos : 0 < cents) (bound : cents < centsBound) :
    signedDelta id balance (.ofCents cents) .debit =
      if k < cents then refuse (.insufficientFunds id (.ofCents cents) balance)
      else .ok (.finite true cents (-2)) := by
  have order := exceeds?_cents (isCents_ofCents cents) hb
  split_ifs with short
  · exact signedDelta_short id (by simpa [short] using order)
  · rw [signedDelta_covered id (by simpa [short] using order), ofCents,
      negate?_cents pos.ne' bound, Except.mapError]

theorem normalizeKind_ok {given : Option String} {kind : Kind} (h : normalizeKind given = .ok kind) :
    kind = .credit ∨ kind = .debit := by
  unfold normalizeKind at h
  split at h <;> cases h
  · exact .inl rfl
  · exact .inr rfl

theorem Kind.text_isSome {kind : Kind} (known : kind = .credit ∨ kind = .debit) :
    kind.text.isSome := by
  rcases known with rfl | rfl <;> rfl

theorem Text.isBlankText_iff {s : String} : isBlankText s ↔ strip s = "" := by
  have nothing_left (cs : List Char) : stripChars cs = [] ↔ ∀ c ∈ cs, isBlank c := by
    constructor
    · intro nothing
      rw [stripChars, trimBoth, List.reverse_eq_nil_iff, List.dropWhile_eq_nil_iff] at nothing
      have front : cs.dropWhile isBlank = [] := by
        have first := List.head?_dropWhile_not isBlank cs
        cases kept : cs.dropWhile isBlank with
        | nil => rfl
        | cons c rest =>
          rw [kept] at first nothing
          have := nothing c (by simp)
          simp [this] at first
      exact List.dropWhile_eq_nil_iff.1 front
    · intro all
      rw [stripChars, trimBoth, List.dropWhile_eq_nil_iff.2 all]
      rfl
  rw [strip, isBlankText, List.all_eq_true, ← nothing_left]
  constructor
  · intro nothing
    rw [nothing]
  · intro nothing
    simpa using congrArg String.toList nothing

theorem resolveCurrency_eq (requested own : Option String) :
    resolveCurrency requested own =
      if trimmed requested = "" then own else some (Text.upper (trimmed requested)) := by
  cases requested with
  | none => rfl
  | some s =>
    by_cases blank : Text.strip s = ""
    · simp [resolveCurrency, trimmed, blank, Text.isBlankText_iff.2 blank]
    · simp [resolveCurrency, trimmed, blank, mt Text.isBlankText_iff.1 blank]

def IsTrimmed (s : Option String) : Prop := ∃ given, s = some (trimmed given) ∧ trimmed given ≠ ""

/-- The arguments of an operation that comes from a call. -/
def Operation.Checked : Operation → Prop
  | .createAccount _ label currency opening => label.isSome ∧ currency.isSome ∧ opening.IsOpening
  | .applyTransaction _ _ amount _ kind description =>
    amount.IsAmount ∧ (kind = .credit ∨ kind = .debit) ∧ description.isSome
  | .createPayee _ name number => IsTrimmed name ∧ IsTrimmed number
  | _ => True

end Passbook
