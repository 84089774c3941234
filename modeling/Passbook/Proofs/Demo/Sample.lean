import Passbook.Proofs.Demo.Growth
import Passbook.Proofs.Ledger.Kinds
import Passbook.Proofs.Ledger.Validation

namespace Passbook

theorem Moves.unique {kind : Kind} {amount balance next next' : Decimal}
    (h : Moves kind amount balance next) (h' : Moves kind amount balance next') : next = next' := by
  obtain ⟨delta, -, change, sum, -⟩ := h.moves
  obtain ⟨delta', -, change', sum', -⟩ := h'.moves
  obtain rfl : delta = delta' := by simpa using (change ⟨0⟩).symm.trans (change' ⟨0⟩)
  simpa using sum.symm.trans sum'

def Transaction.gist (t : Transaction) : Kind × Decimal × Option String :=
  (t.kind, t.amount, t.description)

structure Transaction.IsOn (a : Account) (t : Transaction) : Prop where
  account : t.account = a.id
  owner : t.owner = a.owner
  currency : t.currency = a.currency

namespace Demo
variable {terms : Terms} {owner : Uuid} {currency : String} {start : World} {p : Progress}
  {as : List Account} {a : Account} {ts : List Transaction} {plan : Plan}

/-! ## Plans -/

def Entry.gist (e : Entry) : Kind × Decimal × Option String :=
  (e.kind, e.amount, some e.description)

namespace Plan

def history (plan : Plan) : List Entry :=
  ⟨.credit, plan.opening, openingDescription⟩ :: plan.entries

def call (owner : Uuid) (currency : String) (plan : Plan) : Call :=
  .createAccount owner (some plan.label) (some currency) (some (some plan.opening))

end Plan

inductive Leads : Decimal → List Entry → Decimal → Prop
  | done {balance : Decimal} : Leads balance [] balance
  | next {balance next closing : Decimal} {e : Entry} {rest : List Entry}
      (moves : Moves e.kind e.amount balance next) (leads : Leads next rest closing) :
    Leads balance (e :: rest) closing

theorem Leads.unique {balance closing closing' : Decimal} {entries : List Entry}
    (h : Leads balance entries closing) (h' : Leads balance entries closing') :
    closing = closing' := by
  induction h with
  | done =>
    cases h'
    rfl
  | next moves _ ih =>
    cases h' with
    | next moves' leads' => exact ih (moves.unique moves' ▸ leads')

structure Plan.Sound (plan : Plan) : Prop where
  label : trimmed (some plan.label) = plan.label
  named : plan.label ≠ ""
  amount : plan.opening.IsAmount
  back : plan.opening.settled.toCents = plan.opening
  leads : ∃ closing, Leads plan.opening plan.entries closing

def currencyOf (terms : Terms) (currency : String) : String :=
  Terms.orElse (Text.upper (trimmed (some currency))) terms.currency

theorem Plan.Sound.operation (h : plan.Sound) (terms : Terms) (owner : Uuid) (currency : String) :
    (plan.call owner currency).operation terms =
      .ok (.createAccount owner (some plan.label) (some (currencyOf terms currency))
        plan.opening) := by
  have label : Terms.orElse (trimmed (some plan.label)) terms.label = plan.label := by
    rw [h.label, Terms.orElse, if_neg h.named]
  have opening : Call.openingAmount (some (some plan.opening)) = .ok plan.opening :=
    Money.check_of_amount h.amount _ _
  simp only [call, Call.operation, label, opening]
  rfl

theorem entry_operation {e : Entry} {balance next : Decimal}
    (moves : Moves e.kind e.amount balance next) (terms : Terms) (owner account : Uuid) :
    (Call.applyTransaction owner account (some e.amount) e.kind.text none
      (some e.description)).operation terms =
      .ok (.applyTransaction owner account e.amount none e.kind (some e.description)) := by
  simp only [Call.operation, Money.check_of_amount moves.given, normalizeKind_text moves.known]
  rfl

/-! ## Booking -/

structure Sample (owner : Uuid) (currency : String) (plan : Plan) (a : Account)
    (ts : List Transaction) : Prop where
  owner : a.owner = owner
  label : a.label = some plan.label
  currency : a.currency = some currency
  balance : Leads plan.opening plan.entries a.balance
  history : ts.map (·.gist) = plan.history.map Entry.gist
  on : ∀ t ∈ ts, t.IsOn a

namespace Progress

def after (terms : Terms) (c : Call) (p : Progress) : Progress :=
  { p with
    world := (p.world.perform terms c).state
    log := p.log ++ (p.world.perform terms c).log }

theorem call_ok {c : Call} {next : Answer → Progress → Progress} {answer : Answer}
    (ok : (p.world.perform terms c).result = .ok answer) :
    p.call terms c next = next answer (p.after terms c) := by
  simp only [call, ok, after]

end Progress

theorem bookEntries_grown (terms : Terms) (known : start.Known) {balance closing : Decimal}
    {entries : List Entry} (leads : Leads balance entries closing) (stands : a.balance = balance)
    (h : start.Grown owner (as ++ [a]) ts p.world) (fine : p.failure = none) : ∃ us time,
      let p' := bookEntries terms owner a.id entries p
      p'.failure = none ∧
        start.Grown owner (as ++ [{ a with balance := closing, updatedAt := time }]) (ts ++ us)
          p'.world ∧
        us.map (·.gist) = entries.map Entry.gist ∧ ∀ t ∈ us, t.IsOn a := by
  induction leads generalizing a ts p with
  | done =>
    subst stands
    refine ⟨[], a.updatedAt, fine, ?_, rfl, by simp⟩
    rw [List.append_nil]
    exact h
  | @next balance next closing e rest moves leads ih =>
    subst stands
    have own : a.owner = owner :=
      (h.accounts a List.mem_concat_self).owner
    obtain ⟨stamp, ok, grown⟩ := h.book_entry known (entry_operation moves terms owner a.id) moves
    obtain ⟨us, time, fine', grown', same, on⟩ :=
      ih (p := (p.after terms _).print (entryLine e)) rfl grown fine
    refine ⟨Book.transactionOn stamp a owner a.id e.amount none e.kind (some e.description) :: us,
      time, ?_⟩
    rw [bookEntries, Progress.call_ok ok]
    refine ⟨fine', by simpa using grown', congrArg (_ :: ·) same, ?_⟩
    rintro t (_ | ⟨_, mem⟩)
    · exact ⟨rfl, own.symm, rfl⟩
    · exact ⟨(on t mem).account, (on t mem).owner, (on t mem).currency⟩

/-! ## Opening -/

theorem openAccounts_cons (known : start.Known) (sound : plan.Sound)
    (h : start.Grown owner as ts p.world) (fine : p.failure = none)
    (enough : ¬p.world.OutOfNumbers terms (plan.call owner currency)) : ∃ p' a us,
      p'.failure = none ∧ start.Grown owner (as ++ [a]) (ts ++ us) p'.world ∧
        Sample owner (currencyOf terms currency) plan a us ∧
        ∀ rest, openAccounts terms owner currency (plan :: rest) p =
          openAccounts terms owner currency rest p' := by
  obtain ⟨closing, leads⟩ := sound.leads
  obtain ⟨stamp, number, ok, grown⟩ := h.open_account known
    (sound.operation terms owner currency) sound.amount sound.back enough
  generalize opened : Account.opened stamp number owner (some plan.label)
    (some (currencyOf terms currency)) plan.opening = a at ok grown
  obtain ⟨us, time, fine', grown', same, on⟩ := bookEntries_grown
    (p := (p.after terms _).print (accountLine a)) terms known leads (by rw [← opened]; rfl) grown
    fine
  refine ⟨_, _, a.openingCredit stamp :: us, fine', by simpa using grown', ?_, fun rest => ?_⟩
  · subst opened
    refine ⟨rfl, rfl, rfl, leads, congrArg (_ :: ·) same, ?_⟩
    rintro t (_ | ⟨_, mem⟩)
    · exact ⟨rfl, rfl, rfl⟩
    · exact ⟨(on t mem).account, (on t mem).owner, (on t mem).currency⟩
  · have called : openAccounts terms owner currency (plan :: rest) p = _ := Progress.call_ok ok
    rw [called]
    exact if_neg (Option.not_isSome_iff_eq_none.2 fine')

def HaveNumbers (terms : Terms) (owner : Uuid) (currency : String) (plans : List Plan)
    (p : Progress) : Prop :=
  ∀ n, ∀ plan ∈ plans[n]?, ¬(openAccounts terms owner currency (plans.take n) p).world.OutOfNumbers
    terms (plan.call owner currency)

theorem openAccounts_grown (known : start.Known) {plans : List Plan}
    (sound : ∀ plan ∈ plans, plan.Sound) (h : start.Grown owner as ts p.world)
    (fine : p.failure = none) (numbers : HaveNumbers terms owner currency plans p) :
    ∃ samples : List (Account × List Transaction),
      let p' := openAccounts terms owner currency plans p
      p'.failure = none ∧
        start.Grown owner (as ++ samples.map (·.1)) (ts ++ samples.flatMap (·.2)) p'.world ∧
        List.Forall₂ (fun plan sample =>
          Sample owner (currencyOf terms currency) plan sample.1 sample.2) plans samples := by
  induction plans generalizing as ts p with
  | nil => exact ⟨[], fine, by simpa [openAccounts] using h, .nil⟩
  | cons plan rest ih =>
    obtain ⟨p', a, us, fine', grown, sample, goes⟩ := openAccounts_cons known
      (sound plan List.mem_cons_self) h fine (numbers 0 plan rfl)
    have left : HaveNumbers terms owner currency rest p' := by
      intro n plan mem
      have := numbers (n + 1) plan mem
      rwa [List.take_succ_cons, goes] at this
    obtain ⟨samples, done, grown', others⟩ :=
      ih (fun plan mem => sound plan (List.mem_cons_of_mem _ mem)) grown fine' left
    refine ⟨(a, us) :: samples, ?_⟩
    rw [goes]
    exact ⟨done, by simpa using grown', .cons sample others⟩

end Demo
end Passbook
