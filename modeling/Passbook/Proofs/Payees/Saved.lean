import Passbook.Proofs.Store.Answers
import Passbook.Proofs.Service.Change

namespace Passbook

/-! ## Tidy texts -/

namespace Text

theorem head?_dropWhile_blank {cs : List Char} {c : Char} (h : c ∈ (cs.dropWhile isBlank).head?) :
    isBlank c = false := by
  have := List.head?_dropWhile_not isBlank cs
  rw [Option.mem_def.1 h] at this
  simpa using this

theorem ends_stripChars {cs : List Char} {c : Char}
    (h : c ∈ (stripChars cs).head? ∨ c ∈ (stripChars cs).getLast?) : isBlank c = false := by
  rw [stripChars, trimBoth, List.head?_reverse, List.getLast?_reverse] at h
  rcases h with front | back
  -- What is dropped at the end leaves the front as it is.
  · obtain ⟨blanks, split⟩ := List.dropWhile_suffix isBlank (l := (cs.dropWhile isBlank).reverse)
    have last := congrArg List.getLast? split
    rw [List.getLast?_append, Option.mem_def.1 front, List.getLast?_reverse] at last
    exact head?_dropWhile_blank last.symm
  · exact head?_dropWhile_blank back

end Text

open Text in
def IsTidy (s : Option String) : Prop :=
  ∃ t, s = some t ∧ t ≠ "" ∧ ∀ c, c ∈ t.toList.head? ∨ c ∈ t.toList.getLast? → isBlank c = false

theorem IsTrimmed.isTidy {s : Option String} (h : IsTrimmed s) : IsTidy s := by
  obtain ⟨given, rfl, some⟩ := h
  refine ⟨_, rfl, some, fun c ends => ?_⟩
  rw [trimmed, Text.strip, String.toList_ofList] at ends
  exact Text.ends_stripChars ends

theorem isTidy_demoPayee (stamp : Stamp) (owner : Uuid) :
    IsTidy (Book.demoPayee stamp owner).name ∧ IsTidy (Book.demoPayee stamp owner).number := by
  have name : IsTrimmed (some Book.demoPayeeName) := ⟨some Book.demoPayeeName, by decide +kernel⟩
  have number : IsTrimmed (some Book.demoPayeeNumber) :=
    ⟨some Book.demoPayeeNumber, by decide +kernel⟩
  exact ⟨name.isTidy, number.isTidy⟩

/-! ## One operation -/

def Operation.OnPayees (owner : Uuid) : Operation → Prop
  | .listPayees holder | .createPayee holder _ _ | .deletePayees holder => holder = owner
  | .createAccount .. | .listAccounts .. | .listTransactions .. | .applyTransaction .. => False

theorem Operation.OnPayees.owner_eq {owner : Uuid} {op : Operation} (h : op.OnPayees owner) :
    op.owner = owner := by
  cases op with
  | listPayees | createPayee | deletePayees => exact h
  | createAccount | listAccounts | listTransactions | applyTransaction => exact h.elim

/-- The ways in which an operation can end for an owner who has the payees `ps`, in memory or in the
database: its answer, and the payees that the owner has then. -/
inductive PayeeStep (memory : Bool) (stamp : Stamp) (owner : Uuid) (ps : List Payee) :
    Operation → Except Failure Answer → List Payee → Prop
  | apart {op} (other : ¬op.OnPayees owner) (result : Except Failure Answer) :
    PayeeStep memory stamp owner ps op result ps
  | listed (shown : memory → ps ≠ []) :
    PayeeStep memory stamp owner ps (.listPayees owner) (.ok (.payees ps.reverse)) ps
  | demo (inMemory : memory) (bare : ps = []) :
    PayeeStep memory stamp owner ps (.listPayees owner)
      (.ok (.payees [Book.demoPayee stamp owner])) [Book.demoPayee stamp owner]
  | duplicate {name number} (known : ∃ p ∈ ps, p.number = number) :
    PayeeStep memory stamp owner ps (.createPayee owner name number)
      (refuse (.duplicatePayee number)) ps
  | saved {name number} (fresh : ∀ p ∈ ps, p.number ≠ number) :
    PayeeStep memory stamp owner ps (.createPayee owner name number)
      (.ok (.payee ⟨stamp.first, owner, name, number, stamp.now⟩))
      (ps ++ [⟨stamp.first, owner, name, number, stamp.now⟩])
  | cleared :
    PayeeStep memory stamp owner ps (.deletePayees owner) (.ok (.removed ps.length)) []

section
variable {memory : Bool} {stamp : Stamp} {owner : Uuid} {op : Operation}

theorem Book.Does.payees_apart {terms : BookTerms} {b b' : Book} {result : Except Failure Answer}
    (does : Book.Does terms stamp b op result b') (other : ¬op.OnPayees owner) :
    (b'.shelf owner).payees = (b.shelf owner).payees := by
  by_cases own : owner = op.owner
  · subst own
    cases does with
    | noNumber | accounts | transactions | unmoved | payees | duplicate => rfl
    | opened | openedEmpty | provisioned | moved => simp [Operation.owner, Book.moved]
    | demoPayee | saved | cleared => exact absurd rfl other
  · rw [does.shelf_other own]

theorem Book.Does.payeeStep {terms : BookTerms} {b b' : Book} {result : Except Failure Answer}
    (does : Book.Does terms stamp b op result b') (owner : Uuid) :
    PayeeStep true stamp owner (b.shelf owner).payees op result (b'.shelf owner).payees := by
  by_cases own : op.OnPayees owner
  · obtain rfl := own.owner_eq
    cases does with
    | noNumber op opens =>
      cases op with
      | createAccount | listAccounts | listTransactions | applyTransaction => exact own.elim
      | listPayees | createPayee | deletePayees => rcases opens with h | h <;> cases h
    | opened | openedEmpty | provisioned | accounts | transactions | unmoved | moved =>
      exact own.elim
    | demoPayee bare =>
      simpa [Operation.owner, Book.demoPayee, bare] using PayeeStep.demo rfl bare
    | payees shown => exact .listed fun _ => shown
    | duplicate known => exact .duplicate known
    | saved fresh => simpa [Operation.owner] using PayeeStep.saved fresh
    | cleared => simpa [Operation.owner] using PayeeStep.cleared
  · rw [does.payees_apart own]
    exact .apart own result

def Rows.savedBy (owner : Uuid) (r : Rows) : List Payee :=
  (r.payees.filter (·.owner == owner)).map (·.toPayee)

namespace Rows
variable {r r' : Rows} {now : Int} {answer : Answer}

theorem savedBy_saved (r : Rows) (owner : Uuid) {p : Payee} (name : IsTrimmed p.name)
    (number : IsTrimmed p.number) :
    Rows.savedBy owner { r with payees := r.payees ++ [p.toRow] } =
      if owner = p.owner then r.savedBy owner ++ [p] else r.savedBy owner := by
  obtain ⟨id, holder, _, _, created⟩ := p
  obtain ⟨given, rfl, -⟩ := name
  obtain ⟨given', rfl, -⟩ := number
  by_cases own : owner = holder
  · subst own
    simp [savedBy, Payee.toRow, PayeeRow.toPayee]
  · simp [savedBy, Payee.toRow, own, Ne.symm own]

theorem savedBy_cleared (r : Rows) (owner other : Uuid) :
    Rows.savedBy owner { r with payees := r.payees.filter (·.owner != other) } =
      if owner = other then [] else r.savedBy owner := by
  split_ifs with own
  · subst own
    simp [savedBy]
  · have apart (row : PayeeRow) :
        (row.owner == owner && row.owner != other) = (row.owner == owner) := by
      by_cases mine : row.owner = owner
      · simp [mine, own]
      · simp [mine]
    simp only [savedBy, List.filter_filter, apart]

theorem payeesOf_savedBy (order : InOrder (·.createdAt.micros) now (r.savedBy owner)) :
    (r.payeesOf owner).map (·.toPayee) = (r.savedBy owner).reverse := by
  have rows : InOrder (·.createdAt.micros) now (r.payees.filter (·.owner == owner)) :=
    ⟨(List.pairwise_map (f := PayeeRow.toPayee)).1 order.sorted,
      fun row mem => order.past _ (List.mem_map_of_mem mem)⟩
  rw [payeesOf, rows.mergeSort_reverse, savedBy, List.map_reverse]

theorem mem_savedBy {p : Payee} :
    p ∈ r.savedBy owner ↔ ∃ row ∈ r.payees, row.owner = owner ∧ row.toPayee = p := by
  simp [savedBy, and_assoc]

theorem Does.payeeStep (does : Rows.Does stamp r op answer r') (checked : op.Checked)
    (order : InOrder (·.createdAt.micros) now (r.savedBy owner)) :
    PayeeStep false stamp owner (r.savedBy owner) op (.ok answer) (r'.savedBy owner) := by
  cases does with
  | opened | openedEmpty | accounts | transactions | moved => exact .apart id _
  | payees other =>
    by_cases own : other = owner
    · subst own
      rw [payeesOf_savedBy order]
      exact .listed (by simp)
    · refine .apart ?_ _
      exact own
  | @saved other name number fresh =>
    rw [savedBy_saved r owner checked.1 checked.2]
    split_ifs with own
    · subst own
      obtain ⟨given, rfl, -⟩ := id checked.2
      refine .saved fun q mem same => ?_
      obtain ⟨row, hrow, mine, rfl⟩ := mem_savedBy.1 mem
      exact fresh row hrow ⟨mine, Option.some.inj same⟩
    · refine .apart ?_ _
      exact Ne.symm own
  | cleared other =>
    rw [savedBy_cleared]
    split_ifs with own
    · subst own
      have step : PayeeStep false stamp owner (r.savedBy owner) (.deletePayees owner) _ _ := .cleared
      simpa [savedBy] using step
    · refine .apart ?_ _
      exact Ne.symm own

end Rows
end

/-! ## The payees of one owner -/

structure PayeesSound (now : Int) (owner : Uuid) (ps : List Payee) : Prop where
  distinct : (ps.map (·.number)).Nodup
  tidy : ∀ p ∈ ps, p.owner = owner ∧ IsTidy p.name ∧ IsTidy p.number
  order : InOrder (·.createdAt.micros) now ps

namespace PayeesSound
variable {now now' : Int} {owner : Uuid} {ps ps' : List Payee}

theorem nil (now : Int) (owner : Uuid) : PayeesSound now owner [] :=
  ⟨List.nodup_nil, by simp, .nil _ now⟩

theorem later (h : PayeesSound now owner ps) (le : now ≤ now') : PayeesSound now' owner ps :=
  ⟨h.distinct, h.tidy, h.order.later le⟩

theorem append (h : PayeesSound now owner ps) {p : Payee} (owned : p.owner = owner)
    (name : IsTidy p.name) (number : IsTidy p.number) (fresh : ∀ q ∈ ps, q.number ≠ p.number)
    (since : now ≤ p.createdAt.micros) (before : p.createdAt.micros < now') :
    PayeesSound now' owner (ps ++ [p]) := by
  refine ⟨nodup_map_concat h.distinct fresh, fun q mem => ?_, h.order.append since before⟩
  rcases List.mem_append.1 mem with old | new
  · exact h.tidy q old
  · rw [List.mem_singleton.1 new]
    exact ⟨owned, name, number⟩

theorem step (h : PayeesSound now owner ps) {memory : Bool} {stamp : Stamp} {op : Operation}
    {result : Except Failure Answer} (checked : op.Checked) (since : now ≤ stamp.now.micros)
    (before : stamp.now.micros < now') (step : PayeeStep memory stamp owner ps op result ps') :
    PayeesSound now' owner ps' := by
  have le : now ≤ now' := since.trans before.le
  cases step with
  | apart | listed | duplicate => exact h.later le
  | cleared => exact .nil now' owner
  | saved fresh => exact h.append rfl checked.1.isTidy checked.2.isTidy fresh since before
  | demo inMemory bare =>
    obtain ⟨name, number⟩ := isTidy_demoPayee stamp owner
    exact (PayeesSound.nil now owner).append rfl name number (by simp) since before

end PayeesSound

/-! ## Runs -/

namespace World
variable {terms : Terms} {call : Call} {w : World}

structure PayeesKept (w : World) : Prop where
  rising : w.supply.clock.Rising
  shelves : ∀ owner, PayeesSound w.supply.now owner (w.book.shelf owner).payees
  rows : ∀ owner, PayeesSound w.supply.now owner (w.rows.savedBy owner)

theorem perform_payeesKept (terms : Terms) (call : Call) (w : World) (h : w.PayeesKept) :
    (w.perform terms call).state.PayeesKept := by
  have rising := h.rising
  cases perform_change terms call w with
  | failed answered book rows later =>
    refine ⟨later.rising rising, fun owner => ?_, fun owner => ?_⟩
    · rw [book]
      exact (h.shelves owner).later (later.now rising)
    · rw [rows]
      exact (h.rows owner).later (later.now rising)
  | @database op answer s valid answered before after does book =>
    have later := before.trans (s.later_stamp.trans after)
    have checked := Call.operation_checked valid
    refine ⟨later.rising rising, fun owner => ?_, fun owner => ?_⟩
    · rw [book]
      exact (h.shelves owner).later (later.now rising)
    · exact (h.rows owner).step checked (before.now rising) (after.stamped (before.rising rising))
        (does.payeeStep checked (h.rows owner).order)
  | @memory op answer s valid answered before after does rows =>
    have later := before.trans (s.later_stamp.trans after)
    refine ⟨later.rising rising, fun owner => ?_, fun owner => ?_⟩
    · exact (h.shelves owner).step (Call.operation_checked valid) (before.now rising)
        (after.stamped (before.rising rising)) (does.payeeStep owner)
    · rw [rows]
      exact (h.rows owner).later (later.now rising)

theorem run_payeesKept (calls : List Call) (h : w.PayeesKept) : (run terms calls w).2.PayeesKept :=
  run_induction PayeesKept (perform_payeesKept terms) calls w h

end World

end Passbook
