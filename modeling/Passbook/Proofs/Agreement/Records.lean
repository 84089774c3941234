import Passbook.Proofs.Agreement.Twins

namespace Passbook

variable {π : Pairing}

/-! ## Whole shelves -/

namespace Shelf.Whole
variable {s s' : Supply} {shelf : Shelf} {a : Account} {units : Nat}

theorem opened (h : shelf.Whole s) (fresh : ¬s.Issued a.id) (later : s.Later s')
    (now : s'.Issued a.id) (whole : a.balance.IsWhole units) (small : units < 2 ^ 53)
    {ts : List Transaction} (own : ∀ t ∈ ts, t.account = a.id)
    (sum : total .credit a.id ts = units) :
    { shelf with accounts := shelf.accounts ++ [a], transactions := shelf.transactions ++ ts }.Whole
      s' where
  issued := by
    intro other mem
    rcases List.mem_append.1 mem with mem | mem
    · exact (h.issued other mem).later later
    · rw [List.mem_singleton.1 mem]
      exact now
  distinct := nodup_map_concat h.distinct fun other mem same => fresh (same ▸ h.issued other mem)
  known := by
    intro t mem
    rcases List.mem_append.1 mem with mem | mem
    · exact (h.known t mem).later later
    · rw [own t mem]
      exact now
  covered := by
    intro other mem
    rcases List.mem_append.1 mem with mem | mem
    · have strange : ∀ t ∈ ts, t.account ≠ other.id :=
        fun t mt same => fresh (own t mt ▸ same ▸ h.issued other mem)
      simp only [Account.Covered, total_append, total_of_forall_ne strange, add_zero]
      exact h.covered other mem
    · rw [List.mem_singleton.1 mem]
      have strange : ∀ t ∈ shelf.transactions, t.account ≠ a.id :=
        fun t mt same => fresh (same ▸ h.known t mt)
      simp only [Account.Covered, total_append, total_of_forall_ne strange, zero_add, sum]
      exact ⟨units, whole, le_rfl, by exact_mod_cast small⟩

theorem moved (h : shelf.Whole s) (later : s.Later s') {stamp : Stamp} {balance : Decimal}
    {t : Transaction} (mem : a ∈ shelf.accounts) (on : t.account = a.id)
    (covered : { a with balance, updatedAt := stamp.now }.Covered (shelf.transactions ++ [t])) :
    (Book.moved stamp a balance t shelf).Whole s' where
  issued := by
    intro other hother
    rcases Book.mem_replaceAccount h.distinct hother with rfl | ⟨hother, -⟩
    · exact (h.issued a mem).later later
    · exact (h.issued other hother).later later
  distinct := by
    simp only [Book.moved, Book.map_id_replaceAccount]
    exact h.distinct
  known := by
    intro other hother
    rcases List.mem_append.1 hother with hother | hother
    · exact (h.known other hother).later later
    · rw [List.mem_singleton.1 hother, on]
      exact (h.issued a mem).later later
  covered := by
    intro other hother
    rcases Book.mem_replaceAccount h.distinct hother with rfl | ⟨hother, ne⟩
    · exact covered
    · have strange : ∀ u ∈ [t], u.account ≠ other.id := by
        intro u hu
        rw [List.mem_singleton.1 hu, on]
        exact ne.symm
      simp only [Book.moved, Account.Covered, total_append, total_of_forall_ne strange, add_zero]
      exact h.covered other hother

theorem withPayees (h : shelf.Whole s) (later : s.Later s') (payees : List Payee) :
    { shelf with payees }.Whole s' :=
  let h := h.later later
  ⟨h.issued, h.distinct, h.known, h.covered⟩

end Shelf.Whole

/-! ## Rows that stand for records -/

theorem Account.Matches.twin {a a' : Account} {k : Int} (h : a.Matches π a')
    (whole : a.balance.IsWhole k) (whole' : a'.balance.IsWhole k) (small : k.natAbs < 2 ^ 53)
    (label : a'.label.isSome) (currency : a'.currency.isSome) : a.Twin π a'.toRow := by
  obtain ⟨label, hlabel⟩ := Option.isSome_iff_exists.1 label
  obtain ⟨currency, hcurrency⟩ := Option.isSome_iff_exists.1 currency
  have column := whole'.settled small
  refine ⟨⟨h.id, h.owner, h.number, ?_, whole.equals column.toCents, ?_, h.createdAt, h.updatedAt⟩,
    column.isFinite, column.value.trans whole.value.symm⟩
  · rw [← h.label, hlabel]
    simp only [Account.toRow, AccountRow.toAccount, hlabel, Option.getD_some]
  · rw [← h.currency, hcurrency]
    simp only [Account.toRow, AccountRow.toAccount, hcurrency, Option.getD_some]

theorem Transaction.Matches.row {t t' : Transaction} {k : Int} (h : t.Matches π t')
    (whole : t.amount.IsWhole k) (whole' : t'.amount.IsWhole k) (small : k.natAbs < 2 ^ 53)
    (currency : t'.currency.isSome) (kind : t'.kind = .credit ∨ t'.kind = .debit)
    (description : t'.description.isSome) : t.Matches π t'.toRow.toTransaction := by
  obtain ⟨currency, hcurrency⟩ := Option.isSome_iff_exists.1 currency
  obtain ⟨description, hdescription⟩ := Option.isSome_iff_exists.1 description
  refine ⟨h.id, h.account, h.owner, whole.equals (whole'.settled small).toCents, ?_, ?_, ?_,
    h.createdAt⟩
  · rw [← h.currency, hcurrency]
    simp only [Transaction.toRow, TransactionRow.toTransaction, hcurrency, Option.getD_some]
  · rw [← h.kind]
    rcases kind with kind | kind <;>
      simp only [Transaction.toRow, TransactionRow.toTransaction, kind, Kind.text,
        Option.getD_some, Kind.ofText]
  · rw [← h.description, hdescription]
    simp only [Transaction.toRow, TransactionRow.toTransaction, hdescription, Option.getD_some]

theorem Payee.Matches.row {p p' : Payee} (h : p.Matches π p') (name : p'.name.isSome)
    (number : p'.number.isSome) : p.Matches π p'.toRow.toPayee := by
  obtain ⟨name, hname⟩ := Option.isSome_iff_exists.1 name
  obtain ⟨number, hnumber⟩ := Option.isSome_iff_exists.1 number
  refine ⟨h.id, h.owner, ?_, ?_, h.createdAt⟩
  · rw [← h.name, hname]
    simp only [Payee.toRow, PayeeRow.toPayee, hname, Option.getD_some]
  · rw [← h.number, hnumber]
    simp only [Payee.toRow, PayeeRow.toPayee, hnumber, Option.getD_some]

namespace Account.Twin
variable {a : Account} {row : AccountRow} {owner id : Uuid} {delta : Binary64} {now : Instant}

theorem unmoved (h : a.Twin π row) (ne : a.id ≠ id) :
    row.moved owner (π.id id) delta now = row := by
  have same : row.id = π.id a.id := h.alike.id
  have other : ¬Database.isKeptUnder owner (π.id id) row := fun kept =>
    ne (π.id.injective (same ▸ (isKeptUnder_iff.1 kept).1))
  rw [AccountRow.moved, if_neg other]

theorem moved (h : a.Twin π row) (same : a.id = id) (own : row.owner = owner) {balance : Decimal}
    {stamp : Stamp} {n k : Int} (old : a.balance.IsWhole n) (change : delta.IsWhole k)
    (new : balance.IsWhole (n + k)) (small : (n + k).natAbs < 2 ^ 53)
    (time : π.time stamp.now now) :
    { a with balance, updatedAt := stamp.now }.Twin π (row.moved owner (π.id id) delta now) := by
  have kept : Database.isKeptUnder owner (π.id id) row :=
    isKeptUnder_iff.2 ⟨h.alike.id.trans (congrArg π.id same), own⟩
  have column := ((h.column old).add change small).settled
  rw [AccountRow.moved, if_pos kept]
  exact ⟨⟨h.alike.id, h.alike.owner, h.alike.number, h.alike.label, new.equals column.toCents,
    h.alike.currency, h.alike.createdAt, time⟩, column.isFinite,
    column.value.trans new.value.symm⟩

end Account.Twin

section
variable {accounts : List Account} {rows : List AccountRow} {a a' : Account} {owner id : Uuid}
  {delta : Binary64} {now : Instant}

theorem map_unmoved (twins : List.Forall₂ (Account.Twin π) accounts rows)
    (others : ∀ a ∈ accounts, a.id ≠ id) :
    rows.map (·.moved owner (π.id id) delta now) = rows := by
  have same : ∀ row ∈ rows, row.moved owner (π.id id) delta now = row := by
    intro row mem
    obtain ⟨a, ha, twin⟩ := exists_left_of_forall₂ twins mem
    exact twin.unmoved (others a ha)
  rw [List.map_congr_left same, List.map_id']

theorem replaceAccount_twins (twins : List.Forall₂ (Account.Twin π) accounts rows)
    (distinct : (accounts.map (·.id)).Nodup) (found : accounts.find? (·.id == id) = some a)
    (same : a'.id = id)
    (new : ∀ row ∈ rows, a.Twin π row → a'.Twin π (row.moved owner (π.id id) delta now)) :
    List.Forall₂ (Account.Twin π) (Book.replaceAccount a' accounts)
      (rows.map (·.moved owner (π.id id) delta now)) := by
  induction twins with
  | nil => cases found
  | @cons other row accounts rows twin twins ih =>
    rw [List.map_cons, List.nodup_cons] at distinct
    rw [Book.replaceAccount, same, List.map_cons]
    by_cases first : other.id = id
    · rw [List.find?_cons_of_pos (by simp [first]), Option.some.injEq] at found
      -- Identifiers are distinct, so no row after this one moves.
      have others : ∀ b ∈ accounts, b.id ≠ id := fun b mem eq =>
        distinct.1 (List.mem_map.2 ⟨b, mem, eq.trans first.symm⟩)
      rw [if_pos first, map_unmoved twins others]
      subst found
      exact .cons (new row List.mem_cons_self twin) twins
    · rw [List.find?_cons_of_neg (by simp [first])] at found
      rw [if_neg first, twin.unmoved first]
      exact .cons twin
        (ih distinct.2 found fun row mem => new row (List.mem_cons_of_mem _ mem))

end

/-! ## Opening credits -/

structure Stamp.Meets (π : Pairing) (stamp stamp' : Stamp) : Prop where
  first : stamp'.first = π.id stamp.first
  second : stamp'.second = π.id stamp.second
  now : π.time stamp.now stamp'.now

section
variable {a a' : Account} {stamp stamp' : Stamp} {units : Nat}

theorem length_openingCredits (stamp : Stamp) (a : Account) :
    (a.openingCredits stamp).length ≤ 1 := by
  unfold Account.openingCredits
  split_ifs <;> simp

theorem eq_of_mem_openingCredits {t : Transaction} (mem : t ∈ a.openingCredits stamp) :
    t = a.openingCredit stamp := by
  unfold Account.openingCredits at mem
  split_ifs at mem
  · exact List.mem_singleton.1 mem
  · cases mem

theorem of_opened (stamp : Stamp) (a : Account) (db : Database) (other : Uuid) :
    (db.opened stamp a).rows.of other =
      if other = a.owner then
        ⟨(db.rows.of other).accounts ++ [a.toRow],
          (db.rows.of other).transactions ++ (a.openingCredits stamp).map Transaction.toRow,
          (db.rows.of other).payees⟩
      else db.rows.of other := by
  rw [Database.rows_opened]
  unfold Account.openingCredits Rows.of
  rcases eq_or_ne other a.owner with rfl | ne
  · rw [if_pos rfl]
    split_ifs <;> simp [Transaction.toRow, Account.toRow]
  · rw [if_neg ne]
    split_ifs <;> simp [Transaction.toRow, Account.toRow, ne.symm]

theorem total_openingCredits (whole : a.balance.IsWhole units) :
    total .credit a.id (a.openingCredits stamp) = units := by
  unfold Account.openingCredits
  split_ifs with pos
  · exact (total_self rfl rfl).trans whole.value
  · have value := whole.value
    have : (0 : ℚ) ≤ units := Nat.cast_nonneg _
    simp only [total, List.filter_nil, List.map_nil, List.sum_nil]
    push_cast at value
    linarith

theorem openingCredits_match (h : a.Matches π a') (whole : a.balance.IsWhole units)
    (whole' : a'.balance.IsWhole units) (small : units < 2 ^ 53) (currency : a'.currency.isSome)
    (meets : stamp.Meets π stamp') :
    List.Forall₂ (fun u u' => u.Matches π u'.toRow.toTransaction)
      (a.openingCredits stamp) (a'.openingCredits stamp') := by
  have value : a'.balance.value = a.balance.value := whole'.value.trans whole.value.symm
  have credit : (a.openingCredit stamp).Matches π (a'.openingCredit stamp') :=
    ⟨meets.second, h.id, h.owner, h.balance, h.currency, rfl, rfl, meets.now⟩
  unfold Account.openingCredits
  rw [value]
  split_ifs
  · exact .cons (credit.row whole whole' (by simpa using small) currency (.inl rfl) rfl) .nil
  · exact .nil

end

/-! ## What keeps the stores twins -/

namespace Twins
variable {b : Book} {db : Database} {s t : Supply} {owner id : Uuid} {now now' : Int}

theorem saved (h : Twins π b db s t now) (within : t.clock.Within now now') {p p' : Payee}
    (new : p.Matches π p') (moment : p'.createdAt = t.stamp.1.now) (name : p'.name.isSome)
    (number : p'.number.isSome) :
    Twins π (b.addPayee p) { db.provisioned with payees := some (db.rows.payees ++ [p'.toRow]) }
      s.stamp.2 t.stamp.2 now' := by
  obtain ⟨since, before⟩ := within.stamp
  rw [← moment] at since before
  refine h.change p.owner s.later_stamp t.later_stamp h.drawn rfl h.numbers
    ⟨h.ordered.accounts.later within.le, h.ordered.transactions.later within.le,
      h.ordered.payees.append since before⟩ ?_ ?_ ?_
  · intro other ne
    refine ⟨by rw [Book.shelf_addPayee, if_neg ne], ?_⟩
    simp [Rows.of, Database.rows, Database.provisioned, Payee.toRow, new.owner, ne.symm]
  · rw [Book.shelf_addPayee, if_pos rfl]
    exact (h.whole _).withPayees s.later_stamp _
  · rw [Book.shelf_addPayee, if_pos rfl]
    refine ⟨(h.twin _).accounts, (h.twin _).transactions, ?_⟩
    have row := new.row name number
    simpa [Rows.of, Database.rows, Database.provisioned, Payee.toRow, new.owner] using
      List.rel_append (h.twin _).payees (.cons row .nil)

theorem cleared (h : Twins π b db s t now) (le : now ≤ now') (owner : Uuid) :
    Twins π (b.setShelf owner { b.shelf owner with payees := [] })
      { db.provisioned with payees := some (db.rows.payees.filter (·.owner != owner)) }
      s.stamp.2 t.stamp.2 now' := by
  refine h.change owner s.later_stamp t.later_stamp h.drawn rfl h.numbers
    ⟨h.ordered.accounts.later le, h.ordered.transactions.later le,
      (h.ordered.payees.filter _).later le⟩ ?_ ?_ ?_
  · intro other ne
    refine ⟨by rw [Book.shelf_setShelf, if_neg ne], ?_⟩
    have kept : (db.rows.payees.filter (·.owner != owner)).filter (·.owner == other) =
        db.rows.payees.filter (·.owner == other) := by
      rw [List.filter_filter]
      refine List.filter_congr fun row _ => ?_
      by_cases theirs : row.owner = other <;> simp [theirs, ne]
    exact congrArg (Rows.mk _ _) kept
  · rw [Book.shelf_setShelf, if_pos rfl]
    exact (h.whole owner).withPayees s.later_stamp _
  · rw [Book.shelf_setShelf, if_pos rfl]
    have gone : (db.rows.payees.filter (·.owner != owner)).filter (·.owner == owner) = [] := by
      simp
    refine ⟨(h.twin owner).accounts, (h.twin owner).transactions, ?_⟩
    show List.Forall₂ _ [] ((db.rows.payees.filter _).filter _)
    rw [gone]
    exact .nil

theorem moved (h : Twins π b db s t now) (within : t.clock.Within now now') {a : Account}
    {balance : Decimal} {u u' : Transaction} {column : Binary64} {n d : Int}
    (mine : (b.shelf owner).accounts.find? (·.id == id) = some a)
    (old : a.balance.IsWhole n) (change : column.IsWhole d) (new : balance.IsWhole (n + d))
    (small : (n + d).natAbs < 2 ^ 53) (time : π.time s.stamp.1.now t.stamp.1.now)
    (on : u.account = id) (own : u'.owner = owner) (moment : u'.createdAt = t.stamp.1.now)
    (entry : u.Matches π u'.toRow.toTransaction)
    (covered : { a with balance, updatedAt := s.stamp.1.now }.Covered
      ((b.shelf owner).transactions ++ [u])) :
    Twins π (b.setShelf owner (Book.moved s.stamp.1 a balance u (b.shelf owner)))
      { db.provisioned with
        accounts := some (db.rows.accounts.map (·.moved owner (π.id id) column t.stamp.1.now))
        transactions := some (db.rows.transactions ++ [u'.toRow]) } s.stamp.2 t.stamp.2 now' := by
  obtain ⟨mem, same⟩ := Book.find?_account mine
  obtain ⟨since, before⟩ := within.stamp
  rw [← moment] at since before
  refine h.change owner s.later_stamp t.later_stamp h.drawn rfl (fun number => ?_)
    ⟨?_, h.ordered.transactions.append since before, h.ordered.payees.later within.le⟩
    (fun other ne => ⟨?_, ?_⟩) ?_ ?_
  · refine (h.numbers number).trans ?_
    simp [Database.Uses, Database.rows]
  · exact (h.ordered.accounts.map fun row => by rw [AccountRow.moved_createdAt]).later within.le
  · rw [Book.shelf_setShelf, if_neg ne]
  · have accounts := filter_moved_other (π.id id) column t.stamp.1.now ne db.rows.accounts
    have transactions : (db.rows.transactions ++ [u'.toRow]).filter (·.owner == other) =
        db.rows.transactions.filter (·.owner == other) := by
      simp [Transaction.toRow, own, ne.symm]
    exact congrArg₂ (Rows.mk · · _) accounts transactions
  · rw [Book.shelf_setShelf, if_pos rfl]
    exact (h.whole owner).moved s.later_stamp mem (on.trans same.symm) covered
  · rw [Book.shelf_setShelf, if_pos rfl]
    refine ⟨?_, ?_, (h.twin owner).payees⟩
    · show List.Forall₂ _ _ ((db.rows.accounts.map _).filter _)
      rw [filter_moved]
      refine replaceAccount_twins (h.twin owner).accounts (h.whole owner).distinct mine same
        fun row mem twin => twin.moved same ?_ old change new small time
      simpa using (List.mem_filter.1 mem).2
    · show List.Forall₂ _ _ ((db.rows.transactions ++ [u'.toRow]).filter _)
      have mine : [u'.toRow].filter (·.owner == owner) = [u'.toRow] := by
        simp [Transaction.toRow, own]
      rw [List.filter_append, mine]
      exact List.rel_append (h.twin owner).transactions (.cons entry .nil)

theorem opened (h : Twins π b db s t now) (within : t.clock.Within now now') {i units : Nat}
    (number label currency : String) {opening : Decimal} (whole : opening.IsWhole units)
    (small : units < 2 ^ 53)
    (meets : s.stamp.1.Meets π (t.attempted i).stamp.1) :
    let a := Account.opened s.stamp.1 number owner (some label) (some currency) opening
    let a' := Account.opened (t.attempted i).stamp.1 number owner (some label) (some currency)
      opening
    a.Matches π a' ∧
      Twins π (b.opened s.stamp.1 a) (db.provisioned.opened (t.attempted i).stamp.1 a')
        (s.stamp.2.drawnOn (i + 1)) (t.attempted (i + 1)) now' := by
  intro a a'
  have same : a.Matches π a' := ⟨meets.first, rfl, rfl, rfl, whole.equals whole, rfl, meets.now,
    meets.now⟩
  have later := s.later_stamp.trans (s.stamp.2.later_drawnOn (i + 1))
  have shelf (other : Uuid) : (b.opened s.stamp.1 a).shelf other =
      if other = owner then
        { b.shelf owner with
          accounts := (b.shelf owner).accounts ++ [a]
          transactions := (b.shelf owner).transactions ++ a.openingCredits s.stamp.1 }
      else b.shelf other := b.shelf_opened s.stamp.1 a other
  have rows := Database.rows_opened (t.attempted i).stamp.1 a' db.provisioned
  have moment : now ≤ a'.createdAt.micros ∧ a'.createdAt.micros < now' :=
    within (t.clock.reading + i)
  have credits := openingCredits_match same whole whole small rfl meets
  refine ⟨same, h.change owner later (t.later_attempted (i + 1)) ?_ rfl (fun other => ?_) ?_
    (fun other ne => ⟨(shelf other).trans (if_neg ne), ?_⟩) ?_ ?_⟩
  · simp only [Supply.attempted, Supply.drawnOn, Supply.stamp, h.drawn]
  · rw [Book.numbers_opened_eq, List.mem_cons, h.numbers, Database.Uses, Database.Uses, rows]
    simp only [List.mem_append, List.mem_singleton, or_and_right, exists_or, exists_eq_left]
    rw [or_comm, eq_comm]
    rfl
  · rw [rows]
    refine ⟨h.ordered.accounts.append moment.1 moment.2,
      h.ordered.transactions.extend within.le ?_ ?_, h.ordered.payees.later within.le⟩
    · rw [List.length_map]
      exact length_openingCredits _ _
    · intro row mem
      obtain ⟨u, hu, rfl⟩ := List.mem_map.1 mem
      rw [eq_of_mem_openingCredits hu]
      exact moment
  · exact (of_opened _ a' _ other).trans (if_neg ne)
  · rw [shelf owner, if_pos rfl]
    have issued : (s.stamp.2.drawnOn (i + 1)).Issued a.id := s.issued_first
    have fresh : ¬s.Issued a.id := s.not_issued_first
    exact (h.whole owner).opened fresh later issued whole small
      (fun u hu => by rw [eq_of_mem_openingCredits hu]; rfl) (total_openingCredits whole)
  · rw [shelf owner, if_pos rfl, (of_opened _ a' _ owner).trans (if_pos rfl)]
    have twin := same.twin whole whole (by simpa using small) rfl rfl
    refine ⟨List.rel_append (h.twin owner).accounts (.cons twin .nil),
      List.rel_append (h.twin owner).transactions ?_, (h.twin owner).payees⟩
    rw [List.forall₂_map_right_iff]
    exact credits

end Twins

end Passbook
