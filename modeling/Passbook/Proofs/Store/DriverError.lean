import Mathlib.Data.List.TakeWhile
import Passbook.Proofs.Text.Search
import Passbook.Store.DriverError

/-!
# When a driver's error says that a table is missing

- `CanOpen`, `NamesMissing`: the news of a missing relation at one place of a text
- `namesMissingRelation_iff`: the search of a text finds the news wherever it stands
- `isMissingRelation_iff`: what makes an error one of a missing table
- `Notice`, `Spells`: messages made of such news and of news about missing columns
- `isMissingRelation_exact`: both together, the classification of every driver error
-/

namespace Passbook
open Passbook.Text

namespace DriverError

/-- What stands before the news neither ends in `of ` nor in the middle of a word. -/
def CanOpen (before : List Char) : Prop :=
  ¬ "of ".toList <:+ before ∧ ∀ c ∈ before.getLast?, isWordChar c = false

def NamesMissing (rest : List Char) : Prop :=
  ∃ name after, rest = "relation \"".toList ++ name ++ "\" does not exist".toList ++ after ∧
    name ≠ [] ∧ '"' ∉ name

def Found (before cs : List Char) : Prop :=
  ∃ front back, cs = front ++ back ∧ CanOpen (before ++ front) ∧ NamesMissing back

/-! ## The search of one text -/

section Search
variable {before cs name rest : List Char}

theorem mayStartRelation_iff : mayStartRelation before.reverse ↔ CanOpen before := by
  have backwards : ['\x20', 'f', 'o'].isPrefixOf before.reverse ↔ "of ".toList <:+ before := by
    rw [List.isPrefixOf_iff_prefix, ← List.reverse_suffix, List.reverse_reverse]
    rfl
  rw [mayStartRelation, CanOpen, ← backwards, List.head?_reverse, Bool.and_eq_true,
    Bool.not_eq_true', Bool.not_eq_true', Bool.not_eq_true]
  cases before.getLast? <;> simp

theorem span_unquoted (rest : List Char) (unquoted : '"' ∉ name) :
    (name ++ '"' :: rest).takeWhile (· ≠ '"') = name ∧
      (name ++ '"' :: rest).dropWhile (· ≠ '"') = '"' :: rest := by
  have all : ∀ c ∈ name, decide (c ≠ '"') = true := fun c hc =>
    decide_eq_true fun quote => unquoted (quote ▸ hc)
  rw [List.takeWhile_append_of_pos all, List.dropWhile_append_of_pos all]
  simp

theorem startsMissingRelation_append :
    startsMissingRelation (relationStart ++ rest) ↔
      rest.takeWhile (· ≠ '"') ≠ [] ∧ relationEnd <+: rest.dropWhile (· ≠ '"') := by
  have opens : relationStart.isPrefixOf (relationStart ++ rest) :=
    List.isPrefixOf_iff_prefix.2 (List.prefix_append ..)
  simp only [startsMissingRelation, opens, List.drop_left, Bool.true_and, Bool.and_eq_true,
    Bool.not_eq_true', List.isEmpty_eq_false_iff, List.isPrefixOf_iff_prefix]

theorem startsMissingRelation_iff : startsMissingRelation cs ↔ NamesMissing cs := by
  constructor
  · intro found
    obtain ⟨rest, rfl⟩ := List.isPrefixOf_iff_prefix.1 (Bool.and_eq_true_iff.1 found).1
    obtain ⟨some, after, ends⟩ := startsMissingRelation_append.1 found
    refine ⟨rest.takeWhile (· ≠ '"'), after, ?_, some, fun quote => ?_⟩
    · change _ = relationStart ++ _ ++ relationEnd ++ after
      rw [List.append_assoc, List.append_assoc, ends, List.takeWhile_append_dropWhile]
    · have other := List.mem_takeWhile_imp quote
      simp at other
  · rintro ⟨name, after, rfl, some, unquoted⟩
    obtain ⟨front, back⟩ := span_unquoted (" does not exist".toList ++ after) unquoted
    rw [List.append_assoc, List.append_assoc]
    exact startsMissingRelation_append.2
      ⟨front.symm ▸ some, back.symm ▸ List.prefix_append relationEnd after⟩

theorem not_namesMissing_nil : ¬ NamesMissing [] := by
  rintro ⟨name, after, starts, -⟩
  simp at starts

theorem namesMissingRelationFrom_iff (before : List Char) :
    namesMissingRelationFrom before.reverse cs ↔ Found before cs := by
  induction cs generalizing before with
  | nil =>
    refine iff_of_false (by simp [namesMissingRelationFrom]) ?_
    rintro ⟨front, back, parts, -, named⟩
    obtain ⟨-, rfl⟩ := List.append_eq_nil_iff.1 parts.symm
    exact not_namesMissing_nil named
  | cons c rest ih =>
    have later := ih (before ++ [c])
    rw [List.reverse_concat] at later
    rw [namesMissingRelationFrom, Bool.or_eq_true, Bool.and_eq_true, mayStartRelation_iff,
      startsMissingRelation_iff, later]
    constructor
    · rintro (⟨opens, named⟩ | ⟨front, back, rfl, opens, named⟩)
      · exact ⟨[], c :: rest, rfl, by simpa using opens, named⟩
      · exact ⟨c :: front, back, rfl, by simpa using opens, named⟩
    · rintro ⟨front, back, parts, opens, named⟩
      cases front with
      | nil => exact .inl ⟨by simpa using opens, parts ▸ named⟩
      | cons d front =>
        obtain ⟨rfl, rfl⟩ := List.cons_eq_cons.1 parts
        exact .inr ⟨front, back, rfl, by simpa using opens, named⟩

theorem namesMissingRelation_iff {message : String} :
    namesMissingRelation message ↔ Found [] message.toList :=
  namesMissingRelationFrom_iff []

end Search

def SaysNoTable (cs : List Char) : Prop := "no such table".toList <:+: cs.map Char.toLower

instance (cs : List Char) : Decidable (SaysNoTable cs) := inferInstanceAs (Decidable (_ <:+: _))

/-- One of the error's three objects carries the state code of a missing table. -/
def CarriesCode (e : DriverError) : Prop :=
  ∃ note, (note = e.own ∨ e.wrapped = some note ∨ e.cause = some note) ∧
    (note.sqlstate = some "42P01" ∨ note.pgcode = some "42P01")

theorem isMissingRelation_iff (e : DriverError) :
    e.isMissingRelation ↔
      CarriesCode e ∨ SaysNoTable e.message.toList ∨ Found [] e.message.toList := by
  have codes : CarriesCode e ↔ e.own.saysUndefinedTable ∨
      e.wrapped.any (·.saysUndefinedTable) ∨ e.cause.any (·.saysUndefinedTable) := by
    simp [CarriesCode, ErrorNote.saysUndefinedTable, undefinedTable, or_and_right, exists_or,
      Option.any_eq_true]
  rw [codes, SaysNoTable, ← contains_lower (List.all_iff_forall_prop.1 (by decide)),
    ← namesMissingRelation_iff, isMissingRelation]
  simp only [Bool.or_eq_true, or_assoc]

/-! ## Messages made of several notices -/

inductive Notice
  | missing (name : String)
  | column (name owner : String)

def Notice.text : Notice → String
  | .missing name => "relation \"" ++ name ++ "\" does not exist"
  | .column name owner =>
    "column \"" ++ name ++ "\" of relation \"" ++ owner ++ "\" does not exist"

def IsWord (name : String) : Prop := ∀ c ∈ name.toList, isWordChar c

def Notice.Named : Notice → Prop
  | .missing name => name ≠ "" ∧ IsWord name
  | .column name owner => IsWord name ∧ IsWord owner

/-- What stands between notices: text without quotes that reports no missing table itself. -/
def IsGap (gap : List Char) : Prop := '"' ∉ gap ∧ ¬ SaysNoTable gap

/-- The text that goes on after `before` consists of notices, with gaps around them. That a relation
is missing is news only where it can open. -/
inductive Spells : List Char → List Char → List Notice → Prop
  | done {before gap} : IsGap gap → Spells before gap []
  | missing {before gap name rest notices} : IsGap gap → CanOpen (before ++ gap) →
      (Notice.missing name).Named →
      Spells (before ++ gap ++ (Notice.missing name).text.toList) rest notices →
      Spells before (gap ++ (Notice.missing name).text.toList ++ rest) (.missing name :: notices)
  | column {before gap name owner rest notices} : IsGap gap →
      (Notice.column name owner).Named →
      Spells (before ++ gap ++ (Notice.column name owner).text.toList) rest notices →
      Spells before (gap ++ (Notice.column name owner).text.toList ++ rest)
        (.column name owner :: notices)

-- Letters are finitely many, and are not to be gone through.
instance (before : List Char) : Decidable (CanOpen before) :=
  @instDecidableAnd _ _ inferInstance (Option.decidableForallMem _)

instance (gap : List Char) : Decidable (IsGap gap) := inferInstanceAs (Decidable (_ ∧ _))

instance (name : String) : Decidable (IsWord name) :=
  List.decidableBAll (fun c => isWordChar c) name.toList

instance : DecidablePred Notice.Named
  | .missing _ => inferInstanceAs (Decidable (_ ∧ _))
  | .column .. => inferInstanceAs (Decidable (_ ∧ _))

section Notices
variable {before gap rest front back text : List Char} {name owner : String} {c : Char}
  {notices : List Notice}

theorem IsWord.not_mem (word : IsWord name) (other : isWordChar c = false) : c ∉ name.toList :=
  fun inside => by simp [word c inside] at other

theorem IsWord.unquoted (word : IsWord name) : '"' ∉ name.toList :=
  word.not_mem (by decide +kernel)

theorem IsWord.unbroken (word : IsWord name) : ' ' ∉ name.toList :=
  word.not_mem (by decide +kernel)

theorem found_unquoted (unquoted : '"' ∉ gap) : ¬ Found before gap := by
  rintro ⟨front, back, rfl, -, name, after, rfl, -⟩
  exact unquoted (by simp)

theorem found_skip (absent : 'r' ∉ gap) :
    Found before (gap ++ rest) ↔ Found (before ++ gap) rest := by
  constructor
  · rintro ⟨front, back, parts, opens, named⟩
    obtain ⟨mid, rfl, rfl⟩ | ⟨mid, rfl, rfl⟩ := List.append_eq_append_iff.1 parts
    · exact ⟨mid, back, rfl, by simpa using opens, named⟩
    · cases mid with
      | nil => exact ⟨[], rest, rfl, by simpa using opens, named⟩
      | cons c mid =>
        obtain ⟨name, after, starts, -⟩ := named
        simp at starts
        simp [starts.1] at absent
  · rintro ⟨front, back, rfl, opens, named⟩
    exact ⟨gap ++ front, back, by simp, by simpa using opens, named⟩

theorem found_quote (unquoted : '"' ∉ gap) :
    Found before (gap ++ '"' :: rest) ↔
      (∃ front, gap = front ++ "relation ".toList ∧ CanOpen (before ++ front) ∧
        NamesMissing ("relation \"".toList ++ rest)) ∨ Found (before ++ gap ++ ['"']) rest := by
  constructor
  · rintro ⟨front, back, parts, opens, named⟩
    obtain ⟨mid, rfl, later⟩ | ⟨mid, rfl, rfl⟩ := List.append_eq_append_iff.1 parts
    · cases mid with
      | nil =>
        obtain ⟨name, after, rfl, -⟩ := named
        simp at later
      | cons c mid =>
        obtain ⟨rfl, rfl⟩ := List.cons_eq_cons.1 later
        exact .inr ⟨mid, back, rfl, by simpa using opens, named⟩
    · obtain ⟨name, after, starts, some, unnamed⟩ := named
      have early : '"' ∉ mid := fun inside => unquoted (List.mem_append_right _ inside)
      have opening : mid ++ '"' :: rest =
          "relation ".toList ++ '"' :: (name ++ "\" does not exist".toList ++ after) := by
        simpa using starts
      have same := (span_unquoted _ early).1.symm.trans
        ((congrArg (List.takeWhile (· ≠ '"')) opening).trans (span_unquoted _ (by decide)).1)
      subst same
      refine .inl ⟨front, rfl, opens, name, after, ?_, some, unnamed⟩
      simpa using opening
  · rintro (⟨front, rfl, opens, named⟩ | ⟨front, back, rfl, opens, named⟩)
    · exact ⟨front, _, by simp, opens, named⟩
    · exact ⟨gap ++ '"' :: front, back, by simp, by simpa using opens, named⟩

theorem found_quote_of_ne (unquoted : '"' ∉ gap)
    (other : ∀ front, gap = front ++ "relation ".toList → ¬ CanOpen (before ++ front)) :
    Found before (gap ++ '"' :: rest) ↔ Found (before ++ gap ++ ['"']) rest := by
  rw [found_quote unquoted, or_iff_right]
  rintro ⟨front, ends, opens, -⟩
  exact other front ends opens

theorem IsWord.found_quote (word : IsWord name) :
    Found before (name.toList ++ '"' :: rest) ↔ Found (before ++ name.toList ++ ['"']) rest := by
  refine found_quote_of_ne word.unquoted fun front ends => ?_
  have blank : ' ' ∈ "relation ".toList := by decide
  exact absurd (ends ▸ List.mem_append_right front blank) word.unbroken

theorem found_missing (opens : CanOpen (before ++ gap)) (named : (Notice.missing name).Named) :
    Found before (gap ++ (Notice.missing name).text.toList ++ rest) := by
  refine ⟨gap, (Notice.missing name).text.toList ++ rest, List.append_assoc .., opens,
    name.toList, rest, ?_, by simpa using named.1, named.2.unquoted⟩
  rw [Notice.text, String.toList_append, String.toList_append]

theorem found_column (unquoted : '"' ∉ gap) (named : (Notice.column name owner).Named) :
    Found before (gap ++ (Notice.column name owner).text.toList ++ rest) ↔
      Found (before ++ gap ++ (Notice.column name owner).text.toList) rest := by
  have parts : gap ++ (Notice.column name owner).text.toList ++ rest =
      (gap ++ "column ".toList) ++ '"' :: (name.toList ++ '"' :: (" of relation ".toList ++
        '"' :: (owner.toList ++ '"' :: (" does not exist".toList ++ rest)))) := by
    simp [Notice.text]
  have column (front) (ends : gap ++ "column ".toList = front ++ "relation ".toList) :
      ¬ CanOpen (before ++ front) := by
    have backwards := congrArg List.reverse ends
    simp at backwards
  have owned (front) (ends : " of relation ".toList = front ++ "relation ".toList) :
      ¬ CanOpen
        (before ++ (gap ++ "column ".toList) ++ ['"'] ++ name.toList ++ ['"'] ++ front) := by
    have split : " of relation ".toList = " of ".toList ++ "relation ".toList := by decide
    rw [← List.append_cancel_right (split.symm.trans ends)]
    have after : "of ".toList <:+ " of ".toList := by decide
    exact fun opens => opens.1 (after.trans (List.suffix_append ..))
  rw [parts, found_quote_of_ne (by simpa using unquoted) column, named.1.found_quote,
    found_quote_of_ne (by decide) owned, named.2.found_quote, found_skip (by decide)]
  simp [Notice.text]

/-! ### The other wording of a missing table -/

theorem saysNoTable_split (absent : c.toLower ∉ "no such table".toList) :
    SaysNoTable (front ++ c :: back) ↔ SaysNoTable front ∨ SaysNoTable back := by
  rw [SaysNoTable, List.map_append, List.map_cons, infix_split absent, SaysNoTable, SaysNoTable]

theorem saysNoTable_skip_first (other : c.toLower ≠ 'n') :
    SaysNoTable (c :: back) ↔ SaysNoTable back := by
  rw [SaysNoTable, List.map_cons, infix_skip_first, SaysNoTable]
  exact fun first => other (Option.some_inj.1 first).symm

theorem saysNoTable_skip_last (other : c.toLower ≠ 'e') :
    SaysNoTable (front ++ [c]) ↔ SaysNoTable front := by
  rw [SaysNoTable, List.map_append, List.map_singleton, infix_skip_last, SaysNoTable]
  exact fun last => other (Option.some_inj.1 last).symm

theorem toLower_eq_blank (same : c.toLower = ' ') : c = ' ' := by
  unfold Char.toLower at same
  split at same
  · next capital =>
    have code := congrArg Char.toNat same
    have first := UInt32.le_iff_toNat_le.1 capital.1
    have last := UInt32.le_iff_toNat_le.1 capital.2
    simp at code first last
    omega
  · exact same

theorem IsWord.not_saysNoTable (word : IsWord name) : ¬ SaysNoTable name.toList := by
  intro found
  have blank : ' ' ∈ name.toList.map Char.toLower := found.subset (by decide)
  obtain ⟨c, inside, same⟩ := List.mem_map.1 blank
  exact word.unbroken (toLower_eq_blank same ▸ inside)

theorem saysNoTable_relation :
    SaysNoTable (front ++ ("relation \"".toList ++ back)) ↔
      SaysNoTable front ∨ SaysNoTable back := by
  have apart : "relation \"".toList ++ back = 'r' :: ("elation ".toList ++ '"' :: back) := by simp
  have inner : ¬ SaysNoTable "elation ".toList := by decide
  rw [apart, saysNoTable_split (by decide), saysNoTable_split (by decide), or_iff_right inner]

theorem IsWord.saysNoTable_end (word : IsWord name) :
    SaysNoTable (name.toList ++ ("\" does not exist".toList ++ rest)) ↔ SaysNoTable rest := by
  have apart : "\" does not exist".toList ++ rest =
      '"' :: (" does not ex".toList ++ 'i' :: 's' :: 't' :: rest) := by simp
  have inner : ¬ SaysNoTable " does not ex".toList := by decide
  rw [apart, saysNoTable_split (by decide), or_iff_right word.not_saysNoTable,
    saysNoTable_split (by decide), or_iff_right inner, saysNoTable_skip_first (by decide),
    saysNoTable_skip_first (by decide)]

theorem saysNoTable_text {notice : Notice} (named : notice.Named) :
    SaysNoTable (gap ++ notice.text.toList ++ rest) ↔ SaysNoTable gap ∨ SaysNoTable rest := by
  cases notice with
  | missing name =>
    have apart : gap ++ (Notice.missing name).text.toList ++ rest = gap ++ ("relation \"".toList ++
        (name.toList ++ ("\" does not exist".toList ++ rest))) := by
      simp [Notice.text]
    rw [apart, saysNoTable_relation, named.2.saysNoTable_end]
  | column name owner =>
    have apart : gap ++ (Notice.column name owner).text.toList ++ rest =
        gap ++ ['c'] ++ ['o'] ++ ['l'] ++ ['u'] ++ 'm' :: ("n ".toList ++
          '"' :: (name.toList ++ '"' :: (" of ".toList ++ ("relation \"".toList ++
            (owner.toList ++ ("\" does not exist".toList ++ rest)))))) := by
      simp [Notice.text]
    have inner : ¬ SaysNoTable "n ".toList ∧ ¬ SaysNoTable " of ".toList := by decide
    rw [apart, saysNoTable_split (by decide), saysNoTable_skip_last (by decide),
      saysNoTable_skip_last (by decide), saysNoTable_skip_last (by decide),
      saysNoTable_skip_last (by decide), saysNoTable_split (by decide), or_iff_right inner.1,
      saysNoTable_split (by decide), or_iff_right named.1.not_saysNoTable, saysNoTable_relation,
      or_iff_right inner.2, named.2.saysNoTable_end]

theorem Spells.not_saysNoTable (spells : Spells before text notices) : ¬ SaysNoTable text := by
  induction spells with
  | done gap => exact gap.2
  | missing gap _ named _ ih | column gap named _ ih =>
    rw [saysNoTable_text named]
    exact not_or.2 ⟨gap.2, ih⟩

theorem Spells.found_iff (spells : Spells before text notices) :
    Found before text ↔ ∃ name, .missing name ∈ notices := by
  induction spells with
  | done gap => simp [found_unquoted gap.1]
  | missing gap opens named _ ih =>
    exact iff_of_true (found_missing opens named) ⟨_, List.mem_cons_self ..⟩
  | column gap named _ ih =>
    rw [found_column gap.1 named, ih]
    simp

end Notices

/-- Missing tables are told apart from other failures on every driver error. Each of the notices in
a message is judged on its own. -/
theorem isMissingRelation_exact :
    (∀ e : DriverError, e.isMissingRelation ↔
      CarriesCode e ∨ SaysNoTable e.message.toList ∨ Found [] e.message.toList) ∧
    ∀ (e : DriverError) (notices : List Notice), ¬ CarriesCode e →
      Spells [] e.message.toList notices →
        (e.isMissingRelation ↔ ∃ name, .missing name ∈ notices) := by
  refine ⟨isMissingRelation_iff, fun e notices uncoded spells => ?_⟩
  rw [isMissingRelation_iff, or_iff_right uncoded, or_iff_right spells.not_saysNoTable,
    spells.found_iff]

/-- A rejected notice does not hide a later one. -/
theorem isMissingRelation_later :
    (wrapping ((Notice.column "nickname" "ledger_accounts").text ++ "; " ++
      (Notice.missing "ledger_payees").text)).isMissingRelation := by
  have uncoded : ¬ CarriesCode (wrapping ((Notice.column "nickname" "ledger_accounts").text ++
      "; " ++ (Notice.missing "ledger_payees").text)) := by
    simp [CarriesCode, wrapping]
  have spells : Spells []
      ([] ++ (Notice.column "nickname" "ledger_accounts").text.toList ++
        ("; ".toList ++ (Notice.missing "ledger_payees").text.toList ++ []))
      [.column "nickname" "ledger_accounts", .missing "ledger_payees"] :=
    .column (by decide) (by decide +kernel)
      (.missing (by decide) (by decide +kernel) (by decide +kernel) (.done (by decide)))
  rw [List.append_nil, List.nil_append, ← List.append_assoc, ← String.toList_append,
    ← String.toList_append] at spells
  exact (isMissingRelation_exact.2 _ _ uncoded spells).2 ⟨"ledger_payees", by simp⟩

end DriverError

end Passbook
