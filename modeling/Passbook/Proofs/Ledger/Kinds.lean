import Passbook.Proofs.Ledger.Rules
import Passbook.Proofs.Text.Search

namespace Passbook
open Passbook.Text

namespace Text
variable {front cs back : List Char} {c : Char}

theorem stripChars_parts (cs : List Char) : ∃ front back, cs = front ++ stripChars cs ++ back ∧
    (∀ c ∈ front, isBlank c) ∧ ∀ c ∈ back, isBlank c := by
  refine ⟨cs.takeWhile isBlank, ((cs.dropWhile isBlank).reverse.takeWhile isBlank).reverse, ?_,
    fun c hc => List.mem_takeWhile_imp hc,
    fun c hc => List.mem_takeWhile_imp (List.mem_reverse.1 hc)⟩
  rw [stripChars, trimBoth, List.append_assoc, ← List.reverse_append,
    List.takeWhile_append_dropWhile, List.reverse_reverse, List.takeWhile_append_dropWhile]

theorem dropWhile_blanks (blank : ∀ c ∈ front, isBlank c) (letters : ∀ c ∈ cs, ¬isBlank c)
    (some : cs ≠ []) : (front ++ (cs ++ back)).dropWhile isBlank = cs ++ back := by
  rw [List.dropWhile_append_of_pos blank]
  cases cs with
  | nil => exact absurd rfl some
  | cons c cs => exact List.dropWhile_cons_of_neg (letters c (List.mem_cons_self ..))

theorem stripChars_of_parts (before : ∀ c ∈ front, isBlank c) (letters : ∀ c ∈ cs, ¬isBlank c)
    (after : ∀ c ∈ back, isBlank c) (some : cs ≠ []) : stripChars (front ++ cs ++ back) = cs := by
  have right : (cs ++ back).reverse.dropWhile isBlank = cs.reverse := by
    rw [List.reverse_append, ← List.append_nil cs.reverse]
    exact dropWhile_blanks (fun c hc => after c (List.mem_reverse.1 hc))
      (fun c hc => letters c (List.mem_reverse.1 hc)) (by simpa using some)
  rw [stripChars, trimBoth, List.append_assoc, dropWhile_blanks before letters some, right,
    List.reverse_reverse]

theorem isBlank_toLower (blank : isBlank c) : c.toLower = c := by
  unfold Char.toLower
  split
  · next capital =>
    have first := UInt32.le_iff_toNat_le.1 capital.1
    have last := UInt32.le_iff_toNat_le.1 capital.2
    simp at first last
    simp [isBlank, Ranges.contains, blankRanges] at blank
    omega
  · rfl

theorem not_isBlank_of_toLower {word : List Char} (letters : ∀ c ∈ word, ¬isBlank c)
    (same : cs.map Char.toLower = word) : ∀ c ∈ cs, ¬isBlank c := by
  intro c inside blank
  refine letters c ?_ blank
  rw [← same, ← isBlank_toLower blank]
  exact List.mem_map_of_mem inside

theorem stripChars_toLower {word : List Char} (letters : ∀ c ∈ word, ¬isBlank c)
    (some : word ≠ []) {text : List Char} : (stripChars text).map Char.toLower = word ↔
      ∃ front cs back, text = front ++ cs ++ back ∧ (∀ c ∈ front, isBlank c) ∧
        (∀ c ∈ back, isBlank c) ∧ cs.map Char.toLower = word := by
  constructor
  · intro same
    obtain ⟨front, back, parts, before, after⟩ := stripChars_parts text
    exact ⟨front, _, back, parts, before, after, same⟩
  · rintro ⟨front, cs, back, rfl, before, after, same⟩
    have nonempty : cs ≠ [] := by
      rintro rfl
      exact some same.symm
    rwa [stripChars_of_parts before (not_isBlank_of_toLower letters same) after nonempty]

end Text

/-- The text is the word for the kind, in any letter case, with blanks around it. -/
def Kind.IsNamedBy (kind : Kind) (text : String) : Prop :=
  ∃ front letters back, text.toList = front ++ letters ++ back ∧ (∀ c ∈ front, isBlank c) ∧
    (∀ c ∈ back, isBlank c) ∧
    (kind = .credit ∧ letters.map Char.toLower = "credit".toList ∨
      kind = .debit ∧ letters.map Char.toLower = "debit".toList)

theorem lower_strip_eq (word text : String) (plain : ∀ c ∈ word.toList, c.toNat < 128 ∧ c ≠ 'k')
    (letters : ∀ c ∈ word.toList, ¬isBlank c) (some : word.toList ≠ []) :
    lower (strip text) = word ↔ ∃ front cs back, text.toList = front ++ cs ++ back ∧
      (∀ c ∈ front, isBlank c) ∧ (∀ c ∈ back, isBlank c) ∧ cs.map Char.toLower = word.toList := by
  rw [lower_eq (fun c hc => (plain c hc).1) (fun kelvin => (plain _ kelvin).2 rfl), strip,
    String.toList_ofList, stripChars_toLower letters some]

theorem normalizeKind_iff {text : String} {kind : Kind} :
    normalizeKind (some text) = .ok kind ↔ kind.IsNamedBy text := by
  have credit := lower_strip_eq "credit" text (List.all_iff_forall_prop.1 (by decide))
    (List.all_iff_forall_prop.1 (by decide)) (by decide)
  have debit := lower_strip_eq "debit" text (List.all_iff_forall_prop.1 (by decide))
    (List.all_iff_forall_prop.1 (by decide)) (by decide)
  constructor
  · intro taken
    unfold normalizeKind at taken
    split at taken
    · rename_i same
      obtain ⟨front, letters, back, parts, before, after, named⟩ := credit.1 same
      cases taken
      exact ⟨front, letters, back, parts, before, after, .inl ⟨rfl, named⟩⟩
    · rename_i same
      obtain ⟨front, letters, back, parts, before, after, named⟩ := debit.1 same
      cases taken
      exact ⟨front, letters, back, parts, before, after, .inr ⟨rfl, named⟩⟩
    · cases taken
  · rintro ⟨front, letters, back, parts, before, after, ⟨rfl, named⟩ | ⟨rfl, named⟩⟩
    · have same := credit.2 ⟨front, letters, back, parts, before, after, named⟩
      rw [normalizeKind, trimmed, Option.getD_some, same]
      rfl
    · have same := debit.2 ⟨front, letters, back, parts, before, after, named⟩
      rw [normalizeKind, trimmed, Option.getD_some, same]
      rfl

theorem normalizeKind_text {kind : Kind} (known : kind = .credit ∨ kind = .debit) :
    normalizeKind kind.text = .ok kind := by
  rcases known with rfl | rfl
  · exact normalizeKind_iff.2 ⟨[], "credit".toList, [], by decide, nofun, nofun,
      .inl ⟨rfl, by decide⟩⟩
  · exact normalizeKind_iff.2 ⟨[], "debit".toList, [], by decide, nofun, nofun,
      .inr ⟨rfl, by decide⟩⟩

end Passbook
