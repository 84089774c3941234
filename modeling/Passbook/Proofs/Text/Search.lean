import Mathlib.Data.Bool.AllAny
import Mathlib.Data.List.Infix
import Passbook.Text.Letter
import Passbook.Text.Search

namespace Passbook.Text

theorem containsChars_iff {word cs : List Char} : containsChars word cs ↔ word <:+: cs := by
  induction cs with
  | nil => simp [containsChars]
  | cons c rest ih =>
    rw [containsChars, Bool.or_eq_true, List.isPrefixOf_iff_prefix, ih, List.infix_cons_iff]

theorem contains_iff {word text : String} : contains word text ↔ word.toList <:+: text.toList :=
  containsChars_iff

section Parts
variable {α : Type*} {word front back : List α} {x : α}

theorem infix_split (absent : x ∉ word) :
    word <:+: front ++ x :: back ↔ word <:+: front ∨ word <:+: back := by
  constructor
  · rintro ⟨s, t, parts⟩
    rw [List.append_assoc] at parts
    obtain ⟨mid, rfl, rest⟩ | ⟨mid, rfl, rest⟩ := List.append_eq_append_iff.1 parts
    · -- the word begins in the part before the letter, and ends there or has the letter
      obtain ⟨extra, rfl, -⟩ | ⟨extra, rfl, last⟩ := List.append_eq_append_iff.1 rest
      · exact .inl ⟨s, extra, by rw [List.append_assoc]⟩
      · cases extra with
        | nil => exact .inl ⟨s, [], by simp⟩
        | cons y extra =>
          obtain ⟨rfl, -⟩ := List.cons_eq_cons.1 last
          exact absurd (by simp) absent
    · cases mid with
      | nil =>
        cases word with
        | nil => exact .inl (List.nil_infix ..)
        | cons y ys =>
          obtain ⟨rfl, -⟩ := List.cons_eq_cons.1 rest
          exact absurd (List.mem_cons_self ..) absent
      | cons y mid =>
        obtain ⟨-, rfl⟩ := List.cons_eq_cons.1 rest
        exact .inr ⟨mid, t, List.append_assoc ..⟩
  · rintro (inFront | inBack)
    · exact inFront.trans (List.prefix_append ..).isInfix
    · exact inBack.trans ((List.suffix_cons ..).trans (List.suffix_append ..)).isInfix

theorem infix_skip_first (other : word.head? ≠ some x) :
    word <:+: x :: back ↔ word <:+: back := by
  rw [List.infix_cons_iff, or_iff_right_iff_imp]
  intro start
  cases word with
  | nil => exact List.nil_infix ..
  | cons y ys => exact absurd (by rw [(List.cons_prefix_cons.1 start).1]; rfl) other

theorem infix_skip_last (other : word.getLast? ≠ some x) :
    word <:+: front ++ [x] ↔ word <:+: front := by
  rw [← List.reverse_infix, List.reverse_concat, infix_skip_first (by simpa using other),
    List.reverse_infix]

end Parts

/-- A basic Latin character, and none that a letter of another script has in its lower-case
form. -/
def IsPlain (c : Char) : Prop := c.toNat < 128 ∧ c ≠ 'i' ∧ c ≠ 'k'

instance (c : Char) : Decidable (IsPlain c) := inferInstanceAs (Decidable (_ ∧ _))

theorem lowerChar_cases (c : Char) :
    lowerChar c = [c.toLower] ∨
      128 ≤ c.toLower.toNat ∧ (lowerChar c = ['i', Char.ofNat 0x307] ∨ lowerChar c = ['k']) := by
  unfold lowerChar
  split_ifs with dotted kelvin
  · have : c = Char.ofNat 0x130 := Char.ext (UInt32.toNat_inj.1 dotted)
    exact .inr ⟨by rw [this]; decide, .inl rfl⟩
  · have : c = Char.ofNat 0x212A := Char.ext (UInt32.toNat_inj.1 kelvin)
    exact .inr ⟨by rw [this]; decide, .inr rfl⟩
  · exact .inl rfl

theorem flatMap_lowerChar_eq {cs word : List Char} (latin : ∀ c ∈ word, c.toNat < 128)
    (noKelvin : 'k' ∉ word) : cs.flatMap lowerChar = word ↔ cs.map Char.toLower = word := by
  induction cs generalizing word with
  | nil => rfl
  | cons c cs ih =>
    rw [List.flatMap_cons, List.map_cons]
    rcases lowerChar_cases c with same | ⟨far, dotted | kelvin⟩
    · rw [same, List.singleton_append]
      cases word with
      | nil => simp
      | cons w word =>
        have rest := ih (fun c hc => latin c (List.mem_cons_of_mem _ hc))
          (List.not_mem_of_not_mem_cons noKelvin)
        rw [List.cons_eq_cons, List.cons_eq_cons, rest]
    · constructor <;> rintro rfl
      · exact absurd (latin (Char.ofNat 0x307) (by simp [dotted])) (by decide)
      · exact absurd (latin _ (List.mem_cons_self ..)) (by omega)
    · constructor <;> rintro rfl
      · exact absurd (by simp [kelvin]) noKelvin
      · exact absurd (latin _ (List.mem_cons_self ..)) (by omega)

theorem infix_map_append_flatMap {word : List Char} (plain : ∀ c ∈ word, IsPlain c)
    (front cs : List Char) :
    word <:+: front.map Char.toLower ++ cs.flatMap lowerChar ↔
      word <:+: (front ++ cs).map Char.toLower := by
  -- The front is what has been put into lower case so far.
  induction cs generalizing front with
  | nil => simp
  | cons c cs ih =>
    rw [List.flatMap_cons, List.map_append, List.map_cons]
    rcases lowerChar_cases c with same | ⟨far, other⟩
    · simpa [same] using ih (front ++ [c])
    · have outside : c.toLower ∉ word := fun inside => by have := (plain _ inside).1; omega
      have rest := ih []
      simp only [List.map_nil, List.nil_append] at rest
      rw [infix_split outside, ← rest]
      rcases other with dotted | kelvin
      · have first : 'i' ∉ word := fun inside => (plain _ inside).2.1 rfl
        have second : Char.ofNat 0x307 ∉ word := fun inside =>
          absurd (plain _ inside).1 (by decide)
        rw [dotted, List.cons_append, List.singleton_append, infix_split first,
          infix_skip_first fun head => second (List.mem_of_mem_head? head)]
      · have first : 'k' ∉ word := fun inside => (plain _ inside).2.2 rfl
        rw [kelvin, List.singleton_append, infix_split first]

/-- A lower-case text contains a plain word exactly if the text itself does in some letter case. -/
theorem contains_lower {word text : String} (plain : ∀ c ∈ word.toList, IsPlain c) :
    contains word (lower text) ↔ word.toList <:+: text.toList.map Char.toLower := by
  rw [contains_iff, lower, String.toList_ofList]
  exact infix_map_append_flatMap plain [] text.toList

theorem lower_eq {word text : String} (latin : ∀ c ∈ word.toList, c.toNat < 128)
    (noKelvin : 'k' ∉ word.toList) :
    lower text = word ↔ text.toList.map Char.toLower = word.toList := by
  rw [← flatMap_lowerChar_eq latin noKelvin, lower, ← String.toList_inj, String.toList_ofList]

end Passbook.Text
