import Scriptlet.Proofs.Program.WellFormed
import Scriptlet.Value.Basic

/-!
# The texts of values

A call goes by the text of a value, so it matters which of these texts are names. The text of a
finite number starts with a digit or a minus sign, and no name does. The texts that are names are
those of the truth values, of the empty value, of the function and of the numbers that are not
finite.
-/

namespace Scriptlet

/-- A decimal starts with a digit. -/
lemma Decimal.head?_positional (d : Decimal) :
    ∃ c, d.positional.head? = some c ∧ c.isDigit = true := by
  obtain ⟨coefficient, exponent⟩ := d
  obtain ⟨c, digits, split⟩ :
      ∃ c digits, Nat.toDigits 10 coefficient = c :: digits :=
    List.exists_cons_of_ne_nil Nat.toDigits_ne_nil
  have digit : c.isDigit = true := by
    have all := @Nat.isDigit_of_mem_toDigits 10 coefficient c (by decide) (by decide)
    exact all (by simp [split])
  cases exponent with
  | ofNat zeros =>
    refine ⟨c, ?_, digit⟩
    simp [positional, split]
  | negSucc places =>
    by_cases short : places + 1 < (c :: digits).length
    · -- at least one digit stands before the point
      obtain ⟨whole, left⟩ : ∃ whole, (c :: digits).length - (places + 1) = whole + 1 :=
        ⟨(c :: digits).length - (places + 1) - 1, by omega⟩
      refine ⟨c, ?_, digit⟩
      simp only [positional, pointed, split, if_pos short, left, List.take_succ_cons]
      rfl
    · refine ⟨'0', ?_, by decide⟩
      simp only [positional, pointed, split, if_neg short]
      rfl

/-- The size of a number starts with a digit. -/
lemma Number.head?_sizeText (b : Binary) :
    ∃ c, (Number.sizeText b).head? = some c ∧ c.isDigit = true := by
  rw [sizeText]
  split
  · exact ⟨'0', rfl, by decide⟩
  · exact Decimal.head?_positional _

/-- The text of a finite number starts with a digit or a minus sign, and so does that of the number
below all finite ones. -/
lemma Number.head?_text {x : Float}
    (kind : (∃ negative size, Magnitude.ofFloat x = .finite negative size) ∨
      Magnitude.ofFloat x = .infinite true) :
    ∃ c, (Number.text x).toList.head? = some c ∧ (c.isDigit = true ∨ c = '-') := by
  rw [text]
  obtain ⟨negative, size, finite⟩ | infinite := kind
  · rw [finite, String.toList_ofList]
    cases negative with
    | false =>
      obtain ⟨c, first, digit⟩ := Number.head?_sizeText size
      exact ⟨c, first, .inl digit⟩
    | true => exact ⟨'-', rfl, .inr rfl⟩
  · rw [infinite]
    exact ⟨'-', rfl, .inr rfl⟩

/-- The text of a number is one of two names, or it starts with a digit or a minus sign. -/
lemma Number.text_cases (x : Float) :
    Number.text x = "inf" ∨ Number.text x = "NaN" ∨
      ∃ c, (Number.text x).toList.head? = some c ∧ (c.isDigit = true ∨ c = '-') := by
  cases kind : Magnitude.ofFloat x with
  | undefined =>
    rw [text, kind]
    exact .inr (.inl rfl)
  | infinite negative =>
    cases negative with
    | false =>
      rw [text, kind]
      exact .inl rfl
    | true => exact .inr (.inr (Number.head?_text (.inr kind)))
  | finite negative size => exact .inr (.inr (Number.head?_text (.inl ⟨negative, size, kind⟩)))

/-- A text that starts with a digit or a minus is no name. -/
lemma Text.not_isName_of_head? {text : String} {c : Char} (first : text.toList.head? = some c)
    (other : c.isDigit = true ∨ c = '-') : ¬ Text.IsName text := by
  rintro ⟨-, word, free⟩
  rcases other with digit | rfl
  · exact Bool.false_ne_true ((free c first).symm.trans digit)
  · have minus := word '-' (List.mem_of_mem_head? first)
    exact absurd minus (by decide)

/-- The names that are texts of values. -/
def Value.texts : List String :=
  ["True", "False", "nil", "print", "inf", "NaN"]

/-- The text of a value is one of six, or it is no name. -/
lemma Value.text_mem_or_not_isName (value : Value) :
    value.text ∈ Value.texts ∨ ¬ Text.IsName value.text := by
  cases value with
  | number x =>
    rw [text]
    rcases Number.text_cases x with same | same | ⟨c, first, other⟩
    · exact .inl (by rw [same]; decide)
    · exact .inl (by rw [same]; decide)
    · exact .inr (Text.not_isName_of_head? first other)
  | boolean b => cases b <;> exact .inl (by decide)
  | null => exact .inl (by decide)
  | function f =>
    obtain ⟨origin⟩ := f
    exact .inl (show "print" ∈ texts by decide)

end Scriptlet
