import Scriptlet.Proofs.Value.Text

/-!
# The numbers that digits are read as

Digits without a sign are read as a number from zero on or as the one beyond all finite numbers, and
never as the result that is no number (`Number.IsLiteral.magnitude`). Reading rounds and packs a
number with the sign plus, and both keep the sign. The text of a literal that is finite consists of
digits and points and starts with a digit.
-/

namespace Scriptlet

namespace Number
open Float.Model
open Float.Model.UnpackedFloat

/-! ## Numbers with the sign plus -/

/-- A number with the sign plus, be it finite or not. -/
def Plus : UnpackedFloat → Prop
  | .infinity sign | .zero sign | .finite sign _ _ _ => sign = .positive
  | .notANumber => False

section Operations

variable {spec : Format}

/-- A decision between numbers with the sign plus has that sign. -/
lemma plus_dite {condition : Prop} [Decidable condition] {f : condition → UnpackedFloat}
    {g : ¬ condition → UnpackedFloat} (yes : ∀ holds, Plus (f holds))
    (no : ∀ fails, Plus (g fails)) : Plus (if holds : condition then f holds else g holds) := by
  split
  · exact yes _
  · exact no _

/-- Rounding keeps the sign plus. -/
lemma plus_roundWithAccuracy (mantissa : Nat) (exponent : Int) (accuracy : Accuracy) :
    Plus (roundWithAccuracy spec .positive mantissa exponent accuracy) := by
  unfold roundWithAccuracy
  exact plus_dite (fun _ => rfl) fun _ => rfl

/-- A product of numbers with the sign plus has that sign. -/
lemma Plus.mul {f : UnpackedFloat} (plus : Plus f) {mantissa : Nat} (exponent : Int)
    (some : 0 < mantissa) :
    Plus (UnpackedFloat.mul spec f (.finite .positive mantissa exponent some)) := by
  cases f with
  | notANumber => exact plus.elim
  | infinity sign =>
    cases plus
    rfl
  | zero sign =>
    cases plus
    rfl
  | finite sign =>
    cases plus
    exact plus_roundWithAccuracy _ _ _

/-- A natural number has the sign plus. -/
lemma plus_ofNat (n : Nat) : Plus (UnpackedFloat.ofNat spec n) := by
  rw [UnpackedFloat.ofNat, UnpackedFloat.ofInt, UnpackedFloat.normalize]
  split
  · next below =>
    have := Int.compare_eq_lt.1 below
    omega
  · rfl
  · exact plus_roundWithAccuracy _ _ _

/-- A decimal number has the sign plus. -/
lemma plus_ofScientific (coefficient zeros : Nat) :
    Plus (UnpackedFloat.ofScientific spec coefficient zeros) := by
  have whole : (0 : Int) ≤ zeros := by omega
  unfold UnpackedFloat.ofScientific
  refine plus_dite (fun _ => rfl) fun _ => ?_
  refine plus_dite (fun _ => rfl) fun _ => ?_
  refine plus_dite (fun _ => rfl) fun _ => ?_
  rw [if_pos whole]
  exact plus_roundWithAccuracy _ _ _

end Operations

/-! ## Bits -/

/-- The sign that was packed is the sign that is unpacked. -/
lemma unpackSign_packComponents {spec : Format} (sign : Sign) {exponent : BitVec spec.exponentBits}
    {mantissa : BitVec spec.mantissaBitsWithoutImplicit} :
    unpackSign (packComponents spec sign exponent mantissa) = sign.toBitVec := by
  unfold unpackSign
  ext i small
  obtain rfl : i = 0 := by omega
  simp [packComponents, BitVec.getLsbD_append, BitVec.getElem_append]

/-- Bits stand for a number with the sign plus if the sign bit is not set and, where all bits of the
exponent are set, none of the mantissa is. -/
lemma plus_unpack_iff {spec : Format} {bits : BitVec spec.numBits} :
    Plus (unpack spec bits) ↔
      unpackSign bits = 0#1 ∧ (unpackExponent bits = -1#_ → unpackMantissa bits = 0#_) := by
  have sign : Sign.ofBitVec (unpackSign bits) = .positive ↔ unpackSign bits = 0#1 := by
    rw [Sign.ofBitVec]
    split
    · next clear => exact iff_of_true rfl clear
    · next set => exact iff_of_false nofun set
  unfold UnpackedFloat.unpack
  dsimp only
  by_cases full : unpackExponent bits = -1#_
  · -- infinite, or no number
    rw [if_pos full]
    by_cases none : unpackMantissa bits = 0#_
    · rw [if_pos none]
      exact sign.trans (and_iff_left fun _ => none).symm
    · rw [if_neg none]
      exact iff_of_false id fun both => none (both.2 full)
  · -- zero or finite, and the sign alone decides
    rw [if_neg full, and_iff_left fun exponent => absurd exponent full, ← sign]
    by_cases subnormal : unpackExponent bits = 0#_
    · rw [if_pos subnormal]
      by_cases none : unpackMantissa bits = 0#_
      · rw [dif_pos none]
        rfl
      · rw [dif_neg none]
        rfl
    · rw [if_neg subnormal]
      rfl

/-- What is packed with the sign plus is unpacked with it, unless it is undefined. -/
lemma plus_unpack_packComponents {spec : Format} {exponent : BitVec spec.exponentBits}
    {mantissa : BitVec spec.mantissaBitsWithoutImplicit}
    (defined : exponent = -1#_ → mantissa = 0#_) :
    Plus (unpack spec (packComponents spec .positive exponent mantissa)) := by
  rw [plus_unpack_iff, unpackSign_packComponents, unpackExponent_packComponents,
    unpackMantissa_packComponents]
  exact ⟨rfl, defined⟩

/-- Packing keeps the sign plus. -/
lemma Plus.unpack_pack {f : UnpackedFloat} (plus : Plus f) :
    Plus (Float.Model.pack f).unpack := by
  rw [Float.Model.unpack, Float.Model.pack]
  cases f with
  | notANumber => exact plus.elim
  | infinity sign =>
    cases plus
    exact plus_unpack_packComponents fun _ => rfl
  | zero sign =>
    cases plus
    exact plus_unpack_packComponents fun _ => rfl
  | finite sign mantissa exponent =>
    cases plus
    dsimp only [UnpackedFloat.pack]
    split_ifs with beyond normal
    · exact plus_unpack_packComponents fun _ => rfl
    · apply plus_unpack_packComponents
      intro full
      have value := congrArg BitVec.toNat full
      simp only [BitVec.toNat_ofNat, BitVec.reduceNeg, Nat.reducePow] at value
      omega
    · exact plus_unpack_packComponents fun full => absurd full (by decide)

/-- A number with the sign plus is finite, unless it lies beyond all finite numbers. -/
lemma Plus.magnitude {x : Float} (plus : Plus x.toModel.unpack) :
    Magnitude.ofFloat x = .infinite false ∨ ∃ size, Magnitude.ofFloat x = .finite false size := by
  obtain ⟨clear, defined⟩ := plus_unpack_iff.1 plus
  unfold unpackSign at clear
  replace clear : x.toModel.toBits.toNat / 0x8000000000000000 % 2 = 0 := by
    simpa [Nat.shiftRight_eq_div_pow] using congrArg BitVec.toNat clear
  replace defined : x.toModel.toBits.toNat / 0x10000000000000 % 0x800 = 2047 →
      x.toModel.toBits.toNat % 0x10000000000000 = 0 := by
    simpa [unpackExponent, unpackMantissa, Nat.shiftRight_eq_div_pow, ← BitVec.toNat_inj]
      using defined
  have bits : x.toBits = x.toModel.toBits := rfl
  have negative : decide (x.toBits.toNat / 0x8000000000000000 = 1) = false := by
    rw [decide_eq_false_iff_not, bits]
    omega
  unfold Magnitude.ofFloat
  simp only [negative]
  split_ifs with full none
  · exact .inl rfl
  · exact absurd (defined full) none
  · exact .inr ⟨_, rfl⟩
  · exact .inr ⟨_, rfl⟩

/-! ## Reading digits -/

/-- A whole number of the format has the sign plus. -/
lemma plus_whole (n : Nat) : Plus (Float.ofScientific n false 0).toModel.unpack := by
  have factor : Plus n.toUInt64.toFloat.toModel.unpack := (plus_ofNat _).unpack_pack
  have one : Float.exactlyRepresentablePowersOfTen[0].toModel.unpack =
      .finite .positive 0x10000000000000 (-52) (by decide) := rfl
  unfold Float.ofScientific
  simp only [Bool.false_eq_true, if_false]
  split
  · -- small numbers are multiplied by a power of ten, which is one
    apply Plus.unpack_pack
    rw [one]
    exact factor.mul _ _
  · exact (plus_ofScientific n 0).unpack_pack

/-- The floating-point number nearest to a whole number has the sign plus. -/
lemma plus_nearest (n : Nat) : Plus (nearest n 0).toModel.unpack := by
  unfold nearest
  dsimp only
  split_ifs
  · rfl
  · rfl
  · rfl
  · exact plus_whole n

/-- A text that starts with a digit is none of the names of numbers. -/
lemma named?_of_digit {c : Char} (digit : c.isDigit = true) (rest : List Char) :
    named? (c :: rest) = none := by
  have lower : c.toLower = c := by
    have below : c.toNat ≤ 57 := (Char.isDigit_iff_toNat.1 digit).2
    unfold Char.toLower
    rw [dif_neg]
    rintro ⟨capital, -⟩
    have above : 65 ≤ c.toNat := UInt32.le_iff_toNat_le.1 capital
    omega
  have other : ∀ (name : String) {letter : Char}, name.toList.head? = some letter →
      letter.isDigit = false → String.ofList ((c :: rest).map Char.toLower) ≠ name := by
    rintro name letter first noDigit rfl
    rw [String.toList_ofList, List.map_cons, lower] at first
    obtain rfl := Option.some.inj first
    exact Bool.false_ne_true (noDigit.symm.trans digit)
  rw [named?, if_neg, if_neg (other "nan" rfl rfl)]
  exact not_or.2 ⟨other "inf" rfl rfl, other "infinity" rfl rfl⟩

/-- Digits alone are read as the number nearest to them. -/
lemma decimal?_of_digits {digits : List Char} (solid : digits ≠ [])
    (all : ∀ c ∈ digits, c.isDigit = true) :
    decimal? digits = some (nearest (ofDigits digits) 0) := by
  have whole : digits.takeWhile Char.isDigit = digits := List.takeWhile_eq_self_iff.2 all
  have none : digits.dropWhile Char.isDigit = [] := List.dropWhile_eq_nil_iff.2 all
  simp [decimal?, splitDigits, whole, none, solid, power?]

/-- Digits are read as the floating-point number nearest to the whole number that they spell. -/
lemma read?_of_isNumeral {text : String} (numeral : Text.IsNumeral text) :
    read? text = some (nearest (ofDigits text.toList) 0) := by
  obtain ⟨solid, all⟩ := numeral
  replace solid : text.toList ≠ [] := by simpa using solid
  obtain ⟨c, rest, split⟩ := List.exists_cons_of_ne_nil solid
  have digit : c.isDigit = true := all c (by simp [split])
  have unsigned : unsigned? text.toList = some (nearest (ofDigits text.toList) 0) := by
    rw [unsigned?, decimal?_of_digits solid all, split, named?_of_digit digit]
    rfl
  unfold read?
  split
  · next same =>
    obtain ⟨rfl, -⟩ := List.cons_eq_cons.1 (split.symm.trans same)
    cases digit
  · next same =>
    obtain ⟨rfl, -⟩ := List.cons_eq_cons.1 (split.symm.trans same)
    cases digit
  · exact unsigned

/-- A literal is finite and not below zero, unless it lies beyond all finite numbers. -/
lemma IsLiteral.magnitude {x : Float} (literal : IsLiteral x) :
    Magnitude.ofFloat x = .infinite false ∨ ∃ size, Magnitude.ofFloat x = .finite false size := by
  obtain ⟨digits, numeral, read⟩ := literal
  rw [read?_of_isNumeral numeral] at read
  obtain rfl := Option.some.inj read
  exact (plus_nearest _).magnitude

end Number

/-! ## The text of a literal -/

/-- A decimal has digits and a point only. -/
lemma Decimal.mem_positional {d : Decimal} {c : Char} (member : c ∈ d.positional) :
    c.isDigit = true ∨ c = '.' := by
  have digit : c ∈ Nat.toDigits 10 d.coefficient → c.isDigit = true :=
    Nat.isDigit_of_mem_toDigits (by decide) (by decide)
  have zero : ∀ {n}, c ∈ List.replicate n '0' → c.isDigit = true := by
    intro n member
    rw [List.eq_of_mem_replicate member]
    decide
  unfold positional at member
  split at member
  · rcases List.mem_append.1 member with inside | behind
    · exact .inl (digit inside)
    · exact .inl (zero behind)
  · unfold pointed at member
    split at member
    · rcases List.mem_append.1 member with before | behind
      · exact .inl (digit (List.mem_of_mem_take before))
      · rcases List.mem_cons.1 behind with point | behind
        · exact .inr point
        · exact .inl (digit (List.mem_of_mem_drop behind))
    · simp only [List.cons_append, List.mem_cons, List.mem_append] at member
      rcases member with rfl | point | filled | inside
      · exact .inl (by decide)
      · exact .inr point
      · exact .inl (zero filled)
      · exact .inl (digit inside)

/-- The text of a literal that is finite starts with a digit and goes on with digits and points. -/
lemma Number.IsLiteral.text {x : Float} (literal : IsLiteral x)
    (finite : Magnitude.ofFloat x ≠ .infinite false) :
    (∃ c, (Number.text x).toList.head? = some c ∧ c.isDigit = true) ∧
      ∀ c ∈ (Number.text x).toList, c.isDigit = true ∨ c = '.' := by
  obtain ⟨size, same⟩ := literal.magnitude.resolve_left finite
  have shown : (Number.text x).toList = sizeText size := by
    rw [Number.text, same, String.toList_ofList]
    rfl
  rw [shown]
  refine ⟨head?_sizeText size, ?_⟩
  rw [sizeText]
  split
  · exact List.forall_mem_singleton.2 (.inl (by decide))
  · exact fun c => Decimal.mem_positional

end Scriptlet
