/-
This file says which tokens are decimal numerals and which numbers they write, and that the kinds of
numbers with a fraction decode just those that round to a finite number within their bounds.
-/

import CommandShell.Proofs.Numeral
import CommandShell.Proofs.Rounding
import Mathlib.Order.WithBotTop

namespace CommandShell

open Argument Binary Text

namespace Binary

/-! ### Decimal numerals -/

/-- This is the number that a run of digits writes, the most significant digit first. -/
def digitsNumber (digits : List Char) : ℚ :=
  Nat.ofDigitChars 10 digits 0

/-- A mantissa is a run of digits that may have a point behind or among them, or before them. -/
inductive Mantissa : List Char → ℚ → Prop where
  | whole {digits : List Char} (isDigits : IsDigits digits) :
      Mantissa digits (digitsNumber digits)
  | pointed {whole fraction : List Char} (isDigits : IsDigits whole)
      (isDigit : ∀ char ∈ fraction, char.isDigit) :
      Mantissa (whole ++ '.' :: fraction)
        (digitsNumber whole + digitsNumber fraction / 10 ^ fraction.length)
  | fraction {fraction : List Char} (isDigits : IsDigits fraction) :
      Mantissa ('.' :: fraction) (digitsNumber fraction / 10 ^ fraction.length)

/-- The exponent of a numeral without one is zero. -/
inductive Exponent : List Char → Int → Prop where
  | none : Exponent [] 0
  | marked {mark : Char} {text : List Char} {exponent : Int} (isMark : mark = 'e' ∨ mark = 'E')
      (numeral : WholeNumeral text exponent) : Exponent (mark :: text) exponent

/-- A decimal numeral is a mantissa behind an optional sign and may have an exponent behind it. -/
inductive DecimalNumeral : List Char → Bool → ℚ → Prop where
  | signed {sign mantissa power : List Char} {negative : Bool} {number : ℚ} {exponent : Int}
      (isSign : Sign sign negative) (isMantissa : Mantissa mantissa number)
      (isExponent : Exponent power exponent) :
      DecimalNumeral (sign ++ (mantissa ++ power)) negative (number * 10 ^ exponent)

/-- The token is a numeral of a number that rounds to a number of the format. -/
def Format.ReadsAs (format : Format) (token : List Char) (number : Number) : Prop :=
  ∃ negative exact, DecimalNumeral token negative exact ∧ format.RoundsTo negative exact number

variable {sign text whole fraction power token : List Char} {negative : Bool} {exact number : ℚ}
  {exponent : Int}

/-- Moving the point to the left divides by a power of ten. -/
theorem digitsNumber_div (whole fraction : List Char) :
    digitsNumber (whole ++ fraction) / 10 ^ fraction.length =
      digitsNumber whole + digitsNumber fraction / 10 ^ fraction.length := by
  have nonzero : (10 : ℚ) ^ fraction.length ≠ 0 := by positivity
  unfold digitsNumber
  rw [Nat.ofDigitChars_append, Nat.ofDigitChars_eq_ofDigitChars_zero]
  field_simp
  push_cast
  ring

/-! ### Reading the mantissa -/

theorem readDigits?_eq_some_iff {digits : List Char} {value : Nat} :
    readDigits? digits = some value ↔ IsDigits digits ∧ value = Nat.ofDigitChars 10 digits 0 := by
  by_cases isDigits : IsDigits digits
  · rw [readDigits?_of_isDigits isDigits]
    simp [isDigits, eq_comm]
  · rw [readDigits?_of_not_isDigits isDigits]
    simp [isDigits]

theorem span_append {matching : Char → Bool} (front : ∀ char ∈ text, matching char)
    (rest : List Char) (stops : ∀ char ∈ rest.head?, matching char = false) :
    (text ++ rest).takeWhile matching = text ∧ (text ++ rest).dropWhile matching = rest := by
  rw [List.takeWhile_append_of_pos front, List.dropWhile_append_of_pos front]
  cases rest with
  | nil => simp
  | cons first rest => simp [stops first rfl]

theorem exists_span (matching : Char → Bool) (text : List Char) : ∃ front rest,
    text = front ++ rest ∧ (∀ char ∈ front, matching char) ∧
      ∀ char ∈ rest.head?, matching char = false := by
  refine ⟨text.takeWhile matching, text.dropWhile matching,
    List.takeWhile_append_dropWhile.symm, ?_, ?_⟩
  · exact List.all_eq_true.mp List.all_takeWhile
  · intro char first
    have stops := List.head?_dropWhile_not matching text
    rwa [first] at stops

namespace Decimal

theorem ne_point_of_notMem (absent : '.' ∉ text) : ∀ char ∈ text, (char != '.') = true := by
  intro char member
  rw [bne_iff_ne]
  intro point
  rw [point] at member
  exact absent member

theorem readMantissa?_of_notMem (absent : '.' ∉ text) :
    readMantissa? text = (readDigits? text).map (·, 0) := by
  have span := span_append (ne_point_of_notMem absent) [] nofun
  rw [List.append_nil] at span
  simp [readMantissa?, span.1, span.2]

theorem readMantissa?_pointed (absent : '.' ∉ whole) (fraction : List Char) :
    readMantissa? (whole ++ '.' :: fraction) =
      (readDigits? (whole ++ fraction)).map (·, fraction.length) := by
  have span := span_append (ne_point_of_notMem absent) ('.' :: fraction) (by simp)
  simp [readMantissa?, span.1, span.2]

end Decimal

theorem not_mem_of_isDigit (isDigit : ∀ char ∈ text, char.isDigit) : '.' ∉ text := by
  intro member
  exact absurd (isDigit _ member) (by decide)

theorem IsDigits.append (isDigits : IsDigits whole) (isDigit : ∀ char ∈ fraction, char.isDigit) :
    IsDigits (whole ++ fraction) where
  nonempty := List.append_ne_nil_of_left_ne_nil isDigits.nonempty fraction
  isDigit char member := by
    rcases List.mem_append.mp member with front | back
    · exact isDigits.isDigit char front
    · exact isDigit char back

/-- Digits around a point are those of a mantissa if there is one on either side. -/
theorem mantissa_of_isDigits (isDigits : IsDigits (whole ++ fraction)) :
    Mantissa (whole ++ '.' :: fraction)
      (digitsNumber (whole ++ fraction) / 10 ^ fraction.length) := by
  cases whole with
  | nil => exact .fraction isDigits
  | cons first rest =>
      rw [digitsNumber_div]
      apply Mantissa.pointed
      · exact ⟨nofun, fun char member => isDigits.isDigit char (List.mem_append_left _ member)⟩
      · exact fun char member => isDigits.isDigit char (List.mem_append_right _ member)

theorem Mantissa.cases_point (mantissa : Mantissa text number) :
    (IsDigits text ∧ number = digitsNumber text) ∨ ∃ whole fraction,
      text = whole ++ '.' :: fraction ∧ IsDigits (whole ++ fraction) ∧
        number = digitsNumber (whole ++ fraction) / 10 ^ fraction.length := by
  cases mantissa with
  | whole isDigits => exact .inl ⟨isDigits, rfl⟩
  | pointed isDigits isDigit =>
      exact .inr ⟨_, _, rfl, isDigits.append isDigit, (digitsNumber_div _ _).symm⟩
  | fraction isDigits => exact .inr ⟨[], _, rfl, isDigits, rfl⟩

/-- A mantissa is read as its digits and the number of those behind the point. -/
theorem mantissa_iff : Mantissa text number ↔ ∃ significand places,
    Decimal.readMantissa? text = some (significand, places) ∧
      number = (significand : ℚ) / 10 ^ places := by
  constructor
  · intro mantissa
    rcases mantissa.cases_point with ⟨isDigits, rfl⟩ | ⟨whole, fraction, rfl, isDigits, rfl⟩
    · refine ⟨_, 0, ?_, by rw [pow_zero, div_one]; rfl⟩
      rw [Decimal.readMantissa?_of_notMem (not_mem_of_isDigit isDigits.isDigit),
        readDigits?_of_isDigits isDigits]
      rfl
    · have absent : '.' ∉ whole := not_mem_of_isDigit fun char member =>
        isDigits.isDigit char (List.mem_append_left _ member)
      refine ⟨_, fraction.length, ?_, rfl⟩
      rw [Decimal.readMantissa?_pointed absent, readDigits?_of_isDigits isDigits]
      rfl
  · rintro ⟨significand, places, found, rfl⟩
    by_cases pointed : '.' ∈ text
    · obtain ⟨whole, fraction, rfl, absent⟩ := List.eq_append_cons_of_mem pointed
      rw [Decimal.readMantissa?_pointed absent] at found
      obtain ⟨value, digits, pair⟩ := Option.map_eq_some_iff.mp found
      cases pair
      obtain ⟨isDigits, rfl⟩ := readDigits?_eq_some_iff.mp digits
      exact mantissa_of_isDigits isDigits
    · rw [Decimal.readMantissa?_of_notMem pointed] at found
      obtain ⟨value, digits, pair⟩ := Option.map_eq_some_iff.mp found
      cases pair
      obtain ⟨isDigits, rfl⟩ := readDigits?_eq_some_iff.mp digits
      rw [pow_zero, div_one]
      exact .whole isDigits

theorem Mantissa.isDigit_or (mantissa : Mantissa text number) :
    ∀ char ∈ text, char.isDigit ∨ char = '.' := by
  intro char member
  rcases mantissa.cases_point with ⟨isDigits, -⟩ | ⟨whole, fraction, rfl, isDigits, -⟩
  · exact .inl (isDigits.isDigit char member)
  · simp only [List.mem_append, List.mem_cons] at member
    rcases member with front | rfl | back
    · exact .inl (isDigits.isDigit char (List.mem_append_left _ front))
    · exact .inr rfl
    · exact .inl (isDigits.isDigit char (List.mem_append_right _ back))

theorem Mantissa.exists_isDigit (mantissa : Mantissa text number) :
    ∃ char ∈ text, char.isDigit := by
  rcases mantissa.cases_point with ⟨isDigits, -⟩ | ⟨whole, fraction, rfl, isDigits, -⟩
  · obtain ⟨char, member⟩ := List.exists_mem_of_ne_nil _ isDigits.nonempty
    exact ⟨char, member, isDigits.isDigit char member⟩
  · obtain ⟨char, member⟩ := List.exists_mem_of_ne_nil _ isDigits.nonempty
    refine ⟨char, ?_, isDigits.isDigit char member⟩
    simp only [List.mem_append, List.mem_cons] at member ⊢
    exact member.imp_right .inr

/-! ### Reading the exponent -/

theorem isExponentMark_iff {char : Char} :
    Decimal.isExponentMark char ↔ char = 'e' ∨ char = 'E' := by
  simp [Decimal.isExponentMark]

theorem Exponent.isMark (isExponent : Exponent power exponent) :
    ∀ char ∈ power.head?, Decimal.isExponentMark char := by
  cases isExponent with
  | none => nofun
  | marked isMark =>
      intro char first
      cases first
      exact isExponentMark_iff.mpr isMark

theorem readExponent?_append_eq_some_iff (front : ∀ char ∈ text, !Decimal.isExponentMark char)
    (starts : ∀ char ∈ power.head?, Decimal.isExponentMark char) :
    Decimal.readExponent? (text ++ power) = some exponent ↔ Exponent power exponent := by
  have span := span_append front power fun char first => by simp [starts char first]
  rw [Decimal.readExponent?, span.2]
  constructor
  · intro found
    cases power with
    | nil =>
        cases found
        exact .none
    | cons mark text =>
        exact .marked (isExponentMark_iff.mp (starts mark rfl)) (readInteger?_eq_some_iff.mp found)
  · intro isExponent
    cases isExponent with
    | none => rfl
    | marked _ numeral => exact readInteger?_eq_some_iff.mpr numeral

/-! ### Reading the numeral -/

theorem Mantissa.not_isExponentMark (mantissa : Mantissa text number) :
    ∀ char ∈ text, !Decimal.isExponentMark char := by
  intro char member
  cases isMark : Decimal.isExponentMark char with
  | false => rfl
  | true =>
      have plain := mantissa.isDigit_or char member
      rcases isExponentMark_iff.mp isMark with rfl | rfl <;> exact absurd plain (by decide)

theorem Mantissa.unsigned (mantissa : Mantissa text number) (power : List Char) :
    ∀ char ∈ (text ++ power).head?, char ≠ '+' ∧ char ≠ '-' := by
  intro char first
  obtain ⟨digit, member, -⟩ := mantissa.exists_isDigit
  rw [List.head?_append_of_ne_nil _ (List.ne_nil_of_mem member)] at first
  rcases mantissa.isDigit_or char (List.mem_of_mem_head? first) with digit | rfl
  · exact ne_sign_of_isDigit digit
  · decide

theorem Decimal.read?_eq_some_iff {decimal : Decimal} : Decimal.read? token = some decimal ↔
    ∃ significand places exponent,
      readMantissa? ((splitSign token).2.takeWhile fun char => !isExponentMark char) =
          some (significand, places) ∧
        readExponent? (splitSign token).2 = some exponent ∧
          decimal = ⟨(splitSign token).1, significand, exponent - places⟩ := by
  rw [read?]
  cases splitSign token with
  | mk negative unsigned =>
      dsimp only
      cases readMantissa? (unsigned.takeWhile fun char => !isExponentMark char) with
      | none => simp
      | some mantissa =>
          obtain ⟨significand, places⟩ := mantissa
          cases readExponent? unsigned with
          | none => simp
          | some exponent =>
              simp only [Option.bind_eq_bind, Option.bind_some, Option.pure_def, Option.some.injEq]
              constructor
              · rintro rfl
                exact ⟨significand, places, exponent, rfl, rfl, rfl⟩
              · rintro ⟨_, _, _, same, rfl, rfl⟩
                cases same
                rfl

theorem Decimal.exact_eq (negative : Bool) (significand places : Nat) (exponent : Int) :
    Decimal.exact ⟨negative, significand, exponent - places⟩ =
      (significand : ℚ) / 10 ^ places * 10 ^ exponent := by
  rw [exact, zpow_sub₀ (by norm_num), zpow_natCast, div_mul_eq_mul_div, mul_div_assoc]

theorem exists_decimal (numeral : DecimalNumeral token negative exact) :
    ∃ decimal ∈ Decimal.read? token, decimal.negative = negative ∧ decimal.exact = exact := by
  cases numeral with
  | @signed sign mantissa power negative number exponent isSign isMantissa isExponent =>
      have split := splitSign_append isSign (isMantissa.unsigned power)
      have front := isMantissa.not_isExponentMark
      have span := span_append front power fun char first => by
        simp [isExponent.isMark char first]
      obtain ⟨significand, places, found, rfl⟩ := mantissa_iff.mp isMantissa
      refine ⟨⟨negative, significand, exponent - places⟩, ?_, rfl, Decimal.exact_eq ..⟩
      apply Decimal.read?_eq_some_iff.mpr
      rw [split, span.1]
      exact ⟨_, _, _, found,
        (readExponent?_append_eq_some_iff front isExponent.isMark).mpr isExponent, rfl⟩

theorem decimalNumeral_of_read? {decimal : Decimal} (found : Decimal.read? token = some decimal) :
    DecimalNumeral token decimal.negative decimal.exact := by
  obtain ⟨sign, isSign, split⟩ := exists_sign token
  obtain ⟨significand, places, exponent, isMantissa, isExponent, rfl⟩ :=
    Decimal.read?_eq_some_iff.mp found
  generalize splitSign token = signed at isSign split isMantissa isExponent ⊢
  obtain ⟨mantissa, power, unsigned, front, starts⟩ :=
    exists_span (fun char => !Decimal.isExponentMark char) signed.2
  rw [unsigned] at split isMantissa isExponent
  rw [(span_append front power starts).1] at isMantissa
  rw [Decimal.exact_eq, split]
  apply DecimalNumeral.signed isSign
  · exact mantissa_iff.mpr ⟨significand, places, isMantissa, rfl⟩
  · apply (readExponent?_append_eq_some_iff front _).mp isExponent
    intro char first
    simpa using starts char first

theorem isSome_read?_iff : (Decimal.read? token).isSome ↔
    ∃ negative exact, DecimalNumeral token negative exact := by
  constructor
  · intro isSome
    obtain ⟨decimal, found⟩ := Option.isSome_iff_exists.mp isSome
    exact ⟨_, _, decimalNumeral_of_read? found⟩
  · rintro ⟨negative, exact, numeral⟩
    obtain ⟨decimal, found, -⟩ := exists_decimal numeral
    exact Option.isSome_iff_exists.mpr ⟨decimal, found⟩

/-- What a token is read as is the decimal that it writes, rounded to the format. -/
theorem readsAs_iff {format : Format} (moderate : format.Moderate) {number : Number} :
    format.ReadsAs token number ↔
      ∃ decimal ∈ Decimal.read? token, number = decimal.toNumber format := by
  constructor
  · rintro ⟨negative, exact, numeral, rounds⟩
    obtain ⟨decimal, found, rfl, rfl⟩ := exists_decimal numeral
    have precise := moderate.precise
    exact ⟨decimal, found, rounds.unique (by omega) (Decimal.toNumber_roundsTo moderate decimal)⟩
  · rintro ⟨decimal, found, rfl⟩
    exact ⟨_, _, decimalNumeral_of_read? found, Decimal.toNumber_roundsTo moderate decimal⟩

theorem Exponent.solid (isExponent : Exponent power exponent) : ∀ char ∈ power, isSolid char := by
  cases isExponent with
  | none => exact fun _ nothing => nomatch nothing
  | marked isMark numeral =>
      refine List.forall_mem_cons.mpr ⟨?_, numeral.solid⟩
      rcases isMark with rfl | rfl <;> rfl

/-- Decimal numerals are words. -/
theorem DecimalNumeral.isWord (numeral : DecimalNumeral token negative exact) : isWord token := by
  obtain ⟨isSign, isMantissa, isExponent⟩ := numeral
  obtain ⟨digit, member, _⟩ := isMantissa.exists_isDigit
  have nonempty := List.ne_nil_of_mem member
  have mantissaSolid : ∀ char ∈ _, isSolid char := fun char among => by
    rcases isMantissa.isDigit_or char among with digit | rfl
    · exact isSolid_of_isDigit digit
    · rfl
  have solid := List.forall_mem_append.mpr
    ⟨isSign.solid, List.forall_mem_append.mpr ⟨mantissaSolid, isExponent.solid⟩⟩
  rw [Text.isWord, Bool.and_eq_true, List.all_eq_true]
  exact ⟨by simp [nonempty], solid⟩

/-! ### Names of special values -/

theorem DecimalNumeral.exists_isDigit (numeral : DecimalNumeral token negative exact) :
    ∃ char ∈ token, char.isDigit := by
  cases numeral with
  | signed isSign isMantissa isExponent =>
      obtain ⟨char, member, digit⟩ := isMantissa.exists_isDigit
      exact ⟨char, List.mem_append_right _ (List.mem_append_left _ member), digit⟩

theorem toLower_of_isDigit {char : Char} (digit : char.isDigit) : char.toLower = char := by
  have range : 48 ≤ char.val.toNat ∧ char.val.toNat ≤ 57 := by
    simpa [Char.isDigit, UInt32.le_iff_toNat_le] using digit
  apply dif_neg
  simp only [ge_iff_le, UInt32.le_iff_toNat_le, not_and]
  intro upper
  have upper : 65 ≤ char.val.toNat := upper
  omega

/-- Numerals have digits, but the names of special values have none, whatever their case. -/
theorem not_decimalNumeral_of_name {name : List Char} (isSign : Sign sign negative)
    (special : String.ofList (name.map Char.toLower) ∈ ["inf", "infinity", "nan"]) :
    ¬ ∃ negative exact, DecimalNumeral (sign ++ name) negative exact := by
  rintro ⟨negative, exact, numeral⟩
  obtain ⟨char, member, digit⟩ := numeral.exists_isDigit
  rcases List.mem_append.mp member with signed | named
  · cases isSign with
    | none => cases signed
    | plus | minus =>
        rw [List.mem_singleton.mp signed] at digit
        exact absurd digit (by decide)
  · have lower : char ∈ name.map Char.toLower := by
      rw [← toLower_of_isDigit digit]
      exact List.mem_map_of_mem named
    have letters : ["inf", "infinity", "nan"].all fun word =>
        word.toList.all fun char => !char.isDigit := by decide
    have letter := List.all_eq_true.mp (List.all_eq_true.mp letters _ special) char
      (by rwa [String.toList_ofList])
    simp [digit] at letter

/-! ### The order of numbers -/

namespace Number

def signed (negative : Bool) (number : ℚ) : ℚ :=
  if negative then -number else number

/-- This is the place of a number on the real line with its two ends. -/
def value? : Number → Option (WithBotTop ℚ)
  | .nan => none
  | .infinite true => some ⊥
  | .infinite false => some ⊤
  | .finite negative significand exponent =>
      some (WithBotTop.coe (signed negative (magnitude significand exponent)))

/-- A number that has no place on the real line is neither below nor above another. -/
def Below (number other : Number) : Prop :=
  ∃ value ∈ number.value?, ∃ otherValue ∈ other.value?, value < otherValue

theorem cast_scaled (negative : Bool) (significand : Nat) (shift : Int) :
    (scaled negative significand shift : ℚ) =
      signed negative ((significand * 2 ^ shift.toNat : Nat)) := by
  cases negative <;> simp [scaled, signed]

theorem signed_mul (negative : Bool) (number factor : ℚ) :
    signed negative (number * factor) = signed negative number * factor := by
  cases negative <;> simp [signed]

theorem signed_magnitude {common exponent : Int} (le : common ≤ exponent) (negative : Bool)
    (significand : Nat) : signed negative (magnitude significand exponent) =
      scaled negative significand (exponent - common) * 2 ^ common := by
  rw [magnitude_shift le, cast_scaled, ← signed_mul, magnitude]

/-- The order of the formats is that of the real line. -/
theorem less_iff (number other : Number) : number.less other ↔ number.Below other := by
  have bottom (value : ℚ) : ⊥ < WithBotTop.coe value :=
    bot_lt_iff_ne_bot.mpr (WithBotTop.coe_ne_bot value)
  have top (value : ℚ) : WithBotTop.coe value < ⊤ :=
    lt_top_iff_ne_top.mpr (WithBotTop.coe_ne_top value)
  cases number with
  | nan => simp [less, Below, value?]
  | infinite negative =>
      cases other with
      | nan => cases negative <;> simp [less, Below, value?]
      | infinite otherNegative =>
          cases negative <;> cases otherNegative <;> simp [less, Below, value?]
      | finite => cases negative <;> simp [less, Below, value?, bottom]
  | finite negative significand exponent =>
      cases other with
      | nan => simp [less, Below, value?]
      | infinite otherNegative => cases otherNegative <;> simp [less, Below, value?, top]
      | finite otherNegative otherSignificand otherExponent =>
          have scale : (0 : ℚ) < 2 ^ (min exponent otherExponent) := by positivity
          simp only [less, Below, value?, decide_eq_true_eq, Option.mem_some_iff, exists_eq_left',
            WithBotTop.coe_lt_coe]
          rw [signed_magnitude (min_le_left exponent otherExponent),
            signed_magnitude (min_le_right exponent otherExponent), mul_lt_mul_iff_left₀ scale,
            Int.cast_lt]

theorem less_eq_false_iff {number other : Number} :
    number.less other = false ↔ ¬ number.Below other := by
  rw [← less_iff, Bool.not_eq_true]

end Number

end Binary

namespace Argument

/-! ### Kinds of numbers with a fraction -/

/-- A number is finite and neither below the least bound nor above the greatest. -/
structure FiniteWithin (least greatest : Option Number) (number : Number) : Prop where
  isFinite : number.isFinite
  least : ∀ bound ∈ least, ¬ number.Below bound
  greatest : ∀ bound ∈ greatest, ¬ bound.Below number

variable {type : NumberType} {format : Format} {token : List Char} {number : Number}
  {least greatest : Option Number}

theorem finiteWithin_iff : FiniteWithin least greatest number ↔
    number.isFinite ∧ Within Number.less least greatest number := by
  constructor
  · intro within
    refine ⟨within.isFinite, ⟨?_, ?_⟩⟩
    · simpa only [Number.less_eq_false_iff] using within.least
    · simpa only [Number.less_eq_false_iff] using within.greatest
  · intro within
    refine ⟨within.1, ?_, ?_⟩
    · simpa only [Number.less_eq_false_iff] using within.2.least
    · simpa only [Number.less_eq_false_iff] using within.2.greatest

theorem readDecimal_of_readsAs (moderate : format.Moderate) (reads : format.ReadsAs token number) :
    readDecimal type format token =
      if number.isFinite then .ok number else .error (.doesNotFit type (String.ofList token)) := by
  obtain ⟨decimal, found, rfl⟩ := (readsAs_iff moderate).mp reads
  rw [readDecimal, found]

theorem readDecimal_of_not_numeral
    (other : ¬ ∃ negative exact, DecimalNumeral token negative exact) :
    readDecimal type format token = .error (.notANumber type (String.ofList token)) := by
  rw [← isSome_read?_iff, Option.not_isSome_iff_eq_none] at other
  rw [readDecimal, other]

/-- All kinds that read the nearest numbers of some format in this way decode the numerals of
numbers that round to a finite one within the bounds. -/
theorem Kind.decodesNumbers_decimal {kind : Kind} {toValue : Number → Value}
    {write : Number → String} (moderate : format.Moderate) (notPhrase : kind ≠ .phrase)
    (notRemainder : kind ≠ .remainder)
    (ofWord : ∀ token, kind.ofWord token =
      (do toValue <$> checkBounds type Number.less write least greatest
            (← readDecimal type format token))) :
    kind.DecodesNumbers (fun token => ∃ negative exact, DecimalNumeral token negative exact)
      format.ReadsAs (FiniteWithin least greatest) toValue := by
  have numeral_iff : ∀ token, (∃ negative exact, DecimalNumeral token negative exact) ↔
      ∃ number, format.ReadsAs token number := by
    intro token
    constructor
    · rintro ⟨negative, exact, numeral⟩
      obtain ⟨decimal, found, -⟩ := exists_decimal numeral
      exact ⟨_, (readsAs_iff moderate).mpr ⟨decimal, found, rfl⟩⟩
    · rintro ⟨number, negative, exact, numeral, -⟩
      exact ⟨negative, exact, numeral⟩
  apply decodesNumbers_of_outcome numeral_iff
  · intro token number other reads otherReads
    obtain ⟨decimal, found, rfl⟩ := (readsAs_iff moderate).mp reads
    obtain ⟨otherDecimal, otherFound, rfl⟩ := (readsAs_iff moderate).mp otherReads
    rw [Option.mem_unique found otherFound]
  · apply outcome_of_ofWord numeral_iff notPhrase notRemainder
    · intro token number reads within
      obtain ⟨isFinite, within⟩ := finiteWithin_iff.mp within
      rw [ofWord]
      apply bind_checkBounds_of_within _ within
      rw [readDecimal_of_readsAs moderate reads, if_pos isFinite]
    · intro token number reads refused
      rw [finiteWithin_iff, not_and] at refused
      rw [ofWord]
      by_cases isFinite : number.isFinite
      · apply exists_fault_of_bind_checkBounds _ (refused isFinite)
        rw [readDecimal_of_readsAs moderate reads, if_pos isFinite]
      · rw [readDecimal_of_readsAs moderate reads, if_neg isFinite]
        exact ⟨_, rfl, rfl⟩
    · intro token other
      rw [ofWord, readDecimal_of_not_numeral other]
      exact ⟨_, rfl, rfl⟩

/-- Exactly the decimal numerals are read, and the names of special values are none. Each numeral is
rounded to the format of the kind; it is decoded if the result is finite and violates no bound, and
is out of bounds otherwise. Other words are not numbers. -/
theorem decodes_decimals :
    (∀ token, (Decimal.read? token).isSome ↔
      ∃ negative exact, DecimalNumeral token negative exact) ∧
    (∀ least greatest, (Kind.float least greatest).DecodesNumbers
      (fun token => ∃ negative exact, DecimalNumeral token negative exact)
        binary32.ReadsAs (FiniteWithin least greatest) .float) ∧
    (∀ least greatest, (Kind.double least greatest).DecodesNumbers
      (fun token => ∃ negative exact, DecimalNumeral token negative exact)
        binary64.ReadsAs (FiniteWithin least greatest) .double) ∧
    ∀ (sign name : List Char) (negative : Bool), Sign sign negative →
      String.ofList (name.map Char.toLower) ∈ ["inf", "infinity", "nan"] →
        ¬ ∃ negative exact, DecimalNumeral (sign ++ name) negative exact := by
  refine ⟨fun _ => isSome_read?_iff, fun least greatest => ?_, fun least greatest => ?_, ?_⟩
  · exact Kind.decodesNumbers_decimal moderate_binary32 nofun nofun fun _ => rfl
  · exact Kind.decodesNumbers_decimal moderate_binary64 nofun nofun fun _ => rfl
  · exact fun sign name negative => not_decimalNumeral_of_name

/-- A power of ten is beyond the greatest float but is a double, which is decoded also where no
greater number is allowed. -/
theorem decodes_power_of_ten :
    let cursor := Cursor.mk ['é'] "1e39 x".toList
    let double := Number.finite false 6617444900424221 77
    (∃ float, binary32.ReadsAs cursor.word float ∧ ¬ FiniteWithin none none float) ∧
      binary64.ReadsAs cursor.word double ∧ FiniteWithin none (some double) double ∧
      Sign ['-'] true ∧ String.ofList ("iNf".toList.map Char.toLower) ∈ ["inf", "infinity", "nan"] ∧
      ¬ ∃ negative exact, DecimalNumeral "-iNf".toList negative exact := by
  intro cursor double
  obtain ⟨-, floats, doubles, names⟩ := decodes_decimals
  have tooGreat : (Kind.float none none).decode cursor =
      (.error ⟨.doesNotFit .float "1e39", 2⟩, cursor) := by decide +kernel
  have decoded : (Kind.double none (some double)).decode cursor =
      (.ok (.double double), cursor.skipWord) := by decide +kernel
  obtain ⟨other, reads, within, same, -⟩ :=
    ((doubles none (some double)).ok_iff _ _ _).mp decoded
  cases same
  have special : String.ofList ("iNf".toList.map Char.toLower) ∈ ["inf", "infinity", "nan"] := by
    decide
  have refused := ((floats none none).outOfBounds_iff cursor).mp ⟨_, _, tooGreat, rfl⟩
  exact ⟨refused, reads, within, .minus, special, names ['-'] _ true .minus special⟩

end Argument

end CommandShell
