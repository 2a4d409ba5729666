/-
This file says which tokens are whole numerals, and that the kinds of whole numbers decode just
those that write a number of their width and within their bounds.
-/

import CommandShell.Proofs.Reading

namespace CommandShell

open Argument Binary Text

/-! ### Whole numerals -/

namespace Binary

/-- All digits are those of ASCII, and there is at least one. -/
structure IsDigits (text : List Char) : Prop where
  nonempty : text ≠ []
  isDigit : ∀ char ∈ text, char.isDigit

/-- A numeral may start with a sign, which says whether the number is negative. -/
inductive Sign : List Char → Bool → Prop where
  | none : Sign [] false
  | plus : Sign ['+'] false
  | minus : Sign ['-'] true

def withSign (negative : Bool) (magnitude : Nat) : Int :=
  if negative then -magnitude else magnitude

/-- A whole numeral is a run of digits behind an optional sign. -/
inductive WholeNumeral : List Char → Int → Prop where
  | signed {sign digits : List Char} {negative : Bool} (isSign : Sign sign negative)
      (isDigits : IsDigits digits) :
      WholeNumeral (sign ++ digits) (withSign negative (Nat.ofDigitChars 10 digits 0))

variable {sign text digits token : List Char} {negative : Bool} {value other : Int}

theorem splitSign_append (isSign : Sign sign negative)
    (unsigned : ∀ char ∈ text.head?, char ≠ '+' ∧ char ≠ '-') :
    splitSign (sign ++ text) = (negative, text) := by
  cases isSign with
  | plus => rfl
  | minus => rfl
  | none =>
      cases text with
      | nil => rfl
      | cons first rest =>
          obtain ⟨notPlus, notMinus⟩ := unsigned first rfl
          simp [splitSign, notPlus, notMinus]

theorem exists_sign (token : List Char) :
    ∃ sign, Sign sign (splitSign token).1 ∧ token = sign ++ (splitSign token).2 := by
  unfold splitSign
  split
  · exact ⟨_, .minus, rfl⟩
  · exact ⟨_, .plus, rfl⟩
  · exact ⟨_, .none, rfl⟩

theorem ne_sign_of_isDigit {char : Char} (digit : char.isDigit) : char ≠ '+' ∧ char ≠ '-' := by
  constructor <;> rintro rfl <;> exact absurd digit (by decide)

theorem IsDigits.unsigned (isDigits : IsDigits digits) :
    ∀ char ∈ digits.head?, char ≠ '+' ∧ char ≠ '-' := by
  intro char first
  exact ne_sign_of_isDigit (isDigits.isDigit char (List.mem_of_mem_head? first))

theorem isDigits_iff : (!digits.isEmpty && digits.all Char.isDigit) ↔ IsDigits digits := by
  simp only [Bool.and_eq_true, Bool.not_eq_true', List.isEmpty_eq_false_iff, List.all_eq_true]
  exact ⟨fun both => ⟨both.1, both.2⟩, fun isDigits => ⟨isDigits.nonempty, isDigits.isDigit⟩⟩

theorem readDigits?_of_isDigits (isDigits : IsDigits digits) :
    readDigits? digits = some (Nat.ofDigitChars 10 digits 0) := by
  have same : digitsValue digits = Nat.ofDigitChars 10 digits 0 := Nat.ofDigitChars_eq_foldl.symm
  rw [readDigits?, if_pos (isDigits_iff.mpr isDigits), same]

theorem readDigits?_of_not_isDigits (refused : ¬ IsDigits digits) : readDigits? digits = none := by
  rw [readDigits?, if_neg (mt isDigits_iff.mp refused)]

theorem readInteger?_eq (token : List Char) : readInteger? token =
    (readDigits? (splitSign token).2).map (withSign (splitSign token).1) := by
  unfold readInteger?
  cases (splitSign token) with
  | mk negative digits =>
      dsimp only
      cases readDigits? digits <;> rfl

theorem readInteger?_eq_some_iff : readInteger? token = some value ↔ WholeNumeral token value := by
  rw [readInteger?_eq]
  constructor
  · intro found
    obtain ⟨sign, isSign, split⟩ := exists_sign token
    by_cases isDigits : IsDigits (splitSign token).2
    · rw [readDigits?_of_isDigits isDigits] at found
      cases found
      have numeral := WholeNumeral.signed isSign isDigits
      rwa [← split] at numeral
    · rw [readDigits?_of_not_isDigits isDigits] at found
      cases found
  · rintro ⟨isSign, isDigits⟩
    rw [splitSign_append isSign isDigits.unsigned, readDigits?_of_isDigits isDigits]
    rfl

theorem WholeNumeral.unique (first : WholeNumeral token value) (second : WholeNumeral token other) :
    value = other := by
  have found := readInteger?_eq_some_iff.mpr first
  rw [readInteger?_eq_some_iff.mpr second] at found
  exact Option.some.inj found.symm

theorem isDigits_toDigits (number : Nat) : IsDigits (Nat.toDigits 10 number) where
  nonempty := Nat.toDigits_ne_nil
  isDigit _ := Nat.isDigit_of_mem_toDigits (by decide) (by decide)

/-- The decimal text of a number is a numeral of the number. -/
theorem wholeNumeral_toString (value : Int) : WholeNumeral (toString value).toList value := by
  cases value with
  | ofNat magnitude =>
      have numeral := WholeNumeral.signed .none (isDigits_toDigits magnitude)
      rw [Nat.ofDigitChars_ten_toDigits] at numeral
      have text : (toString (Int.ofNat magnitude)).toList = Nat.toDigits 10 magnitude := by
        show magnitude.repr.toList = _
        simp [Nat.repr_eq_ofList_toDigits]
      rw [text]
      exact numeral
  | negSucc less =>
      have numeral := WholeNumeral.signed .minus (isDigits_toDigits (less + 1))
      rw [Nat.ofDigitChars_ten_toDigits] at numeral
      have text : (toString (Int.negSucc less)).toList = '-' :: Nat.toDigits 10 (less + 1) := by
        show ("-" ++ (less + 1).repr).toList = _
        simp [Nat.repr_eq_ofList_toDigits]
      rw [text]
      exact numeral

end Binary

/-! ### Numbers within bounds -/

namespace Argument

section Bounds

variable {α : Type} {type : NumberType} {less : α → α → Bool} {write : α → String}
  {least greatest : Option α} {value : α}

/-- A number lies neither below the least bound nor above the greatest. -/
structure Within (less : α → α → Bool) (least greatest : Option α) (value : α) : Prop where
  least : ∀ bound ∈ least, less value bound = false
  greatest : ∀ bound ∈ greatest, less bound value = false

theorem checkBounds_of_within (within : Within less least greatest value) :
    checkBounds type less write least greatest value = .ok value := by
  have above : least.filter (less value) = none :=
    Option.filter_eq_none_iff.mpr fun bound member => by simp [within.least bound member]
  have below : greatest.filter (less · value) = none :=
    Option.filter_eq_none_iff.mpr fun bound member => by simp [within.greatest bound member]
  simp only [checkBounds, above, below]

theorem exists_fault_of_not_within (outside : ¬ Within less least greatest value) :
    ∃ fault, checkBounds type less write least greatest value = .error fault ∧
      fault.kind = .outOfBounds := by
  unfold checkBounds
  cases below : least.filter (less value) with
  | some bound => exact ⟨_, rfl, rfl⟩
  | none =>
      cases above : greatest.filter (less · value) with
      | some bound => exact ⟨_, rfl, rfl⟩
      | none =>
          refine absurd ⟨fun bound member => ?_, fun bound member => ?_⟩ outside
          · simpa using Option.filter_eq_none_iff.mp below bound member
          · simpa using Option.filter_eq_none_iff.mp above bound member

/-- What has been read is taken if it lies within the bounds. -/
theorem bind_checkBounds_of_within {read : Except Fault α} {toValue : α → Value}
    (found : read = .ok value) (within : Within less least greatest value) :
    (do toValue <$> checkBounds type less write least greatest (← read)) =
      .ok (toValue value) := by
  subst found
  show toValue <$> checkBounds type less write least greatest value = _
  rw [checkBounds_of_within within]
  rfl

theorem exists_fault_of_bind_checkBounds {read : Except Fault α} {toValue : α → Value}
    (found : read = .ok value) (outside : ¬ Within less least greatest value) :
    ∃ fault, (do toValue <$> checkBounds type less write least greatest (← read)) =
      .error fault ∧ fault.kind = .outOfBounds := by
  subst found
  obtain ⟨fault, fails, kind⟩ : ∃ fault,
      checkBounds type less write least greatest value = .error fault ∧ fault.kind = .outOfBounds :=
    exists_fault_of_not_within outside
  refine ⟨fault, ?_, kind⟩
  show toValue <$> checkBounds type less write least greatest value = _
  rw [fails]
  rfl

end Bounds

namespace Kind

variable {kind : Kind} {cursor : Cursor} {value : Value} {fault : Fault}

theorem decode_of_ofWord (notPhrase : kind ≠ .phrase) (notRemainder : kind ≠ .remainder)
    (reads : kind.ofWord cursor.word = .ok value) :
    kind.decode cursor = (.ok value, cursor.skipWord) := by
  rw [decode_eq_ok_iff, read_eq_readWord notPhrase notRemainder, readWord, reads]

/-- A word that cannot be read is reported where it starts, and the cursor goes back there. -/
theorem decode_of_ofWord_error (notPhrase : kind ≠ .phrase) (notRemainder : kind ≠ .remainder)
    (fails : kind.ofWord cursor.word = .error fault) :
    kind.decode cursor = (.error ⟨fault, cursor.offset⟩, cursor) := by
  have back := Cursor.moveTo_offset cursor.reaches_skipWord.line_eq
  rw [decode, read_eq_readWord notPhrase notRemainder, readWord, fails]
  simp [back]

section Outcomes

variable {α : Type} {IsNumeral : List Char → Prop} {Denotes : List Char → α → Prop}
  {Allowed : α → Prop} {toValue : α → Value}

/-- A word is a numeral of a number that is allowed or not, or it is no numeral. -/
inductive Outcome (IsNumeral : List Char → Prop) (Denotes : List Char → α → Prop)
    (Allowed : α → Prop) (toValue : α → Value) (cursor : Cursor) :
    Except DecodeError Value × Cursor → Prop where
  | number {number : α} (denotes : Denotes cursor.word number) (allowed : Allowed number) :
      Outcome IsNumeral Denotes Allowed toValue cursor (.ok (toValue number), cursor.skipWord)
  | outOfBounds {number : α} {fault : Fault} (denotes : Denotes cursor.word number)
      (refused : ¬ Allowed number) (kind : fault.kind = .outOfBounds) :
      Outcome IsNumeral Denotes Allowed toValue cursor (.error ⟨fault, cursor.offset⟩, cursor)
  | notANumber {fault : Fault} (other : ¬ IsNumeral cursor.word)
      (kind : fault.kind = .notANumber) :
      Outcome IsNumeral Denotes Allowed toValue cursor (.error ⟨fault, cursor.offset⟩, cursor)

/-- A kind decodes the words that are numerals of the numbers that it allows. Another word is not a
number, and another number is out of bounds; both are reported where the word starts. -/
structure DecodesNumbers (kind : Kind) (IsNumeral : List Char → Prop)
    (Denotes : List Char → α → Prop) (Allowed : α → Prop) (toValue : α → Value) : Prop where
  ok_iff : ∀ cursor value left, kind.decode cursor = (.ok value, left) ↔
    ∃ number, Denotes cursor.word number ∧ Allowed number ∧ value = toValue number ∧
      left = cursor.skipWord
  notANumber_iff : ∀ cursor, (∃ error left, kind.decode cursor = (.error error, left) ∧
    error.fault.kind = .notANumber) ↔ ¬ IsNumeral cursor.word
  outOfBounds_iff : ∀ cursor, (∃ error left, kind.decode cursor = (.error error, left) ∧
    error.fault.kind = .outOfBounds) ↔ ∃ number, Denotes cursor.word number ∧ ¬ Allowed number
  failure : ∀ cursor error left, kind.decode cursor = (.error error, left) →
    left = cursor ∧ error.position = cursor.offset ∧
      (error.fault.kind = .notANumber ∨ error.fault.kind = .outOfBounds)

variable (numeral_iff : ∀ token, IsNumeral token ↔ ∃ number, Denotes token number)

include numeral_iff

theorem outcome_of_ofWord (notPhrase : kind ≠ .phrase) (notRemainder : kind ≠ .remainder)
    (reads : ∀ token number, Denotes token number → Allowed number →
      kind.ofWord token = .ok (toValue number))
    (exceeds : ∀ token number, Denotes token number → ¬ Allowed number →
      ∃ fault, kind.ofWord token = .error fault ∧ fault.kind = .outOfBounds)
    (rejects : ∀ token, ¬ IsNumeral token →
      ∃ fault, kind.ofWord token = .error fault ∧ fault.kind = .notANumber) (cursor : Cursor) :
    Outcome IsNumeral Denotes Allowed toValue cursor (kind.decode cursor) := by
  by_cases numeral : IsNumeral cursor.word
  · obtain ⟨number, denotes⟩ := (numeral_iff _).mp numeral
    by_cases allowed : Allowed number
    · rw [decode_of_ofWord notPhrase notRemainder (reads _ _ denotes allowed)]
      exact .number denotes allowed
    · obtain ⟨fault, fails, outOfBounds⟩ := exceeds _ _ denotes allowed
      rw [decode_of_ofWord_error notPhrase notRemainder fails]
      exact .outOfBounds denotes allowed outOfBounds
  · obtain ⟨fault, fails, notANumber⟩ := rejects _ numeral
    rw [decode_of_ofWord_error notPhrase notRemainder fails]
    exact .notANumber numeral notANumber

section Result

variable {result : Except DecodeError Value × Cursor} {left : Cursor}
  (unique : ∀ token number other, Denotes token number → Denotes token other → number = other)
  (outcome : Outcome IsNumeral Denotes Allowed toValue cursor result)

include outcome

include unique in
theorem Outcome.ok_iff : result = (.ok value, left) ↔ ∃ number, Denotes cursor.word number ∧
    Allowed number ∧ value = toValue number ∧ left = cursor.skipWord := by
  constructor
  · intro decoded
    subst decoded
    cases outcome with
    | number denotes allowed => exact ⟨_, denotes, allowed, rfl, rfl⟩
  · rintro ⟨number, denotes, allowed, rfl, rfl⟩
    cases outcome with
    | number otherDenotes => rw [unique _ _ _ denotes otherDenotes]
    | outOfBounds otherDenotes refused =>
        rw [unique _ _ _ denotes otherDenotes] at allowed
        exact absurd allowed refused
    | notANumber other => exact absurd ((numeral_iff _).mpr ⟨number, denotes⟩) other

theorem Outcome.notANumber_iff : (∃ error left, result = (.error error, left) ∧
    error.fault.kind = .notANumber) ↔ ¬ IsNumeral cursor.word := by
  constructor
  · rintro ⟨error, left, rfl, notANumber⟩
    cases outcome with
    | outOfBounds _ _ kind =>
        rw [kind] at notANumber
        cases notANumber
    | notANumber other => exact other
  · intro other
    cases outcome with
    | number denotes => exact absurd ((numeral_iff _).mpr ⟨_, denotes⟩) other
    | outOfBounds denotes => exact absurd ((numeral_iff _).mpr ⟨_, denotes⟩) other
    | notANumber _ kind => exact ⟨_, _, rfl, kind⟩

include unique in
theorem Outcome.outOfBounds_iff : (∃ error left, result = (.error error, left) ∧
    error.fault.kind = .outOfBounds) ↔ ∃ number, Denotes cursor.word number ∧ ¬ Allowed number := by
  constructor
  · rintro ⟨error, left, rfl, outOfBounds⟩
    cases outcome with
    | outOfBounds denotes refused => exact ⟨_, denotes, refused⟩
    | notANumber _ kind =>
        rw [kind] at outOfBounds
        cases outOfBounds
  · rintro ⟨number, denotes, refused⟩
    cases outcome with
    | number otherDenotes allowed =>
        rw [unique _ _ _ denotes otherDenotes] at refused
        exact absurd allowed refused
    | outOfBounds _ _ kind => exact ⟨_, _, rfl, kind⟩
    | notANumber other => exact absurd ((numeral_iff _).mpr ⟨number, denotes⟩) other

omit numeral_iff in
theorem Outcome.failure {error : DecodeError} (failed : result = (.error error, left)) :
    left = cursor ∧ error.position = cursor.offset ∧
      (error.fault.kind = .notANumber ∨ error.fault.kind = .outOfBounds) := by
  subst failed
  cases outcome with
  | outOfBounds _ _ kind => exact ⟨rfl, rfl, .inr kind⟩
  | notANumber _ kind => exact ⟨rfl, rfl, .inl kind⟩

end Result

theorem decodesNumbers_of_outcome
    (unique : ∀ token number other, Denotes token number → Denotes token other → number = other)
    (outcome : ∀ cursor, Outcome IsNumeral Denotes Allowed toValue cursor (kind.decode cursor)) :
    kind.DecodesNumbers IsNumeral Denotes Allowed toValue where
  ok_iff cursor _ _ := (outcome cursor).ok_iff numeral_iff unique
  notANumber_iff cursor := (outcome cursor).notANumber_iff numeral_iff
  outOfBounds_iff cursor := (outcome cursor).outOfBounds_iff numeral_iff unique
  failure cursor _ _ := (outcome cursor).failure

end Outcomes

end Kind

/-! ### Kinds of whole numbers -/

/-- A whole number is allowed if it fits in a number of bits, one of which is the sign, and lies
between the bounds, which are allowed themselves. -/
structure FitsWithin (bits : Nat) (least greatest : Option Int) (number : Int) : Prop where
  fits : -(Nat.pow 2 (bits - 1) : Int) ≤ number ∧ number ≤ Nat.pow 2 (bits - 1) - 1
  least : ∀ bound ∈ least, bound ≤ number
  greatest : ∀ bound ∈ greatest, number ≤ bound

variable {type : NumberType} {bits : Nat} {token : List Char} {number : Int}
  {least greatest : Option Int}

theorem fitsWithin_iff : FitsWithin bits least greatest number ↔
    (-(Nat.pow 2 (bits - 1) : Int) ≤ number ∧ number < Nat.pow 2 (bits - 1)) ∧
      Within (· < ·) least greatest number := by
  constructor
  · rintro ⟨fits, above, below⟩
    exact ⟨⟨fits.1, by omega⟩, by simpa using above, by simpa using below⟩
  · rintro ⟨fits, above, below⟩
    exact ⟨⟨fits.1, by omega⟩, by simpa using above, by simpa using below⟩

theorem readWhole_of_numeral (numeral : WholeNumeral token number) :
    readWhole type bits token =
      if -(Nat.pow 2 (bits - 1) : Int) ≤ number ∧ number < Nat.pow 2 (bits - 1) then .ok number
      else .error (.doesNotFit type (String.ofList token)) := by
  rw [readWhole, readInteger?_eq_some_iff.mpr numeral]
  simp

theorem readWhole_of_not_numeral (other : ¬ ∃ number, WholeNumeral token number) :
    readWhole type bits token = .error (.notANumber type (String.ofList token)) := by
  have nothing : readInteger? token = none := by
    cases found : readInteger? token with
    | none => rfl
    | some number => exact absurd ⟨number, readInteger?_eq_some_iff.mp found⟩ other
  rw [readWhole, nothing]

/-- All kinds that read whole numbers of some width in this way decode the numerals of the numbers
that fit. -/
theorem Kind.decodesNumbers_whole {kind : Kind} {toValue : Int → Value} {write : Int → String}
    (notPhrase : kind ≠ .phrase) (notRemainder : kind ≠ .remainder)
    (ofWord : ∀ token, kind.ofWord token =
      (do toValue <$> checkBounds type (· < ·) write least greatest (← readWhole type bits token))) :
    kind.DecodesNumbers (fun token => ∃ number, WholeNumeral token number) WholeNumeral
      (FitsWithin bits least greatest) toValue := by
  apply decodesNumbers_of_outcome
  · exact fun token => Iff.rfl
  · exact fun token number other => WholeNumeral.unique
  · apply outcome_of_ofWord (fun token => Iff.rfl) notPhrase notRemainder
    · intro token number numeral fits
      obtain ⟨fits, within⟩ := fitsWithin_iff.mp fits
      rw [ofWord]
      apply bind_checkBounds_of_within _ within
      rw [readWhole_of_numeral numeral, if_pos fits]
    · intro token number numeral refused
      rw [fitsWithin_iff, not_and] at refused
      rw [ofWord]
      by_cases fits : -(Nat.pow 2 (bits - 1) : Int) ≤ number ∧ number < Nat.pow 2 (bits - 1)
      · apply exists_fault_of_bind_checkBounds _ (refused fits)
        rw [readWhole_of_numeral numeral, if_pos fits]
      · rw [readWhole_of_numeral numeral, if_neg fits]
        exact ⟨_, rfl, rfl⟩
    · intro token other
      rw [ofWord, readWhole_of_not_numeral other]
      exact ⟨_, rfl, rfl⟩

end Argument

theorem Text.isSolid_of_isDigit {char : Char} (digit : char.isDigit) : isSolid char := by
  have range : 48 ≤ char.toNat ∧ char.toNat ≤ 57 := by
    simpa [Char.isDigit, UInt32.le_iff_toNat_le] using digit
  simp [isSolid, isBlank]
  omega

theorem Binary.Sign.solid {sign : List Char} {negative : Bool} (isSign : Sign sign negative) :
    ∀ char ∈ sign, isSolid char := by
  cases isSign with
  | none => exact fun _ nothing => nomatch nothing
  | plus | minus => exact List.forall_mem_singleton.mpr rfl

theorem Binary.WholeNumeral.solid {token : List Char} {number : Int}
    (numeral : WholeNumeral token number) : ∀ char ∈ token, isSolid char := by
  obtain ⟨isSign, isDigits⟩ := numeral
  refine List.forall_mem_append.mpr ⟨isSign.solid, fun char digit => ?_⟩
  exact isSolid_of_isDigit (isDigits.isDigit char digit)

/-- Whole numerals are words. -/
theorem Binary.WholeNumeral.isWord {token : List Char} {number : Int}
    (numeral : WholeNumeral token number) : isWord token := by
  have solid := numeral.solid
  obtain ⟨_, isDigits⟩ := numeral
  rw [Text.isWord, Bool.and_eq_true, List.all_eq_true]
  exact ⟨by simp [isDigits.nonempty], solid⟩

namespace Argument

theorem Kind.decodesNumbers_integer (least greatest : Option Int) :
    (Kind.integer least greatest).DecodesNumbers (fun token => ∃ number, WholeNumeral token number)
      WholeNumeral (FitsWithin 32 least greatest) .integer :=
  decodesNumbers_whole nofun nofun fun _ => rfl

theorem Kind.decodesNumbers_long (least greatest : Option Int) :
    (Kind.long least greatest).DecodesNumbers (fun token => ∃ number, WholeNumeral token number)
      WholeNumeral (FitsWithin 64 least greatest) .long :=
  decodesNumbers_whole nofun nofun fun _ => rfl

/-- The decimal text of an allowed number is decoded as the number, before any boundary. -/
theorem Kind.DecodesNumbers.decode_toString {kind : Kind} {Allowed : Int → Prop}
    {toValue : Int → Value} {number : Int} {consumed rest : List Char}
    (decodes : kind.DecodesNumbers (fun token => ∃ number, WholeNumeral token number) WholeNumeral
      Allowed toValue)
    (allowed : Allowed number) (boundary : (Cursor.mk consumed rest).atBoundary) :
    kind.decode ⟨consumed, (toString number).toList ++ rest⟩ =
      (.ok (toValue number), ⟨consumed ++ (toString number).toList, rest⟩) := by
  have numeral := wholeNumeral_toString number
  have word := Cursor.word_append numeral.solid boundary
  have left := Cursor.skipWord_append numeral.solid boundary
  apply (decodes.ok_iff _ _ _).mpr
  refine ⟨number, ?_, allowed, rfl, left.symm⟩
  rw [word]
  exact numeral

/-- Kinds of whole numbers decode exactly the numerals of the numbers that fit into their width and
their bounds. So the decimal text of each such number is decoded as this number. -/
theorem decodes_whole_numbers :
    (∀ least greatest, (Kind.integer least greatest).DecodesNumbers
      (fun token => ∃ number, WholeNumeral token number) WholeNumeral
        (FitsWithin 32 least greatest) .integer) ∧
    (∀ least greatest, (Kind.long least greatest).DecodesNumbers
      (fun token => ∃ number, WholeNumeral token number) WholeNumeral
        (FitsWithin 64 least greatest) .long) ∧
    ∀ (least greatest : Option Int) (number : Int) (consumed rest : List Char),
      (Cursor.mk consumed rest).atBoundary →
        let text := (toString number).toList
        (FitsWithin 32 least greatest number →
          (Kind.integer least greatest).decode ⟨consumed, text ++ rest⟩ =
            (.ok (.integer number), ⟨consumed ++ text, rest⟩)) ∧
        (FitsWithin 64 least greatest number →
          (Kind.long least greatest).decode ⟨consumed, text ++ rest⟩ =
            (.ok (.long number), ⟨consumed ++ text, rest⟩)) := by
  refine ⟨Kind.decodesNumbers_integer, Kind.decodesNumbers_long, ?_⟩
  intro least greatest number consumed rest boundary text
  constructor
  · intro fits
    exact (Kind.decodesNumbers_integer least greatest).decode_toString fits boundary
  · intro fits
    exact (Kind.decodesNumbers_long least greatest).decode_toString fits boundary

/-- The least numbers of both widths are decoded, also where no other number is allowed. -/
theorem decodes_least_numbers :
    let rest := " px".toList
    let short : Int := -2147483648
    let wide : Int := -9223372036854775808
    (Cursor.mk ['é'] rest).atBoundary ∧ FitsWithin 32 none (some short) short ∧
      FitsWithin 64 none (some wide) wide ∧
      (Kind.integer none (some short)).decode ⟨['é'], "-2147483648".toList ++ rest⟩ =
        (.ok (.integer short), ⟨['é'] ++ "-2147483648".toList, rest⟩) ∧
      (Kind.long none (some wide)).decode ⟨['é'], "-9223372036854775808".toList ++ rest⟩ =
        (.ok (.long wide), ⟨['é'] ++ "-9223372036854775808".toList, rest⟩) := by
  intro rest short wide
  have boundary : (Cursor.mk ['é'] rest).atBoundary := by decide
  have shortFits : FitsWithin 32 none (some short) short := by
    constructor <;> simp [short]
  have wideFits : FitsWithin 64 none (some wide) wide := by
    constructor <;> simp [wide]
  have shortText : (toString short).toList = "-2147483648".toList := by decide
  have wideText : (toString wide).toList = "-9223372036854775808".toList := by decide
  have decodes := decodes_whole_numbers.2.2
  have shortDecoded := (decodes _ _ short ['é'] rest boundary).1 shortFits
  have wideDecoded := (decodes _ _ wide ['é'] rest boundary).2 wideFits
  rw [shortText] at shortDecoded
  rw [wideText] at wideDecoded
  exact ⟨boundary, shortFits, wideFits, shortDecoded, wideDecoded⟩

end Argument

end CommandShell
