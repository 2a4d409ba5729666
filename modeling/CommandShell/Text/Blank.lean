/-
This file says which characters separate the words of a line.
-/

namespace CommandShell.Text

/-- This is the Unicode property `White_Space`. -/
def isBlank (char : Char) : Bool :=
  let code := char.toNat
  (9 ≤ code && code ≤ 13) || code == 0x20 || code == 0x85 || code == 0xa0 || code == 0x1680 ||
    (0x2000 ≤ code && code ≤ 0x200a) || code == 0x2028 || code == 0x2029 || code == 0x202f ||
    code == 0x205f || code == 0x3000

def isSolid (char : Char) : Bool :=
  !isBlank char

theorem not_isSolid_of_isBlank {char : Char} (blank : isBlank char) : ¬ isSolid char := by
  simp [isSolid, blank]

/-- This is the text from its first character that is not blank. -/
def trimStart (text : List Char) : List Char :=
  text.dropWhile isBlank

def trim (text : List Char) : List Char :=
  (trimStart (trimStart text).reverse).reverse

/-- A word can be typed without quotes: it is not empty and holds no blank. -/
def isWord (text : List Char) : Bool :=
  !text.isEmpty && text.all isSolid

theorem solid_of_isWord {text : List Char} (word : isWord text) : ∀ char ∈ text, isSolid char := by
  rw [isWord, Bool.and_eq_true] at word
  exact List.all_eq_true.mp word.2

theorem ne_nil_of_isWord {text : List Char} (word : isWord text) : text ≠ [] := by
  rintro rfl
  cases word

end CommandShell.Text
