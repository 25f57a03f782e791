import Typeset.Json.Value

/-!
# Written texts

Whatever a text is made of, it is read as it has been written.  The reader goes character by
character, and so does the argument: if the rest is read as a text, then the written character
before it is read as the character and that text.  Three kinds of characters are written
differently: most as they are, some by a letter after a backslash, and the other control characters
by four digits.  None of these digits makes a surrogate, so nothing is taken for half of a pair.
-/

namespace Typeset

namespace Json

variable {char : Char} {text rest left : Text}

theorem readText_closing (rest : Text) : readText false .plain ('"' :: rest) = .ok ([], rest) := by
  rw [readText]
  simp

theorem readText_itself (unquoted : char ≠ '"') (unescaped : char ≠ '\\')
    (printed : ¬char < ' ') (later : readText false .plain rest = .ok (text, left)) :
    readText false .plain (char :: rest) = .ok (char :: text, left) := by
  rw [readText]
  simp only [unquoted, unescaped, printed, if_false, later]
  rfl

theorem readText_letter {letter : Char} (short : letter ≠ 'u')
    (meant : unescaped? letter = some char)
    (later : readText false .plain rest = .ok (text, left)) :
    readText false .plain ('\\' :: letter :: rest) = .ok (char :: text, left) := by
  rw [readText, readText]
  simp only [short, meant, later, if_true, if_false]
  rfl

theorem readText_digit {digit : Char} {value missing : Nat} (unit : Nat) (rest : Text)
    (isDigit : hexValue? digit = some value) (more : 1 < missing) :
    readText false (.digits none unit missing) (digit :: rest) =
      readText false (.digits none (unit * 16 + value) (missing - 1)) rest := by
  rw [readText]
  simp [isDigit, more]

theorem readText_lastDigit {digit : Char} {value unit : Nat}
    (isDigit : hexValue? digit = some value) (low : unit * 16 + value < 0xD800)
    (later : readText false .plain rest = .ok (text, left)) :
    readText false (.digits none unit 1) (digit :: rest) =
      .ok (Char.ofNat (unit * 16 + value) :: text, left) := by
  have second : isLow (unit * 16 + value) = false := by
    simp [isLow]
    omega
  have first : isHigh (unit * 16 + value) = false := by
    simp [isHigh]
    omega
  rw [readText]
  simp only [isDigit, Option.getD_some, second, first, later, Nat.lt_irrefl, if_false,
    Bool.false_eq_true]
  rfl

/-- Four digits are read as the character that has their number, unless it is a surrogate. -/
theorem readText_fourDigits {first second third fourth : Char} {a b c d : Nat}
    (isFirst : hexValue? first = some a) (isSecond : hexValue? second = some b)
    (isThird : hexValue? third = some c) (isFourth : hexValue? fourth = some d)
    (low : ((a * 16 + b) * 16 + c) * 16 + d < 0xD800)
    (later : readText false .plain rest = .ok (text, left)) :
    readText false .plain ('\\' :: 'u' :: first :: second :: third :: fourth :: rest) =
      .ok (Char.ofNat (((a * 16 + b) * 16 + c) * 16 + d) :: text, left) := by
  have begun : digitsFailure? (first :: second :: third :: fourth :: rest) = none := by
    have long : ¬Text.byteLength [first, second, third, fourth] < 4 := by
      have size (char : Char) : 1 ≤ char.utf8Size := char.utf8Size_pos
      have sizes := And.intro (And.intro (size first) (size second))
        (And.intro (size third) (size fourth))
      simp only [Text.byteLength]
      omega
    simp [digitsFailure?, long, isFirst, isSecond, isThird, isFourth]
  rw [readText, readText]
  simp only [begun, if_true]
  rw [readText_digit 0 _ isFirst (by decide), readText_digit _ _ isSecond (by decide),
    readText_digit _ _ isThird (by decide)]
  simpa using readText_lastDigit isFourth low later

theorem hexValue?_fourHex {number : Nat} (small : number < 32) :
    (fourHex number).map hexValue? =
      [some 0, some 0, some (number / 16), some (number % 16)] := by
  revert number
  decide

theorem readText_fourHex (control : char.toNat < 32)
    (later : readText false .plain rest = .ok (text, left)) :
    readText false .plain ('\\' :: 'u' :: (fourHex char.toNat ++ rest)) =
      .ok (char :: text, left) := by
  have digits := hexValue?_fourHex control
  generalize fourHex char.toNat = written at digits
  rcases List.map_eq_cons_iff.mp digits with ⟨first, _, rfl, isFirst, digits⟩
  rcases List.map_eq_cons_iff.mp digits with ⟨second, _, rfl, isSecond, digits⟩
  rcases List.map_eq_cons_iff.mp digits with ⟨third, _, rfl, isThird, digits⟩
  rcases List.map_eq_cons_iff.mp digits with ⟨fourth, _, rfl, isFourth, digits⟩
  cases List.map_eq_nil_iff.mp digits
  have number : ((0 * 16 + 0) * 16 + char.toNat / 16) * 16 + char.toNat % 16 = char.toNat := by
    omega
  have read := readText_fourDigits isFirst isSecond isThird isFourth (by omega) later
  rwa [number, Char.ofNat_toNat] at read

/-- A written character is read, and what is read after it follows. -/
theorem readText_escaped (later : readText false .plain rest = .ok (text, left)) :
    readText false .plain (escaped char ++ rest) = .ok (char :: text, left) := by
  have letter {written meant : Char} (short : written ≠ 'u')
      (means : unescaped? written = some meant) :
      readText false .plain (['\\', written] ++ rest) = .ok (meant :: text, left) :=
    readText_letter short means later
  unfold escaped
  split
  next quote =>
    subst quote
    exact letter (by decide) rfl
  split
  next backslash =>
    subst backslash
    exact letter (by decide) rfl
  split
  next backspace =>
    subst backspace
    exact letter (by decide) rfl
  split
  next formFeed =>
    subst formFeed
    exact letter (by decide) rfl
  split
  next lineFeed =>
    subst lineFeed
    exact letter (by decide) rfl
  split
  next carriageReturn =>
    subst carriageReturn
    exact letter (by decide) rfl
  split
  next tab =>
    subst tab
    exact letter (by decide) rfl
  split
  next control => exact readText_fourHex control later
  next unquoted unescaped _ _ _ _ _ printed =>
    exact readText_itself unquoted unescaped printed later

/-- A text is read as it has been written, up to its closing quote. -/
theorem readText_quoted (text rest : Text) :
    readText false .plain (text.flatMap escaped ++ '"' :: rest) = .ok (text, rest) := by
  induction text with
  | nil => exact readText_closing rest
  | cons char text ih =>
      rw [List.flatMap_cons, List.append_assoc]
      exact readText_escaped ih

end Json

end Typeset
