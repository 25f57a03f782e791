import Typeset.Text.Blank

/-!
# Delimiters of inline mathematics

Mathematics in a line is written between dollars.  Normalising a text turns the older delimiters
`\[`, `\]`, `\(` and `\)` into dollars and then takes out every run of blanks that stands between
two other characters of which at least one is a dollar.  Runs at the ends of the text and runs
between other characters stay as they are.
-/

namespace Typeset

namespace InlineMath

/-- The delimiter that mathematics is written between. -/
def delimiter : Char := '$'

/-- Whether a backslash before the character makes an older delimiter. -/
def isBracket (char : Char) : Bool :=
  char == '[' || char == ']' || char == '(' || char == ')'

/-- The text with a dollar for every older delimiter. -/
def replaceBrackets : Text → Text
  | [] => []
  | [char] => [char]
  | first :: second :: rest =>
      if first = '\\' && isBracket second then delimiter :: replaceBrackets rest
      else first :: replaceBrackets (second :: rest)

/-- Whether a run of blanks between two characters is taken out. -/
def isRemovable (before : Option Char) (after : Char) : Bool :=
  match before with
  | none => false
  | some before => before == delimiter || after == delimiter

/-- The rest of a text without its removable runs.  `before` is the last character that is no
blank, and `run` holds the blanks since then, the last one first. -/
def collapseFrom (before : Option Char) (run : Text) : Text → Text
  | [] => run.reverse
  | char :: rest =>
      if isBlank char then collapseFrom before (char :: run) rest
      else
        (if isRemovable before char then [] else run.reverse) ++
          char :: collapseFrom (some char) [] rest

/-- The text without its removable runs of blanks. -/
def collapse (text : Text) : Text :=
  collapseFrom none [] text

/-- The text with its delimiters in normal form. -/
def normalize (text : Text) : Text :=
  collapse (replaceBrackets text)

end InlineMath

end Typeset
