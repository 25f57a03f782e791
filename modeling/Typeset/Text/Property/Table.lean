import Typeset.Text.Ranges

/-!
# Tables of properties

A property of characters with several values is a table: each value with its names and with the
code points that have it.  Names are compared loosely.
-/

namespace Typeset

/-- A value of a property: its names, and the code points that have it. -/
structure PropertyValue where
  names : List Text
  codes : CodeRanges
  deriving DecidableEq, Repr

/-- The values of a property. -/
abbrev PropertyTable := List PropertyValue

namespace PropertyTable

/-- The form in which names are compared: ASCII alone, in lower case, without spaces, dashes and
underscores, and without `is` at the start. -/
def looseName (name : Text) : Text :=
  let loose (text : Text) : Text :=
    Text.lowered
      (text.filter fun char => char.toNat < 128 && char != ' ' && char != '-' && char != '_')
  if Text.lowered (name.take 2) = "is".toList then
    let rest := loose (name.drop 2)
    if rest = ['c'] then "isc".toList else rest
  else loose name

/-- Adds an entry of a written table in front of a table; with the table goes what has been read of
the value that the entry belongs to. -/
def addEntry (entry : Text) : CodeRanges × PropertyTable → CodeRanges × PropertyTable
  | (codes, table) =>
      if entry.getLast? = some ':' then
        ([], ⟨Text.splitAt '|' entry.dropLast, codes⟩ :: table)
      else (CodeRanges.ofEntry entry ++ codes, table)

/-- A table written as `Sp|Space: 20 A0 ...`, one value after another: the names of a value with
bars between them, and a colon before its code points. -/
def ofText (text : String) : PropertyTable :=
  ((CodeRanges.entries text.toList).foldr addEntry ([], [])).2

/-- The code points of the value with a name. -/
def find? (table : PropertyTable) (name : Text) : Option CodeRanges :=
  (List.find? (fun value => (value.names.map looseName).contains name) table).map (·.codes)

end PropertyTable

end Typeset
