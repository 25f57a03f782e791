import Typeset.Pattern.CharSet
import Typeset.Pattern.Fault
import Typeset.Text.Printable
import Typeset.Text.Property.Age
import Typeset.Text.Property.Binary
import Typeset.Text.Property.Break
import Typeset.Text.Property.Category
import Typeset.Text.Property.Name
import Typeset.Text.Property.Script

/-!
# Unicode properties

The sets that `\p` names: by a binary property, a general category or a script, or by a property
and one of its values.  Binary properties that follow from others are written as operations on
their sets.
-/

namespace Typeset

namespace Pattern

namespace PropertyQuery

/-- What is known of a name: nothing, that there is no set for it, or its set. -/
inductive Answer where
  | unknown
  | unsupported
  | known (set : CharSet)
  deriving DecidableEq, Repr

/-- The answer that knows a set, if there is one. -/
def Answer.ofSet? : Option CharSet → Answer
  | some set => .known set
  | none => .unknown

/-- The characters of the value of a table with a name. -/
def valueSet? (table : PropertyTable) (name : Text) : Option CharSet :=
  (table.find? name).map .ranges

/-- The characters of all values of a table. -/
def anyValue (table : PropertyTable) : CharSet :=
  table.foldr (fun value set => .union (.ranges value.codes) set) .none

/-- The code points that no version has assigned. -/
def unassigned : CharSet :=
  .complement (anyValue categoryTable)

/-- The characters of a single general category. -/
def singleCategory? (name : Text) : Option CharSet :=
  if name = "cn".toList || name = "unassigned".toList then some unassigned
  else valueSet? categoryTable name

/-- General categories that are made of others: their names, and the categories that they have. -/
def categoryGroups : List (List String × List String) :=
  [(["c", "other"], ["cc", "cf", "cn", "co"]),
    (["l", "letter"], ["lu", "ll", "lt", "lm", "lo"]),
    (["lc", "casedletter"], ["lu", "ll", "lt"]),
    (["m", "mark", "combiningmark"], ["mn", "mc", "me"]),
    (["n", "number"], ["nd", "nl", "no"]),
    (["p", "punctuation", "punct"], ["pc", "pd", "ps", "pe", "pi", "pf", "po"]),
    (["s", "symbol"], ["sm", "sc", "sk", "so"]),
    (["z", "separator"], ["zs", "zl", "zp"])]

/-- The characters of some general categories. -/
def categories (names : List String) : CharSet :=
  (names.filterMap (singleCategory? ·.toList)).foldr .union .none

/-- The characters of a general category, or of one of the wider classes that count as such. -/
def category (name : Text) : Answer :=
  if name = "any".toList then .known .all
  else if name = "assigned".toList then .known (.complement unassigned)
  else if name = "ascii".toList then .known (.ranges AsciiClass.ascii.codes)
  else if name = "cs".toList || name = "surrogate".toList then .unsupported
  else
    match categoryGroups.find? fun group => group.1.any (·.toList == name) with
    | some (_, members) => .known (categories members)
    | none => .ofSet? (singleCategory? name)

/-- Scripts that have a name but no characters. -/
def emptyScripts : List String :=
  ["zzzz", "unknown", "hrkt", "katakanaorhiragana"]

/-- The characters of a script. -/
def script (name : Text) : Answer :=
  if emptyScripts.any (·.toList == name) then .unsupported
  else .ofSet? (valueSet? scriptTable name)

/-- The characters that are used in a script, though they may belong to another one. -/
def scriptExtension (name : Text) : Answer :=
  match script name with
  | .known set =>
      .known (.union (.difference set (anyValue sharedScriptTable))
        ((valueSet? sharedScriptTable name).getD .none))
  | answer => answer

/-- The characters that a version has or one before it had. -/
def age (name : Text) : Answer :=
  if name = "na".toList || name = "unassigned".toList then .unsupported
  else
    let isVersion (value : PropertyValue) : Bool :=
      (value.names.map PropertyTable.looseName).contains name
    match ageTable.dropWhile (!isVersion ·) with
    | [] => .unknown
    | version :: _ => .known (anyValue (ageTable.takeWhile (!isVersion ·) ++ [version]))

/-- Values of breaks that have a name but no characters. -/
def emptyBreaks : List String :=
  ["eb", "ebase", "ebg", "ebasegaz", "em", "emodifier", "gaz", "glueafterzwj", "xx", "other"]

/-- The characters that do something at borders. -/
def atBorders (table : PropertyTable) (name : Text) : Answer :=
  match valueSet? table name with
  | some set => .known set
  | none => if emptyBreaks.any (·.toList == name) then .unsupported else .unknown

/-- The characters of a binary property that has a table. -/
def tabled (name : String) : CharSet :=
  (valueSet? binaryTable name.toList).getD .none

/-- Characters that cannot be part of identifiers because patterns need them. -/
def ofPatterns : CharSet :=
  .union (tabled "patternsyntax") (tabled "patternwhitespace")

/-- Characters that identifiers can start with. -/
def identifierStart : CharSet :=
  .difference
    (.union (categories ["lu", "ll", "lt", "lm", "lo", "nl"]) (tabled "otheridstart")) ofPatterns

/-- Characters that identifiers can hold. -/
def identifierPart : CharSet :=
  .difference
    (.union identifierStart
      (.union (categories ["mn", "mc", "nd", "pc"]) (tabled "otheridcontinue"))) ofPatterns

/-- Characters that would leave the identifiers when they are normalized. -/
def unstable : CodeRanges :=
  CodeRanges.ofHex
    "37A 309B-309C FC5E-FC63 FDFA-FDFB FE70 FE72 FE74 FE76 FE78 FE7A FE7C FE7E"

/-- Characters that would no longer start an identifier when they are normalized. -/
def unstableStart : CodeRanges :=
  CodeRanges.ofHex "E33 EB3 FF9E-FF9F"

/-- Characters of words that change no case, apart from marks and modifiers. -/
def midWord : CodeRanges :=
  CodeRanges.ofHex
    "27 2E 3A B7 387 55F 5F4 2018-2019 2024 2027 FE13 FE52 FE55 FF07 FF0E FF1A"

/-- Characters with a case. -/
def cased : CharSet :=
  .union (.union (tabled "lowercase") (tabled "uppercase")) (categories ["lt"])

/-- Binary properties that follow from others. -/
def derived : List (String × CharSet) :=
  [("alphabetic", .ranges letterRanges),
    ("cased", cased),
    ("caseignorable",
      .union (categories ["mn", "me", "cf", "lm", "sk"]) (.ranges midWord)),
    ("changeswhencasemapped",
      .union (tabled "changeswhenlowercased")
        (.union (tabled "changeswhenuppercased") (tabled "changeswhentitlecased"))),
    ("graphemebase",
      .complement
        (.union (categories ["cc", "cf", "co", "cn", "zl", "zp"]) (.ranges extenderRanges))),
    ("graphemeextend", .ranges extenderRanges),
    ("idcontinue", identifierPart),
    ("idstart", identifierStart),
    ("joincontrol", .ranges [(0x200C, 0x200D)]),
    ("otheralphabetic",
      .difference (.ranges letterRanges)
        (.union (.union (tabled "lowercase") (tabled "uppercase"))
          (categories ["lt", "lm", "lo", "nl"]))),
    ("othergraphemeextend", .difference (.ranges extenderRanges) (categories ["me", "mn"])),
    ("otherlowercase", .difference (tabled "lowercase") (categories ["ll"])),
    ("othermath", .difference (tabled "math") (categories ["sm"])),
    ("otheruppercase", .difference (tabled "uppercase") (categories ["lu"])),
    ("whitespace", .ranges blankRanges),
    ("xidcontinue", .difference identifierPart (.ranges unstable)),
    ("xidstart",
      .difference (.difference identifierStart (.ranges unstable)) (.ranges unstableStart))]

/-- The characters of a binary property, which has its last name in loose form. -/
def binary? (property : Text) : Option CharSet :=
  match derived.find? (·.1.toList == property) with
  | some (_, set) => some set
  | none => valueSet? binaryTable property

/-- The answer, with the fault that there is if nothing is known. -/
def Answer.orFault (answer : Answer) (unknown : Fault) : Except Fault CharSet :=
  match answer with
  | .known set => .ok set
  | .unsupported => .error .propertyValueNotFound
  | .unknown => .error unknown

/-- Names that are read as general categories although they are names of properties as well. -/
def categoryFirst : List String := ["cf", "sc", "lc"]

/-- The characters that a name selects: by a property, or else by a general category, or else by a
script. -/
def namedSet (name : Text) : Except Fault CharSet :=
  let property :=
    if categoryFirst.any (·.toList == name) then none else propertyOfName? name
  match property with
  | some property =>
      match binary? property with
      | some set => .ok set
      | none => .error .propertyNotFound
  | none =>
      match category name with
      | .unknown => (script name).orFault .propertyNotFound
      | answer => answer.orFault .propertyNotFound

/-- The characters for which a property has a value. -/
def valuedSet (name value : Text) : Except Fault CharSet :=
  match propertyOfName? name with
  | none => .error .propertyNotFound
  | some property =>
      let answer : Answer :=
        if property = "generalcategory".toList then category value
        else if property = "script".toList then script value
        else if property = "scriptextensions".toList then scriptExtension value
        else if property = "age".toList then age value
        else if property = "graphemeclusterbreak".toList then atBorders graphemeBreakTable value
        else if property = "wordbreak".toList then atBorders wordBreakTable value
        else if property = "sentencebreak".toList then atBorders sentenceBreakTable value
        else .unknown
      answer.orFault .propertyValueNotFound

/-- The characters that a question about a property selects. -/
def set : PropertyQuery → Except Fault CharSet
  | .named name => namedSet (PropertyTable.looseName name)
  | .valued _ name value =>
      valuedSet (PropertyTable.looseName name) (PropertyTable.looseName value)

end PropertyQuery

end Pattern

end Typeset
