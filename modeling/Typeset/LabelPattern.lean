import Typeset.Pattern

/-!
# Label patterns

A label pattern finds the markers of the sections of a document; its first group captures the
label.  The standard pattern finds the marker `\lambdalabel` with the label between `{Q` and the
next closing brace on the same line.
-/

namespace Typeset

namespace LabelPattern

/-- The source of the standard label pattern. -/
def standardSource : Text :=
  "\\\\lambdalabel\\\x7bQ(.*?)\\\x7d".toList

/-- What every standard marker begins with. -/
def markerLead : Text :=
  "\\lambdalabel\x7bQ".toList

/-- The characters of a text one by one, and then something else. -/
def spelled (text : Text) (next : Pattern.Node) : Pattern.Node :=
  text.foldr (fun char node => .append (.one (.single char)) node) next

/-- The standard label pattern. -/
def standard : Pattern where
  source := standardSource
  node := spelled markerLead
    (.append
      (.capture 1 (.repeated (.one (.complement (.ranges [(0x0A, 0x0A)]))) 0 none false))
      (.one (.single '\x7d')))

/-- The standard label pattern is what its source says. -/
theorem meaning_standardSource : Pattern.meaning standardSource = .ok standard.node := by
  have read : (Pattern.meaning standardSource).toOption = some standard.node := by decide +kernel
  cases outcome : Pattern.meaning standardSource with
  | error refusal => simp [outcome, Except.toOption] at read
  | ok node =>
      rw [outcome] at read
      exact congrArg Except.ok (Option.some.inj read)

/-- The standard label pattern is compiled unless it is too large. -/
theorem compile_standardSource [Pattern.Sizes]
    (fits : Pattern.Sizes.size standard.node ≤ Pattern.maxSize) :
    Pattern.compile standardSource = .ok standard := by
  rw [Pattern.compile, meaning_standardSource]
  exact if_neg (Nat.not_lt.mpr fits)

/-- Why a pattern cannot serve as a label pattern. -/
inductive Error where
  | refused (source : Text) (error : Pattern.Error)
  | withoutGroup (source : Text)
  deriving DecidableEq, Repr

/-- The error in words. -/
def Error.message : Error → Text
  | refused source error =>
      "label pattern '".toList ++ source ++ "': ".toList ++ error.message source
  | withoutGroup source =>
      "label pattern '".toList ++ source ++
        "' needs a capture group for the label, e.g. ".toList ++ standardSource

/-- Compiles a label pattern, which needs a group. -/
def compile [Pattern.Sizes] (source : Text) : Except Error Pattern :=
  match Pattern.compile source with
  | .error error => .error (.refused source error)
  | .ok pattern => if pattern.groups = 0 then .error (.withoutGroup source) else .ok pattern

end LabelPattern

end Typeset
