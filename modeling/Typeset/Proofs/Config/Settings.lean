import Typeset.Config.Basic
import Typeset.Proofs.Request.Checks

/-!
# Settings

A configuration is built by calls, and a later call can take back what earlier ones have set: the
call for a whole profile sets five things at once, three of which have calls of their own.  Here
every thing that can be set is a slot, and it is said of each call what it writes into which slots.

One call leaves every slot as it is or writes it, so a sequence of calls leaves in every slot what
was written there last.  The configuration depends on nothing else.  In particular it is decided
by the last label pattern and by the last scratch directory whether there is a configuration at
all, since neither is looked at before the end.
-/

namespace Typeset

open Validation (GivesPattern RefusesPattern givesPattern_or_refuses)

namespace Configuration

/-- The things that are set. -/
inductive Slot where
  | scratchDirectory
  | labelPattern
  | showDebug
  | environment
  | observer
  | implicitFigures
  | pdfArguments
  | texArguments
  | transcriptArguments
  | template

namespace Slot

/-- What can be set. -/
def Value : Slot → Type
  | scratchDirectory => Path
  | labelPattern => Option Text
  | showDebug => Bool
  | environment => EngineEnvironment
  | observer => Option Observer
  | implicitFigures => Bool
  | pdfArguments => List Text
  | texArguments => List Text
  | transcriptArguments => List Text
  | template => Option Path

/-- What has been set. -/
def held (builder : Builder) : (slot : Slot) → slot.Value
  | scratchDirectory => builder.configuration.scratchDirectory
  | labelPattern => builder.labelPattern
  | showDebug => builder.configuration.showDebug
  | environment => builder.configuration.environment
  | observer => builder.configuration.observer
  | implicitFigures => builder.configuration.profile.implicitFigures
  | pdfArguments => builder.configuration.profile.pdfArguments
  | texArguments => builder.configuration.profile.texArguments
  | transcriptArguments => builder.configuration.profile.transcriptArguments
  | template => builder.configuration.profile.template

/-- What is set unless a call sets something else. -/
def standard (temporary : Path) : (slot : Slot) → slot.Value
  | scratchDirectory => temporary
  | labelPattern => (none : Option Text)
  | showDebug => false
  | environment => EngineEnvironment.under (Path.join temporary "md2pdf".toList)
  | observer => (none : Option Observer)
  | implicitFigures => false
  | pdfArguments => ["--pdf-engine=xelatex".toList]
  | texArguments => ["--standalone".toList]
  | transcriptArguments => ["--standalone".toList]
  | template => (none : Option Path)

/-- What a call sets. -/
def written? : (slot : Slot) → Setting → Option slot.Value
  | scratchDirectory, .scratchDirectory path => some path
  | labelPattern, .labelPattern source => some (some source)
  | showDebug, .showDebug value => some value
  | environment, .environment directories => some directories
  | observer, .observer watcher => some (some watcher)
  | implicitFigures, .implicitFigures value => some value
  | pdfArguments, .pdfEngine engine => some ["--pdf-engine=".toList ++ engine]
  | template, .template path => some (some path)
  | implicitFigures, .profile profile => some profile.implicitFigures
  | pdfArguments, .profile profile => some profile.pdfArguments
  | texArguments, .profile profile => some profile.texArguments
  | transcriptArguments, .profile profile => some profile.transcriptArguments
  | template, .profile profile => some profile.template
  | _, _ => none

/-- What the last of several calls that set a slot writes there, and the standard if none does. -/
def last (temporary : Path) (settings : List Setting) (slot : Slot) : slot.Value :=
  (settings.filterMap slot.written?).getLast?.getD (slot.standard temporary)

/-- Whether a configuration says what has been set.  A label pattern is set by its source. -/
def Holds [Pattern.Sizes] (configuration : Configuration) : (slot : Slot) → slot.Value → Prop
  | scratchDirectory, path => configuration.scratchDirectory = path
  | labelPattern, source => ∃ given, GivesPattern source given ∧
      configuration.labelPattern = given.getD LabelPattern.standard
  | showDebug, value => configuration.showDebug = value
  | environment, directories => configuration.environment = directories
  | observer, watcher => configuration.observer = watcher
  | implicitFigures, value => configuration.profile.implicitFigures = value
  | pdfArguments, arguments => configuration.profile.pdfArguments = arguments
  | texArguments, arguments => configuration.profile.texArguments = arguments
  | transcriptArguments, arguments => configuration.profile.transcriptArguments = arguments
  | template, path => configuration.profile.template = path

theorem held_set (slot : Slot) (builder : Builder) (setting : Setting) :
    slot.held (builder.set setting) = (slot.written? setting).getD (slot.held builder) := by
  cases setting <;> cases slot <;> rfl

/-- After several calls a slot holds what was written there last. -/
theorem held_setAll (slot : Slot) (builder : Builder) (settings : List Setting) :
    slot.held (builder.setAll settings) =
      (settings.filterMap slot.written?).getLast?.getD (slot.held builder) := by
  induction settings generalizing builder with
  | nil => rfl
  | cons setting settings ih =>
      have later : builder.setAll (setting :: settings) = (builder.set setting).setAll settings :=
        rfl
      rw [later, ih, held_set, List.filterMap_cons]
      cases slot.written? setting with
      | none => rfl
      | some value => simp [List.getLast?_cons]

theorem held_setAll_start (slot : Slot) (temporary : Path) (settings : List Setting) :
    slot.held ((Builder.start temporary).setAll settings) = slot.last temporary settings := by
  have before : slot.held (.start temporary) = slot.standard temporary := by
    cases slot <;> rfl
  rw [held_setAll, before, last]

/-- A whole profile takes back the template that has been set before. -/
example : template.last ['/'] [.template ['t'], .showDebug true, .profile .standard] =
    (none : Option Path) :=
  rfl

end Slot

/-- Why there is no configuration: the label pattern cannot be used, or else there is no scratch
directory. -/
inductive Refuses [Pattern.Sizes] (source : Option Text) (directory : Path) :
    ConfigurationError → Prop where
  | labelPattern (refusal : LabelPattern.Error) (refused : RefusesPattern source refusal) :
      Refuses source directory (.labelPattern refusal)
  | emptyScratchDirectory (given : Option Pattern) (gives : GivesPattern source given)
      (empty : directory = []) : Refuses source directory .emptyScratchDirectory

namespace Builder

variable {builder : Builder}

theorem labelPattern_setAll (builder : Builder) (settings : List Setting) :
    (builder.setAll settings).configuration.labelPattern =
      builder.configuration.labelPattern := by
  induction settings generalizing builder with
  | nil => rfl
  | cons setting settings ih =>
      have kept : (builder.set setting).configuration.labelPattern =
          builder.configuration.labelPattern := by
        cases setting <;> rfl
      exact (ih (builder.set setting)).trans kept

/-- Two sequences of calls that leave the same in every slot lead to the same. -/
theorem setAll_congr {temporary : Path} {settings other : List Setting}
    (same : ∀ slot : Slot, slot.last temporary settings = slot.last temporary other) :
    (start temporary).setAll settings = (start temporary).setAll other := by
  have pattern : ((start temporary).setAll settings).configuration.labelPattern =
      ((start temporary).setAll other).configuration.labelPattern := by
    rw [labelPattern_setAll, labelPattern_setAll]
  have held (slot : Slot) : slot.held ((start temporary).setAll settings) =
      slot.held ((start temporary).setAll other) := by
    rw [slot.held_setAll_start, slot.held_setAll_start, same]
  generalize (start temporary).setAll settings = first at *
  generalize (start temporary).setAll other = second at *
  rcases first with ⟨⟨directory, compiled, debug, ⟨figures, pdf, tex, transcript, template⟩,
    environment, observer⟩, source⟩
  rcases second with ⟨⟨_, _, _, ⟨_, _, _, _, _⟩, _, _⟩, _⟩
  cases pattern
  cases held .scratchDirectory
  cases held .labelPattern
  cases held .showDebug
  cases held .environment
  cases held .observer
  cases held .implicitFigures
  cases held .pdfArguments
  cases held .texArguments
  cases held .transcriptArguments
  cases held .template
  rfl

theorem build_of_refused [Pattern.Sizes] {refusal : LabelPattern.Error}
    (refused : RefusesPattern builder.labelPattern refusal) :
    builder.build = .error (.labelPattern refusal) := by
  rcases builder with ⟨configuration, source⟩
  cases refused with
  | refused source error fails =>
      simp only [build, LabelPattern.compile, fails]
      rfl
  | withoutGroup source pattern compiles captures =>
      simp only [build, LabelPattern.compile, compiles, captures, if_true]
      rfl

theorem build_of_given [Pattern.Sizes] {given : Option Pattern}
    (gives : GivesPattern builder.labelPattern given) :
    builder.build =
      if builder.configuration.scratchDirectory = [] then .error .emptyScratchDirectory
      else .ok { builder.configuration with
        labelPattern := given.getD builder.configuration.labelPattern } := by
  rcases builder with ⟨configuration, source⟩
  have checked (chosen : Configuration) :
      (if chosen.scratchDirectory.isEmpty then throw .emptyScratchDirectory
        else return chosen : Except ConfigurationError Configuration) =
        if chosen.scratchDirectory = [] then .error .emptyScratchDirectory else .ok chosen := by
    cases chosen.scratchDirectory <;> rfl
  cases gives with
  | absent => exact checked configuration
  | compiled source pattern compiles captures =>
      simp only [build, LabelPattern.compile, compiles, if_neg captures]
      exact checked { configuration with labelPattern := pattern }

end Builder

/-- There is a configuration that holds what has been set last, or what prevents it is told. -/
theorem holds_or_refuses [Pattern.Sizes] (temporary : Path) (settings : List Setting) :
    (∃ configuration,
      ((Builder.start temporary).setAll settings).build = .ok configuration ∧
        (∀ slot : Slot, slot.Holds configuration (slot.last temporary settings)) ∧
        configuration.scratchDirectory ≠ []) ∨
      ∃ error, ((Builder.start temporary).setAll settings).build = .error error ∧
        Refuses (Slot.labelPattern.last temporary settings)
          (Slot.scratchDirectory.last temporary settings) error := by
  have held (slot : Slot) := slot.held_setAll_start temporary settings
  have pattern : ((Builder.start temporary).setAll settings).configuration.labelPattern =
      LabelPattern.standard :=
    Builder.labelPattern_setAll (.start temporary) settings
  generalize (Builder.start temporary).setAll settings = builder at *
  have source : builder.labelPattern = Slot.labelPattern.last temporary settings :=
    held .labelPattern
  have directory : builder.configuration.scratchDirectory =
      Slot.scratchDirectory.last temporary settings :=
    held .scratchDirectory
  rcases givesPattern_or_refuses builder.labelPattern with ⟨given, gives⟩ | ⟨refusal, refused⟩
  · rw [Builder.build_of_given gives]
    by_cases empty : builder.configuration.scratchDirectory = []
    · right
      refine ⟨.emptyScratchDirectory, if_pos empty, .emptyScratchDirectory given ?_ ?_⟩
      · exact source ▸ gives
      · exact directory ▸ empty
    · left
      refine ⟨_, if_neg empty, ?_, empty⟩
      intro slot
      rw [← held]
      cases slot with
      | labelPattern => exact ⟨given, gives, by rw [pattern]⟩
      | _ => rfl
  · right
    refine ⟨.labelPattern refusal, Builder.build_of_refused refused, .labelPattern refusal ?_⟩
    exact source ▸ refused

theorem GivesPattern.unique [Pattern.Sizes] {source : Option Text} {first second : Option Pattern}
    (given : GivesPattern source first) (again : GivesPattern source second) : first = second := by
  cases given.compiledPattern_eq.symm.trans again.compiledPattern_eq
  rfl

theorem not_refusesPattern_of_gives [Pattern.Sizes] {source : Option Text} {given : Option Pattern}
    {refusal : LabelPattern.Error} (gives : GivesPattern source given) :
    ¬RefusesPattern source refusal := by
  intro refused
  cases gives.compiledPattern_eq.symm.trans refused.compiledPattern_eq

/-- The slots say everything about a configuration. -/
theorem eq_of_holds [Pattern.Sizes] {first second : Configuration}
    {values : (slot : Slot) → slot.Value}
    (firstHolds : ∀ slot : Slot, slot.Holds first (values slot))
    (secondHolds : ∀ slot : Slot, slot.Holds second (values slot)) : first = second := by
  have pattern : first.labelPattern = second.labelPattern := by
    rcases firstHolds .labelPattern with ⟨given, gives, chosen⟩
    rcases secondHolds .labelPattern with ⟨again, givesAgain, chosenAgain⟩
    rw [chosen, chosenAgain, GivesPattern.unique gives givesAgain]
  have same (slot : Slot) := And.intro (firstHolds slot) (secondHolds slot)
  rcases first with ⟨directory, compiled, debug, ⟨figures, pdf, tex, transcript, template⟩,
    environment, observer⟩
  rcases second with ⟨_, _, _, ⟨_, _, _, _, _⟩, _, _⟩
  cases pattern
  cases (same .scratchDirectory).1.trans (same .scratchDirectory).2.symm
  cases (same .showDebug).1.trans (same .showDebug).2.symm
  cases (same .environment).1.trans (same .environment).2.symm
  cases (same .observer).1.trans (same .observer).2.symm
  cases (same .implicitFigures).1.trans (same .implicitFigures).2.symm
  cases (same .pdfArguments).1.trans (same .pdfArguments).2.symm
  cases (same .texArguments).1.trans (same .texArguments).2.symm
  cases (same .transcriptArguments).1.trans (same .transcriptArguments).2.symm
  cases (same .template).1.trans (same .template).2.symm
  rfl

theorem Refuses.unique [Pattern.Sizes] {source : Option Text} {directory : Path}
    {first second : ConfigurationError} (refused : Refuses source directory first)
    (again : Refuses source directory second) : first = second := by
  cases refused with
  | labelPattern refusal refused =>
      cases again with
      | labelPattern other again =>
          cases refused.compiledPattern_eq.symm.trans again.compiledPattern_eq
          rfl
      | emptyScratchDirectory given gives =>
          exact absurd refused (not_refusesPattern_of_gives gives)
  | emptyScratchDirectory given gives empty =>
      cases again with
      | labelPattern other again => exact absurd again (not_refusesPattern_of_gives gives)
      | emptyScratchDirectory => rfl

theorem not_refuses_of_holds [Pattern.Sizes] {configuration : Configuration}
    {values : (slot : Slot) → slot.Value} {error : ConfigurationError}
    (holds : ∀ slot : Slot, slot.Holds configuration (values slot))
    (present : configuration.scratchDirectory ≠ []) :
    ¬Refuses (values .labelPattern) (values .scratchDirectory) error := by
  rintro (⟨refusal, refused⟩ | ⟨given, gives, empty⟩)
  · rcases holds .labelPattern with ⟨given, gives, _⟩
    exact not_refusesPattern_of_gives gives refused
  · exact present ((holds .scratchDirectory).trans empty)

variable {temporary : Path} {settings : List Setting}

theorem build_eq_ok_iff_holds [Pattern.Sizes] {configuration : Configuration} :
    ((Builder.start temporary).setAll settings).build = .ok configuration ↔
      (∀ slot : Slot, slot.Holds configuration (slot.last temporary settings)) ∧
        configuration.scratchDirectory ≠ [] := by
  rcases holds_or_refuses temporary settings with
    ⟨built, ends, holds, present⟩ | ⟨error, ends, refused⟩
  · rw [ends]
    constructor
    · rintro ⟨⟩
      exact ⟨holds, present⟩
    · rintro ⟨other, _⟩
      rw [eq_of_holds holds other]
  · rw [ends]
    constructor
    · rintro ⟨⟩
    · rintro ⟨holds, present⟩
      exact absurd refused (not_refuses_of_holds holds present)

theorem build_eq_error_iff_refuses [Pattern.Sizes] {error : ConfigurationError} :
    ((Builder.start temporary).setAll settings).build = .error error ↔
      Refuses (Slot.labelPattern.last temporary settings)
        (Slot.scratchDirectory.last temporary settings) error := by
  rcases holds_or_refuses temporary settings with
    ⟨built, ends, holds, present⟩ | ⟨other, ends, refused⟩
  · rw [ends]
    constructor
    · rintro ⟨⟩
    · intro refused
      exact absurd refused (not_refuses_of_holds holds present)
  · rw [ends]
    constructor
    · rintro ⟨⟩
      exact refused
    · intro again
      rw [refused.unique again]

/-- Calls that set different things can be made in either order. -/
theorem Slot.last_swap {earlier later : List Setting} {first second : Setting}
    (apart : ∀ slot : Slot, slot.written? first = none ∨ slot.written? second = none)
    (slot : Slot) :
    slot.last temporary (earlier ++ second :: first :: later) =
      slot.last temporary (earlier ++ first :: second :: later) := by
  rcases apart slot with unwritten | unwritten
  · simp [last, List.filterMap_cons, unwritten]
  · simp [last, List.filterMap_cons, unwritten]

theorem getLast?_withTemplate {profile : FormatProfile} {template : Path}
    (chosen : profile.template = some template) (arguments : List Text) :
    (profile.withTemplate arguments).getLast? = some ("--template=".toList ++ template) := by
  unfold FormatProfile.withTemplate
  rw [chosen]
  exact List.getLast?_concat

/-- What is set last counts, and nothing else does: of a configuration every slot holds it, and if
there is none, then because of the last label pattern or, if that can be used, of the last scratch
directory.  So calls that set different things can change places, and a template that is left in
force ends the arguments of every run. -/
theorem build_by_last_settings [Pattern.Sizes] (temporary : Path) (settings : List Setting) :
    let outcome := ((Builder.start temporary).setAll settings).build
    (∀ configuration, outcome = .ok configuration ↔
      (∀ slot : Slot, slot.Holds configuration (slot.last temporary settings)) ∧
        configuration.scratchDirectory ≠ []) ∧
      (∀ error, outcome = .error error ↔
        Refuses (Slot.labelPattern.last temporary settings)
          (Slot.scratchDirectory.last temporary settings) error) ∧
      (∀ other,
        (∀ slot : Slot, slot.last temporary other = slot.last temporary settings) →
          ((Builder.start temporary).setAll other).build = outcome) ∧
      (∀ earlier first second later, settings = earlier ++ first :: second :: later →
        (∀ slot : Slot, slot.written? first = none ∨ slot.written? second = none) →
          ((Builder.start temporary).setAll (earlier ++ second :: first :: later)).build =
            outcome) ∧
      ∀ configuration template, outcome = .ok configuration →
        Slot.template.last temporary settings = (some template : Option Path) →
          ∀ arguments ∈ [configuration.profile.fileRun .pdf, configuration.profile.fileRun .tex,
              configuration.profile.transcriptRun],
            arguments.getLast? = some ("--template=".toList ++ template) := by
  intro outcome
  refine ⟨fun _ => build_eq_ok_iff_holds, fun _ => build_eq_error_iff_refuses, ?_, ?_, ?_⟩
  · intro other same
    exact congrArg Builder.build (Builder.setAll_congr same)
  · rintro earlier first second later rfl apart
    exact congrArg Builder.build (Builder.setAll_congr (Slot.last_swap apart))
  · intro configuration template built chosen arguments member
    have inForce : configuration.profile.template = some template :=
      ((build_eq_ok_iff_holds.mp built).1 .template).trans chosen
    simp only [List.mem_cons, List.not_mem_nil, or_false] at member
    rcases member with rfl | rfl | rfl
    · exact getLast?_withTemplate inForce _
    · exact getLast?_withTemplate inForce _
    · exact getLast?_withTemplate inForce _

end Configuration

end Typeset
