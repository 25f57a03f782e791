import Typeset.Files

/-!
# Engine environments

The directories that the engine writes to apart from its result: its home, its font cache and its
tree of variable files.  They are handed to the engine as environment variables.
-/

namespace Typeset

open Json (Value Reader)

/-- The directories that the engine writes to. -/
structure EngineEnvironment where
  home : Path
  cache : Path
  texmfVar : Path
  deriving DecidableEq, Repr

namespace EngineEnvironment

/-- All directories below one root, which is the home. -/
def under (root : Path) : EngineEnvironment where
  home := root
  cache := Path.join root "cache".toList
  texmfVar := Path.join root "texmf-var".toList

/-- The environment variables that tell the engine the directories. -/
def assignments (environment : EngineEnvironment) : List (Text × Path) :=
  [("HOME".toList, environment.home), ("XDG_CACHE_HOME".toList, environment.cache),
    ("TEXMFVAR".toList, environment.texmfVar)]

/-- Makes directories one after another, up to the first that cannot be made. -/
def makeAll (files : Files) : List Path → Except OsError Unit × Files
  | [] => (.ok (), files)
  | path :: paths =>
      match files.makeDirectories path with
      | (.error error, files) => (.error error, files)
      | (.ok (), files) => makeAll files paths

/-- Makes the directories, unless they are there already. -/
def prepare (environment : EngineEnvironment) (files : Files) : Except OsError Unit × Files :=
  makeAll files (environment.assignments.map Prod.snd)

/-- The environment as JSON. -/
def toJson (environment : EngineEnvironment) : Value :=
  .object
    [("home_dir".toList, .text environment.home),
      ("cache_dir".toList, .text environment.cache),
      ("texmf_var_dir".toList, .text environment.texmfVar)]

/-- The members of an environment that have been read. -/
structure Partial where
  home : Option Path
  cache : Option Path
  texmfVar : Option Path

/-- An environment as a record. -/
def record : Reader.Record Partial EngineEnvironment where
  name := "EngineEnvironment".toList
  members :=
    [⟨"home_dir".toList, (·.home.isSome),
        fun state => return { state with home := some (← Reader.path) }⟩,
      ⟨"cache_dir".toList, (·.cache.isSome),
        fun state => return { state with cache := some (← Reader.path) }⟩,
      ⟨"texmf_var_dir".toList, (·.texmfVar.isSome),
        fun state => return { state with texmfVar := some (← Reader.path) }⟩]
  unread := ⟨none, none, none⟩
  complete := fun state => do
    return {
      home := ← Reader.Record.required "home_dir" state.home
      cache := ← Reader.Record.required "cache_dir" state.cache
      texmfVar := ← Reader.Record.required "texmf_var_dir" state.texmfVar }

/-- Reads an environment. -/
def reader (depth : Nat) : Reader EngineEnvironment :=
  record.reader depth

/-- The environment that a JSON text holds. -/
def ofJson (document : Text) : Except Json.Failure EngineEnvironment :=
  Reader.whole (reader Reader.depthLimit) document

end EngineEnvironment

end Typeset
