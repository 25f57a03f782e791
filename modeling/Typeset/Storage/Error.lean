import Typeset.Files

/-!
# Failed uploads

Why an artifact could not be stored.
-/

namespace Typeset

/-- Why a request to a storage service could not be completed. -/
inductive RequestFailure where
  | invalidHeader
  | invalidScheme (url : Text)
  | unreachable (url : Text)
  deriving DecidableEq, Repr

/-- The failure in words. -/
def RequestFailure.message : RequestFailure → Text
  | invalidHeader => "builder error".toList
  | invalidScheme url => "builder error for url (".toList ++ url ++ [')']
  | unreachable url => "error sending request for url (".toList ++ url ++ [')']

/-- Why an artifact could not be stored. -/
inductive StorageError where
  | io (path : Path) (error : OsError)
  | http (key : Text) (failure : RequestFailure)
  | rejected (key : Text) (status : Nat) (body : Text)
  | invalidUrl (base key reason : Text)
  deriving DecidableEq, Repr

/-- The error in words. -/
def StorageError.message : StorageError → Text
  | io path error => "Storage I/O error for '".toList ++ path ++ "': ".toList ++ error.message
  | http key failure => "Upload of '".toList ++ key ++ "' failed: ".toList ++ failure.message
  | rejected key status body =>
      "Storage rejected '".toList ++ key ++ "' with HTTP ".toList ++ Text.ofNat status ++
        ": ".toList ++ body
  | invalidUrl base key reason =>
      "Cannot address '".toList ++ key ++ "' under '".toList ++ base ++ "': ".toList ++ reason

end Typeset
