import Typeset.Storage.Error
import Typeset.Url.Basic

/-!
# Addresses of keys

A key is appended to a base address segment by segment, so that no character of a file name cuts
the address short.
-/

namespace Typeset

namespace StorageKey

/-- The segments of a key. -/
def segments (key : Text) : List Text :=
  Text.splitAt '/' key

/-- The address of a key under a base, with the bucket, if there is one, between them. -/
def address [DomainNames] (base : Text) (bucket : Option Text) (key : Text) :
    Except StorageError Text :=
  match Url.parse base with
  | .error error => .error (.invalidUrl base key error.message)
  | .ok url =>
      if url.isHierarchical then .ok (url.extend (bucket.toList ++ segments key)).toText
      else .error (.invalidUrl base key "not a hierarchical URL".toList)

/-- A base address without the separators at its end. -/
def trimBase (base : Text) : Text :=
  Text.dropEndWhile (· == '/') base

end StorageKey

end Typeset
