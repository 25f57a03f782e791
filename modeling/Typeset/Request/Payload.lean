import Typeset.Request.Basic

/-!
# Payloads

Reading requests from JSON: an object for one document, a list of objects for a batch.
-/

namespace Typeset

open Json (Reader)

/-- A member that may be missing or `null`.  `get` tells what has been read of it, and `put` stores
what is read. -/
def optionalMember {σ α : Type} (name : String) (value : Reader α)
    (get : σ → Option (Option α)) (put : σ → Option (Option α) → σ) : Reader.Member σ where
  name := name.toList
  isRead state := (get state).isSome
  read state := return put state (some (← Reader.optional value))

namespace SingleRequest

/-- The members of a request that have been read. -/
structure Partial where
  userId : Option (Option Text)
  markdown : Option (Option Text)
  fileName : Option (Option Text)
  moduleSlug : Option (Option Text)
  setNumber : Option (Option SetNumber)
  typeOfFile : Option (Option Text)
  implicitFigures : Option (Option Bool)
  labelPattern : Option (Option Text)

/-- A request for one document as a record, given how deep its members may go. -/
def record (depth : Nat) : Reader.Record Partial SingleRequest where
  name := "SingleRequest".toList
  members :=
    [optionalMember "userId" Reader.text (·.userId) ({ · with userId := · }),
      optionalMember "markdown" Reader.text (·.markdown) ({ · with markdown := · }),
      optionalMember "fileName" Reader.text (·.fileName) ({ · with fileName := · }),
      optionalMember "moduleSlug" Reader.text (·.moduleSlug) ({ · with moduleSlug := · }),
      optionalMember "setNumber" (SetNumber.reader depth) (·.setNumber)
        ({ · with setNumber := · }),
      optionalMember "typeOfFile" Reader.text (·.typeOfFile) ({ · with typeOfFile := · }),
      optionalMember "implicitFigures" Reader.boolean (·.implicitFigures)
        ({ · with implicitFigures := · }),
      optionalMember "labelPattern" Reader.text (·.labelPattern) ({ · with labelPattern := · })]
  unread := ⟨none, none, none, none, none, none, none, none⟩
  complete := fun members => .ok
    { userId := members.userId.join
      markdown := members.markdown.join
      fileName := members.fileName.join
      moduleSlug := members.moduleSlug.join
      setNumber := members.setNumber.join
      typeOfFile := members.typeOfFile.join
      implicitFigures := members.implicitFigures.join
      labelPattern := members.labelPattern.join }

/-- Reads a request for one document. -/
def reader (depth : Nat) : Reader SingleRequest :=
  (record (depth - 1)).reader depth

/-- The request that a payload holds. -/
def ofPayload (payload : Text) : Except Json.Failure SingleRequest :=
  Reader.whole (reader Reader.depthLimit) payload

end SingleRequest

namespace BatchItem

/-- The members of an element that have been read. -/
structure Partial where
  userId : Option (Option Text)
  fileName : Option (Option Text)
  typeOfFile : Option (Option Text)
  markdown : Option (Option Text)
  implicitFigures : Option (Option Bool)
  labelPattern : Option (Option Text)

/-- An element of a batch as a record. -/
def record : Reader.Record Partial BatchItem where
  name := "BatchItem".toList
  members :=
    [optionalMember "userId" Reader.text (·.userId) ({ · with userId := · }),
      optionalMember "fileName" Reader.text (·.fileName) ({ · with fileName := · }),
      optionalMember "typeOfFile" Reader.text (·.typeOfFile) ({ · with typeOfFile := · }),
      optionalMember "markdown" Reader.text (·.markdown) ({ · with markdown := · }),
      optionalMember "implicitFigures" Reader.boolean (·.implicitFigures)
        ({ · with implicitFigures := · }),
      optionalMember "labelPattern" Reader.text (·.labelPattern) ({ · with labelPattern := · })]
  unread := ⟨none, none, none, none, none, none⟩
  complete := fun members => .ok
    { userId := members.userId.join
      fileName := members.fileName.join
      typeOfFile := members.typeOfFile.join
      markdown := members.markdown.join
      implicitFigures := members.implicitFigures.join
      labelPattern := members.labelPattern.join }

/-- Reads an element of a batch. -/
def reader (depth : Nat) : Reader BatchItem :=
  record.reader depth

/-- The elements of the batch that a payload holds. -/
def listOfPayload (payload : Text) : Except Json.Failure (List BatchItem) :=
  Reader.whole (Reader.list Reader.depthLimit (reader (Reader.depthLimit - 1))) payload

end BatchItem

end Typeset
