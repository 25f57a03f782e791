import Typeset.Convert.World
import Typeset.Engine.Process
import Typeset.Storage.Http
import Typeset.Storage.Local

/-!
# Engines and storages for conversions

A program that the host runs serves as an engine; a directory or a web service serves as a storage.
-/

namespace Typeset

/-- The engine that is a program, where `launch` says how the host runs programs. -/
def Engine.ofProgram (program : EngineProgram) (launch : List Call → Launcher) : Engine where
  generate calls request files := program.generate (launch calls) request files

/-- The storage in a directory. -/
def Storage.ofDirectory [DomainNames] (storage : LocalStorage) : Storage where
  upload _ key artifact files := storage.upload key artifact files

/-- The storage behind a web service, where `network` says what the service answers. -/
def Storage.ofService [DomainNames] (storage : HttpStorage) (network : List Call → Network) :
    Storage where
  upload calls key artifact files := (storage.upload (network calls) key artifact files, files)

end Typeset
