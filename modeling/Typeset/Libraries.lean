import Typeset.Pattern.Size
import Typeset.Url.Host

/-!
# What a running program takes for what is left open

A program that runs has no tables of international names, and refuses every name that needs them.
It estimates how large patterns are.  Everything that is proved of programs holds for other tables
and for other sizes as well.
-/

namespace Typeset

instance (priority := low) : DomainNames where
  toAscii? _ := none

instance (priority := low) : Pattern.Sizes where
  size := Pattern.Node.estimate

end Typeset
