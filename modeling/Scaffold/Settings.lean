import Scaffold.Formatter

/-!
# Settings of a run

The directory of the package, the name of the snapshot in a package's directory and the formatter,
with what they are when nothing else is asked for.
-/

set_option autoImplicit false

namespace Scaffold

structure Settings where
  dir : String
  snapshot : String
  /-- Generated text is written as it is when there is none. -/
  formatter : Option Program.Command
  deriving DecidableEq, Repr, Inhabited

namespace Settings

def defaultDir : String := "."

def defaultSnapshot : String := "repogen.snapshot.json"

def defaultFormatter : String := "goimports"

end Settings

end Scaffold
