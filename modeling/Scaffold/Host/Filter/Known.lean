import Scaffold.Host.Filter.Copy

/-!
# The filters at hand
-/

set_option autoImplicit false

namespace Scaffold.Host.Filter

def known : List (String × Filter) :=
  [("cat", copy), ("tr", translate), ("true", idle 0), ("false", idle 1)]

def ofName? (name : String) : Option Filter := known.lookup name

end Scaffold.Host.Filter
