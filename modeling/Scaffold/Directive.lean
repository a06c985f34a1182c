import Scaffold.Text.Split

/-!
# Directives

A directive is a line comment addressed to one generator:

    //repogen:<target>[:<topic>] [<args>]

Only the first space or colon behind the marker counts.  A space ends the target and starts the
arguments; a colon ends the target and starts the topic, which in turn ends at the next space.  A
target that is cut off by a space or a colon is not empty; a comment that ends right behind the
marker has the empty target.
-/

set_option autoImplicit false

namespace Scaffold

/-- One comment read as an instruction: the generator it is addressed to, the topic (empty for the
bare directive) and the free text of its arguments. -/
structure Directive where
  target : String
  topic : String
  args : String
  deriving DecidableEq, Repr, Inhabited

namespace Directive

def marker : String := "//repogen:"

/-- Neither a space nor a colon: such characters make up a target. -/
def isTargetChar (c : Char) : Bool := c ≠ ' ' && c ≠ ':'

def parseBody (body : List Char) : Option Directive :=
  let target := body.takeWhile isTargetChar
  match body.dropWhile isTargetChar with
  | [] => some ⟨String.ofList target, "", ""⟩
  | separator :: tail =>
    if target = [] then none
    else if separator = ' ' then some ⟨String.ofList target, "", String.ofList tail⟩
    else
      let (topic, args) := Text.cut ' ' tail
      some ⟨String.ofList target, String.ofList topic, String.ofList (args.getD [])⟩

def parse (comment : String) : Option Directive :=
  (marker.toList.isPrefixOf? comment.toList).bind parseBody

def parseAll (comments : List String) : List Directive :=
  comments.filterMap parse

def isPrimary (d : Directive) : Bool := d.topic = ""

def words (d : Directive) : List String := Text.words d.args

end Directive

end Scaffold
