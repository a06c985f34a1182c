import Scaffold.Model.Annotated
import Scaffold.Json

/-!
# Identifier parsers

The model of one parse function per annotated identifier type.  The type has to lead to an integer
of known width, and carries exactly one directive, whose argument names the function.
-/

set_option autoImplicit false

namespace Scaffold.IdParser

/-- The generator that directives for identifier parsers are addressed to. -/
def target : String := "parseid"

structure Parser where
  type : String
  funcName : String
  signed : Bool
  bits : Nat
  deriving DecidableEq, Repr, Inhabited

structure Model where
  package : String
  parsers : List Parser
  deriving DecidableEq, Repr, Inhabited

/-- Signedness and width of the integer that a type leads to. -/
def sizedInteger? (package : Package) (type : GoType) : Option (Bool × Nat) :=
  match package.baseType type with
  | .basic kind => kind.integerBits?.map fun bits => (!kind.isUnsigned, bits)
  | _ => none

/-- The function's name: what the directive says, else one made from the type's. -/
def funcNameOf (decl : TypeDecl) (directives : List Directive) : String :=
  match directives.getLast? with
  | some d => if d.args = "" then "Parse" ++ decl.name else d.args
  | none => "Parse" ++ decl.name

def parserOf (index : DirectiveIndex) (decl : TypeDecl) (directives : List Directive) :
    Except Diagnostic Parser := do
  let subject : Subject := ⟨target, decl⟩
  if 1 < directives.length then subject.fail .severalParsers
  else
    let (signed, bits) ← subject.expect .notSizedInteger (sizedInteger? index.package decl.type)
    return ⟨decl.name, funcNameOf decl directives, signed, bits⟩

def build (package : Package) : Except Diagnostic Model := do
  let index := DirectiveIndex.ofPackage package
  let parsers ← (index.annotated target).mapM fun (decl, directives) =>
    parserOf index decl directives
  return ⟨package.name, parsers⟩

/-! ## The model as template data -/

def Parser.toJson (parser : Parser) : Json :=
  .object [("type", .string parser.type), ("func_name", .string parser.funcName),
    ("signed", .bool parser.signed), ("bits", .ofNat parser.bits)]

def Model.toJson (model : Model) : Json :=
  .object [("package", .string model.package),
    ("ids", .array (model.parsers.map Parser.toJson))]

end Scaffold.IdParser
