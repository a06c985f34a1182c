import Std.Data.String.ToNat
import Scaffold.Generator
import Scaffold.Proofs.Template.Lines

/-!
# The text of identifier parsers

Rendering a model of identifier parsers gives one function per parser, in order, each with a line
that calls the library function for integers of its sign and width (`Model.render_eq_ended`).  No
other line of the function is such a call (`Parser.callLine_mem_iff`).
-/

set_option autoImplicit false

namespace Scaffold.IdParser

open Template Text

/-! ## Functions and their lines -/

def parseFunction (signed : Bool) : String := if signed = true then "ParseInt" else "ParseUint"

/-- The line that reads an integer of a number of bits. -/
def callLine (signed : Bool) (bits : Nat) : String :=
  "\tv, err := strconv." ++ parseFunction signed ++ "(s, 10, " ++ toString bits ++ ")"

theorem callLine_inj {signed signed' : Bool} {bits bits' : Nat} :
    callLine signed bits = callLine signed' bits' ↔ signed = signed' ∧ bits = bits' := by
  constructor
  · intro same
    have sign : signed = signed' := by
      have letters := congrArg String.toList same
      unfold callLine at letters
      -- the digits are of no account here, and simp must not compute them
      generalize toString bits = digits at letters
      generalize toString bits' = digits' at letters
      cases signed <;> cases signed' <;> simp [parseFunction] at letters ⊢
    subst sign
    have digits := (String.append_right_inj _).mp ((String.append_left_inj _).mp same)
    exact ⟨rfl, Nat.repr_injective digits⟩
  · rintro ⟨rfl, rfl⟩
    rfl

namespace Parser

variable (parser : Parser)

def headLine : String :=
  "func " ++ parser.funcName ++ "(s string) (" ++ parser.type ++ ", error) \x7b"

def lastLines : List String :=
  ["\tif err != nil \x7b", "\t\treturn 0, err", "\t\x7d", "",
    "\treturn " ++ parser.type ++ "(v), nil", "\x7d"]

def lines : List String :=
  ["", parser.headLine, callLine parser.signed parser.bits] ++ parser.lastLines

/-- A function calls nothing but the library function of its own sign and width. -/
theorem callLine_mem_iff {signed : Bool} {bits : Nat} :
    callLine signed bits ∈ parser.lines ↔ signed = parser.signed ∧ bits = parser.bits := by
  have start : (callLine signed bits).toList.take 2 = ['\t', 'v'] := by
    unfold callLine
    generalize toString bits = digits
    simp
  have other {line : String} (differs : line.toList.take 2 ≠ ['\t', 'v']) :
      callLine signed bits ≠ line := by
    rintro rfl
    exact differs start
  have notEmpty : callLine signed bits ≠ "" := other (by simp)
  have notHead : callLine signed bits ≠ parser.headLine := other (by simp [headLine])
  have notLast : callLine signed bits ∉ parser.lastLines := by
    intro member
    simp only [lastLines, List.mem_cons, List.not_mem_nil, or_false] at member
    rcases member with is | is | is | is | is | is <;> exact other (by simp) is
  simp only [lines, List.mem_append, List.mem_cons, List.not_mem_nil, or_false, notEmpty, notHead,
    notLast, false_or, callLine_inj]

def chunks : List Chunk :=
  [.fixed "\nfunc ", .data parser.funcName, .fixed "(s string) (", .data parser.type,
    .fixed ", error) \x7b"]
    ++ [.fixed ("\n\tv, err := strconv." ++ parseFunction parser.signed ++ "(s, 10, "),
      .data (toString parser.bits), .fixed ")"]
    ++ [.fixed "\n\tif err != nil \x7b\n\t\treturn 0, err\n\t\x7d\n\n\treturn ", .data parser.type,
      .fixed "(v), nil\n\x7d\n"]

theorem spell_chunks : Chunk.spell parser.chunks = ended parser.lines := by
  apply String.toList_inj.mp
  unfold chunks lines callLine
  generalize toString parser.bits = digits
  simp [headLine, lastLines, Chunk.spell, Chunk.text, ended]

variable {parser} {scope : Scope}

theorem prints_parseLine (small : parser.bits < UInt64.size) :
    Prints (("id", parser.toJson) :: scope)
      [.choice (.holds ["id", "signed"]) (parseLine "ParseInt") (parseLine "ParseUint")]
      [.fixed ("\n\tv, err := strconv." ++ parseFunction parser.signed ++ "(s, 10, "),
        .data (toString parser.bits), .fixed ")"] := by
  have line (function : String) : Prints (("id", parser.toJson) :: scope) (parseLine function)
      [.fixed ("\n\tv, err := strconv." ++ function ++ "(s, 10, "), .data (toString parser.bits),
        .fixed ")"] :=
    .fixed (.number rfl small (.fixed .nil))
  have sign : Scope.get? (("id", parser.toJson) :: scope) ["id", "signed"] =
      some (.bool parser.signed) := rfl
  refine (Prints.choice (Condition.eval?_holds_bool sign) (line "ParseInt")
    (line "ParseUint")).congr ?_
  cases parser.signed <;> simp [parseFunction]

theorem prints_chunks (small : parser.bits < UInt64.size) :
    Prints (("id", parser.toJson) :: scope) [
    .text "\nfunc ", .value ["id", "func_name"], .text "(s string) (", .value ["id", "type"],
    .text ", error) \x7b",
    .choice (.holds ["id", "signed"]) (parseLine "ParseInt") (parseLine "ParseUint"),
    .text "\n\tif err != nil \x7b\n\t\treturn 0, err\n\t\x7d\n\n\treturn ", .value ["id", "type"],
    .text "(v), nil\n\x7d\n"] parser.chunks := by
  unfold chunks
  simp only [List.cons_append, List.nil_append]
  exact .fixed (.data rfl (.fixed (.data rfl (.fixed
    (.cons (prints_parseLine small) (.fixed (.data rfl (.fixed .nil))))))))

end Parser

/-! ## The file -/

namespace Model

variable (model : Model)

def headLines : List String :=
  ["// Code generated by repogen. DO NOT EDIT.", "", "package " ++ model.package, "",
    "import \"strconv\""]

def lines : List String := model.headLines ++ model.parsers.flatMap Parser.lines

theorem render_eq_ended (small : ∀ parser ∈ model.parsers, parser.bits < UInt64.size) :
    render Generator.idParser.template model.toJson = .ok (ended model.lines) := by
  let scope : Scope := [("package", .string model.package),
    ("ids", .array (model.parsers.map Parser.toJson))]
  have listed : Scope.get? scope ["ids"] = some (.array (model.parsers.map Parser.toJson)) := rfl
  have functions : Prints scope [.each "id" ["ids"] [
      .text "\nfunc ", .value ["id", "func_name"], .text "(s string) (", .value ["id", "type"],
      .text ", error) \x7b",
      .choice (.holds ["id", "signed"]) (parseLine "ParseInt") (parseLine "ParseUint"),
      .text "\n\tif err != nil \x7b\n\t\treturn 0, err\n\t\x7d\n\n\treturn ", .value ["id", "type"],
      .text "(v), nil\n\x7d\n"]] (model.parsers.flatMap Parser.chunks) :=
    .eachMem listed fun parser member _ => Parser.prints_chunks (small parser member)
  have spelled := spell_flatMap_eq_ended Parser.spell_chunks model.parsers
  have found : catalog.lookup Generator.idParser.template = some idParserTemplate := rfl
  refine (render_of_prints found (.fixed (.data rfl (.fixed functions)))).trans ?_
  rw [lines, ended_append, ← spelled]
  refine congrArg Except.ok (String.toList_inj.mp ?_)
  simp [Chunk.spell, Chunk.text, headLines, ended]

end Model

end Scaffold.IdParser
