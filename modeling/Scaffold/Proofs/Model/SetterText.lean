import Scaffold.Generator
import Scaffold.Proofs.Template.Lines

/-!
# The text of setters

Rendering a model of setters gives one struct per setter, and in each struct one line per field of
the setter, in order (`Model.render_eq_ended`).
-/

set_option autoImplicit false

namespace Scaffold.Setter

open Template Text

/-! ## Structs and their lines -/

namespace SetterField

variable (field : SetterField)

def line : String := "\t" ++ field.name ++ " " ++ field.type

def chunks : List Chunk := [.fixed "\n\t", .data field.name, .fixed " ", .data field.type]

theorem printsLines_chunks : PrintsLines field.chunks [field.line] := by
  intro rest
  apply String.toList_inj.mp
  simp [chunks, line, Chunk.spell, Chunk.text, ended]

end SetterField

namespace SetterStruct

variable (entry : SetterStruct)

def lines : List String :=
  ["", "type " ++ entry.name ++ " struct \x7b"] ++ entry.fields.map SetterField.line ++ ["\x7d"]

def chunks : List Chunk :=
  [.fixed "\ntype ", .data entry.name, .fixed " struct \x7b"] ++
    entry.fields.flatMap SetterField.chunks
    ++ [.fixed "\n\x7d\n"]

theorem spell_chunks : Chunk.spell entry.chunks = ended entry.lines := by
  have fields := PrintsLines.flatMap SetterField.printsLines_chunks entry.fields
  have last : Chunk.spell [.fixed "\n\x7d\n"] = "\n" ++ ended ["\x7d"] := rfl
  unfold chunks
  simp only [Chunk.spell_append, String.append_assoc]
  rw [last, fields]
  apply String.toList_inj.mp
  simp [Chunk.spell, Chunk.text, lines, ended, ended_append, List.map_eq_flatMap]

variable {entry} {scope : Scope}

theorem prints_chunks : Prints (("e", entry.toJson) :: scope)
    [.text "\ntype ", .value ["e", "setter_type"], .text " struct \x7b",
      .each "f" ["e", "fields"] [.text "\n\t", .value ["f", "name"], .text " ",
        .value ["f", "type"]],
      .text "\n\x7d\n"] entry.chunks := by
  unfold chunks
  have listed : Scope.get? (("e", entry.toJson) :: scope) ["e", "fields"] =
      some (.array (entry.fields.map SetterField.toJson)) := rfl
  have fields : Prints (("e", entry.toJson) :: scope)
      [.each "f" ["e", "fields"] [.text "\n\t", .value ["f", "name"], .text " ",
        .value ["f", "type"]]]
      (entry.fields.flatMap SetterField.chunks) :=
    .each listed fun _ _ => .fixed (.data rfl (.fixed (.data rfl .nil)))
  simp only [List.cons_append, List.nil_append]
  exact .fixed (.data rfl (.fixed (fields.cons (.fixed .nil))))

end SetterStruct

/-! ## The file -/

namespace Model

variable (model : Model)

def headLines : List String :=
  ["// Code generated by repogen. DO NOT EDIT.", "", "package " ++ model.package, "", "import (",
    "\t\"github.com/aarondl/opt/omit\"", "\t\"github.com/aarondl/opt/omitnull\"", ")", "", "var (",
    "\t_ omit.Val[int]", "\t_ omitnull.Val[int]", ")"]

def lines : List String := model.headLines ++ model.setters.flatMap SetterStruct.lines

/-- Every model can be rendered, and the text has a struct for each setter with a line for each
field. -/
theorem render_eq_ended :
    render Generator.setter.template model.toJson = .ok (ended model.lines) := by
  let scope : Scope := [("package", .string model.package),
    ("entities", .array (model.setters.map SetterStruct.toJson))]
  have listed : Scope.get? scope ["entities"] =
      some (.array (model.setters.map SetterStruct.toJson)) := rfl
  have structs : Prints scope
      [.each "e" ["entities"] [.text "\ntype ", .value ["e", "setter_type"], .text " struct \x7b",
        .each "f" ["e", "fields"] [.text "\n\t", .value ["f", "name"], .text " ",
          .value ["f", "type"]],
        .text "\n\x7d\n"]]
      (model.setters.flatMap SetterStruct.chunks) :=
    .each listed fun _ _ => SetterStruct.prints_chunks
  have spelled := spell_flatMap_eq_ended SetterStruct.spell_chunks model.setters
  have found : catalog.lookup Generator.setter.template = some setterTemplate := rfl
  refine (render_of_prints found (.fixed (.data rfl (.fixed (.fixed structs))))).trans ?_
  rw [lines, ended_append, ← spelled]
  refine congrArg Except.ok (String.toList_inj.mp ?_)
  simp [Chunk.spell, Chunk.text, headLines, ended]

end Model

end Scaffold.Setter
