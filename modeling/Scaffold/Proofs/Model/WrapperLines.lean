import Mathlib.Tactic.SplitIfs
import Scaffold.Proofs.Model.WrapperText
import Scaffold.Proofs.Template.Lines

/-!
# Wrappers line by line

A generated function consists of settings: a field, and the expression that it is set to.
`WrapFunction` and `UnwrapFunction` are the two kinds of functions with the lines that they are
written in, and rendering a model gives the lines of its functions one below the other
(`Model.render_eq_ended`).
-/

set_option autoImplicit false

namespace Scaffold.Wrapper

open Template Text

/-! ## Functions and their lines -/

structure Setting where
  field : String
  value : String
  deriving DecidableEq, Repr

def Setting.entry (setting : Setting) : String :=
  "\t\t" ++ setting.field ++ ": " ++ setting.value ++ ","

/-- A field of the getter that is set when a relation of the model is loaded. -/
structure RelationBlock where
  relation : String
  setting : Setting
  deriving DecidableEq, Repr

def RelationBlock.lines (block : RelationBlock) : List String :=
  ["", "\tif m.R != nil && m.R." ++ block.relation ++ " != nil \x7b",
    "\t\tg." ++ block.setting.field ++ " = " ++ block.setting.value, "\t\x7d"]

/-- What stands above the literal of a function: its comment, its declaration and what it does to
nil. -/
def headLines (comment declaration argument : String) : List String :=
  ["", comment, declaration, "\tif " ++ argument ++ " == nil \x7b", "\t\treturn nil", "\t\x7d", ""]

structure WrapFunction where
  name : String
  model : String
  getter : String
  literal : List Setting
  blocks : List RelationBlock
  deriving DecidableEq, Repr

namespace WrapFunction

variable (function : WrapFunction)

def declaration : String :=
  "func " ++ function.name ++ "(m *" ++ function.model ++ ") *" ++ function.getter ++ " \x7b"

def lines : List String :=
  headLines ("// " ++ function.name ++ " converts a " ++ function.model ++ " model into a "
      ++ function.getter ++ ".") function.declaration "m"
    ++ ["\tg := &" ++ function.getter ++ "\x7b"] ++ function.literal.map Setting.entry ++ ["\t\x7d"]
    ++ function.blocks.flatMap RelationBlock.lines ++ ["", "\treturn g", "\x7d"]

end WrapFunction

structure UnwrapFunction where
  name : String
  setter : String
  model : String
  literal : List Setting
  deriving DecidableEq, Repr

namespace UnwrapFunction

variable (function : UnwrapFunction)

def declaration : String :=
  "func " ++ function.name ++ "(s *" ++ function.setter ++ ") *" ++ function.model ++ " \x7b"

def lines : List String :=
  headLines ("// " ++ function.name ++ " converts a " ++ function.setter ++ " into a "
      ++ function.model ++ ".") function.declaration "s"
    ++ ["\treturn &" ++ function.model ++ "\x7b"] ++ function.literal.map Setting.entry
    ++ ["\t\x7d", "\x7d"]

end UnwrapFunction

/-! ## Settings of a field -/

namespace WrappedField

variable (field : WrappedField)

def storedText : String := "m." ++ field.modelName

def literalValue : String :=
  if field.wrapFunc ≠ "" then field.wrapFunc ++ "(" ++ field.storedText ++ ")"
  else if field.IsOptional then
    if field.getterType.isNullable = true then field.storedText ++ ".Ptr()"
    else field.storedText ++ ".GetOrZero()"
  else if field.getterType.qualifiedName ≠ field.modelType.qualifiedName then
    field.getterType.qualifiedName ++ "(" ++ field.storedText ++ ")"
  else field.storedText

/-- The expression that applies a function to the relation, item by item if there are many. -/
def relationCall (function : String) : String :=
  if field.relationType.isArray = true then
    "wrapSlice(m.R." ++ field.relationName ++ ", " ++ function ++ ")"
  else function ++ "(m.R." ++ field.relationName ++ ")"

def relationValue : String :=
  if field.wrapFunc ≠ "" then field.wrapFunc ++ "(m.R." ++ field.relationName ++ ")"
  else field.relationCall ("Wrap" ++ field.relationType.trueElementName)

def unwrapValue : String :=
  if field.unwrapFunc ≠ "" then field.unwrapFunc ++ "(s." ++ field.setterName ++ ")"
  else "s." ++ field.setterName

def relationBlock : RelationBlock := ⟨field.relationName, field.getterName, field.relationValue⟩

def unwrapSetting : Setting := ⟨field.modelName, field.unwrapValue⟩

def literalSetting : Setting := ⟨field.getterName, field.literalValue⟩

theorem printsLines_literalChunks :
    PrintsLines field.literalChunks [field.literalSetting.entry] := by
  intro rest
  unfold literalChunks literalSetting literalValue
  apply String.toList_inj.mp
  split_ifs <;> simp [Chunk.spell, Chunk.text, ended, Setting.entry, keyChunks, stored, storedText]

theorem printsLines_relationChunks :
    PrintsLines field.relationChunks field.relationBlock.lines := by
  intro rest
  unfold relationChunks relationBlock relationValue relationCall
  apply String.toList_inj.mp
  split_ifs <;>
    simp [Chunk.spell, Chunk.text, ended, RelationBlock.lines, targetChunks, related,
      relationsField]

theorem printsLines_unwrapChunks : PrintsLines field.unwrapChunks [field.unwrapSetting.entry] := by
  intro rest
  unfold unwrapChunks unwrapSetting unwrapValue
  apply String.toList_inj.mp
  split_ifs <;> simp [Chunk.spell, Chunk.text, ended, Setting.entry]

end WrappedField

/-! ## Functions of a record -/

namespace WrappedRecord

variable (record : WrappedRecord)

def wrapFunction : WrapFunction where
  name := "Wrap" ++ record.getterName
  model := record.modelName
  getter := record.qualifiedGetterName
  literal := record.literalFields.map WrappedField.literalSetting
  blocks := record.relationFields.map WrappedField.relationBlock

def unwrapFunction : UnwrapFunction where
  name := "Unwrap" ++ record.setterName
  setter := record.qualifiedSetterName
  model := record.modelSetterName
  literal := record.unwrapFields.map WrappedField.unwrapSetting

/-- The lines of the functions that are not turned off. -/
def lines : List String :=
  (if record.noWrap = true then [] else record.wrapFunction.lines)
    ++ (if record.noUnwrap = true then [] else record.unwrapFunction.lines)

theorem spell_wrapChunks : Chunk.spell record.wrapChunks = ended record.wrapFunction.lines := by
  have literal := PrintsLines.flatMap WrappedField.printsLines_literalChunks record.literalFields
  have blocks := PrintsLines.flatMap WrappedField.printsLines_relationChunks record.relationFields
  have closed : PrintsLines [.fixed "\n\t\x7d"] ["\t\x7d"] := fun _ => rfl
  have last : Chunk.spell [.fixed "\n\n\treturn g\n\x7d\n"] =
      "\n" ++ ended ["", "\treturn g", "\x7d"] := rfl
  unfold wrapChunks
  simp only [Chunk.spell_append, String.append_assoc]
  rw [last, blocks, closed, literal]
  apply String.toList_inj.mp
  simp [Chunk.spell, Chunk.text, wrapFunction, WrapFunction.lines, WrapFunction.declaration,
    headLines, ended, ended_append, List.map_eq_flatMap, List.flatMap_assoc]

theorem spell_unwrapChunks :
    Chunk.spell record.unwrapChunks = ended record.unwrapFunction.lines := by
  have literal := PrintsLines.flatMap WrappedField.printsLines_unwrapChunks record.unwrapFields
  have last : Chunk.spell [.fixed "\n\t\x7d\n\x7d\n"] = "\n" ++ ended ["\t\x7d", "\x7d"] := rfl
  unfold unwrapChunks
  simp only [Chunk.spell_append, String.append_assoc]
  rw [last, literal]
  apply String.toList_inj.mp
  simp [Chunk.spell, Chunk.text, unwrapFunction, UnwrapFunction.lines, UnwrapFunction.declaration,
    headLines, ended, ended_append, List.map_eq_flatMap, List.flatMap_assoc]

theorem spell_chunks : Chunk.spell record.chunks = ended record.lines := by
  unfold chunks lines
  rw [Chunk.spell_append, ended_append]
  congr 1
  · cases record.noWrap
    · exact record.spell_wrapChunks
    · rfl
  · cases record.noUnwrap
    · exact record.spell_unwrapChunks
    · rfl

end WrappedRecord

/-! ## The file -/

namespace Model

variable (model : Model)

def headLines : List String :=
  ["// Code generated by repogen. DO NOT EDIT.", "", "package " ++ model.modelsPackage, "",
    "import (", "\t" ++ model.repoPackage ++ " \"" ++ model.repoPath ++ "\"", ")"]

theorem spell_chunks :
    Chunk.spell model.chunks =
      ended model.headLines ++ ended (model.records.flatMap WrappedRecord.lines) ++
        wrapSliceFunction := by
  have records := spell_flatMap_eq_ended WrappedRecord.spell_chunks model.records
  unfold chunks
  simp only [Chunk.spell_append, records]
  apply String.toList_inj.mp
  simp [Chunk.spell, Chunk.text, headLines, ended]

/-- Every model can be rendered, and the text has the lines of its functions in order. -/
theorem render_eq_ended : render "bob.go.tera" model.toJson =
    .ok (ended model.headLines ++ ended (model.records.flatMap WrappedRecord.lines) ++
      wrapSliceFunction) := by
  rw [model.render_eq, model.spell_chunks]

end Model

/-! ## Where the lines stand -/

variable {model : Model} {record : WrappedRecord} {field : WrappedField}

theorem WrappedRecord.wrapLines_infix (isRecord : record ∈ model.records)
    (wraps : record.noWrap = false) :
    record.wrapFunction.lines <:+: model.records.flatMap WrappedRecord.lines := by
  have inRecord : record.wrapFunction.lines <:+: record.lines := by
    unfold lines
    rw [wraps]
    exact (List.prefix_append _ _).isInfix
  exact inRecord.trans (infix_flatMap isRecord _)

theorem WrappedRecord.literal_mem (isField : field ∈ record.fields) (wraps : field.noWrap = false)
    (plain : field.relationName = "") : field.literalSetting ∈ record.wrapFunction.literal :=
  List.mem_map_of_mem (List.mem_filter.mpr ⟨isField, by simp [wraps, plain]⟩)

theorem WrappedRecord.block_infix (isField : field ∈ record.fields) (wraps : field.noWrap = false)
    (related : field.relationName ≠ "") :
    field.relationBlock.lines <:+: record.wrapFunction.lines := by
  have isBlock : field.relationBlock ∈ record.wrapFunction.blocks :=
    List.mem_map_of_mem (List.mem_filter.mpr ⟨isField, by simp [wraps, related]⟩)
  unfold WrapFunction.lines
  exact (infix_flatMap isBlock RelationBlock.lines).trans (List.infix_append _ _ _)

theorem WrapFunction.declaration_mem (function : WrapFunction) :
    function.declaration ∈ function.lines := by
  simp [lines, headLines]

theorem WrapFunction.entry_mem {function : WrapFunction} {setting : Setting}
    (isSetting : setting ∈ function.literal) : setting.entry ∈ function.lines := by
  simp [lines, List.mem_map_of_mem isSetting]

end Scaffold.Wrapper
