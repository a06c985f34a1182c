import Scaffold.Model.Wrapper
import Scaffold.Proofs.Template.Chunk

/-!
# The text of wrappers

What the template prints for a model of wrappers, line by line and function by function.  In the
chunks, `m` is the model that a function gets, `m.R` its relations, `s` the setter that a function
gets and `g` the getter that a function puts together.
-/

set_option autoImplicit false

namespace Scaffold.Wrapper

open Template

/-! ## Lines for a field -/

namespace WrappedField

variable (field : WrappedField)

def keyChunks : List Chunk := [.fixed "\n\t\t", .data field.getterName, .fixed ": "]

def stored : Chunk := .select "m" field.modelName

/-- The model has an optional value that is no pointer. -/
def IsOptional : Prop :=
  field.modelType.isNullable = true ∧ ¬ "*".toList <+: field.modelType.qualifiedName.toList

instance : Decidable field.IsOptional := inferInstanceAs (Decidable (_ ∧ ¬ _))

def literalChunks : List Chunk :=
  if field.wrapFunc ≠ "" then
    field.keyChunks ++ [.data field.wrapFunc, .fixed "(", field.stored, .fixed "),"]
  else if field.IsOptional then
    if field.getterType.isNullable = true then field.keyChunks ++ [field.stored, .fixed ".Ptr(),"]
    else field.keyChunks ++ [field.stored, .fixed ".GetOrZero(),"]
  else if field.getterType.qualifiedName ≠ field.modelType.qualifiedName then
    field.keyChunks ++ [.data field.getterType.qualifiedName, .fixed "(", field.stored, .fixed "),"]
  else field.keyChunks ++ [field.stored, .fixed ","]

def related : Chunk := .select "m.R" field.relationName

def targetChunks : List Chunk := [.fixed "\n\t\t", .select "g" field.getterName, .fixed " = "]

/-- The block that sets the getter's field from a relation that is loaded. -/
def relationChunks : List Chunk :=
  [.fixed "\n\n\tif ", .select "m" relationsField, .fixed " != nil && ", field.related,
      .fixed " != nil \x7b"]
    ++ (if field.wrapFunc ≠ "" then
        field.targetChunks ++ [.data field.wrapFunc, .fixed "(", field.related, .fixed ")"]
      else if field.relationType.isArray = true then
        field.targetChunks ++ [.fixed "wrapSlice(", field.related, .fixed ", Wrap",
          .data field.relationType.trueElementName, .fixed ")"]
      else
        field.targetChunks ++ [.fixed "Wrap", .data field.relationType.trueElementName, .fixed "(",
          field.related, .fixed ")"])
    ++ [.fixed "\n\t\x7d"]

def unwrapChunks : List Chunk :=
  if field.unwrapFunc ≠ "" then
    [.fixed "\n\t\t", .data field.modelName, .fixed ": ", .data field.unwrapFunc, .fixed "(",
      .select "s" field.setterName, .fixed "),"]
  else
    [.fixed "\n\t\t", .data field.modelName, .fixed ": ", .select "s" field.setterName, .fixed ","]

variable {field} {scope : Scope}

theorem prints_getterKey : Prints (("f", field.toJson) :: scope) getterKey field.keyChunks :=
  .fixed (.data rfl (.fixed .nil))

theorem prints_modelField : Prints (("f", field.toJson) :: scope) modelField [field.stored] :=
  .select rfl rfl .nil

theorem eval?_isOptional :
    Condition.eval? (("f", field.toJson) :: scope)
      (.both (.holds ["f", "models_type", "is_nullable"])
        (.not (.beginsWith ["f", "models_type", "qualified_name"] "*"))) =
      some (decide field.IsOptional) :=
  Condition.eval?_both (Condition.eval?_holds_bool rfl)
    (Condition.eval?_not (Condition.eval?_beginsWith rfl))

theorem prints_literalLine :
    Prints (("f", field.toJson) :: scope) [literalLine] field.literalChunks := by
  unfold literalLine literalChunks
  refine .choice (Condition.eval?_holds_string rfl) ?_ (.choice eval?_isOptional
    (.choice (Condition.eval?_holds_bool rfl) ?_ ?_)
    (.choice (Condition.eval?_differ rfl rfl) ?_ ?_))
  · exact ((prints_getterKey.append (.data rfl (.fixed .nil))).append prints_modelField).append
      (.fixed .nil)
  · exact (prints_getterKey.append prints_modelField).append (.fixed .nil)
  · exact (prints_getterKey.append prints_modelField).append (.fixed .nil)
  · exact ((prints_getterKey.append (.data rfl (.fixed .nil))).append prints_modelField).append
      (.fixed .nil)
  · exact (prints_getterKey.append prints_modelField).append (.fixed .nil)

theorem prints_relationTarget :
    Prints (("f", field.toJson) :: scope) relationTarget field.targetChunks :=
  .selectBehind rfl rfl (.fixed .nil)

theorem prints_modelRelation :
    Prints (("f", field.toJson) :: scope) modelRelation [field.related] :=
  .select rfl rfl .nil

theorem prints_relationBlock :
    Prints (("f", field.toJson) :: scope) relationBlock field.relationChunks := by
  unfold relationBlock relationChunks
  have guard : Prints (("f", field.toJson) :: scope) [.text "\n\n\tif m.R != nil && "]
      [.fixed "\n\n\tif ", .select "m" relationsField, .fixed " != nil && "] := .text (by decide)
  refine (guard.append prints_modelRelation).append (.fixed (.cons ?_ (.fixed .nil)))
  refine .choice (Condition.eval?_holds_string rfl) ?_
    (.choice (Condition.eval?_holds_bool rfl) ?_ ?_)
  · exact ((prints_relationTarget.append (.data rfl (.fixed .nil))).append
      prints_modelRelation).append
      (.fixed .nil)
  · exact ((prints_relationTarget.append (.fixed .nil)).append prints_modelRelation).append
      (.fixed (.data rfl (.fixed .nil)))
  · exact (prints_relationTarget.append (.fixed (.data rfl (.fixed .nil)))).append
      (prints_modelRelation.append (.fixed .nil))

theorem eval?_wrapsAs_false :
    Condition.eval? (("f", field.toJson) :: scope) (wrapsAs false) =
      some (!field.noWrap && field.relationName = "") := by
  refine (Condition.eval?_both (Condition.eval?_not (Condition.eval?_holds_bool rfl))
    (Condition.eval?_not (Condition.eval?_holds_string rfl))).trans ?_
  simp

theorem eval?_wrapsAs_true :
    Condition.eval? (("f", field.toJson) :: scope) (wrapsAs true) =
      some (!field.noWrap && field.relationName ≠ "") := by
  refine (Condition.eval?_both (Condition.eval?_not (Condition.eval?_holds_bool rfl))
    (Condition.eval?_holds_string rfl)).trans ?_
  simp

theorem eval?_unwraps :
    Condition.eval? (("f", field.toJson) :: scope)
      (.both (.not (.holds ["f", "no_unwrap"])) (.holds ["f", "models_name"])) =
      some (!field.noUnwrap && field.modelName ≠ "") := by
  refine (Condition.eval?_both (Condition.eval?_not (Condition.eval?_holds_bool rfl))
    (Condition.eval?_holds_string rfl)).trans ?_
  simp

theorem prints_unwrapLine :
    Prints (("f", field.toJson) :: scope) [unwrapLine] field.unwrapChunks := by
  unfold unwrapLine unwrapChunks
  refine .choice (Condition.eval?_holds_string rfl) ?_ ?_
  · exact .fixed (.data rfl (.fixed (.data rfl (.selectBehind rfl rfl (.fixed .nil)))))
  · exact .fixed (.data rfl (.selectBehind rfl rfl (.fixed .nil)))

end WrappedField

/-! ## Functions for a record -/

namespace WrappedRecord

variable (record : WrappedRecord)

def literalFields : List WrappedField :=
  record.fields.filter fun field => !field.noWrap && field.relationName = ""

def relationFields : List WrappedField :=
  record.fields.filter fun field => !field.noWrap && field.relationName ≠ ""

/-- The fields that are set in the literal of the model's setter. -/
def unwrapFields : List WrappedField :=
  record.fields.filter fun field => !field.noUnwrap && field.modelName ≠ ""

def wrapChunks : List Chunk :=
  [.fixed "\n// Wrap", .data record.getterName, .fixed " converts a ", .data record.modelName,
      .fixed " model into a ", .data record.qualifiedGetterName, .fixed ".\nfunc Wrap",
      .data record.getterName, .fixed "(m *", .data record.modelName, .fixed ") *",
      .data record.qualifiedGetterName,
      .fixed " \x7b\n\tif m == nil \x7b\n\t\treturn nil\n\t\x7d\n\n\tg := &",
      .data record.qualifiedGetterName, .fixed "\x7b"]
    ++ record.literalFields.flatMap WrappedField.literalChunks
    ++ [.fixed "\n\t\x7d"]
    ++ record.relationFields.flatMap WrappedField.relationChunks
    ++ [.fixed "\n\n\treturn g\n\x7d\n"]

/-- The function from the setter to the model's setter. -/
def unwrapChunks : List Chunk :=
  [.fixed "\n// Unwrap", .data record.setterName, .fixed " converts a ",
      .data record.qualifiedSetterName, .fixed " into a ", .data record.modelSetterName,
      .fixed ".\nfunc Unwrap", .data record.setterName, .fixed "(s *",
      .data record.qualifiedSetterName, .fixed ") *", .data record.modelSetterName,
      .fixed " \x7b\n\tif s == nil \x7b\n\t\treturn nil\n\t\x7d\n\n\treturn &",
      .data record.modelSetterName, .fixed "\x7b"]
    ++ record.unwrapFields.flatMap WrappedField.unwrapChunks
    ++ [.fixed "\n\t\x7d\n\x7d\n"]

def chunks : List Chunk :=
  (if ¬ record.noWrap = true then record.wrapChunks else [])
    ++ (if ¬ record.noUnwrap = true then record.unwrapChunks else [])

variable {record} {scope : Scope}

theorem prints_wrapFunction :
    Prints (("e", record.toJson) :: scope) wrapFunction record.wrapChunks := by
  unfold wrapFunction wrapChunks
  have literal : Prints (("e", record.toJson) :: scope)
      [.each "f" ["e", "fields"] [.when (wrapsAs false) [literalLine]]]
      (record.literalFields.flatMap WrappedField.literalChunks) :=
    .eachWhen rfl (fun _ _ => WrappedField.eval?_wrapsAs_false) fun _ _ =>
      WrappedField.prints_literalLine
  have relations : Prints (("e", record.toJson) :: scope)
      [.each "f" ["e", "fields"] [.when (wrapsAs true) relationBlock]]
      (record.relationFields.flatMap WrappedField.relationChunks) :=
    .eachWhen rfl (fun _ _ => WrappedField.eval?_wrapsAs_true) fun _ _ =>
      WrappedField.prints_relationBlock
  simp only [List.append_assoc, List.cons_append, List.nil_append]
  refine .fixed
    (.data rfl (.fixed (.data rfl (.fixed (.data rfl (.fixed (.data rfl (.fixed (.data rfl
    (.fixed (.data rfl (.fixed (.data rfl (.fixed ?_))))))))))))))
  exact literal.cons (.fixed (relations.cons (.fixed .nil)))

theorem prints_unwrapFunction :
    Prints (("e", record.toJson) :: scope) unwrapFunction record.unwrapChunks := by
  unfold unwrapFunction unwrapChunks
  have literal : Prints (("e", record.toJson) :: scope)
      [.each "f" ["e", "fields"] [
        .when (.both (.not (.holds ["f", "no_unwrap"])) (.holds ["f", "models_name"]))
          [unwrapLine]]]
      (record.unwrapFields.flatMap WrappedField.unwrapChunks) :=
    .eachWhen rfl (fun _ _ => WrappedField.eval?_unwraps) fun _ _ => WrappedField.prints_unwrapLine
  simp only [List.cons_append, List.nil_append]
  refine .fixed
    (.data rfl (.fixed (.data rfl (.fixed (.data rfl (.fixed (.data rfl (.fixed (.data rfl
    (.fixed (.data rfl (.fixed (.data rfl (.fixed ?_))))))))))))))
  exact literal.cons (.fixed .nil)

theorem prints_functions :
    Prints (("e", record.toJson) :: scope)
      [.when (.not (.holds ["e", "no_wrap"])) wrapFunction,
        .when (.not (.holds ["e", "no_unwrap"])) unwrapFunction]
      record.chunks := by
  unfold chunks
  exact (Prints.when (Condition.eval?_not (Condition.eval?_holds_bool rfl))
    prints_wrapFunction).cons
    (.when (Condition.eval?_not (Condition.eval?_holds_bool rfl)) prints_unwrapFunction)

end WrappedRecord

/-! ## The file -/

namespace Model

variable (model : Model)

def chunks : List Chunk :=
  [.fixed "// Code generated by repogen. DO NOT EDIT.\n\npackage ", .data model.modelsPackage,
      .fixed "\n\nimport (\n\t", .data model.repoPackage, .fixed " \"", .data model.repoPath,
      .fixed "\"\n)\n"]
    ++ model.records.flatMap WrappedRecord.chunks
    ++ [.fixed wrapSliceFunction]

/-- The members of the model's data, as the template sees them. -/
def scope : Scope :=
  [("models_package", .string model.modelsPackage), ("repo_package", .string model.repoPackage),
    ("repo_path", .string model.repoPath),
    ("entities", .array (model.records.map WrappedRecord.toJson))]

theorem prints_wrapperTemplate : Prints model.scope wrapperTemplate model.chunks := by
  unfold wrapperTemplate chunks
  have functions : Prints model.scope
      [.each "e" ["entities"] [
        .when (.not (.holds ["e", "no_wrap"])) wrapFunction,
        .when (.not (.holds ["e", "no_unwrap"])) unwrapFunction]]
      (model.records.flatMap WrappedRecord.chunks) :=
    .each rfl fun _ _ => WrappedRecord.prints_functions
  simp only [List.cons_append, List.nil_append]
  refine .fixed (.data rfl (.fixed (.data rfl (.fixed (.data rfl (.fixed ?_))))))
  exact functions.cons (.fixed .nil)

theorem render_eq : render "bob.go.tera" model.toJson = .ok (Chunk.spell model.chunks) :=
  render_of_prints rfl model.prints_wrapperTemplate

end Model

end Scaffold.Wrapper
