import Scaffold.Proofs.GoType.Descriptor
import Scaffold.Proofs.Model.Origin
import Scaffold.Proofs.Model.WrapperLines

/-!
# Which functions relations are wrapped with

The function that wraps a record is named for the getter, and the call for a relation is spelled
with the name of the related model.  So a relation is wrapped with the function of the related
record exactly when that record has the name of its model (`relation_calls_wrapper_iff`); under a
name of its own, the call is to a function that is not there (`relation_calls_missing_function`).
-/

set_option autoImplicit false

namespace Scaffold

open Text

namespace Wrapper

variable {package models : Package} {model : Model} {record related : WrappedRecord}
    {field : WrappedField}

/-- The innermost type of the relation that a field stands for is one that the models package
declares under a given name. -/
def RelatesTo (models : Package) (record : WrappedRecord) (field : WrappedField)
    (name : String) : Prop :=
  ∃ type inner owner underlying, relatedType? models record field = some type ∧
    type.HasValueType inner ∧
    TypeDescriptor.innermost models inner = .named ⟨some owner, name, [], underlying⟩ ∧
    owner.path = models.path

namespace WrappedField

theorem relationCall_inj {f g : String} : field.relationCall f = field.relationCall g ↔ f = g := by
  unfold relationCall
  constructor
  · intro same
    have spelled := congrArg String.toList same
    apply String.toList_inj.mp
    split at spelled
    · simpa using spelled
    · simpa using spelled
  · rintro rfl
    rfl

theorem relationValue_eq (plain : field.wrapFunc = "") :
    field.relationValue = field.relationCall ("Wrap" ++ field.relationType.trueElementName) := by
  unfold relationValue
  exact if_neg fun given => given plain

end WrappedField

theorem trueElementName_of_relatesTo (built : build package models = .ok model)
    (isRecord : record ∈ model.records) (isField : field ∈ record.fields)
    (named : field.relationName ≠ "") {name : String}
    (relates : RelatesTo models record field name) :
    field.relationType.trueElementName = name := by
  obtain ⟨origin⟩ := exists_origin built isRecord isField
  obtain ⟨type, found, described⟩ := origin.relatedType?_eq named
  obtain ⟨_, inner, owner, underlying, found', value, innermost, own⟩ := relates
  obtain rfl := Option.some.inj (found.symm.trans found')
  refine TypeDescriptor.trueElementName_of_resolve? value described ?_
  rw [innermost]
  exact GoType.print?_own own

end Wrapper

/-- The block of a wrapped relation calls the function that is named for the related model.  The
text declares one that is named for the related getter, so the call is to that one exactly when both
have one name. -/
theorem relation_calls_wrapper_iff {package models : Package} {model : Wrapper.Model}
    (built : Wrapper.build package models = .ok model) {record related : Wrapper.WrappedRecord}
    (isRecord : record ∈ model.records) (wraps : record.noWrap = false)
    (isRelated : related ∈ model.records) (relatedWraps : related.noWrap = false)
    {field : Wrapper.WrappedField} (isField : field ∈ record.fields)
    (fieldWraps : field.noWrap = false)
    (plain : field.wrapFunc = "") (named : field.relationName ≠ "")
    (relates : Wrapper.RelatesTo models record field related.modelName) :
    ∃ lines, Template.render "bob.go.tera" model.toJson =
        .ok (ended model.headLines ++ ended lines ++ Template.wrapSliceFunction) ∧
      (field.relationBlock.lines <:+: record.wrapFunction.lines ∧
        record.wrapFunction.lines <:+: lines) ∧
      (related.wrapFunction.declaration ∈ related.wrapFunction.lines ∧
        related.wrapFunction.lines <:+: lines) ∧
      field.relationBlock = ⟨field.relationName, field.getterName,
        field.relationCall ("Wrap" ++ related.modelName)⟩ ∧
      (field.relationBlock.setting.value = field.relationCall related.wrapFunction.name ↔
        related.getterName = related.modelName) := by
  have element : field.relationType.trueElementName = related.modelName :=
    Wrapper.trueElementName_of_relatesTo built isRecord isField named relates
  have value : field.relationValue = field.relationCall ("Wrap" ++ related.modelName) := by
    rw [Wrapper.WrappedField.relationValue_eq plain, element]
  refine ⟨_, model.render_eq_ended,
    ⟨Wrapper.WrappedRecord.block_infix isField fieldWraps named,
      Wrapper.WrappedRecord.wrapLines_infix isRecord wraps⟩,
    ⟨related.wrapFunction.declaration_mem,
      Wrapper.WrappedRecord.wrapLines_infix isRelated relatedWraps⟩,
    ?_, ?_⟩
  · rw [Wrapper.WrappedField.relationBlock, value]
  · show field.relationValue = field.relationCall ("Wrap" ++ related.getterName) ↔ _
    rw [value, Wrapper.WrappedField.relationCall_inj, String.append_right_inj]
    exact eq_comm

/-- Groups of groups are wrapped with one function, item by item. -/
theorem relation_calls_wrapper_group :
    let children (path name : String) (tag : String) : Field :=
      ⟨"Children", .slice (.pointer (.ofName (some ⟨path, name⟩) "Group")), tag, false⟩
    let package : Package := ⟨"shop", "example.com/shop",
      [⟨"shop.go", [⟨[⟨"//repogen:bob", 2⟩]⟩]⟩],
      [⟨"Group", ⟨"shop.go", 3, 6⟩,
        .struct [children "example.com/shop" "shop" "repogen:\"rel:'Children'\""]⟩,
        ⟨"GroupSetter", ⟨"setter.go", 9, 6⟩, .struct [⟨"Children", .basic .string, "", false⟩]⟩]⟩
    let models : Package := ⟨"models", "example.com/models", [],
      [⟨"Group", ⟨"models.go", 3, 6⟩, .struct [
        ⟨"R", .struct [children "example.com/models" "models" ""], "", false⟩]⟩]⟩
    let field : Wrapper.WrappedField := {
      getterName := "Children"
      getterType := ⟨"[]*shop.Group", "*shop.Group", "shop.Group", false, true⟩
      setterName := "Children"
      setterType := ⟨"[]*shop.GroupSetter", "*shop.GroupSetter", false, true⟩
      modelName := ""
      modelType := .blank
      relationName := "Children"
      relationType := ⟨"[]*Group", "*Group", "Group", false, true⟩
      noUnwrap := true
      noWrap := false
      unwrapFunc := ""
      wrapFunc := "" }
    let record : Wrapper.WrappedRecord :=
      ⟨"Group", "shop.Group", "GroupSetter", "shop.GroupSetter", "Group", "GroupSetter", false,
        false, [field]⟩
    let model : Wrapper.Model := ⟨"models", "shop", "example.com/shop", [record]⟩
    Wrapper.build package models = .ok model ∧ Wrapper.RelatesTo models record field "Group" ∧
      field.relationBlock.setting.value = "wrapSlice(m.R.Children, WrapGroup)" ∧
      record.wrapFunction.name = "WrapGroup" ∧
      field.relationBlock.setting.value = field.relationCall record.wrapFunction.name := by
  intro children package models field record model
  have built : Wrapper.build package models = .ok model := by decide +kernel
  have relates : Wrapper.RelatesTo models record field "Group" :=
    ⟨_, _, _, _, rfl, .inr ⟨by rintro _ ⟨_, _, _, ⟨⟩⟩, rfl⟩, rfl, rfl⟩
  obtain ⟨_, _, _, _, _, called⟩ :=
    relation_calls_wrapper_iff built (List.mem_singleton_self record) rfl
      (List.mem_singleton_self record) rfl (List.mem_singleton_self field) rfl rfl (by decide)
      relates
  exact ⟨built, relates, by decide, by decide, called.mpr rfl⟩

/-- A user is stored as an account: the wrapper is named for the user, and the owner of a widget is
wrapped with a function named for the account. -/
theorem relation_calls_missing_function :
    let name : Field := ⟨"Name", .basic .string, "", false⟩
    let owner (path package type tag : String) : Field :=
      ⟨"Owner", .pointer (.ofName (some ⟨path, package⟩) type), tag, false⟩
    let package : Package := ⟨"shop", "example.com/shop",
      [⟨"shop.go", [⟨[⟨"//repogen:bob", 2⟩]⟩, ⟨[⟨"//repogen:bob Account", 8⟩]⟩]⟩],
      [⟨"Widget", ⟨"shop.go", 3, 6⟩, .struct
          [owner "example.com/shop" "shop" "User"
            "repogen:\"rel:'Owner' unwrap:'-' bob:'OwnerID'\""]⟩,
        ⟨"User", ⟨"shop.go", 9, 6⟩, .struct [name]⟩,
        ⟨"WidgetSetter", ⟨"shop.go", 13, 6⟩, .struct []⟩,
        ⟨"UserSetter", ⟨"shop.go", 17, 6⟩, .struct [name]⟩]⟩
    let models : Package := ⟨"models", "example.com/shop/models", [],
      [⟨"Widget", ⟨"models.go", 3, 6⟩, .struct [⟨"OwnerID", .basic .int64, "", false⟩,
          ⟨"R", .struct [owner "example.com/shop/models" "models" "Account" ""], "", false⟩]⟩,
        ⟨"Account", ⟨"models.go", 10, 6⟩, .struct [name]⟩]⟩
    let string : TypeDescriptor := ⟨"string", "string", "string", false, false⟩
    let field : Wrapper.WrappedField := {
      getterName := "Owner"
      getterType := ⟨"*shop.User", "shop.User", "shop.User", true, false⟩
      setterName := ""
      setterType := .blank
      modelName := "OwnerID"
      modelType := ⟨"int64", "int64", "int64", false, false⟩
      relationName := "Owner"
      relationType := ⟨"*Account", "Account", "Account", true, false⟩
      noUnwrap := true
      noWrap := false
      unwrapFunc := ""
      wrapFunc := "" }
    let record : Wrapper.WrappedRecord :=
      ⟨"Widget", "shop.Widget", "WidgetSetter", "shop.WidgetSetter", "Widget", "WidgetSetter",
        false, false, [field]⟩
    let related : Wrapper.WrappedRecord :=
      ⟨"User", "shop.User", "UserSetter", "shop.UserSetter", "Account", "AccountSetter", false,
        false, [⟨"Name", string, "Name", ⟨"string", "string", false, false⟩, "Name", string, "",
          .blank, false, false, "", ""⟩]⟩
    let model : Wrapper.Model := ⟨"models", "shop", "example.com/shop", [record, related]⟩
    Wrapper.build package models = .ok model ∧ Wrapper.RelatesTo models record field "Account" ∧
      field.relationBlock.setting.value = "WrapAccount(m.R.Owner)" ∧
      model.records.map (·.wrapFunction.name) = ["WrapWidget", "WrapUser"] ∧
      ¬ ∀ (package models : Package) (model : Wrapper.Model),
        Wrapper.build package models = .ok model →
        ∀ record ∈ model.records, record.noWrap = false →
        ∀ related ∈ model.records, related.noWrap = false →
        (∀ other ∈ model.records, other.modelName = related.modelName → other = related) →
        ∀ field ∈ record.fields, field.noWrap = false → field.wrapFunc = "" →
          field.relationName ≠ "" →
        Wrapper.RelatesTo models record field related.modelName →
          field.relationBlock.setting.value = field.relationCall related.wrapFunction.name := by
  intro name owner package models string field record related model
  have built : Wrapper.build package models = .ok model := by decide +kernel
  have relates : Wrapper.RelatesTo models record field "Account" :=
    ⟨_, _, _, _, rfl, .inr ⟨by rintro _ ⟨_, _, _, ⟨⟩⟩, rfl⟩, rfl, rfl⟩
  have calls : field.relationBlock.setting.value = "WrapAccount(m.R.Owner)" := by decide
  have unique : ∀ other ∈ model.records, other.modelName = related.modelName → other = related := by
    decide +kernel
  refine ⟨built, relates, calls, by decide, fun finds => ?_⟩
  have found := finds package models model built record List.mem_cons_self rfl related
    (List.mem_cons_of_mem _ List.mem_cons_self) rfl unique field List.mem_cons_self rfl rfl
      (by decide) relates
  rw [calls] at found
  revert found
  decide

end Scaffold
