import Scaffold.Generator
import Scaffold.Proofs.Template.Supplied

/-!
# Models as data of their templates

The data of every model supply the template of its generator (`templates_fit_models`): whatever a
template prints, goes through or tests is there under the name that the template uses, for any
number of entities and whatever their texts are.  For each loop there is a lemma about its body, in
any scope around it.
-/

set_option autoImplicit false

namespace Scaffold

open Template

variable {scope : Scope}

/-! ## Repositories -/

namespace Repository

theorem supplied_linesOf {list : Path} {lines : List String}
    (there : scope.get? list = some (.strings lines)) : Supplied scope [linesOf list] :=
  .eachOf Json.string there fun _ _ => .text (.value rfl .nil)

theorem Key.supplied_keyParameter (key : Key) :
    Supplied (("pk", key.toJson) :: scope) keyParameter :=
  .value rfl (.text (.value rfl .nil))

namespace Interface

variable (entry : Interface)

theorem supplied_keyParameters : Supplied (("e", entry.toJson) :: scope) [keyParameters] :=
  .eachOf Key.toJson rfl fun key _ =>
    key.supplied_keyParameter.append (.choice (.not (.holds rfl)) (.text .nil) .nil .nil)

theorem supplied_actorParameter {name member type : String}
    (there : Scope.get? (("e", entry.toJson) :: scope) ["e", member] = some (.string type)) :
    Supplied (("e", entry.toJson) :: scope) [actorParameter name member] :=
  .when (.holds there) (.text (.value there .nil))

theorem supplied_createMethod : Supplied (("e", entry.toJson) :: scope) [createMethod] := by
  refine .when (.holds rfl) (.text (.value rfl (.text (.value rfl (.text (.cons ?_ ?_))))))
  · exact entry.supplied_actorParameter rfl
  · exact .text (.value rfl (.text .nil))

theorem supplied_getMethod : Supplied (("e", entry.toJson) :: scope) [getMethod] := by
  refine .when (.holds rfl) (.text (.value rfl (.text (.cons ?_ ?_))))
  · exact entry.supplied_keyParameters
  · exact .text (.value rfl (.text .nil))

theorem supplied_searchMethod : Supplied (("e", entry.toJson) :: scope) [searchMethod] :=
  .when (.holds rfl)
    (.text (.value rfl (.text (.value rfl (.text (.value rfl (.text .nil)))))))

theorem supplied_editMethod : Supplied (("e", entry.toJson) :: scope) [editMethod] := by
  have keys : Supplied (("e", entry.toJson) :: scope)
      [.each "pk" ["e", "pks"] (keyParameter ++ [.text ", "])] :=
    .eachOf Key.toJson rfl fun key _ => key.supplied_keyParameter.append (.text .nil)
  refine .when (.holds rfl) (.text (.value rfl (.text (.cons keys ?_))))
  refine .text (.value rfl (.text (.cons ?_ ?_)))
  · exact entry.supplied_actorParameter rfl
  · exact .text (.value rfl (.text .nil))

theorem supplied_deleteMethod : Supplied (("e", entry.toJson) :: scope) [deleteMethod] := by
  refine .when (.holds rfl) (.text (.value rfl (.text (.cons ?_ (.cons ?_ ?_)))))
  · exact entry.supplied_keyParameters
  · exact entry.supplied_actorParameter rfl
  · exact .text .nil

end Interface

theorem Model.fits (model : Model) : Fits Generator.repository.template model.toJson := by
  refine .of_supplied repositoryTemplate rfl ?_
  refine .text
    (.value rfl (.text (.cons (supplied_linesOf rfl) (.cons ?names (.cons (supplied_linesOf rfl)
    (.text ?interfaces))))))
  case names => exact .eachOf Interface.toJson rfl fun _ _ => .text (.value rfl .nil)
  case interfaces =>
    refine .eachOf Interface.toJson rfl fun entry _ => .text (.value rfl (.text ?_))
    exact entry.supplied_createMethod.cons (entry.supplied_getMethod.cons
      (entry.supplied_searchMethod.cons (entry.supplied_editMethod.cons
      (entry.supplied_deleteMethod.cons ((supplied_linesOf rfl).cons (.text .nil))))))

end Repository

/-! ## Structs of optional values -/

/-- The template of such structs is supplied when each entity has a name under the given member, and
a list of fields with names and types. -/
theorem supplied_optionalStructs {Entity Part : Type} (toJson : Entity → Json)
    (partJson : Part → Json)
    {nameMember package : String} {entities : List Entity} (fields : Entity → List Part)
    (packaged : scope.get? ["package"] = some (.string package))
    (listed : scope.get? ["entities"] = some (.array (entities.map toJson)))
    (named : ∀ entity, ∃ name, (toJson entity).member? nameMember = some name)
    (parted : ∀ entity, (toJson entity).member? "fields" =
      some (.array ((fields entity).map partJson)))
    (typed : ∀ part, ∃ name type, (partJson part).member? "name" = some name ∧
      (partJson part).member? "type" = some type) :
    Supplied scope (optionalStructs nameMember) := by
  have direct {variable_ member : String} {value inner : Json} {outer : Scope}
      (there : value.member? member = some inner) :
      Scope.get? ((variable_, value) :: outer) [variable_, member] = some inner := by
    simp [Scope.get?, member?, there]
  refine .text (.value packaged (.text (.text (.eachOf toJson listed fun entity _ => ?_))))
  obtain ⟨name, isName⟩ := named entity
  refine .text (.value (direct isName) (.text (.cons ?_ (.text .nil))))
  refine .eachOf partJson (direct (parted entity)) fun part _ => ?_
  obtain ⟨name, type, isName, isType⟩ := typed part
  exact .text (.value (direct isName) (.text (.value (direct isType) .nil)))

theorem Criteria.Model.fits (model : Criteria.Model) :
    Fits Generator.criteria.template model.toJson :=
  .of_supplied criteriaTemplate rfl <|
    supplied_optionalStructs CriteriaType.toJson Criterion.toJson
      CriteriaType.fields rfl rfl (fun _ => ⟨_, rfl⟩) (fun _ => rfl) fun _ => ⟨_, _, rfl, rfl⟩

theorem Setter.Model.fits (model : Setter.Model) : Fits Generator.setter.template model.toJson :=
  .of_supplied setterTemplate rfl <|
    supplied_optionalStructs SetterStruct.toJson SetterField.toJson
      SetterStruct.fields rfl rfl (fun _ => ⟨_, rfl⟩) (fun _ => rfl) fun _ => ⟨_, _, rfl, rfl⟩

/-! ## Identifier parsers -/

theorem IdParser.Model.fits (model : IdParser.Model) :
    Fits Generator.idParser.template model.toJson := by
  refine .of_supplied idParserTemplate rfl (.text (.value rfl (.text ?_)))
  refine .eachOf Parser.toJson rfl fun parser _ => ?_
  have line (function : String) {outer : Scope} :
      Supplied (("id", parser.toJson) :: outer) (parseLine function) :=
    .text (.value rfl (.text .nil))
  refine .text (.value rfl (.text (.value rfl (.text (.choice (.holds rfl) (line _) (line _) ?_)))))
  exact .text (.value rfl (.text .nil))

/-! ## Wrappers -/

namespace Wrapper

namespace WrappedField

variable (field : WrappedField)

theorem supplied_getterKey : Supplied (("f", field.toJson) :: scope) getterKey :=
  .text (.value rfl (.text .nil))

theorem supplied_modelField : Supplied (("f", field.toJson) :: scope) modelField :=
  .text (.value rfl .nil)

theorem supplied_literalLine : Supplied (("f", field.toJson) :: scope) [literalLine] := by
  have key : Supplied (("f", field.toJson) :: scope) getterKey := field.supplied_getterKey
  have stored : Supplied (("f", field.toJson) :: scope) modelField := field.supplied_modelField
  refine .choice (.holds rfl) ?_ (.choice (.both (.holds rfl) (.not (.beginsWith rfl _)))
    (.choice (.holds rfl) ?_ ?_ .nil) (.choice (.differ rfl rfl) ?_ ?_ .nil) .nil) .nil
  · exact ((key.append (.value rfl (.text .nil))).append stored).append (.text .nil)
  · exact (key.append stored).append (.text .nil)
  · exact (key.append stored).append (.text .nil)
  · exact ((key.append (.value rfl (.text .nil))).append stored).append (.text .nil)
  · exact (key.append stored).append (.text .nil)

theorem supplied_relationTarget : Supplied (("f", field.toJson) :: scope) relationTarget :=
  .text (.value rfl (.text .nil))

theorem supplied_modelRelation : Supplied (("f", field.toJson) :: scope) modelRelation :=
  .text (.value rfl .nil)

theorem supplied_relationBlock :
    Supplied (("f", field.toJson) :: scope) Template.relationBlock := by
  have target : Supplied (("f", field.toJson) :: scope) relationTarget :=
    field.supplied_relationTarget
  have related : Supplied (("f", field.toJson) :: scope) modelRelation :=
    field.supplied_modelRelation
  have called : Supplied (("f", field.toJson) :: scope)
      [.text "Wrap", .value ["f", "rel_type", "true_element_qualified_name"], .text "("] :=
    .text (.value rfl (.text .nil))
  refine (Supplied.text related).append (.text (.choice (.holds rfl) ?_
    (.choice (.holds rfl) ?_ ?_ .nil) (.text .nil)))
  · exact ((target.append (.value rfl (.text .nil))).append related).append (.text .nil)
  · exact ((target.append (.text .nil)).append related).append (.text (.value rfl (.text .nil)))
  · exact ((target.append called).append related).append (.text .nil)

theorem supplied_wrapsAs (relation : Bool) :
    (wrapsAs relation).Supplied (("f", field.toJson) :: scope) := by
  cases relation with
  | true => exact .both (.not (.holds rfl)) (.holds rfl)
  | false => exact .both (.not (.holds rfl)) (.not (.holds rfl))

theorem supplied_unwrapLine : Supplied (("f", field.toJson) :: scope) [unwrapLine] := by
  refine .choice (.holds rfl) ?_ ?_ .nil
  · exact .text (.value rfl (.text (.value rfl (.text (.value rfl (.text .nil))))))
  · exact .text (.value rfl (.text (.value rfl (.text .nil))))

end WrappedField

namespace WrappedRecord

variable (record : WrappedRecord)

theorem supplied_wrapFunction : Supplied (("e", record.toJson) :: scope) Template.wrapFunction := by
  refine .text
    (.value rfl (.text (.value rfl (.text (.value rfl (.text (.value rfl (.text (.value rfl
    (.text (.value rfl (.text (.value rfl (.text (.cons ?literal (.text (.cons ?blocks
    (.text .nil))))))))))))))))))
  case literal =>
    exact .eachOf WrappedField.toJson rfl fun field _ =>
      .when (field.supplied_wrapsAs false) field.supplied_literalLine
  case blocks =>
    exact .eachOf WrappedField.toJson rfl fun field _ =>
      .when (field.supplied_wrapsAs true) field.supplied_relationBlock

theorem supplied_unwrapFunction :
    Supplied (("e", record.toJson) :: scope) Template.unwrapFunction := by
  refine .text
    (.value rfl (.text (.value rfl (.text (.value rfl (.text (.value rfl (.text (.value rfl
    (.text (.value rfl (.text (.value rfl (.text (.cons ?literal (.text .nil))))))))))))))))
  case literal =>
    exact .eachOf WrappedField.toJson rfl fun field _ =>
      .when (.both (.not (.holds rfl)) (.holds rfl)) field.supplied_unwrapLine

end WrappedRecord

theorem Model.fits (model : Model) (models : Package) :
    Fits (Generator.wrapper models).template model.toJson := by
  refine .of_supplied wrapperTemplate rfl ?_
  refine .text
    (.value rfl (.text (.value rfl (.text (.value rfl (.text (.cons ?_ (.text .nil))))))))
  refine .eachOf WrappedRecord.toJson rfl fun record _ => ?_
  exact (Supplied.when (.not (.holds rfl)) record.supplied_wrapFunction).cons
    (.when (.not (.holds rfl)) record.supplied_unwrapFunction)

end Wrapper

/-! ## All generators -/

/-- Every model of each generator can be rendered, and nothing that its template reads is
missing. -/
theorem templates_fit_models :
    (∀ model : IdParser.Model, Fits Generator.idParser.template model.toJson) ∧
    (∀ model : Repository.Model, Fits Generator.repository.template model.toJson) ∧
    (∀ model : Criteria.Model, Fits Generator.criteria.template model.toJson) ∧
    (∀ model : Setter.Model, Fits Generator.setter.template model.toJson) ∧
    ∀ (models : Package) (model : Wrapper.Model),
      Fits (Generator.wrapper models).template model.toJson :=
  ⟨IdParser.Model.fits, Repository.Model.fits, Criteria.Model.fits, Setter.Model.fits,
    fun models model => model.fits models⟩

end Scaffold
