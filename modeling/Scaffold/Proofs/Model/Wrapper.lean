import Scaffold.Model.Wrapper
import Scaffold.Proofs.Model.Setter

/-!
# What the wrappers of a package hold

A built wrapper is taken apart into the setter and the model that it is matched with and what each
field of the getter adds.
-/

set_option autoImplicit false

namespace Scaffold.Wrapper

open Checked

variable {subject : Subject} {package models : Package} {index : DirectiveIndex} {decl : TypeDecl}
  {directives : List Directive} {diagnostic : Diagnostic}

/-! ## Setters and models -/

section Declared
variable {name : String} {fields : List Field}

theorem setterFieldsOf_eq_structNamed (subject : Subject) (package : Package) (name : String) :
    setterFieldsOf subject package name =
      subject.structNamed package name (.noSetter name) (.of target · .setterNotStruct) := rfl

theorem modelFieldsOf_eq_structNamed (subject : Subject) (models : Package) (name : String) :
    modelFieldsOf subject models name = subject.structNamed models name (.noModel name)
      fun _ => .of subject.target subject.decl (.modelNotStruct models.name name) := rfl

theorem setterFieldsOf_eq_ok :
    setterFieldsOf subject package name = .ok fields ↔
      ∃ declared, package.lookup? name = some declared ∧
        package.baseType declared.type = .struct fields :=
  Subject.structNamed_eq_ok

theorem modelFieldsOf_eq_ok :
    modelFieldsOf subject models name = .ok fields ↔
      ∃ declared, models.lookup? name = some declared ∧
        models.baseType declared.type = .struct fields :=
  Subject.structNamed_eq_ok

theorem fault_of_setterFieldsOf (failed : setterFieldsOf subject package name = .error diagnostic) :
    diagnostic.fault = .noSetter name ∨ diagnostic.fault = .setterNotStruct := by
  rw [setterFieldsOf_eq_structNamed, Subject.structNamed_eq_error] at failed
  rcases failed with ⟨_, rfl⟩ | ⟨_, _, _, rfl⟩
  · exact .inl rfl
  · exact .inr rfl

theorem fault_of_modelFieldsOf (failed : modelFieldsOf subject models name = .error diagnostic) :
    diagnostic.fault = .noModel name ∨ diagnostic.fault = .modelNotStruct models.name name := by
  rw [modelFieldsOf_eq_structNamed, Subject.structNamed_eq_error] at failed
  rcases failed with ⟨_, rfl⟩ | ⟨_, _, _, rfl⟩
  · exact .inl rfl
  · exact .inr rfl

end Declared

/-! ## Fields -/

section Fields
variable {other : Counterpart} {tag : FieldTag} {field : Field}

theorem fieldName?_of_unwrappedName? {name : String}
    (named : unwrappedName? field tag = some name) :
    Setter.fieldName? field.name (tag.value "set") = some name := by
  unfold unwrappedName? at named
  split at named
  · cases named
  · exact named

/-- A field is not set, and the type of the setter's field is not looked at, or the setter has the
field. -/
theorem unwrappingOf_cases {unwrapping : Unwrapping}
    (ok : unwrappingOf subject other tag field = .ok unwrapping) :
    unwrappedName? field tag = none ∧
        unwrapping = ⟨"", .blank, true, conversionFunc (tag.value "unwrap")⟩ ∨
      ∃ name found type, unwrappedName? field tag = some name ∧
        findField? other.setter name = some found ∧
        SetterType.select? other.models.path other.package.reference tag field.type = some type ∧
        unwrapping = ⟨name, .ofSetterType type, type.isSlice && tag.value "rel" ≠ "",
          conversionFunc (tag.value "unwrap")⟩ := by
  unfold unwrappingOf at ok
  dsimp only at ok
  split at ok
  next unset => exact .inl ⟨unset, (Except.ok.inj ok).symm⟩
  next name named =>
    obtain ⟨found, foundOk, ok⟩ := bind_eq_ok.mp ok
    obtain ⟨type, typeOk, ok⟩ := bind_eq_ok.mp ok
    exact .inr ⟨name, found, type, named, Subject.expect_eq_ok.mp foundOk,
      Subject.expect_eq_ok.mp typeOk, (Except.ok.inj ok).symm⟩

theorem unwrappingOf_eq_ok {unwrapping : Unwrapping}
    (ok : unwrappingOf subject other tag field = .ok unwrapping) :
    unwrapping.disabled = true ∧ unwrapping.setterType.isArray = false ∨
      ∃ name found, unwrappedName? field tag = some name ∧
        findField? other.setter name = some found ∧ unwrapping.setterName = name ∧
        unwrapping.disabled = (unwrapping.setterType.isArray && tag.value "rel" ≠ "") := by
  obtain ⟨_, rfl⟩ | ⟨name, found, type, named, foundIs, _, rfl⟩ := unwrappingOf_cases ok
  · exact .inl ⟨rfl, rfl⟩
  · exact .inr ⟨name, found, named, foundIs, rfl, rfl⟩

theorem unwrappingOf_eq_error
    (failed : unwrappingOf subject other tag field = .error diagnostic) :
    ∃ name, unwrappedName? field tag = some name ∧
      (findField? other.setter name = none ∨
        SetterType.select? other.models.path other.package.reference tag field.type = none) := by
  unfold unwrappingOf at failed
  dsimp only at failed
  split at failed
  · cases failed
  · next name named =>
      refine ⟨name, named, ?_⟩
      rcases bind_eq_error.mp failed with failed | ⟨_, _, failed⟩
      · exact .inl (Subject.expect_eq_error.mp failed).1
      · rcases bind_eq_error.mp failed with failed | ⟨_, _, failed⟩
        · exact .inr (Subject.expect_eq_error.mp failed).1
        · cases failed

def storageName (tag : FieldTag) (field : Field) : String :=
  if tag.value "bob" = "" then field.name else tag.value "bob"

theorem storageOf_eq_ok {stored : String × TypeDescriptor}
    (ok : storageOf subject other tag field = .ok stored) :
    stored.1 = storageName tag field ∧ ∃ found, findField? other.model stored.1 = some found ∧
      TypeDescriptor.resolveLocal? other.models found.type = some stored.2 := by
  unfold storageOf at ok
  obtain ⟨found, foundOk, ok⟩ := bind_eq_ok.mp ok
  obtain ⟨type, typeOk, ok⟩ := bind_eq_ok.mp ok
  obtain rfl := Except.ok.inj ok
  exact ⟨rfl, found, Subject.expect_eq_ok.mp foundOk, Subject.expect_eq_ok.mp typeOk⟩

theorem fault_of_storageOf (failed : storageOf subject other tag field = .error diagnostic) :
    ∃ name, diagnostic.fault = .noModelField field.name name ∨
      diagnostic.fault = .unprintableModelField field.name name := by
  unfold storageOf at failed
  rcases bind_eq_error.mp failed with failed | ⟨_, _, failed⟩
  · exact ⟨_, .inl (Subject.fault_of_expect failed)⟩
  · rcases bind_eq_error.mp failed with failed | ⟨_, _, failed⟩
    · exact ⟨_, .inr (Subject.fault_of_expect failed)⟩
    · cases failed

theorem relationTypeOf_eq_ok {name : String} {type : TypeDescriptor}
    (ok : relationTypeOf subject other field name = .ok type) :
    ∃ relations related, relationsOf other.models other.model = some relations ∧
      findField? relations name = some related ∧
      TypeDescriptor.resolveLocal? other.models related.type = some type := by
  unfold relationTypeOf at ok
  obtain ⟨related, relatedOk, ok⟩ := bind_eq_ok.mp ok
  obtain ⟨relations, found, relatedFound⟩ := Subject.relation_eq_ok.mp relatedOk
  exact ⟨relations, related, found, relatedFound, Subject.expect_eq_ok.mp ok⟩

theorem fault_of_relationTypeOf {name : String}
    (failed : relationTypeOf subject other field name = .error diagnostic) :
    diagnostic.fault = .noRelations field.name ∨ diagnostic.fault = .noRelation field.name name ∨
      diagnostic.fault = .unprintableRelation field.name name := by
  unfold relationTypeOf at failed
  rcases bind_eq_error.mp failed with failed | ⟨_, _, failed⟩
  · rcases Subject.fault_of_relation failed with fault | fault
    · exact .inl fault
    · exact .inr (.inl fault)
  · exact .inr (.inr (Subject.fault_of_expect failed))

/-- The model's field for a field that is unwrapped in a given way, none for a relation to many
records. -/
def storedAs (subject : Subject) (other : Counterpart) (tag : FieldTag) (field : Field)
    (unwrapping : Unwrapping) : Except Diagnostic (String × TypeDescriptor) :=
  if unwrapping.setterType.isArray && tag.value "rel" ≠ "" then .ok ("", .blank)
  else storageOf subject other tag field

/-- The type of the relation that a tag names, if it names one. -/
def relatedTo (subject : Subject) (other : Counterpart) (tag : FieldTag) (field : Field) :
    Except Diagnostic TypeDescriptor :=
  if tag.value "rel" = "" then .ok .blank else relationTypeOf subject other field (tag.value "rel")

def assembled (field : Field) (tag : FieldTag) (getterType : TypeDescriptor)
    (unwrapping : Unwrapping)
    (stored : String × TypeDescriptor) (relationType : TypeDescriptor) : WrappedField where
  getterName := field.name
  getterType
  setterName := unwrapping.setterName
  setterType := unwrapping.setterType
  modelName := stored.1
  modelType := stored.2
  relationName := tag.value "rel"
  relationType
  noUnwrap := unwrapping.disabled
  noWrap := tag.value "wrap" = "-"
  unwrapFunc := unwrapping.func
  wrapFunc := conversionFunc (tag.value "wrap")

theorem wrappedFieldOf_eq (subject : Subject) (other : Counterpart) (field : Field) :
    wrappedFieldOf subject other field = (do
      let tag ← subject.tagOf field
      if isSkipped tag then return []
      let getterType ← subject.expect (.unprintableField field.name)
        (TypeDescriptor.resolve? other.models.path other.package field.type)
      let unwrapping ← unwrappingOf subject other tag field
      let stored ← storedAs subject other tag field unwrapping
      let relationType ← relatedTo subject other tag field
      return [assembled field tag getterType unwrapping stored relationType]) := by
  unfold wrappedFieldOf
  refine bind_congr fun tag => ?_
  refine ite_congr rfl (fun _ => rfl) fun _ => ?_
  refine bind_congr fun getterType => bind_congr fun unwrapping => ?_
  unfold storedAs relatedTo
  dsimp only
  split
  · split <;> rfl
  · refine bind_congr fun stored => ?_
    split <;> rfl

theorem wrappedFieldOf_cases {added : List WrappedField}
    (ok : wrappedFieldOf subject other field = .ok added) :
    ∃ tag, FieldTag.ofComposite field.tag = some tag ∧
      (isSkipped tag = true ∧ added = [] ∨
        isSkipped tag = false ∧ ∃ getterType unwrapping stored relationType,
          TypeDescriptor.resolve? other.models.path other.package field.type = some getterType ∧
          unwrappingOf subject other tag field = .ok unwrapping ∧
          storedAs subject other tag field unwrapping = .ok stored ∧
          relatedTo subject other tag field = .ok relationType ∧
          added = [assembled field tag getterType unwrapping stored relationType]) := by
  rw [wrappedFieldOf_eq] at ok
  obtain ⟨tag, tagOk, ok⟩ := bind_eq_ok.mp ok
  refine ⟨tag, Subject.tagOf_eq_ok.mp tagOk, ?_⟩
  split at ok
  next skipped => exact .inl ⟨skipped, (Except.ok.inj ok).symm⟩
  next kept =>
    obtain ⟨getterType, getterOk, ok⟩ := bind_eq_ok.mp ok
    obtain ⟨unwrapping, unwrappingOk, ok⟩ := bind_eq_ok.mp ok
    obtain ⟨stored, storedOk, ok⟩ := bind_eq_ok.mp ok
    obtain ⟨relationType, relationOk, ok⟩ := bind_eq_ok.mp ok
    exact .inr ⟨Bool.eq_false_iff.mpr kept, getterType, unwrapping, stored, relationType,
      Subject.expect_eq_ok.mp getterOk, unwrappingOk, storedOk, relationOk, (Except.ok.inj ok).symm⟩

theorem wrappedFieldOf_eq_ok {added : List WrappedField}
    (ok : wrappedFieldOf subject other field = .ok added) {wrapped : WrappedField}
    (member : wrapped ∈ added) :
    ∃ tag getterType unwrapping stored relationType,
      FieldTag.ofComposite field.tag = some tag ∧ isSkipped tag = false ∧
      TypeDescriptor.resolve? other.models.path other.package field.type = some getterType ∧
      unwrappingOf subject other tag field = .ok unwrapping ∧
      storedAs subject other tag field unwrapping = .ok stored ∧
      relatedTo subject other tag field = .ok relationType ∧
      wrapped = assembled field tag getterType unwrapping stored relationType := by
  obtain ⟨tag, tagRead, ⟨_, rfl⟩ |
    ⟨kept, getterType, unwrapping, stored, relationType, described, unwraps, stores, relates,
      rfl⟩⟩ := wrappedFieldOf_cases ok
  · cases member
  · exact ⟨tag, getterType, unwrapping, stored, relationType, tagRead, kept, described, unwraps,
      stores, relates, List.mem_singleton.mp member⟩

end Fields

/-! ## Directives -/

theorem fault_of_applyDirective {options : Options} {d : Directive}
    (failed : applyDirective subject options d = .error diagnostic) :
    ∃ word, diagnostic.fault = .unknownTopic word ∨ diagnostic.fault = .unknownConversion word := by
  unfold applyDirective at failed
  split at failed
  · cases failed
  · obtain ⟨word, _, state, failed⟩ := exists_of_foldlM_eq_error failed
    refine ⟨word, .inr ?_⟩
    unfold enableConversion at failed
    split at failed
    · cases failed
    · cases failed
    · cases failed
      rfl
  · cases failed
    exact ⟨_, .inl rfl⟩

/-! ## Records -/

/-- The steps of a built wrapper: its record, the setter, what the directives say, the model, and
what each field adds. -/
theorem exists_steps_of_wrappedRecordOf {record : WrappedRecord}
    (built : wrappedRecordOf index models decl directives = .ok record) :
    ∃ getter setter options model fields,
      index.package.baseType decl.type = .struct getter ∧
      setterFieldsOf ⟨target, decl⟩ index.package (setterNameOf index decl) = .ok setter ∧
      directives.foldlM (applyDirective ⟨target, decl⟩) ⟨decl.name, false, false⟩ = .ok options ∧
      modelFieldsOf ⟨target, decl⟩ models options.modelName = .ok model ∧
      List.Forall₂ (fun field added =>
          wrappedFieldOf ⟨target, decl⟩ ⟨index.package, models, setter, model⟩ field = .ok added)
        getter fields ∧
      fields.flatten ≠ [] ∧
      record = {
        getterName := decl.name
        qualifiedGetterName := qualifiedIn models index.package decl.name
        setterName := setterNameOf index decl
        qualifiedSetterName := qualifiedIn models index.package (setterNameOf index decl)
        modelName := options.modelName
        modelSetterName := Setter.defaultName options.modelName
        noUnwrap := options.noUnwrap
        noWrap := options.noWrap
        fields := fields.flatten } := by
  unfold wrappedRecordOf at built
  obtain ⟨getter, getterOk, built⟩ := bind_eq_ok.mp built
  obtain ⟨setter, setterOk, built⟩ := bind_eq_ok.mp built
  obtain ⟨options, optionsOk, built⟩ := bind_eq_ok.mp built
  obtain ⟨model, modelOk, built⟩ := bind_eq_ok.mp built
  obtain ⟨fields, fieldsOk, built⟩ := bind_eq_ok.mp built
  split at built
  · cases built
  next nonempty =>
    exact ⟨getter, setter, options, model, fields, Subject.record_eq_ok.mp getterOk, setterOk,
      optionsOk, modelOk, mapM_eq_ok.mp fieldsOk, by simpa using nonempty,
      (Except.ok.inj built).symm⟩

theorem wrappedRecordOf_eq_ok {record : WrappedRecord}
    (built : wrappedRecordOf index models decl directives = .ok record) :
    ∃ getter setter model fields,
      index.package.baseType decl.type = .struct getter ∧
      setterFieldsOf ⟨target, decl⟩ index.package record.setterName = .ok setter ∧
      modelFieldsOf ⟨target, decl⟩ models record.modelName = .ok model ∧
      List.Forall₂ (fun field added =>
          wrappedFieldOf ⟨target, decl⟩ ⟨index.package, models, setter, model⟩ field = .ok added)
        getter fields ∧
      record.getterName = decl.name ∧ record.setterName = setterNameOf index decl ∧
      record.fields = fields.flatten := by
  obtain ⟨getter, setter, options, model, fields, resolved, setterOk, _, modelOk,
    related, _, rfl⟩ :=
    exists_steps_of_wrappedRecordOf built
  exact ⟨getter, setter, model, fields, resolved, setterOk, modelOk, related, rfl, rfl, rfl⟩

/-! ## What the builder promises -/

theorem tag_of_wrappedFieldOf {other : Counterpart} {field : Field} {added : List WrappedField}
    (ok : wrappedFieldOf subject other field = .ok added) :
    (FieldTag.ofComposite field.tag).isSome = true := by
  unfold wrappedFieldOf at ok
  obtain ⟨tag, tagOk, _⟩ := bind_eq_ok.mp ok
  rw [Subject.tagOf_eq_ok.mp tagOk]
  rfl

/-- A wrapper for a declaration: it has its name and at least one field. -/
structure Describes (package : Package) (decl : TypeDecl) (wrapper : WrappedRecord) : Prop where
  tagged : package.IsTaggedRecord decl
  name : wrapper.getterName = decl.name
  nonempty : wrapper.fields ≠ []

theorem describes_of_wrappedRecordOf {record : WrappedRecord}
    (built : wrappedRecordOf index models decl directives = .ok record) :
    Describes index.package decl record := by
  obtain ⟨getter, setter, options, model, fields, resolved, _, _, _, related, nonempty, rfl⟩ :=
    exists_steps_of_wrappedRecordOf built
  exact ⟨.of_forall₂ resolved related tag_of_wrappedFieldOf, rfl, nonempty⟩

/-- The diagnostic is about the declaration, unless its setter is no struct: then it is about the
setter. -/
def Reports (package : Package) (decl : TypeDecl) (d : Diagnostic) : Prop :=
  d.fault ≠ .setterNotStruct ∧ d.IsAbout target decl ∨
    d.fault = .setterNotStruct ∧ ∃ setter,
      package.lookup? (setterNameOf (.ofPackage package) decl) = some setter ∧
        d.IsAbout target setter

theorem reports_unwrappingOf (other : Counterpart) (tag : FieldTag) (field : Field) :
    FailsWith subject.Reports (unwrappingOf subject other tag field) := by
  unfold unwrappingOf
  dsimp only
  split
  · exact .ok _
  · refine .bind (subject.reports_expect (by nofun) _) fun _ => ?_
    exact .bind (subject.reports_expect (by nofun) _) fun _ => .ok _

theorem reports_storageOf (other : Counterpart) (tag : FieldTag) (field : Field) :
    FailsWith subject.Reports (storageOf subject other tag field) := by
  unfold storageOf
  refine .bind (subject.reports_expect (by nofun) _) fun _ => ?_
  exact .bind (subject.reports_expect (by nofun) _) fun _ => .ok _

theorem reports_relationTypeOf (other : Counterpart) (field : Field) (name : String) :
    FailsWith subject.Reports (relationTypeOf subject other field name) := by
  unfold relationTypeOf
  exact .bind (subject.reports_relation _ _ _) fun _ => subject.reports_expect (by nofun) _

theorem reports_wrappedFieldOf (other : Counterpart) (field : Field) :
    FailsWith subject.Reports (wrappedFieldOf subject other field) := by
  rw [wrappedFieldOf_eq]
  refine .bind (subject.reports_tagOf field) fun tag => ?_
  split
  · exact .ok _
  refine .bind (subject.reports_expect (by nofun) _) fun getterType => ?_
  refine .bind (reports_unwrappingOf _ _ _) fun unwrapping => ?_
  refine .bind ?_ fun stored => .bind ?_ fun related => .ok _
  · unfold storedAs
    split
    · exact .ok _
    · exact reports_storageOf _ _ _
  · unfold relatedTo
    split
    · exact .ok _
    · exact reports_relationTypeOf _ _ _

theorem reports_applyDirective (options : Options) (d : Directive) :
    FailsWith subject.Reports (applyDirective subject options d) := by
  unfold applyDirective
  split
  · exact .ok _
  · refine .foldlM (fun options word => ?_) _ _
    unfold enableConversion
    split
    · exact .ok _
    · exact .ok _
    · exact subject.reports_fail (by nofun)
  · exact subject.reports_fail (by nofun)

theorem reports_modelFieldsOf (models : Package) (name : String) :
    FailsWith subject.Reports (modelFieldsOf subject models name) := by
  intro d failed
  rw [modelFieldsOf_eq_structNamed, Subject.structNamed_eq_error] at failed
  rcases failed with ⟨_, rfl⟩ | ⟨_, _, _, rfl⟩
  · exact ⟨by nofun, Diagnostic.of_isAbout _ _ _⟩
  · exact ⟨by nofun, Diagnostic.of_isAbout _ _ _⟩

theorem Reports.of_subject {d : Diagnostic} (reports : Subject.Reports ⟨target, decl⟩ d) :
    Reports package decl d := .inl reports

theorem reports_setterFieldsOf (package : Package) (decl : TypeDecl) :
    FailsWith (Reports package decl)
      (setterFieldsOf ⟨target, decl⟩ package (setterNameOf (.ofPackage package) decl)) := by
  intro d failed
  rw [setterFieldsOf_eq_structNamed, Subject.structNamed_eq_error] at failed
  rcases failed with ⟨_, rfl⟩ | ⟨setter, found, _, rfl⟩
  · exact .of_subject ⟨by nofun, Diagnostic.of_isAbout _ _ _⟩
  · exact .inr ⟨rfl, setter, found, Diagnostic.of_isAbout target setter _⟩

theorem reports_wrappedRecordOf (package models : Package) (decl : TypeDecl)
    (directives : List Directive) :
    FailsWith (Reports package decl)
      (wrappedRecordOf (.ofPackage package) models decl directives) := by
  have own {α : Type} {check : Except Diagnostic α}
      (reports : FailsWith (Subject.Reports ⟨target, decl⟩) check) :
        FailsWith (Reports package decl) check :=
    fun d failed => .of_subject (reports d failed)
  unfold wrappedRecordOf
  refine .bind (own (Subject.reports_record _ _)) fun getter => ?_
  refine .bind (reports_setterFieldsOf package decl) fun setter => ?_
  refine .bind (own (.foldlM reports_applyDirective _ _)) fun options => ?_
  refine .bind (own (reports_modelFieldsOf _ _)) fun model => ?_
  refine .bind (own (.mapM (reports_wrappedFieldOf _) _)) fun fields => ?_
  split
  · exact own (Subject.reports_fail _ (by nofun))
  · exact .ok _

/-! ## Wrappers of a package -/

theorem wrappedFieldOf_withFiles (files : List SourceFile) (setter model : List Field) :
    wrappedFieldOf subject ⟨package.withFiles files, models, setter, model⟩ =
      wrappedFieldOf subject ⟨package, models, setter, model⟩ := by
  funext field
  unfold wrappedFieldOf
  simp only [TypeDescriptor.resolve?_withFiles]
  rfl

theorem wrappedRecordOf_withFiles {files : List SourceFile} (directives : List Directive)
    (same : (package.withFiles files).directivesAbove decl.pos Setter.target =
      package.directivesAbove decl.pos Setter.target) :
    wrappedRecordOf (.ofPackage (package.withFiles files)) models decl directives =
      wrappedRecordOf (.ofPackage package) models decl directives := by
  have names : setterNameOf (.ofPackage (package.withFiles files)) decl =
      setterNameOf (.ofPackage package) decl := by
    unfold setterNameOf
    rw [DirectiveIndex.directives_withFiles same]
  have setters (subject : Subject) (name : String) :
      setterFieldsOf subject (package.withFiles files) name =
        setterFieldsOf subject package name := by
    simp only [setterFieldsOf, Package.lookup?_withFiles, Package.baseType_withFiles]
  have qualified (name : String) :
      qualifiedIn models (package.withFiles files) name = qualifiedIn models package name := rfl
  unfold wrappedRecordOf
  simp only [DirectiveIndex.package_ofPackage, Subject.record_withFiles, names, setters, qualified,
    wrappedFieldOf_withFiles]

theorem build_eq (package models : Package) :
    build package models =
      (package.entities target fun index => wrappedRecordOf index models).map fun records =>
        ⟨models.name, package.name, package.path, records⟩ := by
  unfold build
  dsimp only
  rw [← Package.mapM_annotated]
  rfl

theorem keepsContract (models : Package) :
    KeepsContract target (fun index => wrappedRecordOf index models)
      (fun package => (build package models).map (·.records)) Describes Reports := by
  refine .of_entityOf (fun package => ?_) describes_of_wrappedRecordOf
    (fun package => reports_wrappedRecordOf package models)
    fun directives same =>
      wrappedRecordOf_withFiles directives (Package.directivesAbove_withFiles _ same)
  rw [build_eq]
  exact map_map_eq_self (fun _ => rfl) _

theorem records_of_build {model : Model} (built : build package models = .ok model) :
    List.Forall₂ (fun annotated record =>
        wrappedRecordOf (.ofPackage package) models annotated.1 annotated.2 = .ok record)
      ((DirectiveIndex.ofPackage package).annotated target) model.records := by
  unfold build at built
  obtain ⟨records, recordsOk, built⟩ := bind_eq_ok.mp built
  obtain rfl := Except.ok.inj built
  exact mapM_eq_ok.mp recordsOk

end Scaffold.Wrapper
