import Scaffold.Proofs.GoType.Readability
import Scaffold.Proofs.Model.RepositoryText
import Scaffold.Proofs.Text.LowerCamel

/-!
# The names of the parameters of methods

A method names the parameters that its operation needs itself, and the ones that identify an entity
after the key fields of the record, in lower camel case.  Nothing keeps the latter from coming to
the same, or to one of the former: the names are pairwise distinct exactly when they do not
(`parameters_distinct_iff`), as for key fields whose names are apart from each other and from those
of the method.
-/

set_option autoImplicit false

namespace Scaffold.Repository

open Checked Template Text

/-! ## Key fields -/

def isKeyField (field : Field) : Bool := (FieldTag.ofComposite field.tag).any (·.contains "pk")

def keyFields (record : List Field) : List Field := record.filter isKeyField

theorem names_of_keyOf {subject : Subject} {viewer : String} {field : Field} {own : List Key}
    (ok : keyOf subject viewer field = .ok own) :
    own.map Key.name = if isKeyField field then [lowerCamel field.name] else [] := by
  obtain ⟨tag, tagOk, ok⟩ := bind_eq_ok.mp ok
  have tagged : isKeyField field = tag.contains "pk" := by
    rw [isKeyField, Subject.tagOf_eq_ok.mp tagOk, Option.any_some]
  rw [tagged]
  split at ok
  next isKey =>
    obtain ⟨type, _, made⟩ := bind_eq_ok.mp ok
    obtain rfl := Except.ok.inj made
    rw [if_pos isKey]
    rfl
  next noKey =>
    obtain rfl := Except.ok.inj ok
    rw [if_neg noKey]
    rfl

theorem names_of_keys {subject : Subject} {viewer : String} {record : List Field}
    {keys : List (List Key)}
    (related : List.Forall₂ (fun field own => keyOf subject viewer field = .ok own) record keys) :
    keys.flatten.map Key.name = (keyFields record).map fun field => lowerCamel field.name := by
  induction related with
  | nil => rfl
  | @cons field own record keys ok _ ih =>
      rw [List.flatten_cons, List.map_append, ih, names_of_keyOf ok]
      by_cases isKey : isKeyField field = true <;> simp [keyFields, isKey]

/-! ## Names of parameters -/

def Method.names (method : Method) : List String := method.parameters.map Parameter.name

/-- The fields that a method's parameters identify an entity by. -/
def Operation.keyFields (record : List Field) : Operation → List Field
  | .create | .search => []
  | .get | .edit | .delete => Repository.keyFields record

theorem Operation.keyFields_sublist (op : Operation) {record : List Field} :
    (op.keyFields record).Sublist record := by
  cases op with
  | create | search => exact List.nil_sublist _
  | get | edit | delete => exact List.filter_sublist

def actorNames (name type : String) : List String := if type ≠ "" then [name] else []

theorem actorNames_sublist (name type : String) : (actorNames name type).Sublist [name] := by
  unfold actorNames
  split
  · exact .refl _
  · exact List.nil_sublist _

theorem map_name_actorParameters (name type : String) :
    (actorParameters name type).map Parameter.name = actorNames name type := by
  unfold actorParameters actorNames
  split <;> rfl

def reservedNames : List String := ["ctx", "s", "data", "createdBy", "updatedBy", "deletedBy"]

theorem lowerCamel_reservedNames : ∀ name ∈ reservedNames, lowerCamel name = name := by
  decide +kernel

namespace Interface

variable (entry : Interface)

def fixedNames : Operation → List String
  | .create => ["ctx", "s"] ++ actorNames "createdBy" entry.createdBy
  | .get => ["ctx"]
  | .search => ["ctx", "data"]
  | .edit => ["ctx", "s"] ++ actorNames "updatedBy" entry.updatedBy
  | .delete => ["ctx"] ++ actorNames "deletedBy" entry.deletedBy

theorem fixedNames_sublist (op : Operation) : (entry.fixedNames op).Sublist reservedNames := by
  have behind (front : List String) {name type : String}
    (within : (front ++ [name]).Sublist reservedNames) :
      (front ++ actorNames name type).Sublist reservedNames :=
    ((actorNames_sublist name type).append_left front).trans within
  cases op with
  | get => exact (by decide : ["ctx"].Sublist reservedNames)
  | search => exact (by decide : ["ctx", "data"].Sublist reservedNames)
  | create | edit | delete => exact behind _ (by decide)

theorem nodup_fixedNames (op : Operation) : (entry.fixedNames op).Nodup := by
  have reserved : reservedNames.Nodup := by decide
  exact reserved.sublist (entry.fixedNames_sublist op)

variable {entry} {record : List Field}

/-- Up to order the names of a method are its own ones and those of the key fields. -/
theorem names_perm
    (keyed : entry.keys.map Key.name = (keyFields record).map fun field => lowerCamel field.name)
    (op : Operation) : (entry.method op).names.Perm
      (entry.fixedNames op ++ (op.keyFields record).map fun field => lowerCamel field.name) := by
  have identity : entry.identityParameters.map Parameter.name =
      (keyFields record).map fun field => lowerCamel field.name := by
    rw [identityParameters, List.map_map, ← keyed]
    rfl
  cases op <;> simp only [Method.names, method, fixedNames, Operation.keyFields, List.map_cons,
    List.map_append, List.map_nil, map_name_actorParameters, identity, List.append_nil,
    List.cons_append, List.nil_append]
  case create => rfl
  case get => rfl
  case search => rfl
  case edit => exact (List.perm_middle.trans (.cons _ List.perm_append_comm)).cons _
  case delete => exact List.perm_append_comm.cons _

end Interface

/-- What the names of a method's parameters are, when its operation identifies an entity by these
fields: they collide just when those of the fields do or one of these is a name of the method's
own. -/
structure Interface.NamesParameters (entry : Interface) (op : Operation)
    (fields : List Field) : Prop where
  names : (entry.method op).names.Perm (entry.fixedNames op ++ fields.map fun field =>
    lowerCamel field.name)
  nodup_iff : (entry.method op).names.Nodup ↔
    (fields.map fun field => lowerCamel field.name).Nodup ∧
    ∀ field ∈ fields, lowerCamel field.name ∉ entry.fixedNames op
  nodup_of_apart : fields.Pairwise (fun field other => Apart field.name other.name) →
    (∀ field ∈ fields, ∀ name ∈ entry.fixedNames op, Apart field.name name) →
      (entry.method op).names.Nodup

theorem Interface.namesParameters {entry : Interface} {op : Operation} {fields : List Field}
    (perm : (entry.method op).names.Perm
      (entry.fixedNames op ++ fields.map fun field => lowerCamel field.name)) :
    entry.NamesParameters op fields := by
  have nodup_iff : (entry.method op).names.Nodup ↔
      (fields.map fun field => lowerCamel field.name).Nodup ∧
      ∀ field ∈ fields, lowerCamel field.name ∉ entry.fixedNames op := by
    rw [perm.nodup_iff, List.nodup_append, and_iff_right (entry.nodup_fixedNames op)]
    refine and_congr_right fun _ =>
      ⟨fun other field member isFixed => ?_, fun free name isFixed _ member same => ?_⟩
    · exact other _ isFixed _ (List.mem_map_of_mem member) rfl
    · obtain ⟨field, isKey, rfl⟩ := List.mem_map.mp member
      exact free field isKey (same ▸ isFixed)
  refine ⟨perm, nodup_iff, fun apart free => nodup_iff.mpr ⟨?_, fun field member isFixed => ?_⟩⟩
  · exact List.pairwise_map.mpr (apart.imp Apart.lowerCamel_ne)
  · exact (free field member _ isFixed).lowerCamel_ne
      (lowerCamel_reservedNames _ ((entry.fixedNames_sublist op).subset isFixed)).symm

/-! ## Methods of a package -/

theorem keys_of_interfaceOf {index : DirectiveIndex} {decl : TypeDecl} {directives : List Directive}
    {entry : Interface} (built : interfaceOf index decl directives = .ok entry) :
    ∃ record, index.package.baseType decl.type = .struct record ∧
      entry.keys.map Key.name = (keyFields record).map fun field => lowerCamel field.name := by
  obtain ⟨record, extra, keys, resolved, _, related, _, _, same⟩ := interfaceOf_eq_ok built
  refine ⟨record, resolved, ?_⟩
  rw [same]
  exact names_of_keys related

/-- The parameters of each rendered method have distinct names exactly when the key fields do in
lower camel case, and none of these is a name of the method's own.  So it is whenever the names are
apart, and ASCII names are when they differ in more than case and separators. -/
theorem parameters_distinct_iff {package : Package} {model : Model}
    (built : build package = .ok model) :
    render Generator.repository.template model.toJson = .ok (ended model.lines) ∧
      (∀ entry ∈ model.interfaces, entry.lines <:+: model.lines ∧
        ∀ op, entry.operations.has op = true → (entry.method op).line ∈ entry.lines) ∧
      List.Forall₂ (fun decl entry => ∃ record, package.baseType decl.type = .struct record ∧
          ∀ op, entry.NamesParameters op (op.keyFields record))
        (package.annotated target) model.interfaces ∧
      ∀ name other, IsAscii name → IsAscii other → letters name.toList ≠ letters other.toList →
        Apart name other := by
  have each := keepsContract.entity_of_each (Checked.map_eq_ok.mpr ⟨model, built, rfl⟩)
  refine ⟨render_of_build built,
    fun entry isEntry => ⟨Interface.lines_infix isEntry, fun _ => Interface.line_mem⟩,
    each.imp fun decl entry ⟨made, _⟩ => ?_, fun _ _ => apart_of_letters_ne⟩
  obtain ⟨record, resolved, keyed⟩ := keys_of_interfaceOf made
  exact ⟨record, resolved, fun op => Interface.namesParameters (Interface.names_perm keyed op)⟩

def keyedFields (names : List String) : List Field :=
  names.map (⟨·, .basic .int64, "repogen:\"pk\"", false⟩)

def keyedRecord (names : List String) : TypeDecl :=
  ⟨"Widget", ⟨"shop.go", 3, 6⟩, .struct (keyedFields names)⟩

def keyedPackage (comment : String) (names : List String) : Package :=
  ⟨"shop", "example.com/shop", [⟨"shop.go", [⟨[⟨comment, 2⟩]⟩]⟩], [keyedRecord names]⟩

/-- Names in various spellings that are apart from each other and from those of the methods. -/
theorem parameters_distinct_iff_apart :
    let package := keyedPackage "//repogen:crud" ["UserID", "Slot_Number", "CreatedByID"]
    ∃ entry, build package = .ok ⟨"shop", [entry], [], []⟩ ∧
      entry.keys.map Key.name = ["userId", "slotNumber", "createdById"] ∧
      ∀ op, (entry.method op).names.Nodup := by
  intro package
  let names : List String := ["UserID", "Slot_Number", "CreatedByID"]
  let entry : Interface :=
    ⟨"WidgetRepository", "Widget", "Widgets", .all, "", "", "", [], "WidgetSearchData",
      [⟨"userId", "int64"⟩, ⟨"slotNumber", "int64"⟩, ⟨"createdById", "int64"⟩]⟩
  have built : build package = .ok ⟨"shop", [entry], [], []⟩ := by decide +kernel
  have annotated : package.annotated target = [keyedRecord names] := rfl
  obtain ⟨_, _, each, apart⟩ := parameters_distinct_iff built
  rw [annotated] at each
  obtain ⟨⟨record, resolved, methods⟩, _⟩ := List.forall₂_cons.mp each
  have fields : record = keyedFields names := GoType.struct.inj (resolved.symm.trans rfl)
  rw [fields] at methods
  have own : (keyedFields names).Pairwise fun field other =>
      IsAscii field.name ∧ IsAscii other.name ∧
        letters field.name.toList ≠ letters other.name.toList := by
    decide +kernel
  have free : ∀ field ∈ keyedFields names, ∀ name ∈ reservedNames,
      IsAscii field.name ∧ IsAscii name ∧ letters field.name.toList ≠ letters name.toList := by
    decide +kernel
  refine ⟨entry, built, rfl, fun op =>
    (methods op).nodup_of_apart ?_ fun field isKey name isFixed => ?_⟩
  · exact (own.sublist op.keyFields_sublist).imp fun ⟨ascii, asciiToo, different⟩ =>
      apart _ _ ascii asciiToo different
  · obtain ⟨ascii, asciiToo, different⟩ :=
      free field (op.keyFields_sublist.subset isKey) name
        ((entry.fixedNames_sublist op).subset isFixed)
    exact apart _ _ ascii asciiToo different

/-- Two names that differ in case come to the same, and so does one with the name of the context. -/
theorem parameters_collide :
    let twice := keyedPackage "//repogen:crud get" ["ID", "Id"]
    let context := keyedPackage "//repogen:crud get" ["Ctx"]
    (∃ entry, build twice = .ok ⟨"shop", [entry], [], []⟩ ∧ entry.methods.map Method.line =
        ["\tWidget(ctx context.Context, id int64, id int64) (*Widget, error)"]) ∧
      (∃ entry, build context = .ok ⟨"shop", [entry], [], []⟩ ∧ entry.methods.map Method.line =
        ["\tWidget(ctx context.Context, ctx int64) (*Widget, error)"]) ∧
      ¬ ∀ (package : Package) (model : Model), build package = .ok model →
        List.Forall₂ (fun decl entry => ∀ record, package.baseType decl.type = .struct record →
            (record.map Field.name).Nodup → (∀ field ∈ record, IsIdentifier field.name) →
            ∀ op, entry.operations.has op = true → (entry.method op).names.Nodup)
          (package.annotated target) model.interfaces := by
  intro twice context
  let entry (keys : List Key) : Interface := ⟨"WidgetRepository", "Widget", "Widgets",
    ⟨false, true, false, false, false⟩, "", "", "", [], "WidgetSearchData", keys⟩
  have built : build twice = .ok ⟨"shop", [entry [⟨"id", "int64"⟩, ⟨"id", "int64"⟩]], [], []⟩ := by
    decide +kernel
  have builtToo : build context = .ok ⟨"shop", [entry [⟨"ctx", "int64"⟩]], [], []⟩ := by
    decide +kernel
  refine ⟨⟨_, built, by decide +kernel⟩, ⟨_, builtToo, by decide +kernel⟩, fun distinct => ?_⟩
  have annotated : twice.annotated target = [keyedRecord ["ID", "Id"]] := rfl
  have each := distinct twice _ built
  rw [annotated] at each
  have names :=
    (List.forall₂_cons.mp each).1 (keyedFields ["ID", "Id"]) rfl (by decide +kernel)
    (by decide +kernel)
    .get rfl
  revert names
  decide +kernel

end Scaffold.Repository
