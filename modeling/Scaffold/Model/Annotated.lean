import Scaffold.Diagnostic
import Scaffold.Directive.Index
import Scaffold.FieldTag.Composite
import Scaffold.Package.Definition

/-!
# Annotated records

What the models have in common: the record behind an annotated declaration, the tags of its fields,
the relations that its field `R` holds, and the fields that record who changed an entity and when.
-/

set_option autoImplicit false

namespace Scaffold

structure Subject where
  target : String
  decl : TypeDecl

namespace Subject

def fail {α : Type} (subject : Subject) (fault : Fault) : Except Diagnostic α :=
  .error (.of subject.target subject.decl fault)

def expect {α : Type} (subject : Subject) (fault : Fault) : Option α → Except Diagnostic α
  | some value => .ok value
  | none => subject.fail fault

/-- The fields of the struct that the declaration leads to in its package. -/
def record (subject : Subject) (package : Package) : Except Diagnostic (List Field) :=
  match package.baseType subject.decl.type with
  | .struct fields => .ok fields
  | _ => subject.fail .notStruct

def tagOf (subject : Subject) (field : Field) : Except Diagnostic FieldTag :=
  subject.expect (.malformedTag field.name field.tag) (FieldTag.ofComposite field.tag)

/-- The field of a relation among the relations of a record, on behalf of the field `fieldName`. -/
def relation (subject : Subject) (relations : Option (List Field)) (fieldName name : String) :
    Except Diagnostic Field :=
  match relations with
  | none => subject.fail (.noRelations fieldName)
  | some fields => subject.expect (.noRelation fieldName name) (findField? fields name)

end Subject

def relationsField : String := "R"

/-- The relations of a record: the fields of the struct that its relations field leads to. -/
def relationsOf (package : Package) (record : List Field) : Option (List Field) :=
  (findField? record relationsField).bind fun field => package.structOf? field.type

/-- Fields that record who changed an entity and when.  They are not set by hand. -/
def auditFields : List String :=
  ["ID", "CreatedAt", "CreatedBy", "CreatedByID", "UpdatedAt", "UpdatedBy", "UpdatedByID",
    "DeletedAt", "DeletedBy", "DeletedByID"]

def isAuditField (name : String) : Bool := auditFields.contains name

def splitExtra (args : String) : String × String := Text.cutString ' ' args

end Scaffold
