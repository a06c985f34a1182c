import Scaffold.Package
import Scaffold.Text.Quoted

/-!
# What can be wrong with a declaration

A `Fault` is a cause, `Fault.message` its wording.  A `Diagnostic` adds the generator that found it
and the declaration it is about, and reads like a compiler's: position, generator, declaration,
message.
-/

set_option autoImplicit false

namespace Scaffold

open Text (quoted)

/-- Why a model cannot be built from an annotated declaration. -/
inductive Fault where
  | notStruct
  /-- A field's tag is not in the tag language, or the composite tag around it is broken. -/
  | malformedTag (field tag : String)
  | noRelations (field : String)
  /-- A field is a relation that is not among the record's relations. -/
  | noRelation (field relation : String)
  /-- A directive has a topic that its generator does not know. -/
  | unknownTopic (topic : String)
  | unknownOperation (operation : String)
  | unprintableKey (field : String)
  | noKey
  | unprintableActor (field : String)
  | unprintableCriterion (field : String)
  /-- A range with one name, or with more than two. -/
  | rangeNames (field : String)
  | unknownSearch (field search : String)
  | noCriterion
  | unprintableSetting (field : String)
  | noSetting
  | severalParsers
  | notSizedInteger
  | noSetter (name : String)
  | setterNotStruct
  | unknownConversion (name : String)
  | noModel (name : String)
  | modelNotStruct (package name : String)
  | unprintableField (field : String)
  /-- The setter lacks the field that a wrapped field is set through. -/
  | noSetterField (field name : String)
  /-- The model lacks the field that a wrapped field is stored in. -/
  | noModelField (field name : String)
  | unprintableModelField (field name : String)
  | unprintableRelation (field relation : String)
  | noWrappedField
  deriving DecidableEq, Repr, Inhabited

namespace Fault

def about (field message : String) : String := field ++ ": " ++ message

def message : Fault → String
  | notStruct => "cannot generate code for non-struct type"
  | malformedTag field tag => about field ("malformed repogen tag " ++ quoted tag)
  | noRelations field =>
    about field "field declared as relation, but model has no field \".R\""
  | noRelation field relation =>
    about field ("field declared as relation, but model has no field \".R." ++ relation ++ "\"")
  | unknownTopic topic => "unrecognized directive " ++ quoted topic
  | unknownOperation operation => "unknown crud operation " ++ quoted operation
  | unprintableKey field => about field "pk must be a named type"
  | noKey => "need at least one pk"
  | unprintableActor field => field ++ " must be a named type"
  | unprintableCriterion field => about field "cannot search for unnamed type"
  | rangeNames field =>
    about field "invalid range directive, need two or no names after range"
  | unknownSearch field search => about field ("invalid search directive " ++ quoted search)
  | noCriterion => "need at least one search field"
  | unprintableSetting field => about field "cannot set unnamed type"
  | noSetting => "need at least one settable field"
  | severalParsers => "conflicting directives, only use a single parseid directive"
  | notSizedInteger => "type must be `(int|uint)(8|16|32|64)?`"
  | noSetter name =>
    "found no setter named " ++ quoted name ++ " (did you forget a repogen:setter directive?)"
  | setterNotStruct => "setter must be struct"
  | unknownConversion name => "invalid op " ++ quoted name
  | noModel name => "found no model type named " ++ quoted name
  | modelNotStruct package name => "expected " ++ package ++ "." ++ name ++ " to be struct"
  | unprintableField field => about field "field must be of named type"
  | noSetterField field name =>
    about field ("no field named " ++ quoted name ++ " on this type's setter")
  | noModelField field name =>
    about field ("model has no corresponding field named " ++ quoted name)
  | unprintableModelField field name =>
    about field ("model's corresponding field " ++ quoted name ++ " is not of named type")
  | unprintableRelation field relation =>
    about field ("model's corresponding relation " ++ quoted relation ++ " is not of named type")
  | noWrappedField => "need at least one wrapped field"

end Fault

structure Diagnostic where
  pos : Position
  target : String
  decl : String
  fault : Fault
  deriving DecidableEq, Repr, Inhabited

namespace Diagnostic

def of (target : String) (decl : TypeDecl) (fault : Fault) : Diagnostic :=
  ⟨decl.pos, target, decl.name, fault⟩

def message (d : Diagnostic) : String :=
  d.pos.text ++ ": " ++ d.target ++ ": " ++ d.decl ++ ": " ++ d.fault.message

end Diagnostic

end Scaffold
