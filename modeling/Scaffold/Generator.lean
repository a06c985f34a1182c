import Scaffold.Emission
import Scaffold.Model.Criteria
import Scaffold.Model.IdParser
import Scaffold.Model.Repository
import Scaffold.Model.Setter
import Scaffold.Model.Wrapper

/-!
# Generators

A generator builds a model from a package, renders it with its template and emits one file next to
the package; a model without entities is not rendered, and its file is deleted.
-/

set_option autoImplicit false

namespace Scaffold

open Program (Command)

/-- A built model: how many entities it has, and its data for the template. -/
structure Product where
  size : Nat
  data : Json

/-- What came of an emitted file; no entities for a deleted one. -/
structure Outcome where
  target : String
  path : String
  entities : Nat
  deriving DecidableEq, Repr, Inhabited

structure Generator where
  target : String
  template : String
  fileName : String
  build : Package → Except Diagnostic Product

namespace Generator

def idParser : Generator where
  target := IdParser.target
  template := "parse_id.go.tera"
  fileName := "parse_id.repogen.go"
  build package := (IdParser.build package).map fun model => ⟨model.parsers.length, model.toJson⟩

def repository : Generator where
  target := Repository.target
  template := "crud.go.tera"
  fileName := "crud.repogen.go"
  build package := (Repository.build package).map fun model =>
    ⟨model.interfaces.length, model.toJson⟩

def criteria : Generator where
  target := Criteria.target
  template := "search.go.tera"
  fileName := "search.repogen.go"
  build package := (Criteria.build package).map fun model => ⟨model.types.length, model.toJson⟩

def setter : Generator where
  target := Setter.target
  template := "setter.go.tera"
  fileName := "setter.repogen.go"
  build package := (Setter.build package).map fun model => ⟨model.setters.length, model.toJson⟩

def wrapperFile : String := "bob.repogen.go"

/-- Wrappers between the records of a package and the models of another one. -/
def wrapper (models : Package) : Generator where
  target := Wrapper.target
  template := "bob.go.tera"
  fileName := wrapperFile
  build package :=
    (Wrapper.build package models).map fun model => ⟨model.records.length, model.toJson⟩

/-- The generators that need nothing but the package, in the order of their reports. -/
def firstWave : List Generator := [idParser, repository, criteria, setter]

def outputPath (generator : Generator) (dir : String) : String := Path.join dir generator.fileName

def emissionOf (generator : Generator) (programs : Programs) (formatter : Option Command)
    (dir : String) (product : Product) : Emission Outcome :=
  let path := generator.outputPath dir
  if product.size = 0 then .removal path ⟨generator.target, path, 0⟩
  else match Template.render generator.template product.data with
    | .error failure => .failed (.render failure)
    | .ok text =>
      .writing programs formatter generator.target path text ⟨generator.target, path, product.size⟩

def prepare (generator : Generator) (programs : Programs) (formatter : Option Command)
    (dir : String) (package : Package) : Emission Outcome :=
  match generator.build package with
  | .error diagnostic => .failed (.declaration diagnostic)
  | .ok product => generator.emissionOf programs formatter dir product

end Generator

end Scaffold
