import Scaffold.Model.Annotated
import Scaffold.Proofs.GoType.Descriptor
import Scaffold.Proofs.Text.Lines

/-!
# Names that types are printed with

Following a type brings in no other names than its own and those in the declarations of the package,
so what is printed of the result is in one line when these names are (`unbroken_of_print?`).
-/

set_option autoImplicit false

namespace Scaffold

open Text

/-! ## Names behind definitions -/

namespace GoType

theorem mem_fieldNames {fields : List Field} {field : Field} (isField : field ∈ fields)
    {name : String} (member : name ∈ field.type.names) : name ∈ fieldNames fields := by
  induction fields with
  | nil => cases isField
  | cons first rest ih =>
      obtain ⟨firstName, type, tag, embedded⟩ := first
      rw [fieldNames, List.mem_append]
      rcases List.mem_cons.mp isField with rfl | isField
      · exact .inl member
      · exact .inr (ih isField)

end GoType

namespace Package

variable {package : Package} {name : String}

theorem mem_names_of_structWithin? (hops : Nat) {type : GoType} {fields : List Field}
    (found : package.structWithin? hops type = some fields)
    (member : name ∈ GoType.fieldNames fields) :
    name ∈ type.names ∨ name ∈ package.typeNames := by
  induction hops generalizing type with
  | zero => cases found
  | succ hops ih =>
      rw [structWithin?] at found
      rw [← GoType.names_deepElement]
      split at found
      next same =>
        cases found
        rw [same]
        exact .inl member
      next named same =>
        rw [same]
        obtain ⟨definition, defined, found⟩ := Option.bind_eq_some_iff.mp found
        rcases ih found with member | member
        · exact mem_names_of_underlying? defined member
        · exact .inr member
      next => cases found

theorem mem_typeNames_of_field {decl : TypeDecl} {fields : List Field} {field : Field}
    (declared : decl ∈ package.decls) (resolved : package.baseType decl.type = .struct fields)
    (isField : field ∈ fields) (member : name ∈ field.type.names) : name ∈ package.typeNames := by
  have inStruct : name ∈ (package.baseType decl.type).names := by
    rw [resolved]
    exact GoType.mem_fieldNames isField member
  rcases mem_names_of_baseType inStruct with member | member
  · exact List.mem_flatMap.mpr ⟨decl, declared, member⟩
  · exact member

theorem mem_typeNames_of_relation {decl : TypeDecl} {fields relations : List Field}
    {related : Field}
    (declared : decl ∈ package.decls) (resolved : package.baseType decl.type = .struct fields)
    (found : relationsOf package fields = some relations) (isField : related ∈ relations)
    (member : name ∈ related.type.names) : name ∈ package.typeNames := by
  obtain ⟨holder, holderFound, structFound⟩ := Option.bind_eq_some_iff.mp found
  have isHolder : holder ∈ fields := List.mem_of_find?_eq_some holderFound
  rcases mem_names_of_structWithin? maxHops structFound (GoType.mem_fieldNames isField member) with
    member | member
  · exact mem_typeNames_of_field declared resolved isHolder member
  · exact member

end Package

/-! ## Printed names -/

theorem BasicKind.unbroken_name (kind : BasicKind) : Unbroken kind.name := by
  cases kind <;> decide

theorem NamedType.unbroken_qualifiedBase {viewer name : String} {package : Option PackageRef}
    (plain : Unbroken name) (ownerPlain : ∀ owner, package = some owner → Unbroken owner.name) :
    Unbroken (qualifiedBase viewer package name) := by
  unfold qualifiedBase
  split
  next owner =>
    split
    next => exact plain
    next => simp [ownerPlain owner rfl, plain, show Unbroken "." by decide]
  next => exact plain

namespace GoType

theorem unbroken_bracketed {args : List String} (each : ∀ arg ∈ args, Unbroken arg) :
    Unbroken (bracketed args) := by
  unfold bracketed
  split
  next => decide
  next =>
    have joined : Unbroken (", ".intercalate args) := unbroken_intercalate (by decide) each
    simp [joined, show Unbroken "[" by decide, show Unbroken "]" by decide]

mutual

theorem unbroken_of_print? (viewer : String) : ∀ {type : GoType} {text : String},
    (∀ name ∈ type.names, Unbroken name) → type.print? viewer = some text → Unbroken text
  | .slice elem, text, plain, printed | .pointer elem, text, plain, printed => by
      rw [print?] at printed
      obtain ⟨shown, elemPrinted, rfl⟩ := Option.map_eq_some_iff.mp printed
      have elemNames : ∀ name ∈ elem.names, Unbroken name := plain
      have elemPlain : Unbroken shown := unbroken_of_print? viewer elemNames elemPrinted
      exact unbroken_append.mpr ⟨by decide, elemPlain⟩
  | .array length elem, text, plain, printed => by
      rw [print?] at printed
      obtain ⟨shown, elemPrinted, rfl⟩ := Option.map_eq_some_iff.mp printed
      have elemNames : ∀ name ∈ elem.names, Unbroken name := plain
      have elemPlain : Unbroken shown := unbroken_of_print? viewer elemNames elemPrinted
      simp [elemPlain, unbroken_repr, show Unbroken "[" by decide, show Unbroken "]" by decide]
  | .named ⟨package, name, args, underlying⟩, text, plain, printed => by
      rw [print?] at printed
      obtain ⟨shown, argsPrinted, rfl⟩ := Option.map_eq_some_iff.mp printed
      have namePlain : Unbroken name := plain name (by simp [names, NamedType.names])
      have ownerPlain (owner : PackageRef) (owned : package = some owner) : Unbroken owner.name :=
        plain owner.name (by simp [names, NamedType.names, owned])
      have argsPlain := unbroken_of_printAll? viewer
        (fun other member => plain other (by simp [names, NamedType.names, member])) argsPrinted
      exact unbroken_append.mpr
        ⟨NamedType.unbroken_qualifiedBase namePlain ownerPlain, unbroken_bracketed argsPlain⟩
  | .basic kind, text, _, printed => by
      rw [print?] at printed
      obtain rfl := Option.some.inj printed
      exact kind.unbroken_name
  | .map _ _, _, _, printed | .chan _, _, _, printed | .struct _, _, _, printed | .func,
  _, _, printed
  | .interface, _, _, printed => by simp [print?] at printed

theorem unbroken_of_printAll? (viewer : String) : ∀ {types : List GoType} {texts : List String},
    (∀ name ∈ argNames types, Unbroken name) → printAll? viewer types = some texts →
      ∀ text ∈ texts, Unbroken text
  | [], texts, _, printed => by
      rw [printAll?] at printed
      obtain rfl := Option.some.inj printed
      simp
  | type :: rest, texts, plain, printed => by
      rw [printAll?] at printed
      split at printed
      next first others firstPrinted othersPrinted =>
        obtain rfl := Option.some.inj printed
        have firstPlain := unbroken_of_print? viewer
          (fun name member => plain name (by simp [argNames, member])) firstPrinted
        have othersPlain := unbroken_of_printAll? viewer
          (fun name member => plain name (by simp [argNames, member])) othersPrinted
        exact List.forall_mem_cons.mpr ⟨firstPlain, othersPlain⟩
      next => cases printed

end

end GoType

theorem TypeDescriptor.unbroken_of_resolve? {viewer : String} {package : Package} {type : GoType}
    {d : TypeDescriptor} (typePlain : ∀ name ∈ type.names, Unbroken name)
    (packagePlain : ∀ name ∈ package.typeNames, Unbroken name)
    (resolved : resolve? viewer package type = some d) :
    Unbroken d.qualifiedName ∧ Unbroken d.trueElementName := by
  obtain ⟨inner, value⟩ := type.exists_hasValueType
  have innerPlain : ∀ name ∈ inner.names, Unbroken name := by
    intro name member
    rcases value with ⟨owner, underlying, _, rfl⟩ | ⟨_, rfl⟩
    · exact typePlain name (GoType.mem_names_of_arg member)
    · exact typePlain name member
  obtain ⟨name, printed, told⟩ := resolve?_cases value resolved
  have namePlain := GoType.unbroken_of_print? viewer innerPlain printed
  rcases told with ⟨_, rfl⟩ | ⟨layer, element, trueElement, found, _, deepPrinted, rfl⟩
  · exact ⟨namePlain, namePlain⟩
  · refine ⟨namePlain, GoType.unbroken_of_print? viewer (fun name member => ?_) deepPrinted⟩
    rw [GoType.names_deepElement] at member
    obtain ⟨marker, same⟩ := exists_around_of_outerLayer? found
    have inBase : name ∈ (package.baseType inner).names := by
      rw [same, GoType.names_around]
      exact member
    rcases Package.mem_names_of_baseType inBase with own | declared
    · exact innerPlain name own
    · exact packagePlain name declared

end Scaffold
