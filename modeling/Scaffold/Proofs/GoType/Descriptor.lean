import Scaffold.Package.Definition

/-!
# What a type descriptor says

A printed type is a row of markers, one for each outer layer, in front of its printed innermost
element (`print?_eq_inFront`).  That element starts like a name as long as all names in the type do
(`startsPlain_of_print?`), and following definitions brings in no other names than those of the
package (`Package.mem_names_of_baseType`).  From these comes what the three names and the two flags
of a descriptor have to do with each other (`resolve?_wellFormed`), however the definitions of the
package run in circles.
-/

set_option autoImplicit false

namespace Scaffold

/-! ## Markers -/

/-- What stands in front of a printed type for one outer layer. -/
inductive Marker where
  | slice
  | array (length : UInt64)
  | pointer

namespace Marker

def text : Marker → String
  | slice => "[]"
  | array length => "[" ++ toString length.toNat ++ "]"
  | pointer => "*"

def around : Marker → GoType → GoType
  | slice, elem => .slice elem
  | array length, elem => .array length elem
  | pointer, elem => .pointer elem

def inFront (markers : List Marker) (name : String) : String :=
  markers.foldr (fun marker behind => marker.text ++ behind) name

end Marker

namespace GoType

def markers : GoType → List Marker
  | slice elem => .slice :: elem.markers
  | array length elem => .array length :: elem.markers
  | pointer elem => .pointer :: elem.markers
  | _ => []

def IsCore (type : GoType) : Prop := ∀ (marker : Marker) (elem : GoType), type ≠ marker.around elem

theorem print?_around (viewer : String) (marker : Marker) (elem : GoType) :
    (marker.around elem).print? viewer = (elem.print? viewer).map (marker.text ++ ·) := by
  cases marker <;> rw [Marker.around, print?] <;> rfl

theorem isCore_deepElement : ∀ type : GoType, type.deepElement.IsCore
  | .slice elem | .array _ elem | .pointer elem => isCore_deepElement elem
  | .basic _ | .named _ | .map _ _ | .chan _ | .struct _ | .func | .interface => by
      rintro (_ | _ | _) elem <;> nofun

theorem print?_eq_inFront (viewer : String) :
    ∀ type : GoType, type.print? viewer =
      (type.deepElement.print? viewer).map (Marker.inFront type.markers)
  | .slice elem => by
      rw [show GoType.slice elem = Marker.slice.around elem from rfl, print?_around,
        print?_eq_inFront viewer elem, Option.map_map]
      rfl
  | .array length elem => by
      rw [show GoType.array length elem = (Marker.array length).around elem from rfl, print?_around,
        print?_eq_inFront viewer elem, Option.map_map]
      rfl
  | .pointer elem => by
      rw [show GoType.pointer elem = Marker.pointer.around elem from rfl, print?_around,
        print?_eq_inFront viewer elem, Option.map_map]
      rfl
  | .basic _ | .named _ | .map _ _ | .chan _ | .struct _ | .func | .interface =>
      (Option.map_id' ..).symm

theorem print?_named (viewer name : String) (package : Option PackageRef)
    (underlying : Option GoType) :
    (GoType.named ⟨package, name, [], underlying⟩).print? viewer =
      some (NamedType.qualifiedBase viewer package name) := by
  rw [print?, printAll?]
  simp [bracketed]

/-- In its own package a type without arguments is printed as its name. -/
theorem print?_own {viewer name : String} {owner : PackageRef} {underlying : Option GoType}
    (own : owner.path = viewer) :
    (GoType.named ⟨some owner, name, [], underlying⟩).print? viewer = some name := by
  rw [print?_named, NamedType.qualifiedBase, if_pos own]

theorem print?_foreign {viewer name : String} {owner : PackageRef} {underlying : Option GoType}
    (elsewhere : owner.path ≠ viewer) :
    (GoType.named ⟨some owner, name, [], underlying⟩).print? viewer =
      some (owner.name ++ "." ++ name) := by
  rw [print?_named, NamedType.qualifiedBase, if_neg elsewhere]

end GoType

/-! ## Names -/

/-- A text that starts like a name: it has a first character, which starts no marker. -/
def StartsPlain (text : String) : Prop := ∃ c ∈ text.toList.head?, c ≠ '*' ∧ c ≠ '['

instance : DecidablePred StartsPlain := fun text =>
  decidable_of_iff (text.toList.head?.any fun c => c ≠ '*' && c ≠ '[') (by
    rw [Option.any_eq_true]
    simp [StartsPlain])

theorem StartsPlain.append {first : String} (plain : StartsPlain first) (second : String) :
    StartsPlain (first ++ second) := by
  obtain ⟨c, head, other⟩ := plain
  refine ⟨c, ?_, other⟩
  rw [String.toList_append, List.head?_append, Option.mem_def.mp head]
  rfl

namespace Marker

theorem not_startsPlain_append (marker : Marker) (behind : String) :
    ¬ StartsPlain (marker.text ++ behind) := by
  rintro ⟨c, head, notStar, notBracket⟩
  cases marker with
  | slice | array => exact notBracket (by simpa [text, eq_comm] using head)
  | pointer => exact notStar (by simpa [text, eq_comm] using head)

theorem isDigit_of_mem_toDigits {n : Nat} {c : Char} (member : c ∈ Nat.toDigits 10 n) :
    c.isDigit = true :=
  Nat.isDigit_of_mem_toDigits (by omega) (by omega) member

theorem slice_append_ne_array {length : UInt64} {rest rest' : List Char} :
    slice.text.toList ++ rest ≠ (array length).text.toList ++ rest' := by
  intro same
  obtain ⟨c, digits, spelled⟩ :=
    List.exists_cons_of_ne_nil (Nat.toDigits_ne_nil (b := 10) (n := length.toNat))
  have digit : c.isDigit = true := isDigit_of_mem_toDigits (spelled ▸ List.mem_cons_self)
  simp [text, spelled] at same
  rw [← same.1] at digit
  cases digit

end Marker

mutual

/-- The names of types and of their packages in a type, at any depth. -/
def GoType.names : GoType → List String
  | .basic _ | .func | .interface => []
  | .named type => type.names
  | .pointer elem | .slice elem | .array _ elem | .chan elem => elem.names
  | .map key value => key.names ++ value.names
  | .struct fields => GoType.fieldNames fields

def NamedType.names : NamedType → List String
  | ⟨package, name, args, underlying⟩ =>
    name :: ((package.map PackageRef.name).toList ++ GoType.argNames args ++
      GoType.definitionNames underlying)

def GoType.argNames : List GoType → List String
  | [] => []
  | type :: rest => type.names ++ GoType.argNames rest

def GoType.definitionNames : Option GoType → List String
  | none => []
  | some type => type.names

def GoType.fieldNames : List Field → List String
  | [] => []
  | ⟨_, type, _, _⟩ :: rest => type.names ++ GoType.fieldNames rest

end

def GoType.Proper (type : GoType) : Prop := ∀ name ∈ type.names, StartsPlain name

/-- All names in the types of a package start like names. -/
def Package.Proper (package : Package) : Prop := ∀ decl ∈ package.decls, decl.type.Proper

theorem BasicKind.startsPlain_name (kind : BasicKind) : StartsPlain kind.name := by
  cases kind <;> decide

namespace GoType

variable {type elem : GoType} {viewer text : String}

theorem names_deepElement : ∀ type : GoType, type.deepElement.names = type.names
  | .slice elem | .array _ elem | .pointer elem => names_deepElement elem
  | .basic _ | .named _ | .map _ _ | .chan _ | .struct _ | .func | .interface => rfl

theorem mem_names_of_definition {named : NamedType} {definition : GoType}
    (spelled : named.underlying = some definition) {name : String}
    (member : name ∈ definition.names) :
    name ∈ (GoType.named named).names := by
  obtain ⟨package, name, args, underlying⟩ := named
  cases spelled
  simp [names, NamedType.names, definitionNames, member]

theorem mem_names_of_arg {package : Option PackageRef} {base : String} {inner : GoType}
    {underlying : Option GoType} {name : String} (member : name ∈ inner.names) :
    name ∈ (GoType.named ⟨package, base, [inner], underlying⟩).names := by
  simp [names, NamedType.names, argNames, member]

theorem Proper.deepElement (proper : type.Proper) : type.deepElement.Proper := by
  unfold Proper
  rw [names_deepElement]
  exact proper

theorem names_around (marker : Marker) (elem : GoType) :
    (marker.around elem).names = elem.names := by
  cases marker <;> rfl

theorem Proper.of_around {marker : Marker} (proper : (marker.around elem).Proper) :
    elem.Proper := by
  unfold Proper at proper
  rw [names_around] at proper
  exact proper

theorem startsPlain_qualifiedBase {package : Option PackageRef} {name : String} {args : List GoType}
    {underlying : Option GoType} (proper : (GoType.named ⟨package, name, args, underlying⟩).Proper)
    (viewer : String) : StartsPlain (NamedType.qualifiedBase viewer package name) := by
  have namePlain : StartsPlain name := proper name (by simp [names, NamedType.names])
  unfold NamedType.qualifiedBase
  split
  next owner =>
    have ownerPlain : StartsPlain owner.name := proper owner.name (by simp [names, NamedType.names])
    split
    · exact namePlain
    · exact (ownerPlain.append ".").append name
  next => exact namePlain

theorem startsPlain_of_print? (core : type.IsCore) (proper : type.Proper)
    (printed : type.print? viewer = some text) : StartsPlain text := by
  cases type with
  | slice elem => exact absurd rfl (core .slice elem)
  | array length elem => exact absurd rfl (core (.array length) elem)
  | pointer elem => exact absurd rfl (core .pointer elem)
  | basic kind =>
      rw [print?] at printed
      obtain rfl := Option.some.inj printed
      exact kind.startsPlain_name
  | named type =>
      obtain ⟨package, name, args, underlying⟩ := type
      rw [print?] at printed
      obtain ⟨shown, _, rfl⟩ := Option.map_eq_some_iff.mp printed
      exact (startsPlain_qualifiedBase proper viewer).append _
  | map | chan | struct | func | interface => simp [print?] at printed

end GoType

/-! ## Definitions -/

namespace Package

variable {package : Package} {type : GoType}

def typeNames (package : Package) : List String := package.decls.flatMap fun decl => decl.type.names

theorem mem_names_of_underlying? {named : NamedType} {definition : GoType} {name : String}
    (found : package.underlying? named = some definition) (member : name ∈ definition.names) :
    name ∈ (GoType.named named).names ∨ name ∈ package.typeNames := by
  unfold underlying? at found
  split at found
  next spelled =>
    cases found
    exact .inl (GoType.mem_names_of_definition spelled member)
  next =>
    split at found
    next =>
      split at found
      next =>
        obtain ⟨decl, declared, rfl⟩ := Option.map_eq_some_iff.mp found
        exact .inr (List.mem_flatMap.mpr ⟨decl, List.mem_of_find?_eq_some declared, member⟩)
      next => cases found
    next => cases found

theorem mem_names_of_follow (hops : Nat) (type : GoType) {name : String}
    (member : name ∈ (package.follow hops type).names) :
    name ∈ type.names ∨ name ∈ package.typeNames := by
  fun_induction package.follow hops type with
  | case1 hops named definition found ih =>
      rcases ih member with own | declared
      · exact mem_names_of_underlying? found own
      · exact .inr declared
  | case2 => exact .inl member
  | case3 => exact .inl member

theorem mem_names_of_baseType {name : String} (member : name ∈ (package.baseType type).names) :
    name ∈ type.names ∨ name ∈ package.typeNames :=
  mem_names_of_follow maxHops type member

theorem proper_baseType (packageProper : package.Proper) (proper : type.Proper) :
    (package.baseType type).Proper := by
  intro name member
  rcases mem_names_of_baseType member with own | declared
  · exact proper name own
  · obtain ⟨decl, isDecl, inType⟩ := List.mem_flatMap.mp declared
    exact packageProper decl isDecl name inType

theorem baseType_around (package : Package) (marker : Marker) (elem : GoType) :
    package.baseType (marker.around elem) = marker.around elem := by
  cases marker <;> rfl

end Package

/-! ## Descriptors -/

namespace GoType

/-- The type is `null.Val[inner]`, the wrapper of an optional value. -/
def IsNullVal (type inner : GoType) : Prop :=
  ∃ owner underlying, owner.name = "null" ∧ type = .named ⟨some owner, "Val", [inner], underlying⟩

/-- The type that a descriptor of `type` is about: what `type` wraps, else `type` itself. -/
def HasValueType (type inner : GoType) : Prop :=
  type.IsNullVal inner ∨ (∀ other, ¬ type.IsNullVal other) ∧ inner = type

variable {type inner : GoType}

theorem nullableInner?_eq_some_iff : type.nullableInner? = some inner ↔ type.IsNullVal inner := by
  unfold nullableInner? IsNullVal
  split
  next owner name inner underlying =>
    constructor
    · intro found
      split at found
      next both =>
        obtain rfl := Option.some.inj found
        exact ⟨owner, underlying, both.1, by rw [both.2]⟩
      next => cases found
    · rintro ⟨_, _, named, same⟩
      cases same
      simp [named]
  next other =>
    simp only [reduceCtorEq, false_iff]
    rintro ⟨owner, underlying, _, rfl⟩
    exact other _ _ _ _ rfl

theorem exists_hasValueType (type : GoType) : ∃ inner, type.HasValueType inner := by
  cases wrapped : type.nullableInner? with
  | some inner => exact ⟨inner, .inl (nullableInner?_eq_some_iff.mp wrapped)⟩
  | none =>
      refine ⟨type, .inr ⟨fun other isVal => ?_, rfl⟩⟩
      rw [nullableInner?_eq_some_iff.mpr isVal] at wrapped
      cases wrapped

theorem HasValueType.getD_nullableInner? (value : type.HasValueType inner) :
    type.nullableInner?.getD type = inner := by
  rcases value with wrapped | ⟨plain, rfl⟩
  · rw [nullableInner?_eq_some_iff.mpr wrapped]
    rfl
  · have none : inner.nullableInner? = none :=
      Option.eq_none_iff_forall_not_mem.mpr fun other found =>
        plain other (nullableInner?_eq_some_iff.mp found)
    rw [none]
    rfl

theorem HasValueType.isNullVal (value : type.HasValueType inner)
    (wrapped : type.nullableInner?.isSome = true) : type.IsNullVal inner := by
  obtain ⟨other, found⟩ := Option.isSome_iff_exists.mp wrapped
  have same := value.getD_nullableInner?
  rw [found] at same
  cases same
  exact nullableInner?_eq_some_iff.mp found

theorem HasValueType.proper (value : type.HasValueType inner) (proper : type.Proper) :
    inner.Proper := by
  rcases value with ⟨_, _, _, rfl⟩ | ⟨_, rfl⟩
  · exact fun name member => proper name (mem_names_of_arg member)
  · exact proper

end GoType

namespace TypeDescriptor

/-- What the descriptor of a type tells, as printed for a viewer. -/
structure WellFormed (d : TypeDescriptor) (viewer : String) (type inner : GoType) : Prop where
  /-- The first name is the whole value type. -/
  qualified : inner.print? viewer = some d.qualifiedName
  /-- The second one lacks exactly one marker, when the value type has an outer layer. -/
  layer : ∀ (marker : Marker) (elem : GoType), inner = marker.around elem →
    d.qualifiedName = marker.text ++ d.elementName
  /-- The third one lacks all markers. -/
  element : ∃ markers, d.elementName = Marker.inFront markers d.trueElementName
  core : StartsPlain d.trueElementName
  /-- Arrays are nullable in a wrapper only. -/
  wrapped : d.isArray = true → d.isNullable = true → type.IsNullVal inner

variable {viewer : String} {package : Package} {type inner elem : GoType}

theorem outerLayer?_around (marker : Marker) (elem : GoType) :
    ∃ layer, outerLayer? (marker.around elem) = some layer ∧ layer.elem = elem := by
  cases marker with
  | slice => exact ⟨.array elem, rfl, rfl⟩
  | array => exact ⟨.array elem, rfl, rfl⟩
  | pointer => exact ⟨.pointer elem, rfl, rfl⟩

theorem exists_around_of_outerLayer? {layer : Layer} (found : outerLayer? type = some layer) :
    ∃ marker : Marker, type = marker.around layer.elem := by
  unfold outerLayer? at found
  split at found <;> cases found
  · exact ⟨.slice, rfl⟩
  · exact ⟨.array _, rfl⟩
  · exact ⟨.pointer, rfl⟩

theorem elementNames?_eq_some_iff {layer : Layer} {element trueElement : String} :
    elementNames? viewer layer = some (element, trueElement) ↔
      layer.elem.print? viewer = some element ∧
        layer.elem.deepElement.print? viewer = some trueElement := by
  unfold elementNames?
  cases layer.elem.print? viewer <;> cases layer.elem.deepElement.print? viewer <;> simp

theorem elementNames?_isSome {layer : Layer} {element : String}
    (printed : layer.elem.print? viewer = some element) :
    (elementNames? viewer layer).isSome = true := by
  obtain ⟨trueElement, deep, _⟩ :=
    Option.map_eq_some_iff.mp ((GoType.print?_eq_inFront viewer layer.elem).symm.trans printed)
  rw [elementNames?_eq_some_iff.mpr ⟨printed, deep⟩]
  rfl

/-- The layer of a value type that is one itself is found, and what is below it is printed with
it. -/
theorem exists_element_of_around (package : Package) {marker : Marker} {name : String}
    (printed : (marker.around elem).print? viewer = some name) :
    ∃ layer element, outerLayer? (package.baseType (marker.around elem)) = some layer ∧
      layer.elem = elem ∧
      elem.print? viewer = some element ∧ name = marker.text ++ element := by
  obtain ⟨layer, found, below⟩ := outerLayer?_around marker elem
  rw [GoType.print?_around] at printed
  obtain ⟨element, elementPrinted, rfl⟩ := Option.map_eq_some_iff.mp printed
  rw [Package.baseType_around]
  exact ⟨layer, element, found, below, elementPrinted, rfl⟩

/-- A descriptor tells of no layer, and then the value type has none, or of the layer that the
definition of the value type has. -/
theorem resolve?_cases (value : type.HasValueType inner) {d : TypeDescriptor}
    (resolved : resolve? viewer package type = some d) :
    ∃ name, inner.print? viewer = some name ∧
      (inner.IsCore ∧ d = ⟨name, name, name, type.nullableInner?.isSome, false⟩ ∨
        ∃ layer element trueElement, outerLayer? (package.baseType inner) = some layer ∧
          layer.elem.print? viewer = some element ∧
          layer.elem.deepElement.print? viewer = some trueElement ∧
          d = ⟨name, element, trueElement, type.nullableInner?.isSome || !layer.isArray,
            layer.isArray⟩) := by
  unfold resolve? at resolved
  dsimp only at resolved
  rw [value.getD_nullableInner?] at resolved
  obtain ⟨name, printed, resolved⟩ := Option.map_eq_some_iff.mp resolved
  refine ⟨name, printed, ?_⟩
  split at resolved
  next missing =>
    refine .inl ⟨?_, resolved.symm⟩
    rintro marker elem rfl
    obtain ⟨layer, _, found, _⟩ := exists_element_of_around package printed
    cases missing.symm.trans found
  next layer found =>
    split at resolved
    next unprinted =>
      refine .inl ⟨?_, resolved.symm⟩
      rintro marker elem rfl
      obtain ⟨_, element, found', rfl, elementPrinted, _⟩ :=
        exists_element_of_around package printed
      cases found.symm.trans found'
      have named := elementNames?_isSome elementPrinted
      rw [unprinted] at named
      cases named
    next element trueElement named =>
      obtain ⟨elementPrinted, deepPrinted⟩ := elementNames?_eq_some_iff.mp named
      exact .inr ⟨layer, element, trueElement, found, elementPrinted, deepPrinted, resolved.symm⟩

theorem isSome_resolve? (value : type.HasValueType inner) :
    (resolve? viewer package type).isSome = (inner.print? viewer).isSome := by
  unfold resolve?
  rw [Option.isSome_map, value.getD_nullableInner?]

/-- What is below all layers of a type, when its definition tells of the outer one. -/
def innermost (package : Package) (type : GoType) : GoType :=
  match outerLayer? (package.baseType type) with
  | some layer => layer.elem.deepElement
  | none => type

theorem trueElementName_of_resolve? (value : type.HasValueType inner) {d : TypeDescriptor}
    (resolved : resolve? viewer package type = some d) {name : String}
    (printed : (innermost package inner).print? viewer = some name) : d.trueElementName = name := by
  unfold resolve? at resolved
  dsimp only at resolved
  rw [value.getD_nullableInner?] at resolved
  obtain ⟨whole, wholePrinted, resolved⟩ := Option.map_eq_some_iff.mp resolved
  unfold innermost at printed
  split at resolved
  next missing =>
    rw [missing] at printed
    rw [← resolved]
    exact Option.some.inj (wholePrinted.symm.trans printed)
  next layer found =>
    rw [found] at printed
    have elementPrinted := GoType.print?_eq_inFront viewer layer.elem
    rw [printed] at elementPrinted
    rw [elementNames?_eq_some_iff.mpr ⟨elementPrinted, printed⟩] at resolved
    rw [← resolved]

theorem wellFormed_of_resolve? (value : type.HasValueType inner) (typeProper : type.Proper)
    (packageProper : package.Proper) {d : TypeDescriptor}
    (resolved : resolve? viewer package type = some d) : d.WellFormed viewer type inner := by
  have innerProper : inner.Proper := value.proper typeProper
  obtain ⟨name, printed, told⟩ := resolve?_cases value resolved
  rcases told with ⟨core, rfl⟩ |
    ⟨layer, element, trueElement, found, elementPrinted, deepPrinted, rfl⟩
  · refine ⟨printed, fun marker elem same => absurd same (core marker elem), ⟨[], rfl⟩,
      GoType.startsPlain_of_print? core innerProper printed, ?_⟩
    rintro ⟨⟩
  · have elemProper : layer.elem.Proper := by
      obtain ⟨marker, same⟩ := exists_around_of_outerLayer? found
      have baseProper := Package.proper_baseType packageProper innerProper
      rw [same] at baseProper
      exact baseProper.of_around
    refine ⟨printed, ?_, ⟨layer.elem.markers, ?_⟩, ?_, fun array nullable => ?_⟩
    · rintro marker elem rfl
      obtain ⟨_, shown, found', rfl, shownPrinted, rfl⟩ := exists_element_of_around package printed
      cases found.symm.trans found'
      cases elementPrinted.symm.trans shownPrinted
      rfl
    · rw [GoType.print?_eq_inFront, deepPrinted] at elementPrinted
      exact (Option.some.inj elementPrinted).symm
    · exact GoType.startsPlain_of_print? (GoType.isCore_deepElement _)
        elemProper.deepElement deepPrinted
    · refine value.isNullVal ?_
      dsimp only at array nullable
      simpa [array] using nullable

/-- A type has a descriptor exactly when its value type has a printed form, and the descriptor is
well formed when all names start like names, whatever circles the definitions of the package run
in. -/
theorem resolve?_wellFormed (value : type.HasValueType inner) (typeProper : type.Proper)
    (packageProper : package.Proper) :
    ((resolve? viewer package type).isSome ↔ (inner.print? viewer).isSome) ∧
      ∀ d, resolve? viewer package type = some d → d.WellFormed viewer type inner := by
  refine ⟨?_, fun d resolved => wellFormed_of_resolve? value typeProper packageProper resolved⟩
  rw [isSome_resolve? value]

/-- An optional value of a type whose definition leads back to it. -/
theorem resolve?_wellFormed_tree :
    let shop : PackageRef := ⟨"example.com/shop", "shop"⟩
    let tree : GoType := .ofName (some shop) "Tree"
    let optional : GoType :=
      .named ⟨some ⟨"github.com/aarondl/opt/null", "null"⟩, "Val", [tree], none⟩
    let package : Package := ⟨"shop", "example.com/shop", [],
      [⟨"Tree", ⟨"tree.go", 3, 6⟩, .slice (.pointer tree)⟩,
        ⟨"Loop", ⟨"tree.go", 5, 6⟩, .ofName (some shop) "Loop"⟩]⟩
    let d : TypeDescriptor := ⟨"shop.Tree", "*shop.Tree", "shop.Tree", true, true⟩
    optional.HasValueType tree ∧ optional.Proper ∧ package.Proper ∧
      resolve? "example.com/models" package optional = some d ∧
      d.WellFormed "example.com/models" optional tree := by
  intro shop tree optional package d
  have value : optional.HasValueType tree := .inl ⟨_, none, rfl, rfl⟩
  have typeProper : optional.Proper := by
    unfold GoType.Proper
    decide +kernel
  have packageProper : package.Proper := by
    unfold Package.Proper GoType.Proper
    decide +kernel
  have resolved : resolve? "example.com/models" package optional = some d := by decide +kernel
  exact ⟨value, typeProper, packageProper, resolved,
    (resolve?_wellFormed value typeProper packageProper).2 d resolved⟩

end TypeDescriptor

end Scaffold
