import Scaffold.SetterType

/-!
# What is printed

A printed type consists of names and of fixed text between them (`parts?`), and whether it has them
is a matter of the type alone.  The package that prints it only decides which of the names are
qualified (`print?_eq_parts`).
-/

set_option autoImplicit false

namespace Scaffold

namespace GoType

/-! ## Parts of a printed type -/

/-- What a printed type consists of: fixed text, and the names of named types. -/
inductive Part where
  | fixed (text : String)
  | name (package : Option PackageRef) (base : String)

namespace Part

variable {qualified : PackageRef → Bool}

/-- The text of a part, where the names of some packages are qualified. -/
def text (qualified : PackageRef → Bool) : Part → String
  | fixed text => text
  | name none base => base
  | name (some owner) base => if qualified owner then owner.name ++ "." ++ base else base

def spell (qualified : PackageRef → Bool) (parts : List Part) : String :=
  String.join (parts.map (text qualified))

/-- A viewer qualifies the names of all packages but its own. -/
def elsewhere (viewer : String) (owner : PackageRef) : Bool := owner.path ≠ viewer

def bracketed : List (List Part) → List Part
  | [] => []
  | first :: rest => fixed "[" :: (first ++ rest.flatMap (fixed ", " :: ·) ++ [fixed "]"])

theorem spell_cons (part : Part) (parts : List Part) :
    spell qualified (part :: parts) = part.text qualified ++ spell qualified parts := by
  simp [spell]

theorem spell_append (first second : List Part) :
    spell qualified (first ++ second) = spell qualified first ++ spell qualified second := by
  simp [spell]

theorem spell_arguments (first : List Part) (rest : List (List Part)) :
    spell qualified (first ++ rest.flatMap (fixed ", " :: ·)) =
      ", ".intercalate ((first :: rest).map (spell qualified)) := by
  induction rest generalizing first with
  | nil => simp
  | cons next rest ih =>
      rw [List.map_cons, List.map_cons, String.intercalate_cons_cons, ← List.map_cons, ← ih next,
        spell_append, List.flatMap_cons, List.cons_append, spell_cons, String.append_assoc]
      rfl

theorem spell_bracketed (args : List (List Part)) :
    spell qualified (bracketed args) = GoType.bracketed (args.map (spell qualified)) := by
  cases args with
  | nil => rfl
  | cons first rest =>
      rw [bracketed, spell_cons, spell_append, spell_arguments, ← String.append_assoc]
      rfl

theorem text_name (viewer : String) (package : Option PackageRef) (base : String) :
    (name package base).text (elsewhere viewer) = NamedType.qualifiedBase viewer package base := by
  cases package with
  | none => rfl
  | some owner =>
      by_cases own : owner.path = viewer <;> simp [text, elsewhere, NamedType.qualifiedBase, own]

end Part

mutual

/-- The parts of a printed type, the same for every viewer. -/
def parts? : GoType → Option (List Part)
  | slice elem => elem.parts?.map (.fixed "[]" :: ·)
  | array length elem => elem.parts?.map (.fixed ("[" ++ toString length.toNat ++ "]") :: ·)
  | pointer elem => elem.parts?.map (.fixed "*" :: ·)
  | named ⟨package, name, args, _⟩ => (allParts? args).map (.name package name :: Part.bracketed ·)
  | basic kind => some [.fixed kind.name]
  | _ => none

def allParts? : List GoType → Option (List (List Part))
  | [] => some []
  | type :: rest =>
    match type.parts?, allParts? rest with
    | some first, some others => some (first :: others)
    | _, _ => none

end

mutual

/-- A type is printed as its parts, with the names of other packages qualified. -/
theorem print?_eq_parts (viewer : String) :
    ∀ type : GoType, type.print? viewer = type.parts?.map (Part.spell (Part.elsewhere viewer))
  | .slice elem | .array _ elem | .pointer elem => by
      rw [print?, parts?, print?_eq_parts viewer elem, Option.map_map, Option.map_map]
      simp only [Function.comp_def, Part.spell_cons]
      rfl
  | .named ⟨package, name, args, _⟩ => by
      rw [print?, parts?, printAll?_eq_parts viewer args, Option.map_map, Option.map_map]
      simp only [Function.comp_def, Part.spell_cons, Part.text_name, Part.spell_bracketed]
  | .basic kind => by
      rw [print?, parts?]
      simp [Part.spell, Part.text]
  | .map _ _ | .chan _ | .struct _ | .func | .interface => by simp [print?, parts?]

theorem printAll?_eq_parts (viewer : String) : ∀ types : List GoType,
    printAll? viewer types = (allParts? types).map (List.map (Part.spell (Part.elsewhere viewer)))
  | [] => by rw [printAll?, allParts?]; rfl
  | type :: rest => by
      rw [printAll?, allParts?, print?_eq_parts viewer type, printAll?_eq_parts viewer rest]
      cases type.parts? <;> cases allParts? rest <;> rfl

end

/-! ## What can be printed -/

theorem print?_isSome_eq (viewer other : String) (type : GoType) :
    (type.print? viewer).isSome = (type.print? other).isSome := by
  rw [print?_eq_parts, print?_eq_parts, Option.isSome_map, Option.isSome_map]

end GoType

theorem SetterType.select?_isSome_eq (viewer other : String) (owner owner' : PackageRef)
    (tag : FieldTag) (type : GoType) :
    (select? viewer owner tag type).isSome = (select? other owner' tag type).isSome := by
  unfold select?
  by_cases spelled : tag.value "settyp" = ""
  · simp only [spelled, ne_eq, not_true_eq_false, if_false, Option.isSome_map]
    exact GoType.print?_isSome_eq viewer other type
  · simp only [ne_eq, spelled, not_false_eq_true, if_true]
    rfl

end Scaffold
