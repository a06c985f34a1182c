import Mathlib.Data.List.Basic
import Scaffold.Proofs.GoType.Descriptor
import Scaffold.Proofs.GoType.Print

/-!
# Types spelled in tags

A type that a tag spells is read as text: its reader knows a pointer marker in front, a slice marker
behind that, and the names of most predeclared types.  `ofOverride_inFront` says what it makes of
markers in front of a name.  So a tag that spells the field's own type is read as the type itself
behind these markers and for these names (`select?_of_spelled_own`), and not behind others
(`select?_of_spelled_layers`).
-/

set_option autoImplicit false

namespace Scaffold

/-! ## Markers that a reader knows -/

deriving instance DecidableEq for Marker

namespace Marker

variable {marker : Marker} {markers : List Marker} {name : String}

/-- What stands behind a marker, when that is in front. -/
def behind? (marker : Marker) : List Marker → Option (List Marker)
  | [] => none
  | first :: rest => if first = marker then some rest else none

def without (marker : Marker) (markers : List Marker) : List Marker :=
  (behind? marker markers).getD markers

/-- The markers that are left for the name, behind at most a pointer and then at most a slice. -/
def unread (markers : List Marker) : List Marker := without .slice (without .pointer markers)

def frontText (marker : Marker) (markers : List Marker) : String :=
  if (behind? marker markers).isSome then marker.text else ""

/-- At most a pointer and then at most a slice, as a text begins with them. -/
def outerText (markers : List Marker) : String :=
  frontText .pointer markers ++ frontText .slice (without .pointer markers)

theorem inFront_without (marker : Marker) (markers : List Marker) (name : String) :
    inFront markers name = frontText marker markers ++ inFront (without marker markers) name := by
  unfold frontText without
  cases markers with
  | nil => exact (String.empty_append ..).symm
  | cons first rest =>
      by_cases same : first = marker
      · simp [behind?, same, inFront]
      · simp [behind?, same]

theorem inFront_eq_outerText (markers : List Marker) (name : String) :
    inFront markers name = outerText markers ++ inFront (unread markers) name := by
  rw [inFront_without .pointer, inFront_without .slice (without .pointer markers),
    ← String.append_assoc]
  rfl

theorem inFront_ne_empty (plain : StartsPlain name) : inFront markers name ≠ "" := by
  cases markers with
  | nil =>
      obtain ⟨c, head, _⟩ := plain
      rintro rfl
      cases head
  | cons marker rest => cases marker <;> simp [inFront, text]

theorem dot_mem_inFront : '.' ∈ (inFront markers name).toList ↔ '.' ∈ name.toList := by
  induction markers with
  | nil => rfl
  | cons marker rest ih =>
      have plain : '.' ∉ marker.text.toList := by
        cases marker with
        | slice | pointer => decide
        | array length =>
            have digits : '.' ∉ Nat.toDigits 10 length.toNat := fun member =>
              absurd (isDigit_of_mem_toDigits member) (by decide)
            simp [text, digits]
      rw [inFront, List.foldr_cons, String.toList_append, List.mem_append]
      exact ⟨fun member => ih.mp (member.resolve_left plain), fun member => .inr (ih.mpr member)⟩

/-! ## What the reader finds -/

theorem not_startsPlain_inFront {rest : List Marker} :
    ¬ StartsPlain (inFront (marker :: rest) name) :=
  not_startsPlain_append marker (inFront rest name)

theorem isPrefixOf?_text (fixed : ∀ length, marker ≠ .array length) (plain : StartsPlain name) :
    marker.text.toList.isPrefixOf? (inFront markers name).toList =
      (behind? marker markers).map fun rest => (inFront rest name).toList := by
  cases markers with
  | nil =>
      obtain ⟨c, head, notStar, notBracket⟩ := plain
      obtain ⟨rest, spelled⟩ := List.head?_eq_some_iff.mp head
      cases marker with
      | pointer => simp [inFront, text, behind?, spelled, List.isPrefixOf?, notStar.symm]
      | slice => simp [inFront, text, behind?, spelled, List.isPrefixOf?, notBracket.symm]
      | array length => exact absurd rfl (fixed length)
  | cons first rest =>
      by_cases same : first = marker
      · rw [same, behind?, if_pos rfl, Option.map_some, List.isPrefixOf?_eq_some_iff_append_eq,
          ← String.toList_append]
        rfl
      · rw [behind?, if_neg same, Option.map_none]
        cases marker with
        | array length => exact absurd rfl (fixed length)
        | pointer => cases first <;> simp_all [inFront, text, List.isPrefixOf?]
        | slice =>
            cases first with
            | slice => exact absurd rfl same
            | pointer => simp [inFront, text, List.isPrefixOf?]
            | array length =>
                refine Option.eq_none_iff_forall_ne_some.mpr fun behind found => ?_
                rw [List.isPrefixOf?_eq_some_iff_append_eq, inFront, List.foldr_cons,
                  String.toList_append] at found
                exact slice_append_ne_array found

theorem isPrefixOf_text (marker : Marker) (fixed : ∀ length, marker ≠ .array length)
    (plain : StartsPlain name) :
    marker.text.toList.isPrefixOf (inFront markers name).toList =
      (behind? marker markers).isSome := by
  rw [← List.isSome_isPrefixOf?_eq_isPrefixOf, isPrefixOf?_text fixed plain, Option.isSome_map]

end Marker

/-! ## Reading a spelled type -/

namespace SetterType

open Marker

variable {viewer name : String} {owner : PackageRef} {markers : List Marker}

theorem startsPlain_of_mem_primitiveNames (known : name ∈ primitiveNames) : StartsPlain name := by
  have all : ∀ name ∈ primitiveNames, StartsPlain name := by decide
  exact all name known

theorem stripMarker_text (marker : Marker) (fixed : ∀ length, marker ≠ .array length)
    (plain : StartsPlain name) :
    stripMarker marker.text (inFront markers name).toList =
      (inFront (without marker markers) name).toList := by
  unfold stripMarker without
  rw [isPrefixOf?_text fixed plain]
  cases behind? marker markers <;> rfl

/-- Predeclared names are known behind the markers that the reader knows only. -/
theorem isPrimitive_inFront (plain : StartsPlain name) :
    isPrimitive (inFront markers name) = true ↔ unread markers = [] ∧ name ∈ primitiveNames := by
  have behind : stripMarker "[]" (stripMarker "*" (inFront markers name).toList) =
      (inFront (unread markers) name).toList := by
    rw [show stripMarker "*" (inFront markers name).toList = _
      from stripMarker_text .pointer nofun plain]
    exact stripMarker_text .slice nofun plain
  rw [isPrimitive, behind, String.ofList_toList, List.contains_iff_mem]
  cases unread markers with
  | nil => simp [inFront]
  | cons marker rest =>
      refine iff_of_false (fun known => ?_) (fun both => by cases both.1)
      exact not_startsPlain_inFront (startsPlain_of_mem_primitiveNames known)

theorem ofOverride_inFront (plain : StartsPlain name) :
    ofOverride viewer owner (inFront markers name) =
      ⟨if '.' ∉ name.toList ∧ owner.path ≠ viewer ∧
          ¬ (unread markers = [] ∧ name ∈ primitiveNames) then
            outerText markers ++ (owner.name ++ "." ++ inFront (unread markers) name)
        else inFront markers name,
        (behind? .pointer markers).isSome, (behind? .slice (without .pointer markers)).isSome⟩ := by
  have star : "*".toList.isPrefixOf (inFront markers name).toList =
      (behind? .pointer markers).isSome :=
    isPrefixOf_text .pointer nofun plain
  have pointee : stripMarker "*" (inFront markers name).toList =
      (inFront (without .pointer markers) name).toList := stripMarker_text .pointer nofun plain
  have brackets : "[]".toList.isPrefixOf (inFront (without .pointer markers) name).toList =
      (behind? .slice (without .pointer markers)).isSome := isPrefixOf_text .slice nofun plain
  have elem : stripMarker "[]" (inFront (without .pointer markers) name).toList =
      (inFront (unread markers) name).toList := stripMarker_text .slice nofun plain
  have qualifies : (!(inFront markers name).toList.contains '.' && decide (owner.path ≠ viewer) &&
        !isPrimitive (inFront markers name)) = true ↔
      '.' ∉ name.toList ∧ owner.path ≠ viewer ∧
        ¬ (unread markers = [] ∧ name ∈ primitiveNames) := by
    rw [Bool.and_eq_true, Bool.and_eq_true, Bool.not_eq_true', ← Bool.not_eq_true,
      List.contains_iff_mem, dot_mem_inFront, decide_eq_true_iff, Bool.not_eq_true',
      ← Bool.not_eq_true,
      isPrimitive_inFront plain, and_assoc]
  unfold ofOverride
  dsimp only
  rw [pointee, star, brackets, elem, String.ofList_toList]
  simp only [qualifies, outerText, frontText, Marker.text, String.append_assoc]

end SetterType

/-! ## A field's own type -/

/-- A name that starts with no marker and has no dot, as every identifier. -/
def IsWord (name : String) : Prop := StartsPlain name ∧ '.' ∉ name.toList

instance : DecidablePred IsWord := fun _ => inferInstanceAs (Decidable (_ ∧ _))

theorem BasicKind.isWord_name (kind : BasicKind) : IsWord kind.name := by
  cases kind <;> decide

namespace GoType

variable {type : GoType}

theorem isPointer_eq (type : GoType) :
    type.isPointer = (Marker.behind? .pointer type.markers).isSome := by
  cases type <;> rfl

/-- A slice right behind a pointer is the only one that is not on the outside. -/
theorem isSlice_eq_of_ne (notPointed : ∀ elem, type ≠ .pointer (.slice elem)) :
    type.isSlice = (Marker.behind? .slice (Marker.without .pointer type.markers)).isSome := by
  cases type with
  | pointer elem =>
      cases elem with
      | slice elem => exact absurd rfl (notPointed elem)
      | _ => rfl
  | _ => rfl

end GoType

namespace SetterType

open Marker

variable {viewer : String} {owner : PackageRef} {type : GoType}

/-- What can be below the layers of a type that a tag of package `owner` spells for a viewer
elsewhere. -/
inductive SpelledCore (viewer : String) (owner : PackageRef) : GoType → Prop where
  | basic (kind : BasicKind) : SpelledCore viewer owner (.basic kind)
  | own {name : String} {underlying : Option GoType} (word : IsWord name) :
    SpelledCore viewer owner (.named ⟨some owner, name, [], underlying⟩)
  | foreign {other : PackageRef} {name : String} {underlying : Option GoType}
    (plain : StartsPlain other.name) (elsewhere : other.path ≠ owner.path)
    (unseen : other.path ≠ viewer) :
    SpelledCore viewer owner (.named ⟨some other, name, [], underlying⟩)

/-- The types whose name in a tag is also what the viewer calls them. -/
inductive ReadAlike (viewer : String) (owner : PackageRef) (type : GoType) : Prop where
  /-- The tag is one of the viewer's own package. -/
  | home (same : owner.path = viewer)
  | foreign {other : PackageRef} {name : String} {underlying : Option GoType}
    (core : type.deepElement = .named ⟨some other, name, [], underlying⟩)
    (elsewhere : other.path ≠ owner.path)
  /-- A predeclared name that the reader has, behind the layers that it knows. -/
  | predeclared {kind : BasicKind} (core : type.deepElement = .basic kind)
    (known : kind.name ∈ primitiveNames) (layers : unread type.markers = [])
  /-- A name that the reader qualifies, behind the layers that it knows. -/
  | own {name : String} {underlying : Option GoType}
    (core : type.deepElement = .named ⟨some owner, name, [], underlying⟩)
    (unknown : name ∉ primitiveNames) (layers : unread type.markers = [])

/-- What a spelled type has to do with the declared one when the tag spells the declared one. -/
structure ReadsBack (viewer : String) (owner : PackageRef) (type : GoType)
    (declared override : SetterType) :
    Prop where
  pointer : override.isPointer = declared.isPointer
  slice : (∀ elem, type ≠ .pointer (.slice elem)) → override.isSlice = declared.isSlice
  text : ReadAlike viewer owner type → override.text = declared.text
  /-- Behind other layers a predeclared name is none that the reader has, so it is taken for one of
  the package. -/
  qualified : owner.path ≠ viewer → unread type.markers ≠ [] →
    ∀ kind, type.deepElement = .basic kind →
    override.text ≠ declared.text

theorem SpelledCore.exists_print? (core : SpelledCore viewer owner type) :
    ∃ name, type.print? owner.path = some name ∧ StartsPlain name := by
  cases core with
  | basic kind => exact ⟨kind.name, by rw [GoType.print?], kind.startsPlain_name⟩
  | @own name _ word => exact ⟨name, GoType.print?_own rfl, word.1⟩
  | @foreign other base _ plain elsewhere _ =>
      exact ⟨other.name ++ "." ++ base, GoType.print?_foreign elsewhere,
        (plain.append ".").append base⟩

theorem SpelledCore.isWord {name : String} {underlying : Option GoType}
    (core : SpelledCore viewer owner (.named ⟨some owner, name, [], underlying⟩)) :
    IsWord name := by
  cases core with
  | own word => exact word
  | foreign _ elsewhere _ => exact absurd rfl elsewhere

theorem SpelledCore.unseen {other : PackageRef} {name : String} {underlying : Option GoType}
    (core : SpelledCore viewer owner (.named ⟨some other, name, [], underlying⟩))
    (elsewhere : other.path ≠ owner.path) : other.path ≠ viewer := by
  cases core with
  | own => exact absurd rfl elsewhere
  | foreign _ _ unseen => exact unseen

theorem text_eq_of_readAlike (core : SpelledCore viewer owner type.deepElement)
    (alike : ReadAlike viewer owner type) {name seen : String} (plain : StartsPlain name)
    (spelled : type.deepElement.print? owner.path = some name)
    (printed : type.deepElement.print? viewer = some seen) :
    (ofOverride viewer owner (inFront type.markers name)).text = inFront type.markers seen := by
  rw [ofOverride_inFront plain]
  cases alike with
  | home same =>
      subst same
      obtain rfl := Option.some.inj (spelled.symm.trans printed)
      exact if_neg fun qualified => qualified.2.1 rfl
  | @foreign other base underlying named elsewhere =>
      rw [named] at core spelled printed
      rw [GoType.print?_foreign elsewhere] at spelled
      rw [GoType.print?_foreign (core.unseen elsewhere)] at printed
      obtain rfl := Option.some.inj spelled
      obtain rfl := Option.some.inj printed
      have dotted : '.' ∈ (other.name ++ "." ++ base).toList := by simp
      exact if_neg fun qualified => qualified.1 dotted
  | @predeclared kind named known layers =>
      rw [named, GoType.print?] at spelled printed
      obtain rfl := Option.some.inj spelled
      obtain rfl := Option.some.inj printed
      exact if_neg fun qualified => qualified.2.2 ⟨layers, known⟩
  | @own base underlying named unknown layers =>
      rw [named] at core spelled printed
      rw [GoType.print?_own rfl] at spelled
      obtain rfl := Option.some.inj spelled
      by_cases same : owner.path = viewer
      · rw [GoType.print?_own same] at printed
        obtain rfl := Option.some.inj printed
        exact if_neg fun qualified => qualified.2.1 same
      · rw [GoType.print?_foreign same] at printed
        obtain rfl := Option.some.inj printed
        rw [if_pos ⟨core.isWord.2, same, fun known => unknown known.2⟩,
          inFront_eq_outerText type.markers, layers]
        rfl

/-- Markers that the reader does not know stay behind the package that it writes, so the text is
none of a type with these markers. -/
theorem text_ne_of_layers {markers : List Marker} {name seen : String} (word : IsWord name)
    (ownerPlain : StartsPlain owner.name) (elsewhere : owner.path ≠ viewer)
    (layers : unread markers ≠ []) :
    (ofOverride viewer owner (inFront markers name)).text ≠ inFront markers seen := by
  have text : (ofOverride viewer owner (inFront markers name)).text =
      outerText markers ++ (owner.name ++ "." ++ inFront (unread markers) name) := by
    rw [ofOverride_inFront word.1]
    exact if_pos ⟨word.2, elsewhere, fun known => layers known.1⟩
  obtain ⟨marker, rest, behind⟩ := List.exists_cons_of_ne_nil layers
  rw [text, inFront_eq_outerText markers seen, behind, ne_eq, String.append_right_inj]
  intro same
  exact not_startsPlain_inFront (same ▸ (ownerPlain.append ".").append _)

/-- A tag that spells the declared type gives the same setter type as no tag, but for the layers and
names that the reader of spelled types does not know and for a slice behind a pointer. -/
theorem select?_of_spelled_own (core : SpelledCore viewer owner type.deepElement)
    (ownerPlain : StartsPlain owner.name) :
    ∃ text declared override, type.print? owner.path = some text ∧
      (∀ tag : FieldTag, tag.value "settyp" = "" → tag.value "rel" = "" →
        select? viewer owner tag type = some declared) ∧
      (∀ tag : FieldTag, tag.value "settyp" = text →
        select? viewer owner tag type = some override) ∧
      ReadsBack viewer owner type declared override := by
  obtain ⟨name, spelled, plain⟩ := core.exists_print?
  obtain ⟨seen, printed⟩ : ∃ seen, type.deepElement.print? viewer = some seen := by
    rw [← Option.isSome_iff_exists, GoType.print?_isSome_eq viewer owner.path, spelled]
    rfl
  have whole : type.print? viewer = some (inFront type.markers seen) := by
    rw [GoType.print?_eq_inFront, printed]
    rfl
  refine ⟨inFront type.markers name, ⟨inFront type.markers seen, type.isPointer, type.isSlice⟩,
    ofOverride viewer owner (inFront type.markers name), ?_, ?_, ?_, ?_⟩
  · rw [GoType.print?_eq_inFront, spelled]
    rfl
  · intro tag noType noRelation
    simp [select?, noType, noRelation, whole]
  · intro tag spells
    unfold select?
    rw [spells]
    exact if_pos (inFront_ne_empty plain)
  · constructor
    · rw [ofOverride_inFront plain, type.isPointer_eq]
    · intro notPointed
      rw [ofOverride_inFront plain, GoType.isSlice_eq_of_ne notPointed]
    · exact fun alike => text_eq_of_readAlike core alike plain spelled printed
    · intro elsewhere layers kind basic
      rw [basic, GoType.print?] at spelled
      obtain rfl := Option.some.inj spelled
      exact text_ne_of_layers kind.isWord_name ownerPlain elsewhere layers

/-- A slice of a type that the package of the tag declares, seen from elsewhere. -/
theorem select?_of_spelled_own_slice :
    let viewer := "example.com/models"
    let shop : PackageRef := ⟨"example.com/shop", "shop"⟩
    let type : GoType := .slice (.ofName (some shop) "Tag")
    let tag : FieldTag := ⟨[("settyp", "[]Tag")]⟩
    FieldTag.parse "settyp:'[]Tag'" = some tag ∧ type.print? shop.path = some "[]Tag" ∧
      SpelledCore viewer shop type.deepElement ∧ StartsPlain shop.name ∧
      ReadAlike viewer shop type ∧
      select? viewer shop .empty type = some ⟨"[]shop.Tag", false, true⟩ ∧
      select? viewer shop tag type = select? viewer shop .empty type := by
  intro viewer shop type tag
  have core : SpelledCore viewer shop type.deepElement := .own (by decide)
  have ownerPlain : StartsPlain shop.name := by decide
  have alike : ReadAlike viewer shop type := .own rfl (by decide) rfl
  have spelled : type.print? shop.path = some "[]Tag" := by decide +kernel
  refine ⟨by decide +kernel, spelled, core, ownerPlain, alike, by decide +kernel, ?_⟩
  obtain ⟨text, declared, override, printed, plain, tagged, back⟩ :=
    select?_of_spelled_own core ownerPlain
  obtain rfl : "[]Tag" = text := Option.some.inj (spelled.symm.trans printed)
  have same : override = declared := by
    cases override
    cases declared
    rw [mk.injEq]
    exact ⟨back.text alike, back.pointer, back.slice nofun⟩
  rw [plain .empty rfl rfl, tagged tag rfl, same]

/-- A pointer behind a slice marker is a layer that the reader does not know; and a spelled slice
behind a pointer is one, a declared one is not. -/
theorem select?_of_spelled_layers :
    let viewer := "example.com/models"
    let shop : PackageRef := ⟨"example.com/shop", "shop"⟩
    let pointed : GoType := .pointer (.slice (.basic .string))
    let pointers : GoType := .slice (.pointer (.basic .int))
    pointed.print? shop.path = some "*[]string" ∧
      select? viewer shop .empty pointed = some ⟨"*[]string", true, false⟩ ∧
      select? viewer shop ⟨[("settyp", "*[]string")]⟩ pointed = some ⟨"*[]string", true, true⟩ ∧
      pointers.print? shop.path = some "[]*int" ∧
      select? viewer shop .empty pointers = some ⟨"[]*int", false, true⟩ ∧
      select? viewer shop ⟨[("settyp", "[]*int")]⟩ pointers = some ⟨"[]shop.*int", false, true⟩ ∧
      ¬ ∀ (viewer : String) (owner : PackageRef) (type : GoType) (text : String)
        (bare tag : FieldTag),
        SpelledCore viewer owner type.deepElement → StartsPlain owner.name →
          type.print? owner.path = some text → bare.value "settyp" = "" → bare.value "rel" = "" →
            tag.value "settyp" = text → tag.value "rel" = "" →
              select? viewer owner tag type = select? viewer owner bare type := by
  intro viewer shop pointed pointers
  have spelled : pointers.print? shop.path = some "[]*int" := by decide +kernel
  have declared : select? viewer shop .empty pointers = some ⟨"[]*int", false, true⟩ := by
    decide +kernel
  have tagged : select? viewer shop ⟨[("settyp", "[]*int")]⟩ pointers =
      some ⟨"[]shop.*int", false, true⟩ := by
    decide +kernel
  refine ⟨by decide +kernel, by decide +kernel, by decide +kernel, spelled, declared, tagged,
    fun noEffect => ?_⟩
  have same := noEffect viewer shop pointers "[]*int" .empty ⟨[("settyp", "[]*int")]⟩ (.basic .int)
    (by decide) spelled rfl rfl rfl rfl
  rw [declared, tagged] at same
  exact absurd same (by decide)

end SetterType

end Scaffold
