import Scaffold.Proofs.SetterType

/-!
# Flags of setter types

The flags of a setter type tell the markers that its text begins with, so a type without its markers
is what stands behind a fixed number of bytes (`FlagsMatch`).  A spelled type has the flags of its
spelling, and its text is read as the same type when a tag spells that (`flags_of_select?`).
-/

set_option autoImplicit false

namespace Scaffold

/-! ## Bytes in front -/

namespace Text

/-- What stands behind a number of bytes, when a text has that many and they end with a
character. -/
def behindBytes? (text : String) (count : Nat) : Option String :=
  if valid : (⟨count⟩ : String.Pos.Raw).IsValid text then
    some (text.sliceFrom ⟨⟨count⟩, valid⟩).copy else none

theorem behindBytes?_of_append {front behind text : String} {count : Nat}
    (whole : front ++ behind = text)
    (size : front.utf8ByteSize = count) : behindBytes? text count = some behind := by
  subst whole size
  have valid : (⟨front.utf8ByteSize⟩ : String.Pos.Raw).IsValid (front ++ behind) :=
    String.Pos.Raw.isValid_iff_exists_append.mpr ⟨front, behind, rfl, rfl⟩
  have bytes : (front.toByteArray ++ behind.toByteArray).extract front.toByteArray.size
      (front.toByteArray.size + behind.toByteArray.size) = behind.toByteArray :=
    ByteArray.extract_append_eq_right rfl rfl
  rw [behindBytes?, dif_pos valid, Option.some.injEq, ← String.toByteArray_inj,
    String.Slice.toByteArray_copy]
  simpa using bytes

end Text

namespace SetterType

open Marker Text

variable {viewer text bare : String} {owner : PackageRef} {type : SetterType}

/-! ## Flags and text -/

def flagMarkers (type : SetterType) : List Marker :=
  (if type.isPointer then [.pointer] else []) ++ (if type.isSlice then [.slice] else [])

theorem inFront_flagMarkers (type : SetterType) (name : String) :
    inFront type.flagMarkers name =
      (if type.isPointer then "*" else "") ++ ((if type.isSlice then "[]" else "") ++ name) := by
  unfold flagMarkers
  cases type.isPointer <;> cases type.isSlice <;> simp [inFront, Marker.text]

/-- How many bytes the pointer marker has that `unpointed` leaves out. -/
def pointerBytes (type : SetterType) : Nat := if type.isPointer then 1 else 0

/-- How many bytes the markers have that `unsliced` leaves out. -/
def sliceBytes (type : SetterType) : Nat :=
  if type.isSlice then (if type.isPointer then 3 else 2) else 0

/-- The text begins as the flags tell, and each part of the type is what stands behind some of its
bytes. -/
structure FlagsMatch (type : SetterType) : Prop where
  pointer : type.isPointer = true → "*".toList <+: type.text.toList
  slice : type.isSlice = true → ((if type.isPointer then "*" else "") ++ "[]").toList <+:
    type.text.toList
  repointed : (if type.isPointer then "*" else "") ++ type.unpointed = type.text
  resliced : (if type.isSlice then (if type.isPointer then "*[]" else "[]") else "") ++
    type.unsliced = type.text
  unpointed : behindBytes? type.text type.pointerBytes = some type.unpointed
  unsliced : behindBytes? type.text type.sliceBytes = some type.unsliced
  elem : behindBytes? type.text (if type.isSlice then type.sliceBytes else type.pointerBytes) =
    some type.elem

theorem append_dropText (front behind : String) :
    front ++ dropText front.toList.length (front ++ behind) = front ++ behind := by
  simp [dropText]

theorem repointed_of_text (shape : type.text = inFront type.flagMarkers bare) :
    (if type.isPointer then "*" else "") ++ type.unpointed = type.text := by
  unfold unpointed
  cases pointer : type.isPointer with
  | false => exact String.empty_append
  | true =>
      simp only [flagMarkers, pointer, if_true] at shape
      rw [shape]
      exact append_dropText "*" _

theorem resliced_of_text (shape : type.text = inFront type.flagMarkers bare) :
    (if type.isSlice then (if type.isPointer then "*[]" else "[]") else "") ++ type.unsliced =
      type.text := by
  unfold unsliced
  cases slice : type.isSlice with
  | false => exact String.empty_append
  | true =>
      cases pointer : type.isPointer <;>
        simp only [flagMarkers, slice, pointer, if_true] at shape <;> rw [shape]
      · exact append_dropText "[]" bare
      · exact append_dropText "*[]" bare

theorem FlagsMatch.of_text (shape : type.text = inFront type.flagMarkers bare) :
    type.FlagsMatch := by
  have repointed := repointed_of_text shape
  have resliced := resliced_of_text shape
  have behindPointer : behindBytes? type.text type.pointerBytes = some type.unpointed := by
    refine behindBytes?_of_append repointed ?_
    unfold pointerBytes
    cases type.isPointer <;> rfl
  have behindSlice : behindBytes? type.text type.sliceBytes = some type.unsliced := by
    refine behindBytes?_of_append resliced ?_
    unfold sliceBytes
    cases type.isSlice <;> cases type.isPointer <;> rfl
  refine ⟨?_, ?_, repointed, resliced, behindPointer, behindSlice, ?_⟩
  · intro pointer
    simp [shape, flagMarkers, pointer, inFront, Marker.text]
  · intro slice
    cases pointer : type.isPointer <;>
      simp [shape, flagMarkers, pointer, slice, inFront, Marker.text]
  · unfold SetterType.elem
    split
    · exact behindSlice
    · exact behindPointer

/-! ## Declared types -/

/-- A declared type's flags are those of its outer layer, whatever is written behind it. -/
theorem text_of_print? {declared : GoType} (printed : declared.print? viewer = some text)
    (ending : String) :
    ∃ bare, text ++ ending =
      inFront (flagMarkers ⟨text ++ ending, declared.isPointer, declared.isSlice⟩) bare := by
  cases declared with
  | slice elem =>
      rw [GoType.print?] at printed
      obtain ⟨shown, _, rfl⟩ := Option.map_eq_some_iff.mp printed
      exact ⟨shown ++ ending, String.append_assoc ..⟩
  | pointer elem =>
      rw [GoType.print?] at printed
      obtain ⟨shown, _, rfl⟩ := Option.map_eq_some_iff.mp printed
      exact ⟨shown ++ ending, String.append_assoc ..⟩
  | _ => exact ⟨text ++ ending, rfl⟩

/-! ## Spelled types -/

theorem inFront_stripMarker (marker : Marker) (s : List Char) :
    inFront (if marker.text.toList.isPrefixOf s then [marker] else [])
      (String.ofList (stripMarker marker.text s)) = String.ofList s := by
  unfold stripMarker
  rw [← List.isSome_isPrefixOf?_eq_isPrefixOf]
  cases found : marker.text.toList.isPrefixOf? s with
  | none => rfl
  | some rest =>
      rw [List.isPrefixOf?_eq_some_iff_append_eq] at found
      rw [← found, String.ofList_append, String.ofList_toList]
      rfl

/-- A spelled type keeps its markers, and what is behind them is perhaps qualified. -/
theorem exists_text_of_override (viewer : String) (owner : PackageRef) (text : String) :
    ∃ bare, text = inFront (ofOverride viewer owner text).flagMarkers bare ∧
      ((ofOverride viewer owner text).text = text ∨
        (ofOverride viewer owner text).text =
          inFront (ofOverride viewer owner text).flagMarkers (owner.name ++ "." ++ bare)) := by
  have pointee := inFront_stripMarker .pointer text.toList
  have elem := inFront_stripMarker .slice (stripMarker Marker.pointer.text text.toList)
  rw [String.ofList_toList] at pointee
  refine ⟨String.ofList (stripMarker "[]" (stripMarker "*" text.toList)), ?_, ?_⟩
  · rw [flagMarkers, inFront, List.foldr_append]
    exact pointee.symm.trans (congrArg (inFront _) elem.symm)
  · rw [inFront_flagMarkers]
    unfold ofOverride
    dsimp only
    split
    · exact .inr (by simp only [String.append_assoc])
    · exact .inl rfl

theorem ofOverride_of_qualified (plain : StartsPlain (owner.name ++ "." ++ bare))
    (shape : type.text = inFront type.flagMarkers (owner.name ++ "." ++ bare)) :
    ofOverride viewer owner type.text = type := by
  have dotted : '.' ∈ (owner.name ++ "." ++ bare).toList := by simp
  obtain ⟨text, isPointer, isSlice⟩ := type
  dsimp only at shape
  rw [shape, ofOverride_inFront plain, if_neg fun qualified => qualified.1 dotted]
  cases isPointer <;> cases isSlice <;> rfl

theorem startsPlain_qualified (plain : ∀ c ∈ owner.name.toList.head?, c ≠ '*' ∧ c ≠ '[')
    (bare : String) :
    StartsPlain (owner.name ++ "." ++ bare) := by
  cases start : owner.name.toList with
  | nil =>
      have first : (owner.name ++ "." ++ bare).toList.head? = some '.' := by simp [start]
      exact ⟨'.', first, by decide⟩
  | cons c rest =>
      have isFirst : c ∈ owner.name.toList.head? := by rw [start]; rfl
      have ownerPlain : StartsPlain owner.name := ⟨c, isFirst, plain c isFirst⟩
      exact (ownerPlain.append ".").append bare

theorem ofOverride_again (plain : ∀ c ∈ owner.name.toList.head?, c ≠ '*' ∧ c ≠ '[')
    (text : String) :
    ofOverride viewer owner (ofOverride viewer owner text).text = ofOverride viewer owner text := by
  obtain ⟨bare, _, kept | qualified⟩ := exists_text_of_override viewer owner text
  · rw [kept]
  · exact ofOverride_of_qualified (startsPlain_qualified plain bare) qualified

theorem ofOverride_ne_empty (spelled : text ≠ "") : (ofOverride viewer owner text).text ≠ "" := by
  obtain ⟨bare, _, kept | qualified⟩ := exists_text_of_override viewer owner text
  · rw [kept]
    exact spelled
  · rw [qualified, inFront_flagMarkers]
    simp

/-! ## Selected types -/

/-- A setter type that a spelling gives: its flags are those of the spelling, and it is what its own
text spells for the same viewer and package. -/
structure SpelledBy (viewer : String) (owner : PackageRef) (spelling : String)
    (type : SetterType) : Prop where
  pointer : type.isPointer = true ↔ "*".toList <+: spelling.toList
  slice : type.isSlice = true ↔ "[]".toList <+: spelling.toList ∨ "*[]".toList <+: spelling.toList
  again : ∀ (tag : FieldTag) (declared : GoType), tag.value "settyp" = type.text →
    select? viewer owner tag declared = some type

theorem isSlice_ofOverride_iff : (ofOverride viewer owner text).isSlice = true ↔
    "[]".toList <+: text.toList ∨ "*[]".toList <+: text.toList := by
  have brackets : (ofOverride viewer owner text).isSlice = true ↔
      "[]".toList <+: stripMarker "*" text.toList :=
    List.isPrefixOf_iff_prefix
  rw [brackets]
  unfold stripMarker
  cases star : "*".toList.isPrefixOf? text.toList with
  | none =>
      have unpointed : ¬ "*[]".toList <+: text.toList := by
        rintro ⟨rest, whole⟩
        have found : "*".toList.isPrefixOf? text.toList = some ("[]".toList ++ rest) := by
          rw [List.isPrefixOf?_eq_some_iff_append_eq, ← whole]
          rfl
        rw [star] at found
        cases found
      exact ⟨.inl, fun either => either.resolve_right unpointed⟩
  | some rest =>
      rw [List.isPrefixOf?_eq_some_iff_append_eq] at star
      rw [← star]
      simp [List.cons_prefix_cons]

theorem spelledBy_ofOverride (plain : ∀ c ∈ owner.name.toList.head?, c ≠ '*' ∧ c ≠ '[')
    (spelled : text ≠ "") :
    SpelledBy viewer owner text (ofOverride viewer owner text) := by
  refine ⟨List.isPrefixOf_iff_prefix, isSlice_ofOverride_iff, ?_⟩
  intro tag declared again
  unfold select?
  rw [again]
  dsimp only
  rw [if_pos (ofOverride_ne_empty spelled), ofOverride_again plain]

/-- The flags of a setter type fit its text, so its parts are cut off between two characters. -/
theorem flags_of_select? {tag : FieldTag} {declared : GoType}
    (plain : ∀ c ∈ owner.name.toList.head?, c ≠ '*' ∧ c ≠ '[')
    (selected : select? viewer owner tag declared = some type) :
    type.FlagsMatch ∧
      (tag.value "settyp" ≠ "" → type.SpelledBy viewer owner (tag.value "settyp")) := by
  unfold select? at selected
  dsimp only at selected
  by_cases spelled : tag.value "settyp" = ""
  · rw [if_neg (not_not.mpr spelled)] at selected
    obtain ⟨name, printed, rfl⟩ := Option.map_eq_some_iff.mp selected
    refine ⟨?_, fun spells => absurd spelled spells⟩
    split
    · obtain ⟨bare, shape⟩ := text_of_print? printed ""
      rw [String.append_empty] at shape
      exact .of_text shape
    · obtain ⟨bare, shape⟩ := text_of_print? printed relationSuffix
      exact .of_text shape
  · rw [if_pos spelled] at selected
    obtain rfl := Option.some.inj selected
    obtain ⟨bare, whole, kept | qualified⟩ :=
      exists_text_of_override viewer owner (tag.value "settyp")
    · exact ⟨.of_text (kept.trans whole), fun _ => spelledBy_ofOverride plain spelled⟩
    · exact ⟨.of_text qualified, fun _ => spelledBy_ofOverride plain spelled⟩

/-- A pointer to a slice of a type whose name is not ASCII, seen from elsewhere. -/
theorem flags_of_select?_unicode :
    let viewer := "example.com/models"
    let shop : PackageRef := ⟨"example.com/shop", "shop"⟩
    let tag : FieldTag := ⟨[("settyp", "*[]Größe")]⟩
    let type : SetterType := ⟨"*[]shop.Größe", true, true⟩
    FieldTag.parse "settyp:'*[]Größe'" = some tag ∧
      (∀ c ∈ shop.name.toList.head?, c ≠ '*' ∧ c ≠ '[') ∧
      select? viewer shop tag .func = some type ∧ type.FlagsMatch ∧
      behindBytes? type.text 3 = some "shop.Größe" ∧
      select? viewer shop ⟨[("settyp", "*[]shop.Größe")]⟩ .func = some type := by
  intro viewer shop tag type
  have plain : ∀ c ∈ shop.name.toList.head?, c ≠ '*' ∧ c ≠ '[' := by simp [shop]
  have selected : select? viewer shop tag .func = some type := by decide +kernel
  obtain ⟨fit, spelled⟩ := flags_of_select? plain selected
  have again := (spelled (by decide)).again ⟨[("settyp", "*[]shop.Größe")]⟩ .func rfl
  have element : type.unsliced = "shop.Größe" := by decide +kernel
  exact ⟨by decide +kernel, plain, selected, fit, element ▸ fit.unsliced, again⟩

end SetterType

end Scaffold
