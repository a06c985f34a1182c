import Mathlib.Data.List.Forall2
import Scaffold.Proofs.GoType.Layers

/-!
# Reading printed types

A printed type is markers, a name and perhaps arguments in brackets.  With identifiers for names a
reader can tell these parts, since no marker begins like a name, no name goes beyond a bracket or a
comma, and arguments end with one of these.  So two types are printed alike exactly when they have
the same markers around the same name and their arguments are pairwise printed alike
(`printed_same_iff`).
-/

set_option autoImplicit false

namespace Scaffold

/-! ## Identifiers -/

/-- Letters, digits and the underscore; beyond ASCII every character counts as a letter. -/
def IsNameChar (c : Char) : Prop := c.isAlphanum = true ∨ c = '_' ∨ 128 ≤ c.toNat

def IsIdentifier (name : String) : Prop :=
  (∃ c ∈ name.toList.head?, c.isDigit = false) ∧ ∀ c ∈ name.toList, IsNameChar c

instance : DecidablePred IsNameChar := fun _ => inferInstanceAs (Decidable (_ ∨ _ ∨ _))

instance : DecidablePred IsIdentifier := fun name =>
  decidable_of_iff ((name.toList.head?.any fun c => !c.isDigit) ∧
    name.toList.all fun c => IsNameChar c) (by
    rw [Option.any_eq_true]
    simp [IsIdentifier])

/-- The names of all types in a type and of their packages are identifiers. -/
def GoType.HasIdentifiers (type : GoType) : Prop := ∀ name ∈ type.names, IsIdentifier name

instance : DecidablePred GoType.HasIdentifiers := fun type =>
  inferInstanceAs (Decidable (∀ name ∈ type.names, IsIdentifier name))

/-- The characters that a name in a printed type does not go beyond. -/
def EndsName (c : Char) : Prop := c = '[' ∨ c = ']' ∨ c = ','

theorem IsNameChar.not_endsName {c : Char} (isName : IsNameChar c) : ¬ EndsName c := by
  rintro (rfl | rfl | rfl) <;> revert isName <;> unfold IsNameChar <;> decide

theorem IsNameChar.ne_star {c : Char} (isName : IsNameChar c) : c ≠ '*' := by
  rintro rfl
  revert isName
  unfold IsNameChar
  decide

/-- What a terminal's name has to be for a reader to tell it from what stands around it. -/
structure IsTerminal (name : String) : Prop where
  plain : StartsPlain name
  whole : ∀ c ∈ name.toList, ¬ EndsName c

theorem IsIdentifier.isTerminal {name : String} (identifier : IsIdentifier name) :
    IsTerminal name := by
  obtain ⟨⟨c, first, _⟩, each⟩ := identifier
  have isName : IsNameChar c := each c (List.mem_of_mem_head? first)
  exact ⟨⟨c, first, isName.ne_star, fun bracket => isName.not_endsName (.inl bracket)⟩,
    fun c member => (each c member).not_endsName⟩

theorem BasicKind.isIdentifier_name (kind : BasicKind) : IsIdentifier kind.name := by
  cases kind <;> decide

theorem IsTerminal.qualified {owner name : String} (ownerTerminal : IsTerminal owner)
    (terminal : IsTerminal name) :
    IsTerminal (owner ++ "." ++ name) := by
  refine ⟨(ownerTerminal.plain.append ".").append name, ?_⟩
  intro c member
  rw [String.toList_append, String.toList_append, List.mem_append, List.mem_append] at member
  rcases member with (member | member) | member
  · exact ownerTerminal.whole c member
  · obtain rfl : c = '.' := by simpa using member
    unfold EndsName
    decide
  · exact terminal.whole c member

/-! ## Names and markers in a text -/

theorem name_eq_of_append {first second rest rest' : List Char}
    (firstWhole : ∀ c ∈ first, ¬ EndsName c)
    (secondWhole : ∀ c ∈ second, ¬ EndsName c) (ends : ∀ c ∈ rest.head?, EndsName c)
    (ends' : ∀ c ∈ rest'.head?, EndsName c) (same : first ++ rest = second ++ rest') :
    first = second ∧ rest = rest' := by
  induction first generalizing second with
  | nil =>
      cases second with
      | nil => exact ⟨rfl, same⟩
      | cons c second =>
          rw [List.nil_append] at same
          exact absurd (ends c (by rw [same]; rfl)) (secondWhole c List.mem_cons_self)
  | cons c first ih =>
      cases second with
      | nil =>
          rw [List.nil_append] at same
          exact absurd (ends' c (by rw [← same]; rfl)) (firstWhole c List.mem_cons_self)
      | cons c' second =>
          rw [List.cons_append, List.cons_append] at same
          obtain ⟨rfl, behind⟩ := List.cons.inj same
          obtain ⟨rfl, restSame⟩ :=
            ih (fun c member => firstWhole c (List.mem_cons_of_mem _ member))
              (fun c member => secondWhole c (List.mem_cons_of_mem _ member)) behind
          exact ⟨rfl, restSame⟩

namespace Marker

theorem not_endsName_of_mem_toDigits {n : Nat} {c : Char} (member : c ∈ Nat.toDigits 10 n) :
    ¬ EndsName c := by
  have digit := isDigit_of_mem_toDigits member
  rintro (rfl | rfl | rfl) <;> cases digit

theorem eq_of_append {first second : Marker} {rest rest' : List Char}
    (same : first.text.toList ++ rest = second.text.toList ++ rest') :
    first = second ∧ rest = rest' := by
  cases first with
  | slice =>
      cases second with
      | slice => exact ⟨rfl, by simpa [text] using same⟩
      | array length => exact absurd same slice_append_ne_array
      | pointer => simp [text] at same
  | pointer =>
      cases second with
      | pointer => exact ⟨rfl, by simpa [text] using same⟩
      | slice | array => simp [text] at same
  | array length =>
      cases second with
      | slice => exact absurd same.symm slice_append_ne_array
      | pointer => simp [text] at same
      | array other =>
          have digits : Nat.toDigits 10 length.toNat ++ ']' :: rest =
              Nat.toDigits 10 other.toNat ++ ']' :: rest' := by
            simpa [text] using same
          obtain ⟨sameDigits, sameRest⟩ := name_eq_of_append (fun _ => not_endsName_of_mem_toDigits)
            (fun _ => not_endsName_of_mem_toDigits) (by simp [EndsName]) (by simp [EndsName]) digits
          have value := congrArg (Nat.ofDigitChars 10 · 0) sameDigits
          simp only [Nat.ofDigitChars_toDigits (b := 10) (by omega) (by omega),
            UInt64.toNat_inj] at value
          exact ⟨by rw [value], (List.cons.inj sameRest).2⟩

theorem append_ne_of_startsPlain {marker : Marker} {name : String} (plain : StartsPlain name)
    (rest rest' : List Char) : name.toList ++ rest ≠ marker.text.toList ++ rest' := by
  intro same
  have text : name ++ String.ofList rest = marker.text ++ String.ofList rest' := by
    rw [← String.toList_inj]
    simpa using same
  exact not_startsPlain_append marker _ (text ▸ plain.append _)

theorem row_eq_of_append {first second : List Marker} {name name' : String} {rest rest' : List Char}
    (plain : StartsPlain name) (plain' : StartsPlain name')
    (same : (inFront first name).toList ++ rest = (inFront second name').toList ++ rest') :
    first = second ∧ name.toList ++ rest = name'.toList ++ rest' := by
  induction first generalizing second with
  | nil =>
      cases second with
      | nil => exact ⟨rfl, same⟩
      | cons marker second =>
          rw [inFront, inFront, List.foldr_nil, List.foldr_cons, String.toList_append,
            List.append_assoc] at same
          exact absurd same (append_ne_of_startsPlain plain _ _)
  | cons marker first ih =>
      rw [inFront, List.foldr_cons, String.toList_append, List.append_assoc] at same
      cases second with
      | nil => exact absurd same.symm (append_ne_of_startsPlain plain' _ _)
      | cons marker' second =>
          rw [inFront, List.foldr_cons, String.toList_append, List.append_assoc] at same
          obtain ⟨rfl, behind⟩ := eq_of_append same
          obtain ⟨rfl, nameSame⟩ := ih behind
          exact ⟨rfl, nameSame⟩

end Marker

/-! ## Parts of a type -/

namespace GoType

variable {viewer name text : String} {type first second : GoType}

/-- The name that stands below all layers of a printed type. -/
def terminalName? (viewer : String) : GoType → Option String
  | slice elem | array _ elem | pointer elem => elem.terminalName? viewer
  | named ⟨package, name, _, _⟩ => some (NamedType.qualifiedBase viewer package name)
  | basic kind => some kind.name
  | _ => none

/-- The arguments of what is below all layers of a type. -/
def terminalArgs : GoType → List GoType
  | slice elem | array _ elem | pointer elem => elem.terminalArgs
  | named ⟨_, _, args, _⟩ => args
  | _ => []

/-- A printed type is its markers, its name and its arguments. -/
theorem print?_eq (viewer : String) : ∀ type : GoType, type.print? viewer =
    (type.terminalName? viewer).bind fun name =>
      (printAll? viewer type.terminalArgs).map fun args =>
        Marker.inFront type.markers (name ++ bracketed args)
  | .slice elem | .array _ elem | .pointer elem => by
      rw [print?, print?_eq viewer elem, Option.map_bind]
      simp only [Option.map_map, terminalName?, terminalArgs, Function.comp_def]
      rfl
  | .named ⟨package, name, args, _⟩ => by
      rw [print?]
      rfl
  | .basic kind => by
      have noArgs : printAll? viewer [] = some [] := by rw [printAll?]
      simp [print?, terminalName?, terminalArgs, noArgs, markers, Marker.inFront, bracketed]
  | .map _ _ | .chan _ | .struct _ | .func | .interface => by simp [print?, terminalName?]

theorem print?_eq_some_iff : type.print? viewer = some text ↔
    ∃ name args, type.terminalName? viewer = some name ∧
      printAll? viewer type.terminalArgs = some args ∧
      text = Marker.inFront type.markers (name ++ bracketed args) := by
  rw [print?_eq, Option.bind_eq_some_iff]
  simp only [Option.map_eq_some_iff, eq_comm (b := text), exists_and_left]

theorem printAll?_eq_some_iff {types : List GoType} {texts : List String} :
    printAll? viewer types = some texts ↔
      List.Forall₂ (fun type text => type.print? viewer = some text) types texts := by
  induction types generalizing texts with
  | nil =>
      rw [printAll?]
      cases texts <;> simp
  | cons type rest ih =>
      constructor
      · intro printed
        rw [printAll?] at printed
        split at printed
        next first others firstPrinted othersPrinted =>
          obtain rfl := Option.some.inj printed
          exact .cons firstPrinted (ih.mp othersPrinted)
        next => cases printed
      · intro printed
        cases printed with
        | cons firstPrinted othersPrinted => rw [printAll?, firstPrinted, ih.mpr othersPrinted]

mutual

/-- What holds of a type as soon as it holds of its arguments holds of the arguments of every
type. -/
theorem forall_terminalArgs {motive : GoType → Prop}
    (step : ∀ type : GoType, (∀ arg ∈ type.terminalArgs, motive arg) → motive type) :
    ∀ type : GoType, ∀ arg ∈ type.terminalArgs, motive arg
  | .slice elem | .array _ elem | .pointer elem => forall_terminalArgs step elem
  | .named ⟨_, _, args, _⟩ => forall_args step args
  | .basic _ | .map _ _ | .chan _ | .struct _ | .func | .interface => nofun

theorem forall_args {motive : GoType → Prop}
    (step : ∀ type : GoType, (∀ arg ∈ type.terminalArgs, motive arg) → motive type) :
    ∀ args : List GoType, ∀ arg ∈ args, motive arg
  | [] => nofun
  | arg :: rest =>
    List.forall_mem_cons.mpr ⟨step arg (forall_terminalArgs step arg), forall_args step rest⟩

end

theorem args_induction {motive : GoType → Prop}
    (step : ∀ type : GoType, (∀ arg ∈ type.terminalArgs, motive arg) → motive type)
    (type : GoType) :
    motive type :=
  step type (forall_terminalArgs step type)

/-! ## Names in a type -/

theorem mem_argNames {args : List GoType} {arg : GoType} (isArg : arg ∈ args)
    (member : name ∈ arg.names) :
    name ∈ argNames args := by
  induction args with
  | nil => cases isArg
  | cons first rest ih =>
      rw [argNames, List.mem_append]
      rcases List.mem_cons.mp isArg with rfl | isArg
      · exact .inl member
      · exact .inr (ih isArg)

theorem hasIdentifiers_terminalArgs : ∀ type : GoType, type.HasIdentifiers →
    ∀ arg ∈ type.terminalArgs, arg.HasIdentifiers
  | .slice elem | .array _ elem | .pointer elem => hasIdentifiers_terminalArgs elem
  | .named ⟨package, base, args, underlying⟩ => by
      intro identifiers arg isArg name member
      have inArgs : name ∈ argNames args := mem_argNames isArg member
      exact identifiers name (by simp [names, NamedType.names, inArgs])
  | .basic _ | .map _ _ | .chan _ | .struct _ | .func | .interface => fun _ => nofun

theorem isTerminal_terminalName? : ∀ type : GoType, type.HasIdentifiers →
    ∀ name ∈ type.terminalName? viewer, IsTerminal name
  | .slice elem | .array _ elem | .pointer elem => isTerminal_terminalName? elem
  | .basic kind => by
      rintro _ _ ⟨⟩
      exact kind.isIdentifier_name.isTerminal
  | .named ⟨package, name, args, underlying⟩ => by
      rintro identifiers _ ⟨⟩
      have terminal : IsTerminal name :=
        (identifiers name (by simp [names, NamedType.names])).isTerminal
      unfold NamedType.qualifiedBase
      split
      next owner =>
        have ownerTerminal : IsTerminal owner.name :=
          (identifiers owner.name (by simp [names, NamedType.names])).isTerminal
        split
        · exact terminal
        · exact ownerTerminal.qualified terminal
      next => exact terminal
  | .map _ _ | .chan _ | .struct _ | .func | .interface => fun _ => nofun

/-! ## Reading a type back -/

/-- Two types with the same markers in front of the same name, whose arguments are pairwise printed
alike in the same sense. -/
inductive PrintedAlike (viewer : String) : GoType → GoType → Prop where
  | intro {first second : GoType} {name : String} (layers : first.markers = second.markers)
      (firstName : first.terminalName? viewer = some name)
      (secondName : second.terminalName? viewer = some name)
      (args : List.Forall₂ (PrintedAlike viewer) first.terminalArgs second.terminalArgs) :
      PrintedAlike viewer first second

def EndsType (rest : List Char) : Prop := ∀ c ∈ rest.head?, c = ']' ∨ c = ','

/-- Whatever is read behind it, a text tells that the type at its start is printed like `first`. -/
def IsReadable (viewer : String) (first : GoType) : Prop :=
  ∀ {second : GoType} {text text' : String} {rest rest' : List Char},
    first.print? viewer = some text →
    second.print? viewer = some text' → second.HasIdentifiers → EndsType rest → EndsType rest' →
      text.toList ++ rest = text'.toList ++ rest' → PrintedAlike viewer first second ∧ rest = rest'

def behindCommas (texts : List String) : List Char :=
  texts.flatMap fun text => ", ".toList ++ text.toList

theorem toList_intercalate (text : String) (texts : List String) :
    ", ".toList ++ (", ".intercalate (text :: texts)).toList = behindCommas (text :: texts) := by
  induction texts generalizing text with
  | nil => simp [behindCommas]
  | cons next texts ih =>
      rw [String.intercalate_cons_cons, String.toList_append, String.toList_append,
        List.append_assoc, ih next]
      simp [behindCommas]

theorem endsType_behindCommas (texts : List String) (rest : List Char) :
    EndsType (behindCommas texts ++ ']' :: rest) := by
  unfold EndsType
  cases texts <;> simp [behindCommas]

theorem args_readable {args others : List GoType} (each : ∀ arg ∈ args, arg.IsReadable viewer)
    (identifiers : ∀ other ∈ others, other.HasIdentifiers) {texts texts' : List String}
    {rest rest' : List Char}
    (printed : List.Forall₂ (fun type text => type.print? viewer = some text) args texts)
    (printed' : List.Forall₂ (fun type text => type.print? viewer = some text) others texts')
    (same : behindCommas texts ++ ']' :: rest = behindCommas texts' ++ ']' :: rest') :
    List.Forall₂ (PrintedAlike viewer) args others ∧ rest = rest' := by
  induction printed generalizing others texts' with
  | nil =>
      cases printed' with
      | nil => exact ⟨.nil, (List.cons.inj same).2⟩
      | cons _ _ => simp [behindCommas] at same
  | @cons arg text args texts argPrinted _ ih =>
      cases printed' with
      | nil => simp [behindCommas] at same
      | @cons other text' others texts' otherPrinted othersPrinted =>
          have behind : text.toList ++ (behindCommas texts ++ ']' :: rest) =
              text'.toList ++ (behindCommas texts' ++ ']' :: rest') := by
            simpa [behindCommas] using same
          obtain ⟨alike, sameBehind⟩ := each arg List.mem_cons_self argPrinted otherPrinted
            (identifiers other List.mem_cons_self) (endsType_behindCommas _ _)
            (endsType_behindCommas _ _) behind
          obtain ⟨othersAlike, sameRest⟩ :=
            ih (fun arg isArg => each arg (List.mem_cons_of_mem _ isArg))
            (fun other isOther => identifiers other (List.mem_cons_of_mem _ isOther))
              othersPrinted sameBehind
          exact ⟨.cons alike othersAlike, sameRest⟩

theorem toList_bracketed_cons (text : String) (texts : List String) (rest : List Char) :
    ∃ inside, (bracketed (text :: texts)).toList ++ rest = '[' :: inside ∧
      ", ".toList ++ inside = behindCommas (text :: texts) ++ ']' :: rest := by
  refine ⟨(", ".intercalate (text :: texts)).toList ++ ']' :: rest, ?_, ?_⟩
  · simp [bracketed]
  · rw [← toList_intercalate, List.append_assoc]

theorem behindCommas_of_bracketed {texts texts' : List String} {rest rest' : List Char}
    (ends : EndsType rest) (otherEnds : EndsType rest')
    (same : (bracketed texts).toList ++ rest = (bracketed texts').toList ++ rest') :
    behindCommas texts ++ ']' :: rest = behindCommas texts' ++ ']' :: rest' := by
  have noArgs : (bracketed []).toList = [] := rfl
  cases texts with
  | nil =>
      cases texts' with
      | nil =>
          rw [noArgs, List.nil_append, List.nil_append] at same
          rw [same]
      | cons text' texts' =>
          obtain ⟨inside, spelled, _⟩ := toList_bracketed_cons text' texts' rest'
          rw [noArgs, List.nil_append, spelled] at same
          exact absurd (ends '[' (by rw [same]; rfl)) (by decide)
  | cons text texts =>
      obtain ⟨inside, spelled, behind⟩ := toList_bracketed_cons text texts rest
      cases texts' with
      | nil =>
          rw [noArgs, List.nil_append, spelled] at same
          exact absurd (otherEnds '[' (by rw [← same]; rfl)) (by decide)
      | cons text' texts' =>
          obtain ⟨inside', spelled', behind'⟩ := toList_bracketed_cons text' texts' rest'
          rw [spelled, spelled'] at same
          rw [← behind, ← behind', (List.cons.inj same).2]

theorem endsName_bracketed (texts : List String) {rest : List Char} (ends : EndsType rest) :
    ∀ c ∈ ((bracketed texts).toList ++ rest).head?, EndsName c := by
  intro c head
  cases texts with
  | nil => exact .inr (ends c head)
  | cons text texts =>
      obtain ⟨inside, spelled, _⟩ := toList_bracketed_cons text texts rest
      rw [spelled] at head
      exact .inl (Option.some.inj head).symm

theorem isReadable_of_args (identifiers : first.HasIdentifiers)
    (each : ∀ arg ∈ first.terminalArgs, arg.IsReadable viewer) : first.IsReadable viewer := by
  intro second text text' rest rest' printed printed' identifiers' ends ends' same
  obtain ⟨name, args, named, argsPrinted, rfl⟩ := print?_eq_some_iff.mp printed
  obtain ⟨name', args', named', argsPrinted', rfl⟩ := print?_eq_some_iff.mp printed'
  have terminal : IsTerminal name := isTerminal_terminalName? first identifiers name named
  have terminal' : IsTerminal name' := isTerminal_terminalName? second identifiers' name' named'
  obtain ⟨layers, behindMarkers⟩ :=
    Marker.row_eq_of_append (terminal.plain.append _) (terminal'.plain.append _) same
  rw [String.toList_append, String.toList_append, List.append_assoc, List.append_assoc]
    at behindMarkers
  obtain ⟨sameName, behindName⟩ := name_eq_of_append terminal.whole terminal'.whole
    (endsName_bracketed args ends) (endsName_bracketed args' ends') behindMarkers
  obtain rfl := String.toList_inj.mp sameName
  obtain ⟨alike, sameRest⟩ := args_readable each (hasIdentifiers_terminalArgs second identifiers')
    (printAll?_eq_some_iff.mp argsPrinted) (printAll?_eq_some_iff.mp argsPrinted')
    (behindCommas_of_bracketed ends ends' behindName)
  exact ⟨.intro layers named named' alike, sameRest⟩

theorem HasIdentifiers.isReadable (identifiers : type.HasIdentifiers) : type.IsReadable viewer := by
  induction type using args_induction with
  | step type each =>
      refine isReadable_of_args identifiers fun arg isArg => each arg isArg ?_
      exact hasIdentifiers_terminalArgs type identifiers arg isArg

theorem printAll?_of_alike {args others : List GoType}
    (each : ∀ arg ∈ args, ∀ {other}, PrintedAlike viewer arg other →
      arg.print? viewer = other.print? viewer)
    (alike : List.Forall₂ (PrintedAlike viewer) args others) :
    printAll? viewer args = printAll? viewer others := by
  induction alike with
  | nil => rfl
  | cons argAlike _ ih =>
      rw [printAll?, printAll?, each _ List.mem_cons_self argAlike,
        ih fun arg isArg => each arg (List.mem_cons_of_mem _ isArg)]

theorem PrintedAlike.print?_eq (alike : PrintedAlike viewer first second) :
    first.print? viewer = second.print? viewer := by
  induction first using args_induction generalizing second with
  | step first each =>
      obtain ⟨layers, firstName, secondName, args⟩ := alike
      rw [print?_eq, print?_eq, firstName, secondName, printAll?_of_alike each args, layers]

theorem endsType_nil : EndsType [] := by
  rintro c ⟨⟩

theorem print?_eq_iff_alike (identifiers : first.HasIdentifiers)
    (identifiers' : second.HasIdentifiers) (printed : first.print? viewer = some text) :
    second.print? viewer = some text ↔ PrintedAlike viewer first second := by
  constructor
  · intro printed'
    exact (identifiers.isReadable printed printed' identifiers' endsType_nil endsType_nil rfl).1
  · intro alike
    rw [← alike.print?_eq, printed]

theorem HasValueType.hasIdentifiers {inner : GoType} (value : type.HasValueType inner)
    (identifiers : type.HasIdentifiers) : inner.HasIdentifiers := by
  rcases value with ⟨_, _, _, rfl⟩ | ⟨_, rfl⟩
  · exact fun name member => identifiers name (mem_names_of_arg member)
  · exact identifiers

/-- Two types are printed as one text for a viewer exactly when they have the same markers around
the same name and arguments that are printed alike; so the names of two descriptors, which decide on
a conversion, are equal exactly when the value types are such. -/
theorem printed_same_iff (identifiers : first.HasIdentifiers)
    (identifiers' : second.HasIdentifiers) :
    (∀ text, first.print? viewer = some text →
        (second.print? viewer = some text ↔ PrintedAlike viewer first second)) ∧
      ∀ (package package' : Package) (inner inner' : GoType) (d d' : TypeDescriptor),
        first.HasValueType inner → second.HasValueType inner' →
          TypeDescriptor.resolve? viewer package first = some d →
            TypeDescriptor.resolve? viewer package' second = some d' →
              (d.qualifiedName = d'.qualifiedName ↔ PrintedAlike viewer inner inner') := by
  refine ⟨fun text => print?_eq_iff_alike identifiers identifiers', ?_⟩
  intro package package' inner inner' d d' value value' resolved resolved'
  have printed := TypeDescriptor.print?_of_resolve? value resolved
  have printed' := TypeDescriptor.print?_of_resolve? value' resolved'
  rw [← print?_eq_iff_alike (value.hasIdentifiers identifiers) (value'.hasIdentifiers identifiers')
    printed, printed', Option.some.injEq, eq_comm]

/-- Types of two packages of one name, with arguments behind layers. -/
theorem printed_same_iff_arguments :
    let values (path : String) (args : List GoType) : GoType :=
      .slice (.pointer (.named ⟨some ⟨path, "omit"⟩, "Val", args, none⟩))
    let first :=
      values "github.com/aarondl/opt/omit" [.array 4 (.basic .int8), .slice (.ofName none "error")]
    let second :=
      values "example.com/fork/omit" [.array 4 (.ofName none "int8"), .slice (.ofName none "error")]
    let viewer := "example.com/shop"
    first.HasIdentifiers ∧ second.HasIdentifiers ∧
      first.print? viewer = some "[]*omit.Val[[4]int8, []error]" ∧
      second.print? viewer = some "[]*omit.Val[[4]int8, []error]" ∧
      PrintedAlike viewer first second := by
  intro values first second viewer
  have identifiers : first.HasIdentifiers := by decide +kernel
  have identifiers' : second.HasIdentifiers := by decide +kernel
  have printed : first.print? viewer = some "[]*omit.Val[[4]int8, []error]" := by decide +kernel
  have printed' : second.print? viewer = some "[]*omit.Val[[4]int8, []error]" := by decide +kernel
  exact ⟨identifiers, identifiers', printed, printed',
    ((printed_same_iff identifiers identifiers').1 _ printed).mp printed'⟩

end GoType

end Scaffold
