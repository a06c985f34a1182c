import Scaffold.Proofs.Model.RepositoryText

/-!
# Methods in the text of repositories

When every interface has a key, the rendered text has one line for each operation of an interface,
in the order in which operations are listed everywhere, and no other methods but the extra ones
(`render_lists_operations`).  The lines can be read off the text again unless the model itself holds
line breaks, and the parameters off a method unless they hold commas themselves.
-/

set_option autoImplicit false

namespace Scaffold.Repository

open Template Text

/-! ## Reading parameters -/

namespace Parameter

/-- Between the commas stand the parameters, all but the first one behind a space. -/
theorem pieces_behind {text : List Char} (plain : ',' ∉ text) {rest : List Parameter}
    (others : ∀ parameter ∈ rest, ',' ∉ parameter.text.toList) :
    pieces ',' (text ++ (behind rest).toList) = text :: rest.map fun parameter =>
      ' ' :: parameter.text.toList := by
  induction rest generalizing text with
  | nil => simpa [behind] using pieces_of_notMem plain
  | cons second rest ih =>
      obtain ⟨secondPlain, restPlain⟩ := List.forall_mem_cons.mp others
      have next : ',' ∉ ' ' :: second.text.toList := by simpa using secondPlain
      have spelled : text ++ (behind (second :: rest)).toList =
          text ++ ',' :: ((' ' :: second.text.toList) ++ (behind rest).toList) := by
        simp [behind]
      rw [spelled, pieces_append_cons, pieces_of_notMem plain, ih next restPlain]
      rfl

theorem pieces_list {first : Parameter} {rest : List Parameter}
    (plain : ∀ parameter ∈ first :: rest, ',' ∉ parameter.text.toList) :
    pieces ',' (list (first :: rest)).toList =
      first.text.toList :: rest.map fun parameter => ' ' :: parameter.text.toList := by
  obtain ⟨firstPlain, restPlain⟩ := List.forall_mem_cons.mp plain
  rw [list_cons, String.toList_append]
  exact pieces_behind firstPlain restPlain

end Parameter

/-! ## Reading lines -/

def Interface.texts (entry : Interface) : List String :=
  [entry.repository, entry.singular, entry.plural, entry.createdBy, entry.updatedBy,
      entry.deletedBy, entry.searchType]
    ++ entry.extra ++ entry.keys.flatMap fun key => [key.name, key.type]

def Model.texts (model : Model) : List String :=
  model.package :: model.base ++ model.extra ++ model.interfaces.flatMap Interface.texts

namespace Parameter

theorem unbroken_text {parameter : Parameter} (name : Unbroken parameter.name)
    (type : Unbroken parameter.type) :
    Unbroken parameter.text := by
  have space : Unbroken " " := by decide
  simp [text, name, type, space]

theorem unbroken_of_mem_actor {name type : String} (plainName : Unbroken name)
    (plainType : Unbroken type) {parameter : Parameter}
    (member : parameter ∈ actorParameters name type) : Unbroken parameter.text := by
  unfold actorParameters at member
  split at member
  · obtain rfl := List.mem_singleton.mp member
    exact unbroken_text plainName plainType
  · cases member

end Parameter

theorem unbroken_indented {lines : List String} (plain : ∀ line ∈ lines, Unbroken line) :
    ∀ line ∈ lines.map ("\t" ++ ·), Unbroken line := by
  have tab : Unbroken "\t" := by decide
  refine List.forall_mem_map.mpr fun line member => ?_
  simp [tab, plain line member]

namespace Interface

variable {entry : Interface}

theorem unbroken_parameter (plain : ∀ text ∈ entry.texts, Unbroken text) {op : Operation}
    {parameter : Parameter}
    (member : parameter ∈ (entry.method op).parameters) : Unbroken parameter.text := by
  have context : Unbroken contextParameter.text := by decide
  have setter : Unbroken entry.setterParameter.text := by
    have singular : Unbroken entry.singular := plain _ (by simp [texts])
    have before : Unbroken "s *" := by decide
    have behind : Unbroken "Setter" := by decide
    simp [singular, before, behind]
  have keys : ∀ other ∈ entry.identityParameters, Unbroken other.text := by
    refine List.forall_mem_map.mpr fun key isKey => Parameter.unbroken_text ?_ ?_
    · exact plain key.name
        (List.mem_append_right _ (List.mem_flatMap_of_mem isKey List.mem_cons_self))
    · exact plain key.type (List.mem_append_right _ (List.mem_flatMap_of_mem isKey (by simp)))
  cases op with
  | create =>
      rcases List.mem_cons.mp member with rfl | member
      · exact context
      rcases List.mem_cons.mp member with rfl | member
      · exact setter
      · exact Parameter.unbroken_of_mem_actor (by decide) (plain _ (by simp [texts])) member
  | get =>
      rcases List.mem_cons.mp member with rfl | member
      · exact context
      · exact keys _ member
  | search =>
      rcases List.mem_cons.mp member with rfl | member
      · exact context
      · obtain rfl := List.mem_singleton.mp member
        have name : Unbroken "data" := by decide
        exact Parameter.unbroken_text name (plain _ (by simp [texts]))
  | edit =>
      rcases List.mem_cons.mp member with rfl | member
      · exact context
      rcases List.mem_append.mp member with member | member
      · exact keys _ member
      rcases List.mem_cons.mp member with rfl | member
      · exact setter
      · exact Parameter.unbroken_of_mem_actor (by decide) (plain _ (by simp [texts])) member
  | delete =>
      rcases List.mem_cons.mp member with rfl | member
      · exact context
      rcases List.mem_append.mp member with member | member
      · exact keys _ member
      · exact Parameter.unbroken_of_mem_actor (by decide) (plain _ (by simp [texts])) member

theorem unbroken_method (plain : ∀ text ∈ entry.texts, Unbroken text) (op : Operation) :
    Unbroken (entry.method op).line := by
  have singular : Unbroken entry.singular := plain _ (by simp [texts])
  have plural : Unbroken entry.plural := plain _ (by simp [texts])
  have parameters : Unbroken (Parameter.list (entry.method op).parameters) :=
    unbroken_intercalate (by decide) (List.forall_mem_map.mpr fun _ => unbroken_parameter plain)
  have fixed : ∀ text ∈ ["\t", "(", ") ", "Create", "Search", "Edit", "Delete", "(*", ", error)",
      "([]*", ", int, error)", "error"], Unbroken text := by decide
  simp only [List.forall_mem_cons] at fixed
  have name : Unbroken (entry.method op).name := by
    cases op <;> simp [method, singular, plural, fixed]
  have results : Unbroken (entry.method op).results := by
    cases op <;> simp [method, entityResults, singular, fixed]
  simp [Method.line, name, parameters, results, fixed]

theorem unbroken_lines (plain : ∀ text ∈ entry.texts, Unbroken text) :
    ∀ line ∈ entry.lines, Unbroken line := by
  have repository : Unbroken entry.repository := plain _ (by simp [texts])
  have fixed : Unbroken "" ∧ Unbroken "type " ∧ Unbroken " interface \x7b" ∧
      Unbroken "\x7d" := by decide
  have methods : ∀ line ∈ entry.methods.map Method.line, Unbroken line := by
    rw [methods, List.map_map]
    exact List.forall_mem_map.mpr fun op _ => unbroken_method plain op
  have extra : ∀ line ∈ entry.extra.map ("\t" ++ ·), Unbroken line :=
    unbroken_indented fun line isExtra => plain line (by simp [texts, isExtra])
  intro line member
  simp only [lines, List.mem_append] at member
  rcases member with ((member | member) | member) | member
  · rcases List.mem_pair.mp member with rfl | rfl
    · exact fixed.1
    · simp [repository, fixed]
  · exact methods line member
  · exact extra line member
  · rw [List.mem_singleton.mp member]
    exact fixed.2.2.2

end Interface

namespace Model

variable {model : Model}

theorem unbroken_lines (plain : ∀ text ∈ model.texts, Unbroken text) :
    ∀ line ∈ model.lines, Unbroken line := by
  have interfaces : ∀ entry ∈ model.interfaces, ∀ text ∈ entry.texts, Unbroken text :=
    fun entry isEntry text isText =>
      plain text (List.mem_append_right _ (List.mem_flatMap_of_mem isEntry isText))
  have joined : ∀ line ∈ (model.base ++ model.interfaces.map Interface.repository ++
    model.extra).map ("\t" ++ ·),
      Unbroken line := by
    refine unbroken_indented fun line member => ?_
    rcases List.mem_append.mp member with member | isExtra
    · rcases List.mem_append.mp member with isBase | isName
      · exact plain line (by simp [texts, isBase])
      · obtain ⟨entry, isEntry, rfl⟩ := List.mem_map.mp isName
        exact interfaces entry isEntry _ (by simp [Interface.texts])
    · exact plain line (by simp [texts, isExtra])
  have package : Unbroken ("package " ++ model.package) := by
    have word : Unbroken "package " := by decide
    simp [word, plain model.package (by simp [texts])]
  have fixed : ∀ line ∈ ["// Code generated by repogen. DO NOT EDIT.", "", "import \"context\"",
      "type Repository interface \x7b", "\x7d"], Unbroken line := by decide
  have head : ∀ line ∈ model.headLines, Unbroken line := by
    simp only [headLines, List.forall_mem_append, List.forall_mem_cons] at fixed ⊢
    exact ⟨⟨⟨fixed.1, fixed.2.1, package, fixed.2.1, fixed.2.2.1, fixed.2.1, fixed.2.2.2.1,
      List.forall_mem_nil _⟩,
      joined⟩, fixed.2.2.2.2⟩
  refine List.forall_mem_append.mpr ⟨head, fun line member => ?_⟩
  obtain ⟨entry, isEntry, isLine⟩ := List.mem_flatMap.mp member
  exact Interface.unbroken_lines (interfaces entry isEntry) line isLine

end Model

/-! ## What the text lists -/

/-- There is a comma and a space between any two parameters and none at the ends, so the commas tell
the parameters when these hold none. -/
structure Method.Separates (method : Method) : Prop where
  line : method.line = "\t" ++ method.name ++ "("
    ++ ", ".intercalate (method.parameters.map fun parameter =>
      parameter.name ++ " " ++ parameter.type)
    ++ ") " ++ method.results
  told : (∀ parameter ∈ method.parameters, ',' ∉ parameter.text.toList) → ∃ first rest,
    method.parameters = first :: rest ∧ pieces ',' (Parameter.list method.parameters).toList =
      first.text.toList :: rest.map fun parameter => ' ' :: parameter.text.toList

theorem Interface.separates_method (entry : Interface) (op : Operation) :
    (entry.method op).Separates where
  line := rfl
  told plain := by
    obtain ⟨first, rest, parameters⟩ : ∃ first rest, (entry.method op).parameters =
        first :: rest := by
      cases op <;> exact ⟨_, _, rfl⟩
    rw [parameters] at plain ⊢
    exact ⟨first, rest, rfl, Parameter.pieces_list plain⟩

/-- The rendered text lists what all repositories have in common with the names of the repositories,
and then each repository: one line for each of its operations and none for others, and its extra
lines.  A method takes the context, what its operation needs, and who acts if that is recorded. -/
theorem render_lists_operations {model : Model}
    (keyed : ∀ entry ∈ model.interfaces, entry.keys ≠ []) :
    let block (entry : Interface) : List String :=
      ["", "type " ++ entry.repository ++ " interface \x7b"]
        ++ (Operation.all.filter entry.operations.has).map (fun op => (entry.method op).line)
        ++ entry.extra.map ("\t" ++ ·) ++ ["\x7d"]
    let lines : List String :=
      ["// Code generated by repogen. DO NOT EDIT.", "", "package " ++ model.package, "",
          "import \"context\"", "", "type Repository interface \x7b"]
        ++ (model.base ++ model.interfaces.map (·.repository) ++ model.extra).map ("\t" ++ ·)
        ++ ["\x7d"] ++ model.interfaces.flatMap block
    render Generator.repository.template model.toJson = .ok (ended lines) ∧
      ((∀ text ∈ model.texts, Unbroken text) → linesOf (ended lines) = lines ++ [""]) ∧
      (∀ entry ∈ model.interfaces, ∀ op, (entry.method op).Separates ∧
        (entry.method op).parameters = contextParameter :: match op with
          | .create => entry.setterParameter :: actorParameters "createdBy" entry.createdBy
          | .get => entry.keys.map Key.parameter
          | .search => [⟨"data", entry.searchType⟩]
          | .edit => entry.keys.map Key.parameter
              ++ entry.setterParameter :: actorParameters "updatedBy" entry.updatedBy
          | .delete =>
              entry.keys.map Key.parameter ++ actorParameters "deletedBy" entry.deletedBy) ∧
      ∀ package built, build package = .ok built → ∀ entry ∈ built.interfaces, entry.keys ≠ [] := by
  intro block lines
  have sameBlock : block = Interface.lines := by
    funext entry
    simp only [block, Interface.lines, Interface.methods, List.map_map]
    rfl
  have same : lines = model.lines := by
    simp only [lines, sameBlock]
    rfl
  rw [same]
  refine ⟨model.render_eq_ended keyed, fun plain => linesOf_ended (Model.unbroken_lines plain),
    fun entry _ op => ⟨entry.separates_method op, by cases op <;> rfl⟩, fun _ _ => keyed_of_build⟩

/-- Two keys, a recorded actor and another one that is not, and a repository without operations. -/
theorem render_lists_operations_slots :
    let slot : Interface :=
      ⟨"SlotRepository", "Slot", "Slots", ⟨true, true, false, true, true⟩, "UserID", "", "User",
      ["Count(ctx context.Context) (int, error)"], "SlotSearchData",
      [⟨"userId", "UserID"⟩, ⟨"slotNumber", "int"⟩]⟩
    let empty : Interface :=
      ⟨"TagRepository", "Tag", "Tags", .none, "", "", "", [], "TagSearchData", [⟨"id", "ID"⟩]⟩
    let model : Model := ⟨"shop", [slot, empty], ["Close() error"], ["Transactor"]⟩
    let lines : List String :=
      ["// Code generated by repogen. DO NOT EDIT.", "", "package shop", "",
      "import \"context\"", "", "type Repository interface \x7b", "\tTransactor",
      "\tSlotRepository",
      "\tTagRepository", "\tClose() error", "\x7d", "", "type SlotRepository interface \x7b",
      "\tCreateSlot(ctx context.Context, s *SlotSetter, createdBy UserID) (*Slot, error)",
      "\tSlot(ctx context.Context, userId UserID, slotNumber int) (*Slot, error)",
      "\tEditSlot(ctx context.Context, userId UserID, slotNumber int, s *SlotSetter) (*Slot, error)",
      "\tDeleteSlot(ctx context.Context, userId UserID, slotNumber int, deletedBy User) error",
      "\tCount(ctx context.Context) (int, error)", "\x7d", "",
      "type TagRepository interface \x7b", "\x7d"]
    (∀ entry ∈ model.interfaces, entry.keys ≠ []) ∧ (∀ text ∈ model.texts, Unbroken text) ∧
      render Generator.repository.template model.toJson = .ok (ended lines) ∧
      linesOf (ended lines) = lines ++ [""] ∧ (slot.method .delete).Separates := by
  intro slot empty model lines
  have keyed : ∀ entry ∈ model.interfaces, entry.keys ≠ [] := by decide
  have plain : ∀ text ∈ model.texts, Unbroken text := by decide
  obtain ⟨rendered, read, methods, _⟩ := render_lists_operations keyed
  exact ⟨keyed, plain, rendered, read plain, (methods slot List.mem_cons_self .delete).1⟩

end Scaffold.Repository
