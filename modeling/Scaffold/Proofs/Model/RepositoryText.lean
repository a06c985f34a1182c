import Scaffold.Generator
import Scaffold.Proofs.Model.Repository
import Scaffold.Proofs.Template.Lines

/-!
# The text of repositories

A repository interface has one method for each of its operations, and a method is a name with
parameters and results.  Rendering a model in which every interface has a key gives the interface
that joins all others, and then each of them with a line per method and per extra line, in order
(`Model.render_eq_ended`).  Every model that is built is one of these (`render_of_build`).
-/

set_option autoImplicit false

namespace Scaffold.Repository

open Template Text

/-! ## Parameters -/

structure Parameter where
  name : String
  type : String
  deriving DecidableEq, Repr

namespace Parameter

def text (parameter : Parameter) : String := parameter.name ++ " " ++ parameter.type

def list (parameters : List Parameter) : String := ", ".intercalate (parameters.map text)

/-- Parameters behind another one, each with a comma and a space in front. -/
def behind : List Parameter → String
  | [] => ""
  | parameter :: rest => ", " ++ parameter.text ++ behind rest

theorem list_cons (first : Parameter) (rest : List Parameter) :
    list (first :: rest) = first.text ++ behind rest := by
  induction rest generalizing first with
  | nil => simp [list, behind]
  | cons second rest ih =>
      have inner : ", ".intercalate (second.text :: rest.map text) = second.text ++ behind rest :=
        ih second
      rw [list, List.map_cons, List.map_cons, String.intercalate_cons_cons, inner, behind]
      simp only [String.append_assoc]

theorem behind_append (front back : List Parameter) :
    behind (front ++ back) = behind front ++ behind back := by
  induction front with
  | nil => simp [behind]
  | cons first front ih => simp only [List.cons_append, behind, ih, String.append_assoc]

end Parameter

def Key.parameter (key : Key) : Parameter := ⟨key.name, key.type⟩

/-- Every method has the context as its first parameter. -/
def contextParameter : Parameter := ⟨"ctx", "context.Context"⟩

@[simp] theorem text_contextParameter : contextParameter.text = "ctx context.Context" := rfl

def actorParameters (name type : String) : List Parameter :=
  if type ≠ "" then [⟨name, type⟩] else []

/-! ## Methods -/

structure Method where
  name : String
  parameters : List Parameter
  results : String
  deriving DecidableEq, Repr

namespace Method

def line (method : Method) : String :=
  "\t" ++ method.name ++ "(" ++ Parameter.list method.parameters ++ ") " ++ method.results

def chunks (method : Method) : List Chunk := [.fixed "\n", .data method.line]

theorem spell_chunks (name results : String) (first : Parameter) (rest : List Parameter) :
    Chunk.spell (chunks ⟨name, first :: rest, results⟩) =
      "\n\t" ++ name ++ "(" ++ first.text ++ Parameter.behind rest ++ ") " ++ results := by
  apply String.toList_inj.mp
  simp [chunks, line, Parameter.list_cons, Chunk.spell, Chunk.text]

end Method

namespace Interface

variable (entry : Interface)

def setterType : String := entry.singular ++ "Setter"

def setterParameter : Parameter := ⟨"s", "*" ++ entry.setterType⟩

@[simp] theorem text_setterParameter :
    entry.setterParameter.text = "s *" ++ entry.singular ++ "Setter" := by
  apply String.toList_inj.mp
  simp [setterParameter, setterType, Parameter.text]

def identityParameters : List Parameter := entry.keys.map Key.parameter

def entityResults : String := "(*" ++ entry.singular ++ ", error)"

def method : Operation → Method
  | .create => ⟨"Create" ++ entry.singular,
      contextParameter :: entry.setterParameter :: actorParameters "createdBy" entry.createdBy,
      entry.entityResults⟩
  | .get => ⟨entry.singular, contextParameter :: entry.identityParameters, entry.entityResults⟩
  | .search => ⟨"Search" ++ entry.plural, [contextParameter, ⟨"data", entry.searchType⟩],
      "([]*" ++ entry.singular ++ ", int, error)"⟩
  | .edit => ⟨"Edit" ++ entry.singular,
      contextParameter :: (entry.identityParameters
        ++ entry.setterParameter :: actorParameters "updatedBy" entry.updatedBy),
      entry.entityResults⟩
  | .delete => ⟨"Delete" ++ entry.singular,
      contextParameter :: (entry.identityParameters ++ actorParameters "deletedBy" entry.deletedBy),
      "error"⟩

def methods : List Method := (Operation.all.filter entry.operations.has).map entry.method

def lines : List String :=
  ["", "type " ++ entry.repository ++ " interface \x7b"] ++ entry.methods.map Method.line
    ++ entry.extra.map ("\t" ++ ·) ++ ["\x7d"]

end Interface

/-! ## What the template prints for a method -/

def methodPiece : Operation → Piece
  | .create => createMethod
  | .get => getMethod
  | .search => searchMethod
  | .edit => editMethod
  | .delete => deleteMethod

theorem Key.prints_keyParameter (key : Key) (scope : Scope) :
    Prints (("pk", key.toJson) :: scope) keyParameter [.data key.parameter.text] :=
  .congr (.data rfl (.fixed (.data rfl .nil))) (by
    apply String.toList_inj.mp
    simp [Chunk.spell, Chunk.text, parameter, Parameter.text])

/-- With a comma and a space behind all keys but the last, they are separated. -/
theorem Key.inRow_eq_list (keys : List Key) :
    inRow (fun key last => key.parameter.text ++ if last = true then "" else ", ") keys =
      Parameter.list (keys.map parameter) := by
  induction keys with
  | nil => rfl
  | cons first rest ih =>
      rw [inRow, ih]
      cases rest with
      | nil => simp [Parameter.list]
      | cons second rest => simp [Parameter.list_cons, Parameter.behind, String.append_assoc]

/-- With a comma and a space behind all keys, there is one more of them than between the keys. -/
theorem Key.spell_flatMap_leading (first : Key) (rest : List Key) :
    Chunk.spell ((first :: rest).flatMap fun key => [.data key.parameter.text, .fixed ", "]) =
      Parameter.list ((first :: rest).map parameter) ++ ", " := by
  induction rest generalizing first with
  | nil => simp [Parameter.list, Chunk.spell, Chunk.text]
  | cons second rest ih =>
      rw [List.flatMap_cons, Chunk.spell_append, ih]
      simp [Chunk.spell, Chunk.text, Parameter.list_cons, Parameter.behind, String.append_assoc]

namespace Interface

variable (entry : Interface) {scope : Scope}

theorem prints_keyParameters :
    Prints (("e", entry.toJson) :: scope) [Template.keyParameters]
      [.data (Parameter.list entry.identityParameters)] := by
  have listed : Scope.get? (("e", entry.toJson) :: scope) ["e", "pks"] =
      some (.array (entry.keys.map Key.toJson)) := rfl
  have looped : renderPiece (("e", entry.toJson) :: scope) Template.keyParameters =
      some (inRow (fun key last => key.parameter.text ++ if last = true then "" else ", ")
        entry.keys) := by
    refine renderPiece_each listed fun key _ last => ?_
    have isLast : Scope.get? (("pk", key.toJson) :: ("loop", .object [("last", .bool last)])
        :: ("e", entry.toJson) :: scope) ["loop", "last"] = some (.bool last) := rfl
    have comma (scope : Scope) : Prints scope [.text ", "] [.fixed ", "] := .fixed .nil
    have separated := (key.prints_keyParameter _).append
      (.when (Condition.eval?_not (Condition.eval?_holds_bool isLast)) (comma _))
    refine separated.trans (congrArg some ?_)
    cases last <;> simp [Chunk.spell, Chunk.text]
  refine (renderAll_singleton looped).trans (congrArg some ?_)
  rw [Key.inRow_eq_list]
  simp [Chunk.spell, Chunk.text, identityParameters]

theorem prints_actorParameter {name member type : String}
    (there : Scope.get? (("e", entry.toJson) :: scope) ["e", member] = some (.string type)) :
    Prints (("e", entry.toJson) :: scope) [actorParameter name member]
      [.data (Parameter.behind (actorParameters name type))] := by
  have printed : Prints (("e", entry.toJson) :: scope) [actorParameter name member]
      (if type ≠ "" then [.fixed (", " ++ name ++ " "), .data type] else []) :=
    .when (Condition.eval?_holds_string there) (.fixed (.data there .nil))
  refine printed.congr (String.toList_inj.mp ?_)
  by_cases recorded : type = "" <;>
    simp [recorded, actorParameters, Parameter.behind, Parameter.text, Chunk.spell, Chunk.text]

theorem prints_leadingKeys (keyed : entry.keys ≠ []) :
    Prints (("e", entry.toJson) :: scope) [.each "pk" ["e", "pks"] (keyParameter ++ [.text ", "])]
      [.data (Parameter.list entry.identityParameters ++ ", ")] := by
  have listed : Scope.get? (("e", entry.toJson) :: scope) ["e", "pks"] =
      some (.array (entry.keys.map Key.toJson)) := rfl
  have looped : Prints (("e", entry.toJson) :: scope)
    [.each "pk" ["e", "pks"] (keyParameter ++ [.text ", "])]
      (entry.keys.flatMap fun key => [.data key.parameter.text, .fixed ", "]) :=
    .each listed fun key inner => (key.prints_keyParameter inner).append (.fixed .nil)
  obtain ⟨first, rest, keys⟩ := List.exists_cons_of_ne_nil keyed
  refine looped.congr ?_
  rw [identityParameters, keys, Key.spell_flatMap_leading]
  simp [Chunk.spell, Chunk.text]

theorem prints_method (keyed : entry.keys ≠ []) (op : Operation) :
    Prints (("e", entry.toJson) :: scope) [methodPiece op]
      (if entry.operations.has op = true then (entry.method op).chunks else []) := by
  obtain ⟨first, rest, keys⟩ : ∃ first rest, entry.identityParameters = first :: rest :=
    List.exists_cons_of_ne_nil (by simpa [identityParameters] using keyed)
  cases op with
  | create =>
      refine .when (Condition.eval?_holds_bool rfl)
        (.congr (.fixed (.data rfl (.fixed (.data rfl (.fixed
        (.cons (entry.prints_actorParameter rfl) (.fixed (.data rfl (.fixed .nil))))))))) ?_)
      rw [method, Method.spell_chunks]
      apply String.toList_inj.mp
      simp [Chunk.spell, Chunk.text, Parameter.behind, entityResults]
  | get =>
      refine .when (Condition.eval?_holds_bool rfl) (.congr (.fixed (.data rfl (.fixed
        (.cons entry.prints_keyParameters (.fixed (.data rfl (.fixed .nil))))))) ?_)
      rw [method, Method.spell_chunks]
      apply String.toList_inj.mp
      simp [Chunk.spell, Chunk.text, keys, Parameter.list_cons, Parameter.behind, entityResults]
  | search =>
      refine .when (Condition.eval?_holds_bool rfl)
        (.congr (.fixed (.data rfl (.fixed (.data rfl (.fixed
        (.data rfl (.fixed .nil))))))) ?_)
      rw [method, Method.spell_chunks]
      apply String.toList_inj.mp
      simp [Chunk.spell, Chunk.text, Parameter.behind, Parameter.text, contextParameter]
  | edit =>
      refine .when (Condition.eval?_holds_bool rfl) (.congr (.fixed (.data rfl (.fixed
        (.cons (entry.prints_leadingKeys keyed) (.fixed (.data rfl (.fixed
          (.cons (entry.prints_actorParameter rfl) (.fixed (.data rfl (.fixed .nil))))))))))) ?_)
      rw [method, Method.spell_chunks]
      apply String.toList_inj.mp
      simp [Chunk.spell, Chunk.text, keys, Parameter.list_cons, Parameter.behind,
        Parameter.behind_append, entityResults]
  | delete =>
      refine .when (Condition.eval?_holds_bool rfl) (.congr (.fixed (.data rfl (.fixed
        (.cons entry.prints_keyParameters
          (.cons (entry.prints_actorParameter rfl) (.fixed .nil)))))) ?_)
      rw [method, Method.spell_chunks]
      apply String.toList_inj.mp
      simp [Chunk.spell, Chunk.text, keys, Parameter.list_cons, Parameter.behind,
        Parameter.behind_append]

theorem prints_methods (keyed : entry.keys ≠ []) (ops : List Operation) :
    Prints (("e", entry.toJson) :: scope) (ops.map methodPiece)
      (((ops.filter entry.operations.has).map entry.method).flatMap Method.chunks) := by
  induction ops with
  | nil => exact .nil
  | cons op rest ih =>
      have both := Prints.cons (entry.prints_method keyed op) ih
      by_cases has : entry.operations.has op = true
      · rw [if_pos has] at both
        rw [List.filter_cons_of_pos has]
        exact both
      · rw [if_neg has] at both
        rw [List.filter_cons_of_neg has]
        exact both

end Interface

/-! ## Interfaces -/

def lineChunks (line : String) : List Chunk := [.fixed "\n\t", .data line]

theorem printsLines_lineChunks (line : String) : PrintsLines (lineChunks line) ["\t" ++ line] := by
  intro rest
  apply String.toList_inj.mp
  simp [lineChunks, Chunk.spell, Chunk.text, ended]

theorem printsLines_extra (lines : List String) :
    PrintsLines (lines.flatMap lineChunks) (lines.map ("\t" ++ ·)) := by
  rw [List.map_eq_flatMap]
  exact .flatMap printsLines_lineChunks lines

theorem Method.printsLines_chunks (method : Method) : PrintsLines method.chunks [method.line] := by
  intro rest
  apply String.toList_inj.mp
  simp [chunks, Chunk.spell, Chunk.text, ended]

theorem prints_linesOf {scope : Scope} {list : Path} {lines : List String}
    (there : scope.get? list = some (.strings lines)) :
    Prints scope [linesOf list] (lines.flatMap lineChunks) := by
  have listed : scope.get? list = some (.array (lines.map Json.string)) := there
  exact .each listed fun _ _ => .fixed (.data rfl .nil)

namespace Interface

variable (entry : Interface) {scope : Scope}

def chunks : List Chunk :=
  [.fixed "\ntype ", .data entry.repository, .fixed " interface \x7b"] ++
    entry.methods.flatMap Method.chunks
    ++ entry.extra.flatMap lineChunks ++ [.fixed "\n\x7d\n"]

theorem spell_chunks : Chunk.spell entry.chunks = ended entry.lines := by
  have methods : PrintsLines (entry.methods.flatMap Method.chunks)
      (entry.methods.map Method.line) := by
    rw [List.map_eq_flatMap]
    exact .flatMap Method.printsLines_chunks entry.methods
  have body := methods.append (printsLines_extra entry.extra)
  have last : Chunk.spell [.fixed "\n\x7d\n"] = "\n" ++ ended ["\x7d"] := rfl
  unfold chunks
  rw [List.append_assoc [_, _, _], Chunk.spell_append, Chunk.spell_append, last,
    String.append_assoc, body]
  apply String.toList_inj.mp
  simp [Chunk.spell, Chunk.text, lines, ended, ended_append]

theorem prints_chunks (keyed : entry.keys ≠ []) : Prints (("e", entry.toJson) :: scope)
    [.text "\ntype ", .value ["e", "repository"], .text " interface \x7b", createMethod, getMethod,
      searchMethod, editMethod, deleteMethod, linesOf ["e", "extra"],
      .text "\n\x7d\n"] entry.chunks := by
  have head : Prints (("e", entry.toJson) :: scope)
      [.text "\ntype ", .value ["e", "repository"], .text " interface \x7b"]
      [.fixed "\ntype ", .data entry.repository, .fixed " interface \x7b"] :=
        .fixed (.data rfl (.fixed .nil))
  have methods : Prints (("e", entry.toJson) :: scope) (Operation.all.map methodPiece)
      (entry.methods.flatMap Method.chunks) := entry.prints_methods keyed Operation.all
  have extra : Prints (("e", entry.toJson) :: scope) [linesOf ["e", "extra"]]
      (entry.extra.flatMap lineChunks) :=
    prints_linesOf rfl
  have last : Prints (("e", entry.toJson) :: scope) [.text "\n\x7d\n"] [.fixed "\n\x7d\n"] :=
    .fixed .nil
  exact ((head.append methods).append extra).append last

end Interface

/-! ## The file -/

namespace Model

variable (model : Model)

/-- What stands above the interfaces of single entities, with the interface that joins them. -/
def headLines : List String :=
  ["// Code generated by repogen. DO NOT EDIT.", "", "package " ++ model.package, "",
    "import \"context\"", "", "type Repository interface \x7b"]
    ++ (model.base ++ model.interfaces.map Interface.repository ++ model.extra).map ("\t" ++ ·) ++
      ["\x7d"]

def lines : List String := model.headLines ++ model.interfaces.flatMap Interface.lines

def headChunks : List Chunk :=
  [.fixed "// Code generated by repogen. DO NOT EDIT.\n\npackage ", .data model.package,
    .fixed "\n\nimport \"context\"\n\ntype Repository interface \x7b"]
    ++ (model.base ++ model.interfaces.map Interface.repository ++ model.extra).flatMap lineChunks
    ++ [.fixed "\n\x7d\n"]

theorem spell_headChunks : Chunk.spell model.headChunks = ended model.headLines := by
  have body :=
    printsLines_extra (model.base ++ model.interfaces.map Interface.repository ++ model.extra)
  have last : Chunk.spell [.fixed "\n\x7d\n"] = "\n" ++ ended ["\x7d"] := rfl
  unfold headChunks
  rw [List.append_assoc, Chunk.spell_append, Chunk.spell_append, last, body]
  apply String.toList_inj.mp
  simp [Chunk.spell, Chunk.text, headLines, ended, ended_append]

theorem prints_headChunks {scope : Scope}
    (package : scope.get? ["package"] = some (.string model.package))
    (base : scope.get? ["base"] = some (.strings model.base))
    (entities : scope.get? ["entities"] = some (.array (model.interfaces.map Interface.toJson)))
    (extra : scope.get? ["extra"] = some (.strings model.extra)) :
    Prints scope
      [banner, .value ["package"], .text "\n\nimport \"context\"\n\ntype Repository interface \x7b",
        linesOf ["base"], .each "e" ["entities"] [.text "\n\t", .value ["e", "repository"]],
        linesOf ["extra"],
        .text "\n\x7d\n"]
      model.headChunks := by
  have names : Prints scope [.each "e" ["entities"] [.text "\n\t", .value ["e", "repository"]]]
      ((model.interfaces.map Interface.repository).flatMap lineChunks) := by
    rw [List.flatMap_map]
    exact .each entities fun _ _ => .fixed (.data rfl .nil)
  have body := ((prints_linesOf base).append names).append (prints_linesOf extra)
  rw [headChunks, List.flatMap_append, List.flatMap_append]
  exact (Prints.append (.fixed (.data package (.fixed .nil))) body).append (.fixed .nil)

/-- A model whose interfaces have keys can be rendered, and the text has the lines of each
interface. -/
theorem render_eq_ended (keyed : ∀ entry ∈ model.interfaces, entry.keys ≠ []) :
    render Generator.repository.template model.toJson = .ok (ended model.lines) := by
  let scope : Scope := [("package", .string model.package),
    ("entities", .array (model.interfaces.map Interface.toJson)), ("extra", .strings model.extra),
    ("base", .strings model.base)]
  have head : Prints scope _ model.headChunks := model.prints_headChunks rfl rfl rfl rfl
  have interfaces : Prints scope
      [.each "e" ["entities"] [.text "\ntype ", .value ["e", "repository"], .text " interface \x7b",
        createMethod, getMethod, searchMethod, editMethod, deleteMethod, linesOf ["e", "extra"],
        .text "\n\x7d\n"]]
      (model.interfaces.flatMap Interface.chunks) :=
    .eachMem rfl fun entry member _ => entry.prints_chunks (keyed entry member)
  have found : catalog.lookup Generator.repository.template = some repositoryTemplate := rfl
  refine (render_of_prints found (head.append interfaces)).trans (congrArg Except.ok ?_)
  rw [Chunk.spell_append, model.spell_headChunks, spell_flatMap_eq_ended Interface.spell_chunks,
    lines, ended_append]

end Model

/-! ## Where the lines stand -/

variable {package : Package} {model : Model} {entry : Interface} {op : Operation}

theorem keyed_of_build (built : build package = .ok model) :
    ∀ entry ∈ model.interfaces, entry.keys ≠ [] := by
  intro entry member
  have each := keepsContract.entity_of_each (Checked.map_eq_ok.mpr ⟨model, built, rfl⟩)
  obtain ⟨_, _, _, described⟩ := Checked.exists_left_of_mem each member
  exact described.keyed

theorem render_of_build (built : build package = .ok model) :
    render Generator.repository.template model.toJson = .ok (ended model.lines) :=
  model.render_eq_ended (keyed_of_build built)

theorem Interface.lines_infix (isEntry : entry ∈ model.interfaces) : entry.lines <:+: model.lines :=
  (infix_flatMap isEntry Interface.lines).trans (List.suffix_append _ _).isInfix

theorem Interface.line_mem (has : entry.operations.has op = true) :
    (entry.method op).line ∈ entry.lines := by
  have isMethod : entry.method op ∈ entry.methods :=
    List.mem_map_of_mem (List.mem_filter.mpr ⟨by cases op <;> decide, has⟩)
  simp [lines, List.mem_map_of_mem isMethod]

end Scaffold.Repository
