import Mathlib.Data.List.Induction
import Scaffold.FieldTag
import Scaffold.Proofs.Lookup

/-!
# The grammar of field tags

An `Entry` is one entry of a tag, as the grammar allows it; `spell` writes entries with single
spaces between them.  Reading a tag accepts exactly what can be spelled (`parse_accepts_grammar`):
what is spelled is read back (`scan_spelling`), and what is read has been spelled
(`ScanState.completes_of_scan`).  Of the entries that are read, the last one of each key counts
(`get?_ofEntries`).
-/

set_option autoImplicit false

namespace Scaffold.FieldTag

/-! ## Entries -/

def IsKeyChar (c : Char) : Prop := c ≠ ' ' ∧ c ≠ ':' ∧ c ≠ '\''

structure Key where
  chars : List Char
  plain : ∀ c ∈ chars, IsKeyChar c

structure Value where
  chars : List Char
  unquoted : '\'' ∉ chars

inductive Entry where
  | bare (key : Key)
  | valued (key : Key) (value : Value)

namespace Entry

def key : Entry → List Char
  | bare key => key.chars
  | valued key _ => key.chars

/-- The value; a bare key has the empty one. -/
def value : Entry → List Char
  | bare _ => []
  | valued _ value => value.chars

def chars : Entry → List Char
  | bare key => key.chars
  | valued key value => key.chars ++ ':' :: '\'' :: (value.chars ++ ['\''])

def binding (entry : Entry) : List Char × List Char := (entry.key, entry.value)

end Entry

/-- Entries as they are written, with single spaces between them. -/
def spelling (entries : List Entry) : List Char := [' '].intercalate (entries.map Entry.chars)

theorem spelling_singleton (entry : Entry) : spelling [entry] = entry.chars := by
  simp [spelling]

theorem spelling_cons_cons (first second : Entry) (others : List Entry) :
    spelling (first :: second :: others) = first.chars ++ ' ' :: spelling (second :: others) := by
  simp [spelling]

def spell (entries : List Entry) : String := String.ofList (spelling entries)

def lastValue? (entries : List Entry) (key : String) : Option String :=
  (entries.reverse.find? fun entry => entry.key = key.toList).map fun entry =>
    String.ofList entry.value

variable {key value more rest text : List Char} {bindings : List (List Char × List Char)}

/-! ## What is spelled is read back -/

theorem scan_key (plain : ∀ c ∈ more, IsKeyChar c) :
    scan (.inKey key) (more ++ rest) = scan (.inKey (key ++ more)) rest := by
  induction more generalizing key with
  | nil => simp
  | cons c more ih =>
      obtain ⟨⟨space, colon, quote⟩, plain⟩ := List.forall_mem_cons.mp plain
      rw [List.cons_append, scan, if_neg space, if_neg colon, if_neg quote, ih plain]
      simp

theorem scan_value (unquoted : '\'' ∉ more) :
    scan (.inValue key value) (more ++ '\'' :: rest) =
      (scan .closed rest).map ((key, value ++ more) :: ·) := by
  induction more generalizing value with
  | nil => simp [scan]
  | cons c more ih =>
      obtain ⟨quote, unquoted⟩ := not_or.mp (List.mem_cons.not.mp unquoted)
      rw [List.cons_append, scan, if_neg (Ne.symm quote), ih unquoted]
      simp

/-- A written entry is read up to its end, where the text ends or goes on behind a space. -/
theorem scan_entry (entry : Entry) (rest : List Char) :
    scan (.inKey []) entry.chars = some [entry.binding] ∧
      scan (.inKey []) (entry.chars ++ ' ' :: rest) =
        (scan (.inKey []) rest).map (entry.binding :: ·) := by
  cases entry with
  | bare key =>
      constructor
      · have read : scan (.inKey []) (key.chars ++ []) = scan (.inKey ([] ++ key.chars)) [] :=
          scan_key key.plain
        rw [List.append_nil, List.nil_append] at read
        rw [Entry.chars, read]
        rfl
      · rw [Entry.chars, scan_key key.plain]
        rfl
  | valued key value =>
      have read (behind : List Char) :
          scan (.inKey []) ((Entry.valued key value).chars ++ behind) =
            (scan .closed behind).map ((Entry.valued key value).binding :: ·) := by
        rw [Entry.chars, List.append_assoc, scan_key key.plain]
        simp only [List.nil_append, List.cons_append, List.append_assoc]
        have opened : scan (.inKey key.chars) (':' :: '\'' :: (value.chars ++ '\'' :: behind)) =
            scan (.inValue key.chars []) (value.chars ++ '\'' :: behind) := rfl
        rw [opened, scan_value value.unquoted]
        rfl
      constructor
      · have closed := read []
        rw [List.append_nil] at closed
        exact closed
      · exact read (' ' :: rest)

/-- Spelled entries are read in order, each with its key and its value. -/
theorem scan_spelling (first : Entry) (others : List Entry) :
    scan (.inKey []) (spelling (first :: others)) = some ((first :: others).map Entry.binding) := by
  induction others generalizing first with
  | nil =>
      rw [spelling_singleton]
      exact (scan_entry first []).1
  | cons second others ih =>
      rw [spelling_cons_cons, (scan_entry first _).2, ih second]
      rfl

/-! ## What is read has been spelled -/

namespace ScanState

/-- The reader has taken characters into its key and its value only where they may stand. -/
def Plain : ScanState → Prop
  | inKey key => ∀ c ∈ key, IsKeyChar c
  | colon key => ∀ c ∈ key, IsKeyChar c
  | inValue key value => (∀ c ∈ key, IsKeyChar c) ∧ '\'' ∉ value
  | closed => True

/-- With what has been read of the current entry, the text spells the entries that give the
bindings.  Behind a closing quote the current entry has been given already. -/
def Completes (text : List Char) (bindings : List (List Char × List Char)) : ScanState → Prop
  | inKey key => ∃ first others, key ++ text = spelling (first :: others) ∧
      bindings = (first :: others).map Entry.binding
  | colon key => ∃ first others, key ++ ':' :: text = spelling (first :: others) ∧
      bindings = (first :: others).map Entry.binding
  | inValue key value => ∃ first others,
      key ++ ':' :: '\'' :: (value ++ text) = spelling (first :: others) ∧
        bindings = (first :: others).map Entry.binding
  | closed => ∀ entry : Entry, ∃ others,
      entry.chars ++ text = spelling (entry :: others) ∧ bindings = others.map Entry.binding

theorem Completes.behind_space (completes : Completes text bindings (inKey [])) (entry : Entry) :
    ∃ others, entry.chars ++ ' ' :: text = spelling (entry :: others) ∧
      bindings = others.map Entry.binding := by
  obtain ⟨first, others, spelled, given⟩ := completes
  rw [List.nil_append] at spelled
  exact ⟨first :: others, by rw [spelling_cons_cons, spelled], given⟩

theorem completes_of_scan (state : ScanState) (text : List Char) :
    ∀ bindings, state.Plain → scan state text = some bindings → state.Completes text bindings := by
  fun_induction scan state text with
  | case1 key =>
      rintro _ plain ⟨⟩
      exact ⟨.bare ⟨key, plain⟩, [], by simp [spelling_singleton, Entry.chars], rfl⟩
  | case2 key rest ih =>
      intro bindings plain read
      obtain ⟨behind, readBehind, rfl⟩ := Option.map_eq_some_iff.mp read
      obtain ⟨others, spelled, rfl⟩ :=
        (ih behind (by simp [Plain]) readBehind).behind_space (.bare ⟨key, plain⟩)
      exact ⟨.bare ⟨key, plain⟩, others, spelled, rfl⟩
  | case3 key rest space ih =>
      intro bindings plain read
      exact ih bindings plain read
  | case4 => rintro _ _ ⟨⟩
  | case5 key c rest space colon quote ih =>
      intro bindings plain read
      have longer : ∀ other ∈ key ++ [c], IsKeyChar other := by
        intro other member
        rcases List.mem_append.mp member with member | member
        · exact plain other member
        · rw [List.mem_singleton.mp member]
          exact ⟨space, colon, quote⟩
      obtain ⟨first, others, spelled, given⟩ := ih bindings longer read
      exact ⟨first, others, by simpa using spelled, given⟩
  | case6 => rintro _ _ ⟨⟩
  | case7 key rest ih =>
      intro bindings plain read
      exact ih bindings ⟨plain, by simp⟩ read
  | case8 => rintro _ _ ⟨⟩
  | case9 => rintro _ _ ⟨⟩
  | case10 key value rest ih =>
      intro bindings plain read
      obtain ⟨behind, readBehind, rfl⟩ := Option.map_eq_some_iff.mp read
      obtain ⟨others, spelled, rfl⟩ :=
        ih behind trivial readBehind (.valued ⟨key, plain.1⟩ ⟨value, plain.2⟩)
      exact ⟨_, others, by simpa [Entry.chars] using spelled, rfl⟩
  | case11 key value c rest quote ih =>
      intro bindings plain read
      have longer : '\'' ∉ value ++ [c] := by
        simpa [plain.2] using Ne.symm quote
      obtain ⟨first, others, spelled, given⟩ := ih bindings ⟨plain.1, longer⟩ read
      exact ⟨first, others, by simpa using spelled, given⟩
  | case12 =>
      rintro _ _ ⟨⟩ entry
      exact ⟨[], by simp [spelling_singleton], rfl⟩
  | case13 rest ih =>
      intro bindings _ read entry
      exact (ih bindings (by simp [Plain]) read).behind_space entry
  | case14 => rintro _ _ ⟨⟩

end ScanState

/-- Text is read exactly when it is spelled, and then gives what its entries give. -/
theorem scan_eq_some_iff :
    scan (.inKey []) text = some bindings ↔
      ∃ first others, text = spelling (first :: others) ∧
        bindings = (first :: others).map Entry.binding := by
  constructor
  · intro read
    exact ScanState.completes_of_scan (.inKey []) text bindings (by simp [ScanState.Plain]) read
  · rintro ⟨first, others, rfl, rfl⟩
    exact scan_spelling first others

/-! ## The last entry of a key counts -/

section Lookup
variable {tag : FieldTag} {name other content : String}

theorem get?_insert : (tag.insert name content).get? other =
    if name ≠ "" ∧ other = name then some content else tag.get? other := by
  unfold insert
  by_cases empty : name = ""
  · simp [empty]
  · rw [if_neg empty]
    simp only [get?, List.lookup_append, lookup_filter_ne, List.lookup_cons, List.lookup_nil]
    by_cases same : other = name
    · simp [same, empty]
    · simp [same, beq_false_of_ne same]

def Distinct (tag : FieldTag) : Prop := (tag.entries.map Prod.fst).Nodup

theorem Distinct.insert (distinct : tag.Distinct) : (tag.insert name content).Distinct := by
  unfold FieldTag.insert
  split_ifs
  · exact distinct
  · unfold Distinct at distinct ⊢
    rw [List.map_append, List.nodup_append]
    refine ⟨distinct.sublist (List.filter_sublist.map _), by simp, ?_⟩
    rintro first member second single rfl
    obtain ⟨entry, kept, rfl⟩ := List.mem_map.mp member
    have ne := (List.mem_filter.mp kept).2
    simp at single
    simp [single] at ne

theorem ofEntries_append_singleton (entries : List (String × String)) (entry : String × String) :
    ofEntries (entries ++ [entry]) = (ofEntries entries).insert entry.1 entry.2 := by
  simp [ofEntries]

theorem distinct_ofEntries (entries : List (String × String)) : (ofEntries entries).Distinct := by
  induction entries using List.reverseRecOn with
  | nil => simp [ofEntries, empty, Distinct]
  | append_singleton entries entry ih =>
      rw [ofEntries_append_singleton]
      exact ih.insert

/-- Only keys that are not empty have a value, and it is the last one that they are given. -/
theorem get?_ofEntries (entries : List (String × String)) (name : String) :
    (ofEntries entries).get? name =
      if name = "" then none
      else (entries.reverse.find? fun entry => entry.1 = name).map Prod.snd := by
  induction entries using List.reverseRecOn with
  | nil => simp [ofEntries, empty, get?]
  | append_singleton entries entry ih =>
      rw [ofEntries_append_singleton, get?_insert, ih, List.reverse_append, List.reverse_singleton,
        List.singleton_append, List.find?_cons]
      by_cases same : entry.1 = name
      · by_cases none : name = "" <;> simp [same, none]
      · simp [same, Ne.symm same]

end Lookup

/-! ## The language -/

def texts (bindings : List (List Char × List Char)) : List (String × String) :=
  bindings.map fun binding => (String.ofList binding.1, String.ofList binding.2)

theorem parse_eq (text : String) :
    parse text = (scan (.inKey []) text.toList).map fun bindings => ofEntries (texts bindings) := by
  simp only [parse, readEntries, Option.map_map]
  rfl

theorem find?_texts (entries : List Entry) (name : String) :
    ((texts (entries.map Entry.binding)).reverse.find? fun entry => entry.1 = name).map Prod.snd =
      lastValue? entries name := by
  unfold texts lastValue?
  rw [List.map_map, ← List.map_reverse, List.find?_map, Option.map_map]
  congr 1
  refine congrArg (List.find? · _) (funext fun entry => ?_)
  have spelled : String.ofList entry.key = name ↔ entry.key = name.toList := by
    rw [← String.toList_inj, String.toList_ofList]
  simp [Entry.binding, spelled]

/-- A text is a tag exactly when it spells entries of the grammar.  The tag then has one value for
each key that is not empty, the last one that the entries give it, and no other keys. -/
theorem parse_accepts_grammar :
    (∀ text, (parse text).isSome ↔ ∃ first others, text = spell (first :: others)) ∧
    ∀ first others, ∃ tag, parse (spell (first :: others)) = some tag ∧ tag.Distinct ∧
      ∀ key, tag.get? key = if key = "" then none else lastValue? (first :: others) key := by
  constructor
  · intro text
    rw [parse_eq, Option.isSome_map]
    constructor
    · intro accepted
      obtain ⟨bindings, read⟩ := Option.isSome_iff_exists.mp accepted
      obtain ⟨first, others, spelled, _⟩ := scan_eq_some_iff.mp read
      exact ⟨first, others, by rw [spell, ← spelled, String.ofList_toList]⟩
    · rintro ⟨first, others, rfl⟩
      rw [spell, String.toList_ofList, scan_spelling]
      rfl
  · intro first others
    refine ⟨ofEntries (texts ((first :: others).map Entry.binding)), ?_, distinct_ofEntries _,
      fun key => ?_⟩
    · rw [parse_eq, spell, String.toList_ofList, scan_spelling]
      rfl
    · rw [get?_ofEntries, find?_texts]

-- A value may hold spaces and colons, and the later entry of a key wins.
example : (parse "pk set:'a: b' set:'c: d' ").map (fun tag => (tag.get? "pk", tag.get? "set")) =
    some (some "", some "c: d") := by decide +kernel

end Scaffold.FieldTag
