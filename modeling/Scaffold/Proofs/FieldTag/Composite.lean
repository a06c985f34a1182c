import Scaffold.FieldTag.Composite
import Scaffold.Proofs.Text.Escape

/-!
# Composite tags, written and read

A `CompositeEntry` is an entry `key:"value"` as it is written; a `ValuedEntry` also says which value
was written.  Reading a composite tag comes to an entry of ours exactly when only entries with other
keys, and spaces, stand in front of it (`compositeLookup_eq_some_iff`), and then gives the field tag
in its value, whatever follows.  So reading undoes writing (`ofComposite_undoes_writing`).
-/

set_option autoImplicit false

namespace Scaffold.FieldTag

open Text.Escape

/-! ## Entries -/

/-- A character of a key: no space or control character, colon or quote. -/
def IsCompositeKeyChar (c : Char) : Prop := ' ' < c ∧ c ≠ ':' ∧ c ≠ '"' ∧ c ≠ '\x7f'

theorem isCompositeKeyChar_iff {c : Char} : isCompositeKeyChar c = true ↔ IsCompositeKeyChar c := by
  simp [isCompositeKeyChar, IsCompositeKeyChar, and_assoc]

theorem forall_isCompositeKeyChar {chars : List Char} (all : chars.all isCompositeKeyChar = true) :
    ∀ c ∈ chars, IsCompositeKeyChar c :=
  fun c member => isCompositeKeyChar_iff.mp (List.all_eq_true.mp all c member)

structure CompositeKey where
  chars : List Char
  nonempty : chars ≠ []
  plain : ∀ c ∈ chars, IsCompositeKeyChar c

def CompositeKey.IsOurs (key : CompositeKey) : Prop := key.chars = nameSpace.toList

instance (key : CompositeKey) : Decidable key.IsOurs :=
  inferInstanceAs (Decidable (key.chars = nameSpace.toList))

structure CompositeEntry where
  key : CompositeKey
  quoted : List Char
  closed : Closed quoted

namespace CompositeEntry

def chars (entry : CompositeEntry) : List Char :=
  entry.key.chars ++ ':' :: '"' :: (entry.quoted ++ ['"'])

def binding (entry : CompositeEntry) : List Char × List Char := (entry.key.chars, entry.quoted)

end CompositeEntry

/-- Entries as they are written, each behind a number of spaces. -/
def compositeSpelling (entries : List (Nat × CompositeEntry)) : List Char :=
  entries.flatMap fun (spaces, entry) => List.replicate spaces ' ' ++ entry.chars

theorem compositeSpelling_cons (spaces : Nat) (entry : CompositeEntry)
    (others : List (Nat × CompositeEntry)) :
    compositeSpelling ((spaces, entry) :: others) =
      List.replicate spaces ' ' ++ (entry.chars ++ compositeSpelling others) := by
  simp [compositeSpelling]

def bindings (entries : List (Nat × CompositeEntry)) : List (List Char × List Char) :=
  entries.map (·.2.binding)

variable {key more quoted rest text raw : List Char}

/-! ## What is written is read back -/

theorem compositeScan_spaces (spaces : Nat) (rest : List Char) :
    compositeScan .gap (List.replicate spaces ' ' ++ rest) = compositeScan .gap rest := by
  induction spaces with
  | zero => rfl
  | succ spaces ih => rw [List.replicate_succ, List.cons_append, compositeScan, if_pos rfl, ih]

theorem compositeScan_key (plain : ∀ c ∈ more, IsCompositeKeyChar c) :
    compositeScan (.inKey key) (more ++ rest) = compositeScan (.inKey (key ++ more)) rest := by
  induction more generalizing key with
  | nil => simp
  | cons c more ih =>
      obtain ⟨first, plain⟩ := List.forall_mem_cons.mp plain
      rw [List.cons_append, compositeScan, if_pos (isCompositeKeyChar_iff.mpr first), ih plain]
      simp

theorem compositeScan_quoted (closed : Closed more) :
    compositeScan (.inValue key quoted) (more ++ '"' :: rest) =
      (key, quoted ++ more) :: compositeScan .gap rest := by
  induction closed generalizing quoted with
  | nil => simp [compositeScan]
  | plain quote backslash _ ih =>
      rw [List.cons_append, compositeScan, if_neg quote, if_neg backslash, ih]
      simp
  | @escaped c others _ ih =>
      have pair (text : List Char) : compositeScan (.inValue key quoted) ('\\' :: c :: text) =
          compositeScan (.inValue key (quoted ++ ['\\'] ++ [c])) text := rfl
      rw [List.cons_append, List.cons_append, pair, ih]
      simp

theorem compositeScan_entry (entry : CompositeEntry) (rest : List Char) :
    compositeScan .gap (entry.chars ++ rest) = entry.binding :: compositeScan .gap rest := by
  obtain ⟨⟨key, nonempty, plain⟩, quoted, closed⟩ := entry
  obtain ⟨first, others, rfl⟩ := List.exists_cons_of_ne_nil nonempty
  obtain ⟨firstPlain, othersPlain⟩ := List.forall_mem_cons.mp plain
  have notSpace : first ≠ ' ' := (Char.ne_of_lt firstPlain.1).symm
  have opened (text : List Char) : compositeScan (.inKey (first :: others)) (':' :: '"' :: text) =
      compositeScan (.inValue (first :: others) []) text := rfl
  calc compositeScan .gap ((first :: others ++ ':' :: '"' :: (quoted ++ ['"'])) ++ rest)
      = compositeScan (.inKey [first]) (others ++ ':' :: '"' :: (quoted ++ '"' :: rest)) := by
        simp [compositeScan, notSpace, isCompositeKeyChar_iff.mpr firstPlain]
    _ = compositeScan (.inKey (first :: others)) (':' :: '"' :: (quoted ++ '"' :: rest)) :=
        compositeScan_key othersPlain
    _ = (first :: others, quoted) :: compositeScan .gap rest := by
        rw [opened, compositeScan_quoted closed, List.nil_append]

theorem compositeScan_spelling (entries : List (Nat × CompositeEntry)) (rest : List Char) :
    compositeScan .gap (compositeSpelling entries ++ rest) =
      bindings entries ++ compositeScan .gap rest := by
  induction entries with
  | nil => rfl
  | cons first others ih =>
      obtain ⟨spaces, entry⟩ := first
      rw [compositeSpelling_cons, List.append_assoc, List.append_assoc, compositeScan_spaces,
        compositeScan_entry, ih]
      rfl

/-! ## What is read has been written -/

def StartsWith (text : List Char) (found : List (List Char × List Char)) : Prop :=
  ∃ entries behind, text = compositeSpelling entries ++ behind ∧ found = bindings entries

namespace StartsWith

variable {found : List (List Char × List Char)}

theorem nothing (text : List Char) : StartsWith text [] := ⟨[], text, rfl, rfl⟩

theorem behind_entry (starts : StartsWith rest found) (entry : CompositeEntry) :
    StartsWith (entry.chars ++ rest) (entry.binding :: found) := by
  obtain ⟨entries, behind, rfl, rfl⟩ := starts
  exact ⟨(0, entry) :: entries, behind, by rw [compositeSpelling_cons]; simp, rfl⟩

theorem behind_space (starts : StartsWith rest found) : StartsWith (' ' :: rest) found := by
  obtain ⟨_ | ⟨⟨spaces, entry⟩, entries⟩, behind, rfl, rfl⟩ := starts
  · exact nothing _
  · refine ⟨(spaces + 1, entry) :: entries, behind, ?_, rfl⟩
    rw [compositeSpelling_cons, compositeSpelling_cons]
    rfl

end StartsWith

namespace CompositeState

def taken : CompositeState → List Char
  | gap => []
  | inKey key => key
  | colon key => key ++ [':']
  | inValue key quoted => key ++ ':' :: '"' :: quoted
  | escaped key quoted => key ++ ':' :: '"' :: quoted

/-- The reader has taken characters into its key and its value only where they may stand. -/
def Plain : CompositeState → Prop
  | gap => True
  | inKey key | colon key => ∃ whole : CompositeKey, whole.chars = key
  | inValue key quoted => (∃ whole : CompositeKey, whole.chars = key) ∧ Closed quoted
  | escaped key quoted => (∃ whole : CompositeKey, whole.chars = key) ∧
      ∃ before, Closed before ∧ quoted = before ++ ['\\']

/-- Whatever the reader finds from a state on has been written there. -/
theorem startsWith_of_scan (state : CompositeState) (text : List Char) :
    state.Plain → StartsWith (state.taken ++ text) (compositeScan state text) := by
  fun_induction compositeScan state text with
  | case1 state => exact fun _ => .nothing _
  | case2 rest ih => exact fun _ => (ih trivial).behind_space
  | case3 c rest space first ih =>
      intro _
      exact ih ⟨⟨[c], by simp, by simpa using isCompositeKeyChar_iff.mp first⟩, rfl⟩
  | case4 => exact fun _ => .nothing _
  | case5 key c rest next ih =>
      rintro ⟨whole, rfl⟩
      have longer : ∀ other ∈ whole.chars ++ [c], IsCompositeKeyChar other := by
        intro other member
        rcases List.mem_append.mp member with member | member
        · exact whole.plain other member
        · rw [List.mem_singleton.mp member]
          exact isCompositeKeyChar_iff.mp next
      simpa [taken] using ih ⟨⟨_, by simp, longer⟩, rfl⟩
  | case6 key rest _ ih =>
      intro plain
      simpa [taken] using ih plain
  | case7 => exact fun _ => .nothing _
  | case8 key rest ih =>
      intro plain
      simpa [taken] using ih ⟨plain, .nil⟩
  | case9 => exact fun _ => .nothing _
  | case10 key quoted rest ih =>
      rintro ⟨⟨whole, rfl⟩, closed⟩
      have written := (ih trivial).behind_entry ⟨whole, quoted, closed⟩
      simpa [taken, CompositeEntry.chars, CompositeEntry.binding] using written
  | case11 key quoted rest _ ih =>
      rintro ⟨whole, closed⟩
      simpa [taken] using ih ⟨whole, quoted, closed, rfl⟩
  | case12 key quoted c rest quote backslash ih =>
      rintro ⟨whole, closed⟩
      simpa [taken] using ih ⟨whole, closed.append (.plain quote backslash .nil)⟩
  | case13 key quoted c rest ih =>
      rintro ⟨whole, before, closed, rfl⟩
      simpa [taken] using ih ⟨whole, by simpa using closed.append (.escaped .nil)⟩

end CompositeState

/-! ## The entry that is read -/

/-- Reading a composite tag comes to an entry of ours, with a given text between its quotes: in
front of it stand entries with other keys only. -/
def Reaches (raw quoted : List Char) : Prop :=
  ∃ before spaces ours behind,
    raw = compositeSpelling (before ++ [(spaces, ours)]) ++ behind ∧
      (∀ other ∈ before, ¬ other.2.key.IsOurs) ∧ ours.key.IsOurs ∧ ours.quoted = quoted

/-- What is looked up is the text between the quotes of the entry that reading comes to. -/
theorem compositeLookup_eq_some_iff {raw : String} :
    compositeLookup raw = some quoted ↔ Reaches raw.toList quoted := by
  unfold compositeLookup
  constructor
  · intro found
    have starts : StartsWith raw.toList (compositeScan .gap raw.toList) :=
      CompositeState.startsWith_of_scan .gap raw.toList trivial
    obtain ⟨entries, behind, written, read⟩ := starts
    obtain ⟨front, back, split, others⟩ := List.lookup_eq_some_iff.mp found
    rw [read] at split
    obtain ⟨before, _, rfl, rfl, tail⟩ := List.map_eq_append_iff.mp split
    obtain ⟨⟨spaces, ours⟩, after, rfl, same, rfl⟩ := List.map_eq_cons_iff.mp tail
    obtain ⟨own, rfl⟩ := Prod.mk.inj same
    refine ⟨before, spaces, ours, compositeSpelling after ++ behind, ?_,
      fun other member => ?_, own, rfl⟩
    · simpa [compositeSpelling] using written
    · intro isOurs
      have differs := others other.2.binding (List.mem_map_of_mem member)
      exact bne_iff_ne.mp differs isOurs.symm
  · rintro ⟨before, spaces, ours, behind, written, others, own, rfl⟩
    have binding : ours.binding = (nameSpace.toList, ours.quoted) := Prod.ext own rfl
    rw [written, compositeScan_spelling, bindings, List.map_append, List.append_assoc]
    refine List.lookup_eq_some_iff.mpr ⟨bindings before, compositeScan .gap behind, ?_, ?_⟩
    · rw [← binding]
      rfl
    · intro binding member
      obtain ⟨other, otherMember, rfl⟩ := List.mem_map.mp member
      exact bne_iff_ne.mpr fun same => others other otherMember same.symm

theorem ofComposite_of_reaches {raw : String} (reaches : Reaches raw.toList quoted) :
    ofComposite raw = (Text.Escape.decode quoted).bind fun value =>
      parse (String.ofList value) := by
  rw [ofComposite, compositeLookup_eq_some_iff.mpr reaches]

theorem ofComposite_of_not_reaches {raw : String} (absent : ∀ quoted, ¬ Reaches raw.toList quoted) :
    ofComposite raw = some empty := by
  have missing : compositeLookup raw = none := by
    refine Option.eq_none_iff_forall_not_mem.mpr fun quoted found => ?_
    exact absent quoted (compositeLookup_eq_some_iff.mp found)
  rw [ofComposite, missing]

/-! ## Entries with values -/

/-- An entry that was written for a value, with one of the spellings that the value has. -/
structure ValuedEntry where
  key : CompositeKey
  value : List Char
  quoted : List Char
  writes : Writes value quoted

namespace ValuedEntry

def written (entry : ValuedEntry) : CompositeEntry := ⟨entry.key, entry.quoted, entry.writes.closed⟩

/-- Entries with values as text, each behind a number of spaces. -/
def spell (entries : List (Nat × ValuedEntry)) : String :=
  String.ofList (compositeSpelling (entries.map fun entry => (entry.1, entry.2.written)))

def first? (entries : List (Nat × ValuedEntry)) : Option ValuedEntry :=
  (entries.map Prod.snd).find? fun entry => entry.key.IsOurs

theorem compositeLookup_spell (entries : List (Nat × ValuedEntry)) :
    compositeLookup (spell entries) = (first? entries).map ValuedEntry.quoted := by
  rw [compositeLookup, spell, String.toList_ofList, ← List.append_nil (compositeSpelling _),
    compositeScan_spelling, compositeScan, List.append_nil]
  induction entries with
  | nil => rfl
  | cons entry others ih =>
      have binding : entry.2.written.binding = (entry.2.key.chars, entry.2.quoted) := rfl
      rw [List.map_cons, bindings, List.map_cons, binding, List.lookup_cons, first?, List.map_cons,
        List.find?_cons]
      by_cases own : entry.2.key.IsOurs
      · rw [beq_iff_eq.mpr own.symm, decide_eq_true own]
        rfl
      · rw [beq_false_of_ne fun same => own same.symm, decide_eq_false own]
        exact ih

end ValuedEntry

/-- Reading undoes writing: however the values of entries are spelled and spaced, the field tag is
that of our first value, and the empty one without an entry of ours.  Text behind our entry does not
count, and there is no field tag exactly when the text between its quotes has an invalid escape or
spells no field tag. -/
theorem ofComposite_undoes_writing :
    (∀ entries, ofComposite (ValuedEntry.spell entries) =
      match ValuedEntry.first? entries with
      | some ours => parse (String.ofList ours.value)
      | none => some empty) ∧
    (∀ before spaces (ours : CompositeEntry) behind, (∀ other ∈ before, ¬ other.2.key.IsOurs) →
      ours.key.IsOurs →
        ofComposite (String.ofList (compositeSpelling (before ++ [(spaces, ours)]) ++ behind)) =
          ofComposite (String.ofList (compositeSpelling (before ++ [(spaces, ours)])))) ∧
    (∀ raw quoted, Reaches (String.toList raw) quoted →
      (ofComposite raw = none ↔ HasInvalidEscape quoted ∨
        ∃ value, Writes value quoted ∧ parse (String.ofList value) = none)) ∧
    ∀ raw, (∀ quoted, ¬ Reaches (String.toList raw) quoted) → ofComposite raw = some empty := by
  refine ⟨fun entries => ?_, fun before spaces ours behind others own => ?_,
    fun raw quoted reaches => ?_, fun raw absent => ofComposite_of_not_reaches absent⟩
  · rw [ofComposite, ValuedEntry.compositeLookup_spell]
    cases ValuedEntry.first? entries with
    | none => rfl
    | some ours =>
        have decoded : Text.Escape.decode ours.quoted = some ours.value :=
          (decode_eq_some_iff ours.writes.closed).mpr ours.writes
        simp [decoded]
  · have reaches (text : List Char) : Reaches
        (String.ofList (compositeSpelling (before ++ [(spaces, ours)]) ++ text)).toList
          ours.quoted :=
      ⟨before, spaces, ours, text, String.toList_ofList, others, own, rfl⟩
    rw [ofComposite_of_reaches (reaches behind),
      ← List.append_nil (compositeSpelling (before ++ [(spaces, ours)])),
      ofComposite_of_reaches (reaches [])]
  · have closed : Closed quoted := by
      obtain ⟨_, _, ours, _, _, _, _, rfl⟩ := reaches
      exact ours.closed
    rw [ofComposite_of_reaches reaches, ← decode_eq_none_iff closed]
    cases decoded : Text.Escape.decode quoted with
    | none => simp
    | some value =>
        have writes : ∀ other, Writes other quoted ↔ value = other := by
          intro other
          rw [← decode_eq_some_iff closed, decoded, Option.some.injEq]
        simp [writes]

/-- Behind an entry with an escaped quote, ours is read up to its own closing quote.  An escape that
does not exist leaves nothing to read. -/
theorem ofComposite_undoes_writing_escaped :
    let json : CompositeEntry := ⟨⟨['j', 's'], by decide, forall_isCompositeKeyChar (by decide)⟩,
      ['\\', '"', ' '], .escaped (.plain (by decide) (by decide) .nil)⟩
    let ours : CompositeEntry :=
      ⟨⟨nameSpace.toList, by decide, forall_isCompositeKeyChar (by decide)⟩, ['\\', 'q'],
        .escaped .nil⟩
    let raw := compositeSpelling ([(0, json)] ++ [(2, ours)])
    ¬ json.key.IsOurs ∧ ours.key.IsOurs ∧
      raw = "js:\"\\\" \"  repogen:\"\\q\"".toList ∧
      ofComposite (String.ofList (raw ++ " db:\"x".toList)) = ofComposite (String.ofList raw) ∧
      Reaches (String.ofList raw).toList ours.quoted ∧ HasInvalidEscape ours.quoted ∧
      ofComposite (String.ofList raw) = none := by
  intro json ours raw
  have others : ∀ other ∈ [(0, json)], ¬ other.2.key.IsOurs := by decide
  have reaches : Reaches (String.ofList raw).toList ours.quoted :=
    ⟨[(0, json)], 2, ours, [], by simp [raw], others, rfl, rfl⟩
  have invalid : HasInvalidEscape ours.quoted := by
    refine ⟨[], [], ['q'], rfl, .nil, fun c piece rest writes same => ?_⟩
    cases writes with
    | plain _ backslash => exact backslash (List.cons.inj same).1.symm
    | short named =>
        obtain ⟨rfl, _⟩ := List.cons.inj (List.cons.inj same).2
        cases named
    | numeric count _ =>
        obtain ⟨rfl, _⟩ := List.cons.inj (List.cons.inj same).2
        cases count
  exact ⟨others _ (List.mem_singleton_self _), rfl, by decide +kernel,
    ofComposite_undoes_writing.2.1 [(0, json)] 2 ours _ others rfl, reaches, invalid,
    (ofComposite_undoes_writing.2.2.1 _ _ reaches).mpr (.inl invalid)⟩

end Scaffold.FieldTag
