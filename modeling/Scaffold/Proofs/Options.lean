import Scaffold.Options
import Scaffold.Proofs.Checked
import Scaffold.Proofs.Formatter

/-!
# Options in any order

A `Use` is an option as it stands on a command line.  Reading one use leaves a reading that settles
to what was given before and what the use gives (`Reading.exists_steps`), so reading all of them
gives the value of each (`read_uses`).  Where no option is used twice, these values do not depend on
the order of the uses, and an option that is not used has its value from the environment, or else
the usual one (`settings_of_uses`).
-/

set_option autoImplicit false

namespace Scaffold.Options

open Checked

def Key.default : Key → String
  | dir => Settings.defaultDir
  | snapshot => Settings.defaultSnapshot
  | formatter => Settings.defaultFormatter

inductive Use where
  /-- The value is the next argument. -/
  | apart (key : Key) (value : String)
  /-- The value stands behind an equals sign. -/
  | attached (key : Key) (value : String)
  | noFormat
  deriving DecidableEq, Repr

namespace Use

def spell : Use → List String
  | apart key value => ["--" ++ key.name, value]
  | attached key value => ["--" ++ key.name ++ "=" ++ value]
  | noFormat => ["--no-format"]

def key? : Use → Option Key
  | apart key _ | attached key _ => some key
  | noFormat => none

def value? (use : Use) (key : Key) : Option String :=
  match use with
  | apart own value | attached own value => if own = key then some value else none
  | noFormat => none

/-- A value that is an argument of its own does not begin like an option. -/
def Readable : Use → Prop
  | apart _ value => value.toList.head? ≠ some '-'
  | _ => True

instance : DecidablePred Readable
  | apart _ value => inferInstanceAs (Decidable (value.toList.head? ≠ some '-'))
  | attached _ _ => .isTrue trivial
  | noFormat => .isTrue trivial

def Accepted (use : Use) : Prop :=
  ∀ key value, use.value? key = some value → key.accepts value = true

theorem key?_of_value? {use : Use} {key : Key} {value : String}
    (gives : use.value? key = some value) :
    use.key? = some key := by
  cases use with
  | noFormat => cases gives
  | apart own _ | attached own _ =>
      simp only [value?, Option.ite_none_right_eq_some] at gives
      rw [key?, gives.1]

end Use

/-! ## Arguments of a use -/

theorem ofText_name (key : Key) : Argument.ofText ("--" ++ key.name) = .option key none := by
  cases key <;> rfl

theorem ofText_attached (key : Key) (value : String) :
    Argument.ofText ("--" ++ key.name ++ "=" ++ value) = .option key (some value) := by
  have read : Argument.ofText ("--" ++ key.name ++ "=" ++ value) =
      .option key (some (String.ofList value.toList)) := by
    cases key <;> simp only [Argument.ofText, Key.name, String.toList_append] <;> rfl
  rw [read, String.ofList_toList]

theorem ofText_word {value : String} (readable : value.toList.head? ≠ some '-') :
    Argument.ofText value = .word value := by
  rw [Argument.ofText]
  unfold Argument.ofChars
  split
  · simp_all
  · simp_all
  · simp_all
  · rw [String.ofList_toList]

/-! ## What is given -/

namespace Given

variable {given : Given} {use other : Use} {key : Key} {value : String}

def take (given : Given) : Use → Given
  | .apart key value | .attached key value => given.set value key
  | .noFormat => { given with noFormat := true }

def Lacks (given : Given) : Use → Prop
  | .apart key _ | .attached key _ => given.get? key = none
  | .noFormat => given.noFormat = false

theorem lacks_empty (use : Use) : empty.Lacks use := by
  cases use with
  | noFormat => rfl
  | apart key _ | attached key _ => cases key <;> rfl

theorem get?_set (given : Given) (value : String) (own key : Key) :
    (given.set value own).get? key = if own = key then some value else given.get? key := by
  cases own <;> cases key <;> rfl

theorem get?_take (given : Given) (use : Use) (key : Key) :
    (given.take use).get? key = (use.value? key).or (given.get? key) := by
  cases use with
  | noFormat => cases key <;> rfl
  | apart own value | attached own value =>
      rw [take, get?_set, Use.value?]
      split_ifs <;> rfl

theorem noFormat_take (given : Given) (use : Use) :
    (given.take use).noFormat = (given.noFormat || decide (use = .noFormat)) := by
  cases use with
  | noFormat => simp [take]
  | apart own _ | attached own _ => cases own <;> simp [take, set]

theorem Lacks.take (lacks : given.Lacks other) (apart : use.key? ≠ other.key?) :
    (given.take use).Lacks other := by
  cases other with
  | noFormat =>
      have isOption : use ≠ .noFormat := by
        rintro rfl
        exact apart rfl
      have off : given.noFormat = false := lacks
      show (given.take use).noFormat = false
      simp [noFormat_take, off, isOption]
  | apart key value | attached key value =>
      have unset : given.get? key = none := lacks
      have silent : use.value? key = none := by
        cases gives : use.value? key with
        | none => rfl
        | some value => exact absurd (Use.key?_of_value? gives) apart
      show (given.take use).get? key = none
      rw [get?_take, silent, unset]
      rfl

theorem put_eq_ok (unset : given.get? key = none) (accepted : key.accepts value = true) :
    given.put key value = .ok (given.set value key) := by
  simp [put, unset, accepted]

end Given

/-! ## Reading -/

section Reading
variable {reading : Reading} {given : Given} {use : Use} {uses : List Use}

/-- No option is pending without its value, and all that has been read counts. -/
def Reading.HasRead (reading : Reading) (given : Given) : Prop :=
  reading.closed = false ∧ reading.settle = .ok given

theorem Reading.exists_steps (has : reading.HasRead given) (readable : use.Readable)
    (accepted : use.Accepted) (lacks : given.Lacks use) :
    ∃ next, (use.spell.map Argument.ofText).foldlM Reading.step reading = .ok next ∧
      next.HasRead (given.take use) := by
  obtain ⟨opened, settled⟩ := has
  cases use with
  | apart key value =>
      -- the value is kept pending, and counts when the next option or the end is reached
      have counts := Given.put_eq_ok lacks (accepted key value (by simp [Use.value?]))
      refine ⟨⟨given, some ⟨key, some value⟩, false⟩, ?_, rfl, counts⟩
      simp [Use.spell, ofText_name, ofText_word readable, step, opened, settled, bind, Except.bind,
        pure, Except.pure]
  | attached key value =>
      have counts := Given.put_eq_ok lacks (accepted key value (by simp [Use.value?]))
      refine ⟨⟨given.set value key, none, false⟩, ?_, rfl, rfl⟩
      simp [Use.spell, ofText_attached, step, opened, settled, counts, bind, Except.bind, pure,
        Except.pure]
  | noFormat =>
      have off : given.noFormat = false := lacks
      have isFlag : Argument.ofText "--no-format" = .flag .noFormat none := rfl
      refine ⟨⟨{ given with noFormat := true }, none, false⟩, ?_, rfl, rfl⟩
      simp [Use.spell, isFlag, step, opened, settled, Given.raise, off, bind, Except.bind, pure,
        Except.pure]

theorem Reading.exists_run (has : reading.HasRead given) (readable : ∀ use ∈ uses, use.Readable)
    (accepted : ∀ use ∈ uses, use.Accepted) (lacks : ∀ use ∈ uses, given.Lacks use)
    (once : (uses.map Use.key?).Nodup) :
    ∃ next, ((uses.flatMap Use.spell).map Argument.ofText).foldlM Reading.step reading = .ok next ∧
      next.HasRead (uses.foldl Given.take given) := by
  induction uses generalizing reading given with
  | nil => exact ⟨reading, rfl, has⟩
  | cons use uses ih =>
      obtain ⟨readableFirst, readable⟩ := List.forall_mem_cons.mp readable
      obtain ⟨acceptedFirst, accepted⟩ := List.forall_mem_cons.mp accepted
      obtain ⟨lacksFirst, lacks⟩ := List.forall_mem_cons.mp lacks
      obtain ⟨fresh, once⟩ := List.nodup_cons.mp once
      obtain ⟨next, stepped, has⟩ := exists_steps has readableFirst acceptedFirst lacksFirst
      have lacks' : ∀ other ∈ uses, (given.take use).Lacks other := by
        intro other member
        apply (lacks other member).take
        intro same
        exact fresh (same ▸ List.mem_map_of_mem member)
      obtain ⟨last, run, has⟩ := ih has readable accepted lacks' once
      refine ⟨last, ?_, has⟩
      rw [List.flatMap_cons, List.map_append, List.foldlM_append, stepped]
      exact run

theorem read_uses (readable : ∀ use ∈ uses, use.Readable) (accepted : ∀ use ∈ uses, use.Accepted)
    (once : (uses.map Use.key?).Nodup) :
    read (uses.flatMap Use.spell) = .ok (uses.foldl Given.take .empty) := by
  have has : Reading.start.HasRead .empty := ⟨rfl, rfl⟩
  obtain ⟨last, run, _, settled⟩ :=
    Reading.exists_run has readable accepted (fun use _ => Given.lacks_empty use) once
  rw [read, run]
  exact settled

end Reading

/-! ## Values -/

section Values
variable {uses order : List Use} {key : Key} {value : String}

def valueOf (uses : List Use) (key : Key) : Option String := uses.findSome? (·.value? key)

theorem valueOf_eq_some_iff (once : (uses.map Use.key?).Nodup) :
    valueOf uses key = some value ↔ ∃ use ∈ uses, use.value? key = some value := by
  constructor
  · exact List.exists_of_findSome?_eq_some
  · rintro ⟨use, member, gives⟩
    induction uses with
    | nil => cases member
    | cons first uses ih =>
        obtain ⟨fresh, once⟩ := List.nodup_cons.mp once
        rw [valueOf, List.findSome?_cons]
        rcases List.mem_cons.mp member with rfl | member
        · rw [gives]
        · have silent : first.value? key = none := by
            cases own : first.value? key with
            | none => rfl
            | some other =>
                have same := (Use.key?_of_value? own).trans (Use.key?_of_value? gives).symm
                exact absurd (same ▸ List.mem_map_of_mem member) fresh
          rw [silent]
          exact ih once member

theorem valueOf_of_perm (perm : order.Perm uses) (once : (uses.map Use.key?).Nodup) (key : Key) :
    valueOf order key = valueOf uses key := by
  have onceToo : (order.map Use.key?).Nodup := (perm.map Use.key?).nodup_iff.mpr once
  apply Option.ext
  intro value
  rw [valueOf_eq_some_iff onceToo, valueOf_eq_some_iff once]
  simp only [perm.mem_iff]

theorem valueOf_eq_none (unused : some key ∉ uses.map Use.key?) : valueOf uses key = none := by
  rw [valueOf, List.findSome?_eq_none_iff]
  intro use member
  cases gives : use.value? key with
  | none => rfl
  | some value => exact absurd (List.mem_map.mpr ⟨use, member, Use.key?_of_value? gives⟩) unused

/-- The last value that is given to an option is the only one, so it is also the first. -/
theorem get?_foldl_take (once : (uses.map Use.key?).Nodup) (given : Given) (key : Key) :
    (uses.foldl Given.take given).get? key = (valueOf uses key).or (given.get? key) := by
  induction uses generalizing given with
  | nil => rfl
  | cons use uses ih =>
      obtain ⟨fresh, once⟩ := List.nodup_cons.mp once
      rw [List.foldl_cons, ih once, Given.get?_take, valueOf, valueOf, List.findSome?_cons]
      cases gives : use.value? key with
      | none => rfl
      | some value =>
          rw [Use.key?_of_value? gives] at fresh
          have silent : uses.findSome? (·.value? key) = none := valueOf_eq_none fresh
          rw [silent]
          rfl

theorem noFormat_foldl_take (uses : List Use) (given : Given) :
    (uses.foldl Given.take given).noFormat = (given.noFormat || decide (.noFormat ∈ uses)) := by
  induction uses generalizing given with
  | nil => simp
  | cons use uses ih =>
      rw [List.foldl_cons, ih, Given.noFormat_take]
      simp [Bool.or_assoc, eq_comm]

end Values

/-! ## Settings -/

/-- The value that an option has: the one that is given, else that of the environment, else the
usual one. -/
def chosen (environment : Environment) (uses : List Use) (key : Key) : String :=
  ((valueOf uses key).or (environment key)).getD key.default

theorem effective_eq_chosen {environment : Environment} {uses : List Use}
    {given : Given} {key : Key} (gives : given.get? key = valueOf uses key)
    (accepted : key.accepts (chosen environment uses key) = true) :
    effective environment given key key.default = .ok (chosen environment uses key) := by
  unfold chosen at accepted ⊢
  unfold effective
  rw [gives]
  cases own : valueOf uses key with
  | some value => rfl
  | none =>
      rw [own] at accepted
      cases outer : environment key with
      | none => rfl
      | some value =>
          rw [outer] at accepted
          exact if_pos accepted

theorem settings_eq_ok {environment : Environment} {uses : List Use} {given : Given}
    (gives : ∀ key, given.get? key = valueOf uses key)
    (located : chosen environment uses .dir ≠ "") :
    settings environment given =
      .ok ⟨chosen environment uses .dir, chosen environment uses .snapshot,
      if given.noFormat then none else Formatter.parse (chosen environment uses .formatter)⟩ := by
  have each (key : Key) (accepted : key.accepts (chosen environment uses key) = true) :
      effective environment given key key.default = .ok (chosen environment uses key) :=
    effective_eq_chosen (gives key) accepted
  have dir := each .dir (by simp [Key.accepts, located])
  have snapshot := each .snapshot rfl
  have formatter := each .formatter rfl
  simp only [Key.default] at dir snapshot formatter
  simp [settings, dir, snapshot, formatter, bind, Except.bind, pure, Except.pure]

section Orders
variable {environment : Environment} {uses order : List Use}

/-- Only the directory can be refused, and it is not when the value that it has in the end is a
path. -/
theorem accepted_of_located (once : (uses.map Use.key?).Nodup)
    (located : chosen environment uses .dir ≠ "") :
    ∀ use ∈ uses, use.Accepted := by
  intro use member key value gives
  cases key with
  | snapshot => rfl
  | formatter => rfl
  | dir =>
      have own : valueOf uses .dir = some value :=
        (valueOf_eq_some_iff once).mpr ⟨use, member, gives⟩
      have nonempty : value ≠ "" := by simpa [chosen, own] using located
      simp [Key.accepts, nonempty]

theorem parse_uses (once : (uses.map Use.key?).Nodup) (readable : ∀ use ∈ uses, use.Readable)
    (located : chosen environment uses .dir ≠ "") :
    parse environment (uses.flatMap Use.spell) =
      .ok ⟨chosen environment uses .dir, chosen environment uses .snapshot,
        if .noFormat ∈ uses then none
          else Formatter.parse (chosen environment uses .formatter)⟩ := by
  have gives (key : Key) : (uses.foldl Given.take .empty).get? key = valueOf uses key := by
    rw [get?_foldl_take once]
    cases key <;> exact Option.or_none
  have flag : (uses.foldl Given.take .empty).noFormat = decide (.noFormat ∈ uses) := by
    rw [noFormat_foldl_take, Given.empty, Bool.false_or]
  rw [parse, read_uses readable (accepted_of_located once located) once]
  show settings environment _ = _
  rw [settings_eq_ok gives located, flag]
  simp

theorem chosen_of_perm (perm : order.Perm uses) (once : (uses.map Use.key?).Nodup) :
    chosen environment order = chosen environment uses := by
  funext key
  rw [chosen, chosen, valueOf_of_perm perm once]

end Orders

/-- The settings are the same for all orders of the options: each value is the one that is given,
else the one of the environment, else the usual one, and there is no formatter when that is asked
for or its command is blank. -/
theorem settings_of_uses (environment : Environment) (uses : List Use)
    (once : (uses.map Use.key?).Nodup)
    (readable : ∀ use ∈ uses, use.Readable) (located : chosen environment uses .dir ≠ "") :
    ∃ settings : Settings,
      (∀ order : List Use, order.Perm uses →
        parse environment (order.flatMap Use.spell) = .ok settings) ∧
      settings.dir = chosen environment uses .dir ∧
      settings.snapshot = chosen environment uses .snapshot ∧
      (settings.formatter = none ↔
        .noFormat ∈ uses ∨ Text.Blank (chosen environment uses .formatter).toList) ∧
      ∀ program args, settings.formatter = some ⟨program, args⟩ ↔
        .noFormat ∉ uses ∧
          Text.Spaced ((program :: args).map String.toList)
            (chosen environment uses .formatter).toList := by
  let command := chosen environment uses .formatter
  let formatter := if .noFormat ∈ uses then none else Formatter.parse command
  refine ⟨⟨chosen environment uses .dir, chosen environment uses .snapshot, formatter⟩, ?_, rfl,
    rfl, ?_, ?_⟩
  · intro order perm
    have onceToo : (order.map Use.key?).Nodup := (perm.map Use.key?).nodup_iff.mpr once
    have readableToo : ∀ use ∈ order, use.Readable :=
      fun use member => readable use (perm.mem_iff.mp member)
    have same : chosen environment order = chosen environment uses := chosen_of_perm perm once
    rw [parse_uses onceToo readableToo (same ▸ located), same]
    simp only [perm.mem_iff, formatter, command]
  · by_cases unformatted : .noFormat ∈ uses
    · simp [formatter, unformatted]
    · simp only [formatter, if_neg unformatted, unformatted, false_or]
      exact Formatter.parse_eq_none_iff
  · intro program args
    by_cases unformatted : .noFormat ∈ uses
    · simp [formatter, unformatted]
    · simp only [formatter, if_neg unformatted, unformatted, not_false_eq_true, true_and]
      exact Formatter.parse_eq_some_iff

/-- The options come in another order than they are listed in, two of them override an empty and a
blank variable, and the words of the command are apart by blanks of several kinds. -/
theorem settings_of_uses_overriding :
    let environment : Environment := fun key =>
      match key with
      | .dir => some ""
      | .snapshot => some "shop.json"
      | .formatter => some " "
    let uses : List Use := [.attached .formatter "\u2003gofmt\u3000 -s\u0085", .apart .dir "repo"]
    (uses.map Use.key?).Nodup ∧ (∀ use ∈ uses, use.Readable) ∧ chosen environment uses .dir ≠ "" ∧
      parse environment ["--dir", "repo", "--formatter=\u2003gofmt\u3000 -s\u0085"] =
        .ok ⟨"repo", "shop.json", some ⟨"gofmt", ["-s"]⟩⟩ := by
  intro environment uses
  have once : (uses.map Use.key?).Nodup := by decide
  have readable : ∀ use ∈ uses, use.Readable := by decide
  have located : chosen environment uses .dir ≠ "" := by decide
  obtain ⟨settings, same, dir, snapshot, _, formatter⟩ :=
    settings_of_uses environment uses once readable located
  have swapped :=
    same [.apart .dir "repo", .attached .formatter "\u2003gofmt\u3000 -s\u0085"] (.swap _ _ _)
  have spaced : Text.Spaced [['g', 'o', 'f', 'm', 't'],
      ['-', 's']] "\u2003gofmt\u3000 -s\u0085".toList :=
    Text.blankSeparated_eq_iff.mp (by decide +kernel)
  have command := (formatter "gofmt" ["-s"]).mpr ⟨by decide, spaced⟩
  obtain ⟨_, _, _⟩ := settings
  cases dir
  cases snapshot
  cases command
  exact ⟨once, readable, located, swapped⟩

end Scaffold.Options
