import Scaffold.Proofs.Package.Definitions

/-!
# Following definitions to the end

A chain of definitions ends at a type that is not named or whose definition is unknown
(`Package.definition?`).  Following finds this end on every chain of at most `maxHops` definitions,
and stops at a named type on every other one (`baseType_of_ended`, `baseType_of_longer`), also on a
chain without an end (`IsEndless`).  A search through layers finds a struct only when definitions
and layers lead to it (`structWithin?_eq_some_iff`).
-/

set_option autoImplicit false

namespace Scaffold.Package

variable {package : Package} {type last other : GoType} {fields : List Field} {hops : Nat}

/-- What a type is defined as, when it is named and its definition is known. -/
def definition? (package : Package) : GoType → Option GoType
  | .named named => package.underlying? named
  | _ => none

/-! ## Chains -/

theorem leadsTo_zero_iff : package.LeadsTo 0 type last ↔ last = type := by
  constructor
  · intro chain
    cases chain
    rfl
  · rintro rfl
    exact .here last

theorem leadsTo_succ_iff : package.LeadsTo (hops + 1) type last ↔
    ∃ definition, package.definition? type = some definition ∧
      package.LeadsTo hops definition last := by
  constructor
  · intro chain
    cases chain with
    | define known behind => exact ⟨_, known, behind⟩
  · rintro ⟨definition, known, behind⟩
    cases type with
    | named named => exact .define known behind
    | _ => cases known

theorem LeadsTo.last_eq (chain : package.LeadsTo hops type last)
    (again : package.LeadsTo hops type other) :
    other = last := by
  induction hops generalizing type with
  | zero => rw [leadsTo_zero_iff.mp chain, leadsTo_zero_iff.mp again]
  | succ hops ih =>
      obtain ⟨definition, known, behind⟩ := leadsTo_succ_iff.mp chain
      obtain ⟨definition', known', behind'⟩ := leadsTo_succ_iff.mp again
      cases known.symm.trans known'
      exact ih behind behind'

theorem leadsTo_add_iff {more : Nat} : package.LeadsTo (hops + more) type last ↔
    ∃ middle, package.LeadsTo hops type middle ∧ package.LeadsTo more middle last := by
  induction hops generalizing type with
  | zero => simp [leadsTo_zero_iff]
  | succ hops ih =>
      rw [Nat.succ_add, leadsTo_succ_iff]
      constructor
      · rintro ⟨definition, known, behind⟩
        obtain ⟨middle, front, rest⟩ := ih.mp behind
        exact ⟨middle, leadsTo_succ_iff.mpr ⟨definition, known, front⟩, rest⟩
      · rintro ⟨middle, front, rest⟩
        obtain ⟨definition, known, front⟩ := leadsTo_succ_iff.mp front
        exact ⟨definition, known, ih.mpr ⟨middle, front, rest⟩⟩

/-! ## Following a chain -/

theorem follow_of_defined {definition : GoType} (known : package.definition? type = some definition)
    (bound : Nat) : package.follow (bound + 1) type = package.follow bound definition := by
  cases type with
  | named named =>
      have underlying : package.underlying? named = some definition := known
      rw [follow, underlying]
  | _ => cases known

theorem follow_of_ended (ended : package.definition? last = none) (bound : Nat) :
    package.follow bound last = last := by
  cases bound with
  | zero => rfl
  | succ bound =>
      cases last with
      | named named =>
          have unknown : package.underlying? named = none := ended
          rw [follow, unknown]
      | _ => rfl

theorem LeadsTo.follow_eq (chain : package.LeadsTo hops type last) (rest : Nat) :
    package.follow (hops + rest) type = package.follow rest last := by
  induction hops generalizing type with
  | zero => rw [leadsTo_zero_iff.mp chain, Nat.zero_add]
  | succ hops ih =>
      obtain ⟨definition, known, behind⟩ := leadsTo_succ_iff.mp chain
      rw [Nat.succ_add, follow_of_defined known, ih behind]

theorem baseType_of_ended (chain : package.LeadsTo hops type last)
    (ended : package.definition? last = none)
    (within : hops ≤ maxHops) : package.baseType type = last := by
  obtain ⟨rest, bound⟩ := Nat.exists_eq_add_of_le within
  rw [baseType, bound, chain.follow_eq rest, follow_of_ended ended]

/-- A chain that has not ended within a number of definitions has that many. -/
theorem exists_leadsTo_of_longer
    (longer : ∀ hops last, package.LeadsTo hops type last → package.definition? last = none →
      maxHops < hops)
    {hops : Nat} (within : hops ≤ maxHops + 1) : ∃ last, package.LeadsTo hops type last := by
  induction hops with
  | zero => exact ⟨type, .here type⟩
  | succ hops ih =>
      obtain ⟨middle, chain⟩ := ih (Nat.le_of_succ_le within)
      cases known : package.definition? middle with
      | none =>
          have beyond := longer hops middle chain known
          omega
      | some definition =>
          have next : package.LeadsTo 1 middle definition :=
            leadsTo_succ_iff.mpr ⟨definition, known, .here _⟩
          exact ⟨definition, leadsTo_add_iff.mpr ⟨middle, chain, next⟩⟩

/-- On a chain that has not ended by then, the named type behind `maxHops` definitions stays. -/
theorem baseType_of_longer
    (longer : ∀ hops last, package.LeadsTo hops type last → package.definition? last = none →
      maxHops < hops) :
    ∃ named, package.baseType type = .named named ∧
      ∀ last, package.LeadsTo maxHops type last ↔ last = .named named := by
  obtain ⟨last, chain⟩ := exists_leadsTo_of_longer longer (Nat.le_succ maxHops)
  have based : package.baseType type = last := chain.follow_eq 0
  cases last with
  | named named =>
      refine ⟨named, based, fun other => ⟨chain.last_eq, ?_⟩⟩
      rintro rfl
      exact chain
  | _ =>
      have beyond := longer maxHops _ chain rfl
      exact absurd beyond (Nat.lt_irrefl maxHops)

/-! ## Chains without an end -/

def IsEndless (package : Package) (type : GoType) : Prop :=
  ∀ hops, ∃ last, package.LeadsTo hops type last

theorem IsEndless.not_ended (endless : package.IsEndless type)
    (chain : package.LeadsTo hops type last) :
    package.definition? last ≠ none := by
  intro ended
  obtain ⟨next, longer⟩ := endless (hops + 1)
  obtain ⟨middle, reached, step⟩ := leadsTo_add_iff.mp longer
  obtain ⟨definition, known, _⟩ := leadsTo_succ_iff.mp step
  cases chain.last_eq reached
  cases ended.symm.trans known

theorem IsEndless.of_leadsTo (chain : package.LeadsTo hops type other)
    (endless : package.IsEndless other) :
    package.IsEndless type := by
  intro more
  obtain ⟨last, behind⟩ := endless more
  have whole : package.LeadsTo (more + hops) type last := by
    rw [Nat.add_comm]
    exact leadsTo_add_iff.mpr ⟨other, chain, behind⟩
  obtain ⟨middle, front, _⟩ := leadsTo_add_iff.mp whole
  exact ⟨middle, front⟩

/-- Definitions that lead a type back to itself have no end. -/
theorem isEndless_of_cycle {links : Nat} (cycle : package.LeadsTo (links + 1) type type) :
    package.IsEndless type := by
  intro hops
  have round : package.LeadsTo (hops * (links + 1)) type type := by
    induction hops with
    | zero =>
        rw [Nat.zero_mul]
        exact .here type
    | succ rounds ih =>
        rw [Nat.succ_mul]
        exact leadsTo_add_iff.mpr ⟨type, ih, cycle⟩
  obtain ⟨rest, enough⟩ :=
    Nat.exists_eq_add_of_le (Nat.le_mul_of_pos_right hops (Nat.succ_pos links))
  rw [enough] at round
  obtain ⟨middle, front, _⟩ := leadsTo_add_iff.mp round
  exact ⟨middle, front⟩

theorem IsEndless.exists_baseType_eq (endless : package.IsEndless type) :
    ∃ named, package.baseType type = .named named := by
  obtain ⟨named, based, _⟩ := baseType_of_longer fun hops last chain ended =>
    absurd ended (endless.not_ended chain)
  exact ⟨named, based⟩

/-! ## The struct below layers and definitions -/

/-- A struct below the layers of a type, or below those of what the type there is defined as, and so
on. -/
inductive ReachesStruct (package : Package) : Nat → GoType → List Field → Prop where
  | here {type : GoType} {fields : List Field} (below : type.deepElement = .struct fields) :
      package.ReachesStruct 0 type fields
  | define {type definition : GoType} {named : NamedType} {fields : List Field} {hops : Nat}
      (below : type.deepElement = .named named)
      (known : package.underlying? named = some definition)
      (behind : package.ReachesStruct hops definition fields) :
        package.ReachesStruct (hops + 1) type fields

theorem structWithin?_eq_some_iff {bound : Nat} : package.structWithin? bound type = some fields ↔
    ∃ hops < bound, package.ReachesStruct hops type fields := by
  induction bound generalizing type with
  | zero => simp [structWithin?]
  | succ bound ih =>
      rw [structWithin?]
      constructor
      · intro found
        split at found
        next own below =>
          obtain rfl := Option.some.inj found
          exact ⟨0, Nat.succ_pos bound, .here below⟩
        next named below =>
          obtain ⟨definition, known, found⟩ := Option.bind_eq_some_iff.mp found
          obtain ⟨hops, within, behind⟩ := ih.mp found
          exact ⟨hops + 1, Nat.succ_lt_succ within, .define below known behind⟩
        next => cases found
      · rintro ⟨hops, within, reached⟩
        cases reached with
        | here below => rw [below]
        | define below known behind =>
            rw [below]
            exact Option.bind_eq_some_iff.mpr ⟨_, known,
              ih.mpr ⟨_, Nat.lt_of_succ_lt_succ within, behind⟩⟩

theorem structOf?_of_unreached
    (unreached : ∀ hops fields, ¬ package.ReachesStruct hops type fields) :
    package.structOf? type = none := by
  cases found : package.structOf? type with
  | none => rfl
  | some fields =>
      obtain ⟨hops, _, reached⟩ := structWithin?_eq_some_iff.mp found
      exact absurd reached (unreached hops fields)

end Scaffold.Package
