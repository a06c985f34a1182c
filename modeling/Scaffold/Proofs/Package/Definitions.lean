import Scaffold.Package.Definition

/-!
# Chains of definitions

`Package.LeadsTo hops` is the relation between a type and what exactly that many definitions make of
it.  Both searches for the struct behind a type go along such a chain: `baseType` looks at what the
last of `maxHops` definitions gives, `structOf?` gives up in front of it.  So they find the same
struct on every shorter chain, and on a chain of that length only the first one finds it
(`structOf?_of_baseType`).
-/

set_option autoImplicit false

namespace Scaffold

namespace Package

variable {package : Package} {type last : GoType} {fields : List Field} {hops : Nat}

/-- A type leads to another one through a number of definitions, each that of a named type. -/
inductive LeadsTo (package : Package) : Nat → GoType → GoType → Prop where
  | here (type : GoType) : package.LeadsTo 0 type type
  | define {named : NamedType} {definition last : GoType} {hops : Nat}
      (known : package.underlying? named = some definition)
      (behind : package.LeadsTo hops definition last) :
      package.LeadsTo (hops + 1) (.named named) last

/-! ## Both searches along a chain -/

/-- What following gives is on the chain, within the allowed number of definitions. -/
theorem exists_leadsTo_follow (package : Package) (bound : Nat) (type : GoType) :
    ∃ hops ≤ bound, package.LeadsTo hops type (package.follow bound type) := by
  induction bound generalizing type with
  | zero => exact ⟨0, Nat.le_refl 0, .here _⟩
  | succ bound ih =>
      cases type with
      | named named =>
          rw [follow]
          cases known : package.underlying? named with
          | none => exact ⟨0, Nat.zero_le _, .here _⟩
          | some definition =>
              obtain ⟨hops, within, chain⟩ := ih definition
              exact ⟨hops + 1, Nat.succ_le_succ within, .define known chain⟩
      | _ => exact ⟨0, Nat.zero_le _, .here _⟩

/-- A struct is found within a bound exactly when the chain to it is shorter than the bound: on a
chain of that length the last definition is never looked at. -/
theorem LeadsTo.structWithin?_eq (chain : package.LeadsTo hops type (.struct fields))
    (bound : Nat) :
    package.structWithin? bound type = if hops < bound then some fields else none := by
  generalize isStruct : GoType.struct fields = last at chain
  induction chain generalizing bound with
  | here type =>
      subst isStruct
      cases bound <;> rfl
  | @define named definition last hops known _ ih =>
      cases bound with
      | zero => rfl
      | succ bound =>
          have next : package.structWithin? (bound + 1) (.named named) =
              package.structWithin? bound definition := by
            simp only [structWithin?, GoType.deepElement, known, Option.bind_some]
          rw [next, ih bound isStruct]
          simp only [Nat.add_lt_add_iff_right]

theorem LeadsTo.hops_eq (chain : package.LeadsTo hops type (.struct fields)) {others : List Field}
    {otherHops : Nat} (other : package.LeadsTo otherHops type (.struct others)) :
    hops = otherHops := by
  generalize isStruct : GoType.struct fields = last at chain
  induction chain generalizing otherHops with
  | here type =>
      subst isStruct
      cases other
      rfl
  | define known _ ih =>
      cases other with
      | define known' behind =>
          cases known.symm.trans known'
          rw [ih behind isStruct]

/-! ## Agreement -/

/-- When following definitions ends at a struct, the search through layers finds that struct unless
the chain to it has as many definitions as may be followed; then it finds none. -/
theorem structOf?_of_baseType (base : package.baseType type = .struct fields) :
    ∃ hops ≤ maxHops, (∀ other, package.LeadsTo other type (.struct fields) ↔ other = hops) ∧
      package.structOf? type = if hops < maxHops then some fields else none := by
  obtain ⟨hops, within, chain⟩ := exists_leadsTo_follow package maxHops type
  rw [show package.follow maxHops type = .struct fields from base] at chain
  refine ⟨hops, within, fun other => ⟨fun otherChain => otherChain.hops_eq chain, ?_⟩,
    chain.structWithin?_eq maxHops⟩
  rintro rfl
  exact chain

end Package

/-- A struct behind a number of definitions that the type itself spells out. -/
def GoType.linked (fields : List Field) : Nat → GoType
  | 0 => .struct fields
  | links + 1 => .named ⟨none, "Link", [], some (linked fields links)⟩

namespace Package

theorem leadsTo_linked (package : Package) (fields : List Field) :
    ∀ links, package.LeadsTo links (.linked fields links) (.struct fields)
  | 0 => .here _
  | links + 1 => .define rfl (package.leadsTo_linked fields links)

/-- The longest chain on which both searches find the struct. -/
theorem structOf?_of_baseType_linked :
    let package : Package := ⟨"shop", "example.com/shop", [], []⟩
    let fields : List Field := [⟨"Name", .basic .string, "", false⟩]
    let type := GoType.linked fields 63
    package.baseType type = .struct fields ∧ package.structOf? type = some fields := by
  intro package fields type
  have base : package.baseType type = .struct fields := rfl
  obtain ⟨hops, _, only, found⟩ := structOf?_of_baseType base
  obtain rfl : 63 = hops := (only 63).mp (package.leadsTo_linked fields 63)
  exact ⟨base, found⟩

/-- With one more definition the struct is still what the type is defined as, but it is not
found. -/
theorem structOf?_at_bound :
    let package : Package := ⟨"shop", "example.com/shop", [], []⟩
    let fields : List Field := [⟨"Name", .basic .string, "", false⟩]
    let type := GoType.linked fields 64
    package.baseType type = .struct fields ∧ package.structOf? type = none ∧
      ¬ ∀ (package : Package) (type : GoType) (fields : List Field),
        package.baseType type = .struct fields → package.structOf? type = some fields := by
  intro package fields type
  have base : package.baseType type = .struct fields := rfl
  have missed : package.structOf? type = none := rfl
  refine ⟨base, missed, fun agree => ?_⟩
  cases missed.symm.trans (agree package type fields base)

end Package

end Scaffold
