import Scaffold.Host.Shell.Pattern

/-!
# Fields

What a word stands for is a list of items: characters, marks of empty quotes and breaks between
fields.  `fields` cuts it at the breaks and at the separators in what was not quoted.
-/

set_option autoImplicit false

namespace Scaffold.Host.Shell

inductive Item where
  /-- A character; whether it was quoted, and whether it comes from a value, so that it may
  separate. -/
  | char (c : Char) (quoted value : Bool)
  /-- Empty quotes: there is a field even if nothing else is in it. -/
  | empty
  | break
  deriving DecidableEq, Repr, Inhabited

namespace Item

def ofText (quoted value : Bool) (text : String) : List Item :=
  if quoted && text = "" then [.empty] else text.toList.map (.char · quoted value)

def asValue : Item → Item
  | .char c false _ => .char c false true
  | item => item

/-- The characters of a pattern; breaks stand for a separator. -/
def pattern (separator : String) (items : List Item) : List PatternChar :=
  items.flatMap fun
    | .char c quoted _ => [(c, quoted)]
    | .empty => []
    | .break => separator.toList.map (·, true)

/-- The text; breaks stand for a separator. -/
def text (separator : String) (items : List Item) : String :=
  String.ofList ((pattern separator items).map (·.1))

end Item

/-- The field that is being read, and those in front of it in reverse. -/
structure FieldState where
  done : List (List PatternChar)
  current : List PatternChar
  present : Bool
  /-- A field was ended by a blank, which a separator may still follow. -/
  afterBlank : Bool

namespace FieldState

def start : FieldState := ⟨[], [], false, false⟩

def close (s : FieldState) : FieldState :=
  if s.present then { s with done := s.current.reverse :: s.done, current := [], present := false }
  else s

def isBlank (c : Char) : Bool := c = ' ' || c = '\t' || c = '\n'

/-- Takes an item; `separators` are the characters that may separate. -/
def step (separators : List Char) (s : FieldState) : Item → FieldState
  | .break => { s.close with afterBlank := false }
  | .empty => { s with present := true, afterBlank := false }
  | .char c quoted value =>
    if value && !quoted && separators.contains c then
      if isBlank c then
        if s.present then { s.close with afterBlank := true } else s
      else if s.present then { s.close with afterBlank := false }
      else if s.afterBlank then { s with afterBlank := false }
      else { s with done := [] :: s.done }
    else { s with current := (c, quoted) :: s.current, present := true, afterBlank := false }

end FieldState

def fields (separators : List Char) (items : List Item) : List (List PatternChar) :=
  (items.foldl (FieldState.step separators) .start).close.done.reverse

/-! ## Cutting a line for variables -/

/-- A character of a line, and whether a backslash protects it. -/
abbrev LineChar := Char × Bool

/-- Cuts a line into at most so many fields; the last one takes what is left, without blank
separators at its end. -/
def cutLine (separators : List Char) : Nat → List LineChar → List String
  | 0, _ => []
  | count, chars =>
    let blank (c : LineChar) : Bool := separators.contains c.1 && FieldState.isBlank c.1 && !c.2
    let separator (c : LineChar) : Bool := separators.contains c.1 && !c.2
    let chars := chars.dropWhile blank
    match count with
    | 0 => []
    | 1 =>
      let kept := (chars.reverse.dropWhile blank).reverse
      -- a single separator behind the last field is its end
      let inner := (kept.dropLast.reverse.dropWhile blank).reverse
      let single := match kept.getLast? with
        | some c => separator c && !inner.any separator
        | none => false
      let shown := if single then inner else kept
      [String.ofList (shown.map (·.1))]
    | more + 1 =>
      let field := chars.takeWhile fun c => !separator c
      let rest := (chars.dropWhile fun c => !separator c).dropWhile blank
      let rest := match rest with
        | c :: behind => if separator c && !blank c then behind else rest
        | [] => []
      String.ofList (field.map (·.1)) :: cutLine separators more rest

end Scaffold.Host.Shell
