import Scaffold.Host.ByteSet
import Scaffold.Host.Filter

/-!
# Copying and translating

Copying prints the inputs one after the other, perhaps with line numbers or with characters made
visible; translating turns the bytes of the input into others.
-/

set_option autoImplicit false

namespace Scaffold.Host.Filter

inductive Numbering where
  | none
  | all
  /-- Lines that are not empty. -/
  | filled
  deriving DecidableEq, Repr, Inhabited

structure CopyStyle where
  numbering : Numbering
  ends : Bool
  tabs : Bool
  visible : Bool
  /-- Leaves out empty lines behind an empty one. -/
  squeeze : Bool
  deriving DecidableEq, Repr

namespace CopyStyle

def plain : CopyStyle := ⟨.none, false, false, false, false⟩

def letter? (style : CopyStyle) : Char → Option CopyStyle
  | 'A' => some { style with visible := true, ends := true, tabs := true }
  | 'b' => some { style with numbering := .filled }
  | 'e' => some { style with visible := true, ends := true }
  | 'E' => some { style with ends := true }
  | 'n' => some { style with numbering := if style.numbering = .filled then .filled else .all }
  | 's' => some { style with squeeze := true }
  | 't' => some { style with visible := true, tabs := true }
  | 'T' => some { style with tabs := true }
  | 'u' => some style
  | 'v' => some { style with visible := true }
  | _ => Option.none

def longNames : List (String × String) :=
  [("--show-all", "-A"), ("--number-nonblank", "-b"), ("--show-ends", "-E"), ("--number", "-n"),
    ("--squeeze-blank", "-s"), ("--show-tabs", "-T"), ("--show-nonprinting", "-v")]

def shown (style : CopyStyle) (c : Char) : List Char :=
  if c = '\t' then if style.tabs then ['^', 'I'] else [c]
  else if !style.visible || c = '\n' then [c]
  else
    let code := c.toNat
    let (mark, low) : List Char × Nat := if 128 ≤ code then (['M', '-'], code - 128) else ([], code)
    mark ++ (if low < 32 then ['^', Char.ofNat (low + 64)]
      else if low = 127 then ['^', '?'] else [Char.ofNat low])

end CopyStyle

/-- Where a copy stands: the number of the last numbered line, whether a line has begun, and whether
the last one was empty. -/
structure CopyState where
  number : Nat
  within : Bool
  afterEmpty : Bool
  deriving DecidableEq, Repr

def numberText (n : Nat) : String :=
  let digits := Nat.toDigits 10 n
  String.ofList (List.replicate (6 - digits.length) ' ' ++ digits ++ ['\t'])

/-- Copies lines; the fuel is the length of the text. -/
def copyLines (style : CopyStyle) : Nat → CopyState → List Char → String × CopyState
  | 0, state, _ | _, state, [] => ("", state)
  | fuel + 1, state, chars =>
    let line := chars.takeWhile (· ≠ '\n')
    let behind := chars.dropWhile (· ≠ '\n')
    let empty := line = [] && !state.within
    if empty && style.squeeze && state.afterEmpty then copyLines style fuel state behind.tail
    else
      let numbered := !state.within &&
        (style.numbering = .all || (style.numbering = .filled && line ≠ []))
      let number := if numbered then state.number + 1 else state.number
      let front := if numbered then numberText number else ""
      let ending := if behind = [] then "" else if style.ends then "$\n" else "\n"
      let (later, last) := copyLines style fuel ⟨number, behind = [], empty⟩ behind.tail
      (front ++ String.ofList (line.flatMap style.shown) ++ ending ++ later, last)

def copySources (style : CopyStyle) : CopyState → List Source → List (Stream × String) × Bool
  | _, [] => ([], true)
  | state, ⟨name, .error cause⟩ :: others =>
    let (later, _) := copySources style state others
    ((.error, "cat: " ++ name ++ ": " ++ causeText cause ++ "\n") :: later, false)
  | state, ⟨_, .ok text⟩ :: others =>
    let (copied, state) :=
      if style = .plain then (text, state) else copyLines style text.length state text.toList
    let (later, fine) := copySources style state others
    ((.output, copied) :: later, fine)

def copyOptions (args : List String) : Except Char CopyStyle × List String :=
  let (options, operands) := splitOptions [] args
  (options.foldlM (fun style (letter, _) =>
    match style.letter? letter with
    | some style => .ok style
    | none => .error letter) .plain, operands)

def copy : Filter := fun given =>
  match copyOptions given.args with
  | (.error letter, _) =>
    given.refusing 1 ("cat: invalid option -- '" ++ String.singleton letter
      ++ "'\nTry 'cat --help' for more information.")
  | (.ok style, names) =>
    let (found, rest) := sources given (if names = [] then ["-"] else names) given.input
    let (printed, fine) := copySources style ⟨0, false, false⟩ found
    ⟨if fine then 0 else 1, printed, rest, given.files⟩

def translate : Filter := fun given =>
  match ByteSet.Plan.ofArguments given.args with
  | .ok plan => given.ending 0 [(.output, String.ofList (plan.apply given.input.toList))]
  | .error fault => given.refusing 1 ("tr: " ++ fault.message)

end Scaffold.Host.Filter
