/-!
# Arguments of programs

Arguments that start with a dash are options: letters, some of which have a value behind them or as
the next argument, or long names, which may be cut short as long as they stand for one option.  All
others are operands, and so is everything behind two dashes.
-/

set_option autoImplicit false

namespace Scaffold.Host

structure OptionSet where
  flags : List Char
  valued : List Char
  names : List (String × Char)
  mixed : Bool
  deriving Repr

inductive OptionFault where
  | unknownLetter (letter : Char)
  | unknownName (text : String)
  | ambiguous (text : String) (names : List String)
  | valueMissing (letter : Char)
  | valueOfNameMissing (name : String)
  | valueUnexpected (name : String)
  deriving DecidableEq, Repr

/-- The complaint, which a hint at the help of the program follows. -/
def OptionFault.message (program : String) (fault : OptionFault) : String :=
  (match fault with
    | unknownLetter letter => "invalid option -- '" ++ String.singleton letter ++ "'"
    | unknownName text => "unrecognized option '--" ++ text ++ "'"
    | ambiguous text names => "option '--" ++ text ++ "' is ambiguous; possibilities:"
        ++ String.join (names.map fun name => " '--" ++ name ++ "'")
    | valueMissing letter => "option requires an argument -- '" ++ String.singleton letter ++ "'"
    | valueOfNameMissing name => "option '--" ++ name ++ "' requires an argument"
    | valueUnexpected name => "option '--" ++ name ++ "' doesn't allow an argument")
  ++ "\nTry '" ++ program ++ " --help' for more information."

/-- What has been read of an argument list: the options with their values, which are empty where
there are none, in front of the first fault. -/
structure Arguments where
  options : List (Char × String)
  operands : List String
  fault : Option OptionFault
  deriving DecidableEq, Repr

namespace OptionSet

/-- The options whose long name starts as the text does; a name that is the whole text stands
alone. -/
def named (known : OptionSet) (text : String) : List (String × Char) :=
  let found := known.names.filter fun (name, _) => text.toList.isPrefixOf name.toList
  match found.find? fun (name, _) => name = text with
  | some option => [option]
  | none => found

/-- The letters in one argument, up to the first that has a value or is not known, and what follows
that one. -/
def letters (known : OptionSet) : List Char → List Char × Option (Char × List Char)
  | [] => ([], none)
  | c :: rest =>
    if known.flags.contains c then
      let (flags, last) := known.letters rest
      (c :: flags, last)
    else ([], some (c, rest))

end OptionSet

namespace Arguments

def ofOperands (operands : List String) : Arguments := ⟨[], operands, none⟩

def ofFault (fault : OptionFault) : Arguments := ⟨[], [], some fault⟩

def behind (options : List (Char × String)) (later : Arguments) : Arguments :=
  { later with options := options ++ later.options }

def read (known : OptionSet) : List String → Arguments
  | [] => ofOperands []
  | "--" :: rest => ofOperands rest
  | arg :: rest =>
    match arg.toList with
    | '-' :: '-' :: text =>
      let name := String.ofList (text.takeWhile (· ≠ '='))
      match known.named name with
      | [] => ofFault (.unknownName (String.ofList text))
      | (full, letter) :: others =>
        if others.any fun other => other.2 ≠ letter then
          ofFault (.ambiguous (String.ofList text) (full :: others.map (·.1)))
        else
          match text.dropWhile (· ≠ '='), known.valued.contains letter with
          | [], false => behind [(letter, "")] (read known rest)
          | _ :: value, true => behind [(letter, String.ofList value)] (read known rest)
          | _ :: _, false => ofFault (.valueUnexpected full)
          | [], true =>
            match rest with
            | [] => ofFault (.valueOfNameMissing full)
            | value :: rest => behind [(letter, value)] (read known rest)
    | '-' :: c :: more =>
      let (flags, last) := known.letters (c :: more)
      behind (flags.map (·, ""))
        (match last with
          | none => read known rest
          | some (letter, value) =>
            if !known.valued.contains letter then ofFault (.unknownLetter letter)
            else if value ≠ [] then behind [(letter, String.ofList value)] (read known rest)
            else
              match rest with
              | [] => ofFault (.valueMissing letter)
              | value :: rest => behind [(letter, value)] (read known rest))
    | _ =>
      if known.mixed then
        let later := read known rest
        { later with operands := arg :: later.operands }
      else ofOperands (arg :: rest)

def value? (arguments : Arguments) (letter : Char) : Option String :=
  (arguments.options.reverse.find? fun option => option.1 = letter).map (·.2)

def has (arguments : Arguments) (letter : Char) : Bool := (arguments.value? letter).isSome

end Arguments

end Scaffold.Host
