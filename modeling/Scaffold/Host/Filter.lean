import Scaffold.FileSystem
import Scaffold.Host.Octets

/-!
# Filters

A filter reads from its input, perhaps not all of it, and from the files it is given names of; it
prints on its two outputs, in order.  Texts are those of bytes.
-/

set_option autoImplicit false

namespace Scaffold.Host

inductive Stream where
  | output
  | error
  deriving DecidableEq, Repr, Inhabited

structure Given where
  args : List String
  input : String
  files : FileSystem
  /-- The directory that relative paths start from; empty for the one of the files. -/
  directory : String

structure Filtered where
  status : Nat
  printed : List (Stream × String)
  rest : String
  files : FileSystem

abbrev Filter := Given → Filtered

namespace Given

/-- The path of a file from where the files' own paths start. -/
def located (given : Given) (path : String) : String :=
  Octets.toText (if given.directory = "" then path else Path.join given.directory path)

def read (given : Given) (path : String) : Except FileCause String :=
  (given.files.read (given.located path)).map Octets.ofBytes

/-- Ends with a status and what was printed, having read everything. -/
def ending (given : Given) (status : Nat) (printed : List (Stream × String)) : Filtered :=
  ⟨status, printed, "", given.files⟩

def refusing (given : Given) (status : Nat) (complaint : String) : Filtered :=
  ⟨status, [(.error, complaint ++ "\n")], given.input, given.files⟩

end Given

def causeText : FileCause → String
  | .notFound => "No such file or directory"
  | .isDirectory => "Is a directory"
  | .notDirectory => "Not a directory"
  | .nameTooLong => "File name too long"
  | .nullCharacter | .notText | .unknownPackage => "Invalid argument"

namespace Filtered

def on (stream : Stream) (filtered : Filtered) : String :=
  String.join ((filtered.printed.filter fun piece => piece.1 = stream).map (·.2))

end Filtered

namespace Filter

def idle (status : Nat) : Filter := fun given => ⟨status, [], given.input, given.files⟩

/-- An input of a filter that was named: its text or what is wrong with it. -/
structure Source where
  name : String
  text : Except FileCause String

/-- The inputs that names stand for, and what is left of the filter's own input: a dash names that,
which can be read once. -/
def sources (given : Given) : List String → String → List Source × String
  | [], input => ([], input)
  | name :: others, input =>
    if name = "-" || name = "/dev/stdin" then
      let (later, _) := sources given others ""
      (⟨name, .ok input⟩ :: later, "")
    else
      let (later, rest) := sources given others input
      (⟨name, if name = "/dev/null" then .ok "" else given.read name⟩ :: later, rest)

/-- The options of one letter, and the operands, which may be mixed; a letter of `taking` has a
value, behind it or as the next argument. -/
def splitOptions (taking : List Char) : List String → List (Char × String) × List String
  | [] => ([], [])
  | "--" :: rest => ([], rest)
  | arg :: rest =>
    match arg.toList with
    | '-' :: c :: more =>
      letters (c :: more) rest
    | _ =>
      let (options, operands) := splitOptions taking rest
      (options, arg :: operands)
where
  letters (chars : List Char) (rest : List String) : List (Char × String) × List String :=
    let plain := chars.takeWhile fun c => !taking.contains c
    let flags := plain.map (·, "")
    match chars.dropWhile fun c => !taking.contains c with
    | [] =>
      let (options, operands) := splitOptions taking rest
      (flags ++ options, operands)
    | c :: value =>
      if value = [] then
        match rest with
        | [] => (flags ++ [(c, "")], [])
        | value :: rest =>
          let (options, operands) := splitOptions taking rest
          (flags ++ (c, value) :: options, operands)
      else
        let (options, operands) := splitOptions taking rest
        (flags ++ (c, String.ofList value) :: options, operands)

end Filter

end Scaffold.Host
