import Scaffold.Host.Shell.Fields
import Scaffold.Host.Shell.Printf
import Scaffold.Host.Shell.Session
import Scaffold.Host.Shell.Test

/-!
# Commands of the shell itself

These commands run within the shell and change its session.  They print on its streams, complain
under their own names and give a status.  The ones that run other commands are not here.
-/

set_option autoImplicit false

namespace Scaffold.Host.Shell

namespace Builtin

open Act
open Program (Status)

def say (text : String) : Act Nat := do
  if ← emit 1 text then return 0
  else
    let command := ((← session).command).getD ""
    complain (command ++ ": I/O error")
    return 1

/-! ## Numbers and options -/

def natural (arg : String) : Act Nat := do
  match if arg.toList.all Char.isDigit then arg.toNat? else none with
  | some n => return n
  | none => fail ("Illegal number: " ++ arg)

/-- The option letters in front, which must be known, and the operands. -/
def options (known : List Char) : List String → Act (List Char × List String)
  | [] => return ([], [])
  | "--" :: rest => return ([], rest)
  | arg :: rest =>
    match arg.toList with
    | '-' :: c :: more => do
      match (c :: more).find? fun c => !known.contains c with
      | some c => fail ("Illegal option -" ++ String.singleton c)
      | none =>
        let (letters, operands) ← options known rest
        return (c :: more ++ letters, operands)
    | _ => return ([], arg :: rest)

/-! ## Showing -/

/-- A text in quotes, from which the shell would read it back. -/
def quoted (text : String) : String :=
  let rec pieces : Nat → List Char → List String
    | 0, _ | _, [] => []
    | fuel + 1, chars =>
      let plain := chars.takeWhile (· ≠ '\'')
      let behind := chars.dropWhile (· ≠ '\'')
      let quotes := behind.takeWhile (· = '\'')
      (if plain = [] then "" else "'" ++ String.ofList plain ++ "'")
        :: (if quotes = [] then "" else "\"" ++ String.ofList quotes ++ "\"")
        :: pieces fuel (behind.dropWhile (· = '\''))
  if text = "" then "''" else String.join (pieces text.length text.toList)

def sorted {α : Type} (entries : List (String × α)) : List (String × α) :=
  entries.mergeSort fun a b => a.1 ≤ b.1

def showVariables (front : String) (wanted : Variable → Bool) : Act Nat := do
  let shown := (sorted (← session).vars).filterMap fun (name, var) =>
    if wanted var then
      match var.value with
      | some value => some (front ++ name ++ "=" ++ quoted value ++ "\n")
      | none => if front = "" then none else some (front ++ name ++ "\n")
    else none
  say (String.join shown)

/-! ## Variables -/

/-- Marks variables, assigning to them where a value is given. -/
def mark (change : Variable → Variable) : List String → Act Unit
  | [] => return ()
  | arg :: rest => do
    let (name, value) := match splitAssignment? arg with
      | some (name, value) => (name, some value)
      | none => (arg, none)
    if !isName name then fail (arg ++ ": bad variable name")
    if let some value := value then assign name value
    let var := (← findVariable name).getD ⟨none, false, false⟩
    setVariable name (change var)
    mark change rest

def marking (command : String) (wanted : Variable → Bool) (change : Variable → Variable)
    (args : List String) : Act Nat := do
  let (letters, names) ← options ['p'] args
  if names = [] || letters.contains 'p' then showVariables (command ++ " ") wanted
  else
    mark change names
    return 0

def unset (args : List String) : Act Nat := do
  let (letters, names) ← options ['f', 'v'] args
  for name in names do
    if letters.contains 'f' then
      changeSession fun s => { s with functions := s.functions.filter (·.1 ≠ name) }
    else
      if !isName name then fail (name ++ ": bad variable name")
      if ((← findVariable name).map (·.readOnly)).getD false then fail (name ++ ": is read only")
      dropVariable name
  return 0

def makeLocal (args : List String) : Act Nat := do
  match (← session).locals with
  | [] => fail "not in a function"
  | frame :: outer =>
    let mut frame := frame
    for arg in args do
      let (name, value) := match splitAssignment? arg with
        | some (name, value) => (name, some value)
        | none => (arg, none)
      if !isName name then fail (arg ++ ": bad variable name")
      if (frame.lookup name).isNone then frame := (name, ← findVariable name) :: frame
      changeSession fun s => { s with locals := frame :: outer }
      if let some value := value then assign name value
    return 0

/-! ## Options and arguments of the shell -/

/-- The options of the shell, by letter and name, in the order in which they are shown. -/
def flagNames : List (Option Char × String) :=
  [(some 'e', "errexit"), (some 'f', "noglob"), (some 'I', "ignoreeof"), (some 'i', "interactive"),
    (some 'm', "monitor"), (some 'n', "noexec"), (some 's', "stdin"), (some 'x', "xtrace"),
    (some 'v', "verbose"), (some 'V', "vi"), (some 'E', "emacs"), (some 'C', "noclobber"),
    (some 'a', "allexport"), (some 'b', "notify"), (some 'u', "nounset"), (none, "nolog"),
    (none, "debug")]

/-- The options that are on, as `$-` shows them. -/
def flagText (flags : List Char) : String :=
  String.ofList ((flagNames.filterMap (·.1)).filter flags.contains)

def switch (on : Bool) (letter : Char) : Act Unit :=
  changeSession fun s =>
    let others := s.flags.filter (· ≠ letter)
    { s with flags := if on then letter :: others else others }

def showFlags (on : Bool) : Act Nat := do
  let flags := (← session).flags
  let isOn (letter : Option Char) : Bool := letter.any flags.contains
  if on then
    say ("Current option settings\n" ++ String.join (flagNames.map fun (letter, name) =>
      name ++ String.ofList (List.replicate (16 - name.length) ' ')
        ++ (if isOn letter then "on" else "off") ++ "\n"))
  else
    say (String.join (flagNames.map fun (letter, name) =>
      "set " ++ (if isOn letter then "-o " else "+o ") ++ name ++ "\n"))

/-- Switches the options in front; gives the arguments behind them, if there are to be new ones, and
whether the options are to be shown. -/
def switchAll : List String → Act (Option (List String) × Option Bool)
  | [] => return (none, none)
  | "--" :: rest => return (some rest, none)
  | "-" :: rest => do
    switch false 'x'
    switch false 'v'
    return (if rest = [] then none else some rest, none)
  | "-o" :: name :: rest => named true name rest
  | "+o" :: name :: rest => named false name rest
  | ["-o"] => return (none, some true)
  | ["+o"] => return (none, some false)
  | arg :: rest =>
    match arg.toList with
    | sign :: c :: more => do
      if sign = '-' || sign = '+' then
        for letter in c :: more do
          if letter = 'c' && sign = '-' then fail "Illegal option -c"
          else if flagNames.any fun (known, _) => known = some letter then
            switch (sign = '-') letter
          else fail ("Illegal option " ++ String.ofList [sign, letter])
        switchAll rest
      else return (some (arg :: rest), none)
    | _ => return (some (arg :: rest), none)
where
  named (on : Bool) (name : String) (rest : List String) :
    Act (Option (List String) × Option Bool) := do
    match flagNames.find? fun (_, known) => known = name with
    | none => fail ("Illegal option " ++ (if on then "-o " else "+o ") ++ name)
    | some (some letter, _) =>
      switch on letter
      switchAll rest
    | some (none, _) => switchAll rest

def set (args : List String) : Act Nat := do
  if args = [] then showVariables "" fun _ => true
  else
    let (arguments, shown) ← switchAll args
    if let some arguments := arguments then
      changeSession fun s => { s with arguments := arguments, optionsRead := 0 }
    match shown with
    | some on => showFlags on
    | none => return 0

def shift (args : List String) : Act Nat := do
  let count ← match args with
    | [] => pure 1
    | arg :: _ => natural arg
  let arguments := (← session).arguments
  if arguments.length < count then fail "can't shift that many"
  changeSession fun s => { s with arguments := arguments.drop count }
  return 0

def getopts (args : List String) : Act Nat := do
  match args with
  | letters :: name :: given =>
    let own := (← session).arguments
    let arguments := if given = [] then own else given
    let index := match ((← value? "OPTIND").getD "1").toNat? with
      | some n => if n = 0 then 1 else n
      | none => 1
    let offset := (← session).optionsRead
    let current := (arguments[index - 2]?).getD ""
    let left := if offset = 0 || index < 2 then [] else current.toList.drop offset
    let quiet := letters.toList.head? = some ':'
    let finish (found : Char) (index offset status : Nat) : Act Nat := do
      assign "OPTIND" (toString index)
      changeSession fun s => { s with optionsRead := offset }
      if !isName name then fail (name ++ ": bad variable name")
      assign name (String.singleton found)
      return status
    let start : Option (List Char × Nat × Nat) :=
      if left ≠ [] then some (left, index, offset)
      else match arguments[index - 1]? with
        | some arg =>
          match arg.toList with
          | '-' :: c :: more =>
              if c = '-' && more = [] then none else some (c :: more, index + 1, 1)
          | _ => none
        | none => none
    match start with
    | none =>
      let index := if left = [] && arguments[index - 1]? = some "--" then index + 1 else index
      finish '?' index 0 1
    | some ([], _, _) => finish '?' index 0 1
    | some (c :: more, index, offset) =>
      let known := letters.toList.dropWhile fun letter => letter ≠ c || c = ':'
      match known with
      | [] =>
        if quiet then assign "OPTARG" (String.singleton c)
        else
          let _ ← emit 2 ("Illegal option -" ++ String.singleton c ++ "\n")
          dropVariable "OPTARG"
        finish '?' index (if more = [] then 0 else offset + 1) 0
      | _ :: ':' :: _ =>
        if more ≠ [] then
          assign "OPTARG" (String.ofList more)
          finish c index 0 0
        else match arguments[index - 1]? with
          | some arg =>
            assign "OPTARG" arg
            finish c (index + 1) 0 0
          | none =>
            if quiet then
              assign "OPTARG" (String.singleton c)
              finish ':' index 0 0
            else
              let _ ← emit 2 ("No arg for -" ++ String.singleton c ++ " option\n")
              dropVariable "OPTARG"
              finish '?' index 0 0
      | _ =>
        assign "OPTARG" ""
        finish c index (if more = [] then 0 else offset + 1) 0
  | _ => fail "Usage: getopts optstring var [arg...]"

/-! ## Reading -/

/-- The characters of a line with their protection, what is left to read, and whether the line has
ended; with `raw` a backslash protects nothing. -/
def takeLine (raw : Bool) : List Char → List LineChar × List Char × Bool
  | [] => ([], [], false)
  | '\n' :: rest => ([], rest, true)
  | '\\' :: c :: rest =>
    if raw then
      let (line, left, ended) := takeLine raw (c :: rest)
      (('\\', false) :: line, left, ended)
    else if c = '\n' then takeLine raw rest
    else
      let (line, left, ended) := takeLine raw rest
      ((c, true) :: line, left, ended)
  | c :: rest =>
    let (line, left, ended) := takeLine raw rest
    (if c = '\x00' || (c = '\\' && !raw) then line else (c, false) :: line, left, ended)

def separators : Act (List Char) := return ((← value? "IFS").getD " \t\n").toList

/-- Assigns texts to names, an empty one where none is left. -/
def assignEach : List String → List String → Act Unit
  | [], _ => return ()
  | name :: names, texts => do
    assign name (texts.headD "")
    assignEach names texts.tail

def withoutPrompt : List String → List String
  | "-p" :: _ :: rest => withoutPrompt rest
  | "-rp" :: _ :: rest => "-r" :: withoutPrompt rest
  | arg :: rest => if arg = "-r" then arg :: withoutPrompt rest else arg :: rest
  | [] => []

def read (args : List String) : Act Nat := do
  let (letters, names) ← options ['r'] (withoutPrompt args)
  if names = [] then fail "arg count"
  for name in names do
    if !isName name then fail (name ++ ": bad variable name")
  match ← descriptor? 0 with
  | none =>
    assignEach names []
    return 1
  | some d =>
    let (line, left, ended) := takeLine (letters.contains 'r') (← unread d.channel).toList
    leaveUnread d.channel (String.ofList left)
    assignEach names (cutLine (← separators) names.length line)
    return if ended then 0 else 1

/-! ## Directories and files -/

def nodeAt? (path : String) : Act (Option Node) := do
  let files := (← world).files
  match files.locate (Octets.toText (← located path)) with
  | .ok location => return files.node? location
  | .error _ => return none

def workingDirectory : Act String := do
  let files := (← world).files
  match files.locate (Octets.toText (← located ".")) with
  | .ok location => return "/" ++ "/".intercalate (location.map Octets.ofText)
  | .error _ => return "/"

def changeDirectory (args : List String) : Act Nat := do
  let (_, operands) ← options ['L', 'P'] args
  let target ← match operands with
    | [] => pure ((← value? "HOME").getD "")
    | "-" :: _ => pure ((← value? "OLDPWD").getD ".")
    | dir :: _ => pure dir
  let old ← workingDirectory
  if target = "" then return 0
  match ← nodeAt? target with
  | some .directory =>
    let directory ← located target
    changeSession fun s => { s with directory := directory }
    let new ← workingDirectory
    changeSession fun s => { s with directory := new }
    assign "OLDPWD" old
    assign "PWD" new
    if operands.head? = some "-" then say (new ++ "\n") else return 0
  | _ =>
    fail ("can't cd to " ++ target)

def facts : Act Test.Facts := do
  let files := (← world).files
  let directory := (← session).directory
  let located (path : String) : String :=
    Octets.toText (if directory = "" then path else Path.join directory path)
  return {
    node? := fun path =>
      if ["/dev/null", "/dev/stdin", "/dev/stdout", "/dev/stderr"].contains path then
        some (.file [])
      else match files.locate (located path) with
        | .ok location => files.node? location
        | .error _ => none
    writable := fun _ => true
    isTerminal := fun _ => false }

def test (args : List String) : Act Nat := do
  match Test.evaluate (← facts) (args.length + 1) args with
  | .ok value => return if value then 0 else 1
  | .error fault => fail fault.message

/-! ## Signals -/

def signalNames : List String :=
  Status.signalNames.map fun name => String.ofList (name.toList.drop 3)

/-- The number of a signal, given as a number or by its name; zero is the end of the shell. -/
def signal? (text : String) : Option Nat :=
  match if text.toList.all Char.isDigit then text.toNat? else none with
  | some n => if n ≤ 64 then some n else none
  | none =>
    let name := text.toUpper
    if name = "EXIT" then some 0
    else if name = "STKFLT" then none
    else (signalNames.findIdx? (· = name)).map (· + 1)

def signalName (signal : Nat) : String :=
  if signal = 0 then "EXIT"
  else if signal = 16 then "16"
  else (signalNames[signal - 1]?).getD (toString signal)

def killTargets : List String → Act (Nat × List String)
  | "-s" :: name :: targets => do
    match signal? name with
    | some n => return (n, if targets.head? = some "--" then targets.tail else targets)
    | none => fail ("invalid signal number or name: " ++ name)
  | "--" :: targets => return (15, targets)
  | arg :: targets =>
    match arg.toList with
    | '-' :: c :: name =>
      match signal? (String.ofList (c :: name)) with
      | some n => return (n, if targets.head? = some "--" then targets.tail else targets)
      | none => fail ("Illegal option -" ++ String.singleton c)
    | _ => return (15, arg :: targets)
  | [] => return (15, [])

def allSignals : String :=
  "0\n" ++ String.join ((List.range 31).map fun n => signalName (n + 1) ++ "\n") ++ "32\n33\n"
    ++ "RTMIN\n" ++ String.join ((List.range 15).map fun n => "RTMIN+" ++ toString (n + 1) ++ "\n")
    ++ String.join ((List.range 14).map fun n => "RTMAX-" ++ toString (14 - n) ++ "\n") ++ "RTMAX\n"

def kill (args : List String) : Act Nat := do
  match args with
  | ["-l"] => say allSignals
  | "-l" :: code :: _ =>
    let n ← natural code
    let signal := if 128 < n then n - 128 else n
    if signal = 0 || 64 < signal then fail ("invalid signal number or exit status: " ++ code)
    say (signalName signal ++ "\n")
  | _ =>
    let (signal, targets) ← killTargets args
    if targets = [] then
      fail ("Usage: kill [-s sigspec | -signum | -sigspec] [pid | job]... or\nkill -l [exitstatus]")
    let mut status := 0
    for target in targets do
      let process ← natural target
      let known := (← session).process :: (← world).waiting
      if known.contains process then
        if signal ≠ 0 then
          changeWorld fun w => { w with signals := w.signals ++ [(process, signal)] }
      else
        complain "No such process\n"
        status := 1
    return status

def trap (args : List String) : Act Nat := do
  let args := if args.head? = some "--" then args.tail else args
  match args with
  | [] =>
    let order := (← session).traps.mergeSort fun a b => a.1 ≤ b.1
    say (String.join (order.map fun (signal, action) =>
      "trap -- " ++ quoted action ++ " " ++ signalName signal ++ "\n"))
  | first :: rest =>
    let (action, signals) := if rest = [] then (none, args) else (some first, rest)
    let mut status := 0
    for name in signals do
      match signal? name with
      | none =>
        let _ ← emit 2 ("trap: " ++ name ++ ": bad trap\n")
        status := 1
      | some signal =>
        changeSession fun s =>
          let others := s.traps.filter (·.1 ≠ signal)
          { s with
            traps := match action with
              | none => others
              | some "-" => others
              | some text => others ++ [(signal, text)] }
    return status

/-! ## Jobs and limits -/

def wait (args : List String) : Act Nat := do
  match args.getLast? with
  | none => return 0
  | some arg =>
    let process ← natural arg
    return ((← world).jobs.lookup process).getD 127

def maskText (mask : Nat) : String :=
  let digits := Nat.toDigits 8 mask
  String.ofList (List.replicate (4 - digits.length) '0' ++ digits)

def mask (args : List String) : Act Nat := do
  match args with
  | [] => say (maskText (← session).mask ++ "\n")
  | "-S" :: _ =>
    let mask := (← session).mask
    let rights (digit : Nat) : String :=
      (if digit / 4 % 2 = 0 then "r" else "") ++ (if digit / 2 % 2 = 0 then "w" else "")
        ++ (if digit % 2 = 0 then "x" else "")
    say ("u=" ++ rights (mask / 64) ++ ",g=" ++ rights (mask / 8 % 8) ++ ",o=" ++
      rights (mask % 8) ++ "\n")
  | arg :: _ =>
    if arg.toList.all Escape.isOctal && arg ≠ "" then
      changeSession fun s => { s with mask := (Escape.octal 9 0 arg.toList).1 % 512 }
      return 0
    else fail ("Illegal number: " ++ arg)

def aliasWords (args : List String) : Act Nat := do
  if args = [] then
    say (String.join ((sorted (← session).aliases).map fun (name, text) =>
      name ++ "=" ++ quoted text ++ "\n"))
  else
    let mut status := 0
    for arg in args do
      match arg.toList.dropWhile (· ≠ '=') with
      | _ :: text =>
        let name := String.ofList (arg.toList.takeWhile (· ≠ '='))
        changeSession fun s => { s with aliases := put name (String.ofList text) s.aliases }
      | [] =>
        match (← session).aliases.lookup arg with
        | some text =>
          let _ ← say (arg ++ "=" ++ quoted text ++ "\n")
        | none =>
          let _ ← emit 2 ("alias: " ++ arg ++ " not found\n")
          status := 1
    return status

def unalias (args : List String) : Act Nat := do
  let (letters, names) ← options ['a'] args
  if letters.contains 'a' then changeSession fun s => { s with aliases := [] }
  let mut status := 0
  for name in names do
    if ((← session).aliases.lookup name).isNone then
      let _ ← emit 2 ("unalias: " ++ name ++ " not found\n")
      status := 1
    changeSession fun s => { s with aliases := s.aliases.filter (·.1 ≠ name) }
  return status

/-! ## Leaving -/

def leaveLoop (again : Bool) (args : List String) : Act Nat := do
  let count ← match args with
    | [] => pure 1
    | arg :: _ => do
      let n ← natural arg
      if n = 0 then fail ("Illegal number: " ++ arg) else pure n
  let loops := (← session).loops
  if loops = 0 then return 0
  else throw (if again then .nextRound (min count loops) else .leaveLoops (min count loops))

def returning (args : List String) : Act Nat := do
  let status ← match args with
    | [] => pure (← session).status
    | arg :: _ => natural arg
  throw (.return status)

def exit (args : List String) : Act Nat := do
  let status ← match args with
    | [] => pure (← session).status
    | arg :: _ => natural arg
  throw (.leave (status % 256))

def plain? (name : String) : Option (List String → Act Nat) :=
  match name with
  | ":" | "true" => some fun _ => return 0
  | "false" => some fun _ => return 1
  | "echo" => some fun args => say (Printf.echo args)
  | "printf" => some printf
  | "test" => some test
  | "[" => some fun args =>
      if args.getLast? = some "]" then test args.dropLast else fail "missing ]"
  | "read" => some read
  | "cd" | "chdir" => some changeDirectory
  | "pwd" => some fun _ => do say ((← workingDirectory) ++ "\n")
  | "set" => some set
  | "shift" => some shift
  | "export" => some (marking "export" (·.exported) fun v => { v with exported := true })
  | "readonly" => some (marking "readonly" (·.readOnly) fun v => { v with readOnly := true })
  | "unset" => some unset
  | "local" => some makeLocal
  | "getopts" => some getopts
  | "kill" => some kill
  | "trap" => some trap
  | "wait" => some wait
  | "jobs" => some fun _ => return 0
  | "fg" | "bg" => some fun _ => fail "No current job"
  | "umask" => some mask
  | "ulimit" => some fun _ => say "unlimited\n"
  | "times" => some fun _ => say "0m0.000000s 0m0.000000s\n0m0.000000s 0m0.000000s\n"
  | "alias" => some aliasWords
  | "unalias" => some unalias
  | "break" => some (leaveLoop false)
  | "continue" => some (leaveLoop true)
  | "return" => some returning
  | "exit" => some exit
  | _ => none
where
  printf (args : List String) : Act Nat := do
    let (_, operands) ← options [] args
    match operands with
    | [] => fail "usage: printf format [arg ...]"
    | format :: values =>
      let filled := Printf.fill format values
      for complaint in filled.complaints do complain complaint
      let status ← say filled.text
      match filled.fault with
      | some text => fail text
      | none => return if filled.complaints = [] then status else 1

/-- Commands whose faults end the shell, and whose assignments stay. -/
def special : List String :=
  [".", ":", "break", "continue", "eval", "exec", "exit", "export", "readonly", "return", "set",
    "shift", "times", "trap", "unset"]

def assigning : List String := ["export", "readonly", "local", "alias"]

def isKnown (name : String) : Bool :=
  (plain? name).isSome || [".", "eval", "exec", "command", "type", "hash"].contains name

end Builtin

end Scaffold.Host.Shell
