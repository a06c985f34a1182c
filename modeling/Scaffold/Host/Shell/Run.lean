import Scaffold.Host.Filter.Known
import Scaffold.Host.Shell.Builtin
import Scaffold.Host.Shell.Reader

/-!
# Running shell scripts

Words are expanded, redirections are made and commands are run, in the order in which a shell does
so.  The recursion takes fuel, of which `run` gives so much that only a script without an end uses
it up.
-/

set_option autoImplicit false

namespace Scaffold.Host.Shell

namespace Run

open Act
open Program (Status)

/-! ## Parameters -/

inductive Looked where
  | unset
  | text (text : String)
  /-- All arguments; the flag: to be joined when quoted. -/
  | all (arguments : List String) (joins : Bool)

def lookUp (name : String) : Act Looked := do
  let s ← session
  match name with
  | "@" => return .all s.arguments false
  | "*" => return .all s.arguments true
  | "#" => return .text (toString s.arguments.length)
  | "?" => return .text (toString s.status)
  | "-" => return .text (Builtin.flagText s.flags)
  | "$" => return .text (toString s.root)
  | "!" => return (s.lastJob.map fun job => Looked.text (toString job)).getD .unset
  | "0" => return .text s.name
  | _ =>
    match if name.toList.all Char.isDigit then name.toNat? else none with
    | some n => return (s.arguments[n - 1]?.map Looked.text).getD .unset
    | none => return ((← value? name).map Looked.text).getD .unset

def joint : Act String := do
  match ← value? "IFS" with
  | none => return " "
  | some separators => return String.ofList (separators.toList.take 1)

/-- The items of a parameter, which may become several fields where splitting is allowed. -/
def itemsOf (split quoted : Bool) : Looked → Act (List Item)
  | .unset => return Item.ofText quoted true ""
  | .text text => return Item.ofText quoted true text
  | .all arguments joins => do
    if split && (!quoted || !joins) then
      return (arguments.map (Item.ofText quoted true)).intersperse [.break] |>.flatten
    else return Item.ofText quoted true ((← joint).intercalate arguments)

def textOf? : Looked → Act (Option String)
  | .unset => return none
  | .text text => return some text
  | .all arguments _ => do
    if arguments = [] then return none else return some ((← joint).intercalate arguments)

/-! ## Files -/

/-- The entries of a directory, given by a path that is empty or ends in a slash. -/
def entriesOf (front : String) : Act (List String) := do
  let files := (← world).files
  match files.locate (Octets.toText (← located (if front = "" then "." else front))) with
  | .ok location => return (files.entries location).map Octets.ofText
  | .error _ => return []

def pieces (pattern : List PatternChar) : List (List PatternChar) :=
  let (first, others) := pattern.foldr (fun c (first, others) =>
    if c.1 = '/' then ([], first :: others) else (c :: first, others)) ([], [])
  first :: others

/-- The paths that go on from some paths by a pattern's pieces. -/
def pathsBehind (fronts : List String) : List (List PatternChar) → Act (List String)
  | [] => return fronts
  | piece :: others => do
    let plain := String.ofList (piece.map (·.1))
    let hidden := plain.toList.head? = some '.'
    let mut found : List String := []
    for front in fronts do
      if hasMagic piece then
        let names ← entriesOf front
        found := found ++ (names.filter fun name =>
          (hidden || name.toList.head? ≠ some '.') &&
            matchesPattern piece name.toList).map (front ++ ·)
      else found := found ++ [front ++ plain]
    pathsBehind (if others = [] then found else found.map (· ++ "/")) others

def globbed (field : List PatternChar) : Act (List String) := do
  let plain := String.ofList (field.map (·.1))
  if (← session).flags.contains 'f' || !hasMagic field then return [plain]
  else
    let paths ← pathsBehind [""] (pieces field)
    let mut found : List String := []
    for path in paths do
      if (← Builtin.nodeAt? path).isSome then found := found ++ [path]
    if found = [] then return [plain] else return found.mergeSort (· ≤ ·)

def piecesBetween (separator : Char) (text : String) : List String :=
  (Text.pieces separator text.toList).map String.ofList

def home? (name : String) : Act (Option String) := do
  if name = "" then value? "HOME" else if name = "root" then return some "/root" else return none

/-- A tilde in front of a text becomes a home directory; in an assignment also behind colons. -/
def withHome (behindColons : Bool) (text : String) : Act String := do
  let single (piece : String) : Act String := do
    match piece.toList with
    | '~' :: rest =>
      let name := String.ofList (rest.takeWhile (· ≠ '/'))
      match ← home? name with
      | some dir => return dir ++ String.ofList (rest.dropWhile (· ≠ '/'))
      | none => return piece
    | _ => return piece
  if behindColons then
    return ":".intercalate (← (piecesBetween ':' text).mapM single)
  else single text

/-! ## Redirections -/

def openToRead (path : String) : Act (Option Descriptor) := do
  let files := (← world).files
  if path = "/dev/null" then return some ⟨← addChannel .void, true, false⟩
  else match files.read (Octets.toText (← located path)) with
    | .ok _ => return some ⟨← addChannel (.file (← located path) 0 false), true, false⟩
    | .error .isDirectory =>
        return some ⟨← addChannel (.file (← located path) 0 false), true, false⟩
    | .error _ => return none

/-- Opens a file for writing, empty or behind what it holds. -/
def openToWrite (path : String) (keep readable : Bool) : Act (Except String Descriptor) := do
  if path = "/dev/null" then return .ok ⟨← addChannel .void, readable, true⟩
  else
    let at_ ← located path
    let old := (← world).files.read (Octets.toText at_)
    let content := match old with
      | .ok bytes => if keep then bytes else []
      | .error _ => []
    match (← world).files.write (Octets.toText at_) content with
    | .ok files =>
      changeWorld fun w => { w with files := files }
      return .ok ⟨← addChannel (.file at_ 0 (keep && !readable)), readable, true⟩
    | .error .isDirectory => return .error "Is a directory"
    | .error .nameTooLong => return .error "File name too long"
    | .error _ => return .error "Directory nonexistent"

def deviceStream? (path : String) : Option Nat :=
  match [("/dev/stdin", 0), ("/dev/stdout", 1), ("/dev/stderr", 2)].lookup path with
  | some stream => some stream
  | none =>
    if "/dev/fd/".toList.isPrefixOf path.toList then
      (String.ofList (path.toList.drop 8)).toNat?
    else none

def connect (stream : Nat) (direction : Direction) (target : String) : Act Unit := do
  match direction with
  | .document _ =>
    let index ← addChannel (.pipe target)
    setDescriptor stream (some ⟨index, true, false⟩)
  | .copyInput | .copyOutput =>
    if target = "-" then setDescriptor stream none
    else
      match target.toList with
      | [c] =>
          match ← descriptor? (c.toNat - '0'.toNat) with
          | some d => setDescriptor stream (some d)
          | none => fail (target ++ ": Bad file descriptor")
      | _ => return ()
  | _ =>
    match deviceStream? target with
    | some device =>
      match ← descriptor? device with
      | some d => setDescriptor stream (some d)
      | none => fail ("cannot open " ++ target ++ ": No such file")
    | none =>
      match direction with
      | .read =>
        match ← openToRead target with
        | some d => setDescriptor stream (some d)
        | none => fail ("cannot open " ++ target ++ ": No such file")
      | _ =>
        let exists_ := (← Builtin.nodeAt? target).isSome
        if direction = .write && (← session).flags.contains 'C' && exists_ &&
          target ≠ "/dev/null" then
          fail ("cannot create " ++ target ++ ": File exists")
        match ← openToWrite target (direction = .append || direction = .readWrite)
            (direction = .readWrite) with
        | .ok d => setDescriptor stream (some d)
        | .error cause => fail ("cannot create " ++ target ++ ": " ++ cause)

structure Target where
  stream : Nat
  direction : Direction
  text : String

def connectAll : List Target → Act Unit
  | [] => return ()
  | target :: rest => do
    connect target.stream target.direction target.text
    connectAll rest

/-- Runs an act with redirections and undoes them; fails only when they cannot be made. -/
def connected (targets : List Target) (act : Act Nat) : Act (Except Jump Nat) := do
  let before := (← session).descriptors
  let undo : Act Unit := do
    for target in targets do setDescriptor target.stream (before.lookup target.stream)
  match ← attempt (connectAll targets) with
  | .error jump =>
    undo
    throw jump
  | .ok () =>
    let result ← attempt act
    undo
    return result

/-! ## Programs -/

def programDirectories : List String := ["/bin", "/usr/bin"]

def shellNames : List String := ["sh", "dash"]

def isProgram (name : String) : Bool :=
  shellNames.contains name || name = "env" || (Filter.ofName? name).isSome

/-- What a name stands for when it is looked for among programs. -/
inductive Found where
  | program (name path : String)
  | denied
  | missing

def splitPath (path : String) : String × String :=
  let back := path.toList.reverse
  (String.ofList (back.dropWhile (· ≠ '/')).tail.reverse,
    String.ofList (back.takeWhile (· ≠ '/')).reverse)

def find (name : String) : Act Found := do
  if name = "" then return .denied
  else if name.toList.contains '/' then
    let (dir, last) := splitPath name
    if programDirectories.contains dir && isProgram last then return .program last name
    else if programDirectories.contains name then return .denied
    else return if (← Builtin.nodeAt? name).isSome then .denied else .missing
  else
    let mut denied := false
    for dir in piecesBetween ':' ((← value? "PATH").getD "") do
      if programDirectories.contains dir && isProgram name then
        return .program name (dir ++ "/" ++ name)
      if (← Builtin.nodeAt? (if dir = "" then name else dir ++ "/" ++ name)).isSome then
        denied := true
    return if denied then .denied else .missing

def runFilter (name : String) (filter : Filter) (args : List String) : Act Nat := do
  let s ← session
  let w ← world
  let source ← descriptor? 0
  let input ← match source with
    | some d => unread d.channel
    | none => pure ""
  let filtered := filter ⟨args, input, w.files, s.directory⟩
  changeWorld fun w => { w with files := filtered.files }
  if let some d := source then
    if filtered.rest.length ≠ input.length then leaveUnread d.channel filtered.rest
  let mut fine := true
  for (stream, text) in filtered.printed do
    if !(← emit (if stream = .output then 1 else 2) text) && stream = .output then fine := false
  if fine then return filtered.status
  else
    let what := if name = "cat" then "standard output" else "write error"
    let _ ← emit 2 (name ++ ": " ++ what ++ ": Bad file descriptor\n")
    return 1

/-! ## Processes -/

def ending : Except Jump Nat → Status
  | .ok status => .exited status
  | .error (.leave status) | .error (.fault status) | .error (.return status) => .exited status
  | .error (.killed signal) => .killed signal false
  | .error (.leaveLoops _) | .error (.nextRound _) => .exited 0
  | .error .exhausted => .exited 2

def code : Status → Nat
  | .exited status => status % 256
  | .killed signal _ => 128 + signal

def killText (signal : Nat) : Option String :=
  if signal = 2 || signal = 13 then none
  else some (([(1, "Hangup"), (3, "Quit"), (4, "Illegal instruction"), (5, "Trace/breakpoint trap"),
    (6, "Aborted"), (7, "Bus error"), (8, "Floating point exception"), (9, "Killed"),
    (10, "User defined signal 1"), (11, "Segmentation fault"), (12, "User defined signal 2"),
    (14, "Alarm clock"), (15, "Terminated"), (16, "Stack fault"), (24, "CPU time limit exceeded"),
    (25, "File size limit exceeded"), (26, "Virtual timer expired"),
    (27, "Profiling timer expired"),
    (29, "I/O possible"), (30, "Power failure"), (31, "Bad system call")].lookup signal).getD
      ("Unknown signal " ++ toString signal))

def harmless : List Nat := [0, 17, 18, 23, 28]

/-- Runs an act in a child process with a copy of the session. -/
def forked (act : Act Status) : Act Status := do
  let parent ← session
  let process := (← world).nextProcess
  changeWorld fun w =>
    { w with nextProcess := process + 1, waiting := parent.process :: w.waiting }
  changeSession fun s =>
    { s with
      process := process
      traps := s.traps.filter fun trap => trap.2 = "" && trap.1 ≠ 0 }
  let result ← attempt act
  changeSession fun s => { parent with nextDocument := s.nextDocument, documents := s.documents }
  changeWorld fun w => { w with waiting := w.waiting.tail }
  match result with
  | .ok status => return status
  | .error jump => return ending (.error jump)

def reported (status : Status) : Act Nat := do
  if let .killed signal _ := status then
    if let some text := killText signal then
      let _ ← emit 2 (text ++ "\n")
  return code status

def freshSession (parent : Session) (process : Nat) (name : String) (arguments : List String)
    (flags : List Char) : Session :=
  { parent with
    name := name
    process := process
    root := process
    arguments := arguments
    vars :=
      let kept := parent.vars.filter fun (_, var) => var.exported && var.value.isSome
      [("IFS", " \t\n"), ("OPTIND", "1"), ("PS1", "# "), ("PS2", "> "), ("PS4", "+ ")].foldl
        (fun vars (name, value) =>
          put name ⟨some value, (vars.lookup name).any (·.exported), false⟩ vars)
        (kept.map fun (name, var) => (name, { var with readOnly := false }))
    functions := []
    status := 0
    outputStatus := 0
    flags := flags
    line := 0
    functionLine := 0
    command := none
    traps := parent.traps.filter fun trap => trap.2 = "" && trap.1 ≠ 0
    documents := []
    nextDocument := 0
    locals := []
    loops := 0
    lastJob := none
    optionsRead := 0
    aliases := [] }

structure Invocation where
  flags : List Char
  direct : Bool
  operands : List String

def Invocation.read (flags : List Char) (direct : Bool) : List String → Except String Invocation
  | [] => .ok ⟨flags, direct, []⟩
  | "--" :: rest | "-" :: rest => .ok ⟨flags, direct, rest⟩
  | "-o" :: name :: rest =>
    match Builtin.flagNames.find? fun (_, known) => known = name with
    | some (some letter, _) => read (letter :: flags) direct rest
    | some (none, _) => read flags direct rest
    | none => .error ("Illegal option -o " ++ name)
  | arg :: rest =>
    match arg.toList with
    | sign :: c :: more =>
      if sign = '-' || sign = '+' then
        let letters := c :: more
        match letters.find? fun letter =>
            letter ≠ 'c' && !Builtin.flagNames.any fun (known, _) => known = some letter with
        | some letter => .error ("Illegal option " ++ String.ofList [sign, letter])
        | none =>
          let changed := letters.filter (· ≠ 'c')
          read (if sign = '-' then changed ++ flags else flags.filter fun f => !changed.contains f)
            (direct || letters.contains 'c') rest
      else .ok ⟨flags, direct, arg :: rest⟩
    | _ => .ok ⟨flags, direct, arg :: rest⟩

/-- A script to run: its text, the name of the shell and the arguments. -/
structure Start where
  text : String
  name : String
  arguments : List String
  flags : List Char

/-- Finds the script that a shell is told to run, or complains. -/
def Start.find (name : String) (invocation : Invocation) : Act (Except String Start) := do
  let flags := invocation.flags
  if invocation.direct then
    match invocation.operands with
    | [] => return .error "-c requires an argument"
    | [text] => return .ok ⟨text, name, [], flags⟩
    | text :: zero :: arguments => return .ok ⟨text, zero, arguments, flags⟩
  else
    match invocation.operands, flags.contains 's' with
    | file :: arguments, false =>
      match ← openToRead file with
      | some d => return .ok ⟨← unread d.channel, file, arguments, flags⟩
      | none => return .error ("cannot open " ++ file ++ ": No such file")
    | arguments, _ =>
      match ← descriptor? 0 with
      | some d =>
        let text ← unread d.channel
        leaveUnread d.channel ""
        return .ok ⟨text, name, arguments, if flags.contains 's' then flags else 's' :: flags⟩
      | none => return .ok ⟨"", name, arguments, flags⟩

def keepDocuments (reading : Reading) : Act Unit :=
  changeSession fun s =>
    { s with documents := reading.documents ++ s.documents, nextDocument := reading.nextDocument }

def trace (texts : List String) : Act Unit := do
  if (← session).flags.contains 'x' then
    let _ ← emit 2 (((← value? "PS4").getD "") ++ " ".intercalate texts ++ "\n")

def exportVariable (name : String) : Act Unit := do
  if let some var ← findVariable name then setVariable name { var with exported := true }

/-- Runs an act of a command of the shell's own, whose name its complaints start with. -/
def inCommand {α : Type} (name : String) (act : Act α) : Act α := do
  let before := (← session).command
  changeSession fun s => { s with command := some name }
  let result ← attempt act
  changeSession fun s => { s with command := before }
  resume result

/-! ## Telling what a command is -/

/-- What a name is in words, and as it would be written as a command; none when it is nothing. -/
def describe? (name : String) : Act (Option (String × String)) := do
  let s ← session
  if Token.keywords.contains name then return some ("a shell keyword", name)
  else match s.aliases.lookup name with
    | some text =>
        return some ("an alias for " ++ text, "alias " ++ name ++ "=" ++ Builtin.quoted text)
    | none =>
      if (s.functions.lookup name).isSome then return some ("a shell function", name)
      else if Builtin.special.contains name then return some ("a special shell builtin", name)
      else if Builtin.isKnown name then return some ("a shell builtin", name)
      else match ← find name with
        | .program _ path => return some (path, path)
        | _ => return none

/-- Tells what names are, in words or as they would be written. -/
def describeAll (inWords : Bool) (names : List String) : Act Nat := do
  let mut status := 0
  for name in names do
    match ← describe? name with
    | some (words, written) =>
      let _ ← Builtin.say (if inWords then name ++ " is " ++ words ++ "\n" else written ++ "\n")
    | none =>
      if inWords then
        let _ ← Builtin.say (name ++ ": not found\n")
      status := 127
  return status

def restoreVariable (name : String) : Option Variable → Act Unit
  | some var => setVariable name var
  | none => dropVariable name

/-! ## Evaluation -/

mutual

/-- The items that the parts of a word stand for; where `split` holds, parameters may become several
fields. -/
def expand (fuel : Nat) (split : Bool) (parts : List Part) : Act (List Item) :=
  match fuel with
  | 0 => throw .exhausted
  | fuel + 1 => do
    match parts with
    | [] => return []
    | part :: rest =>
      let first ← expandPart fuel split part
      return first ++ (← expand fuel split rest)

def expandPart (fuel : Nat) (split : Bool) (part : Part) : Act (List Item) :=
  match fuel with
  | 0 => throw .exhausted
  | fuel + 1 => do
    match part with
    | .text quoted text => return Item.ofText quoted false text
    | .output quoted command =>
      let text ← match command with
        | some command => capture fuel command
        | none => pure ""
      return Item.ofText quoted true text
    | .sum quoted expression =>
      let text := Item.text " " (← expand fuel false expression)
      let vars := (← session).vars
      let seen : Arithmetic.Variables :=
        { value? := fun name => (vars.lookup name).bind (·.value)
          readOnly := fun name => (vars.lookup name).any (·.readOnly) }
      match Arithmetic.evaluate seen text with
      | .ok (value, assigned) =>
        for (name, value) in assigned.reverse do assign name (toString value)
        return Item.ofText quoted true (toString value)
      | .error fault => fail (fault.message text)
    | .parameter quoted name use => expandParameter fuel split quoted name use

def expandParameter (fuel : Nat) (split quoted : Bool) (name : String)
    (use : Use) : Act (List Item) :=
  match fuel with
  | 0 => throw .exhausted
  | fuel + 1 => do
    let looked ← lookUp name
    let isUnset := match looked with
      | .unset => true
      | _ => false
    let strict := (← session).flags.contains 'u'
    let word (parts : List Part) : Act (List Item) := do
      let items ← expand fuel split parts
      return if quoted then (if items = [] then [.empty] else items) else items.map Item.asValue
    match use with
    | .unknown => fail "Bad substitution"
    | .value =>
      if isUnset && strict then isNotSet name
      itemsOf split quoted looked
    | .length =>
      if isUnset && strict then isNotSet name
      return Item.ofText quoted true (toString ((← textOf? looked).getD "").length)
    | .replace kind orEmpty parts =>
      let text ← textOf? looked
      let present := match text with
        | none => false
        | some text => !(orEmpty && text = "")
      match kind with
      | .default => if present then itemsOf split quoted looked else word parts
      | .alternative => if present then word parts else return Item.ofText quoted true ""
      | .assign =>
        if present then itemsOf split quoted looked
        else
          let value := Item.text (← joint) (← expand fuel false parts)
          if !isName name then fail (name ++ ": bad variable name")
          assign name value
          return Item.ofText quoted true value
      | .complain =>
        if present then itemsOf split quoted looked
        else
          let text := Item.text (← joint) (← expand fuel false parts)
          let shown :=
            if parts.isEmpty then "parameter not set" ++ if orEmpty then " or null" else ""
            else text
          fail (name ++ ": " ++ shown)
    | .trim ending longest parts =>
      if isUnset && strict then isNotSet name
      let pattern := Item.pattern (← joint) (← expand fuel false parts)
      let text := ((← textOf? looked).getD "").toList
      let left := if ending then dropEnd pattern longest text else dropStart pattern longest text
      return Item.ofText quoted true (String.ofList left)

def withTilde (behindColons : Bool) (word : Word) : Act Word := do
  match word with
  | .text false text :: rest =>
    if text.toList.contains '~' then
      if text.toList.contains '/' || rest.isEmpty || behindColons then
        return .text false (← withHome behindColons text) :: rest
      else return word
    else return word
  | word => return word

def fieldsOf (fuel : Nat) (word : Word) : Act (List String) :=
  match fuel with
  | 0 => throw .exhausted
  | fuel + 1 => do
    let items ← expand fuel true (← withTilde false word)
    let mut found : List String := []
    for field in fields (← Builtin.separators) items do found := found ++ (← globbed field)
    return found

def textOf (fuel : Nat) (behindColons : Bool) (word : Word) : Act String :=
  match fuel with
  | 0 => throw .exhausted
  | fuel + 1 => do
    return Item.text (← joint) (← expand fuel false (← withTilde behindColons word))

/-- The fields of the words of a command; behind a command that marks variables, assignments are not
split. -/
def fieldsOfAll (fuel : Nat) (assigning : Bool) (before : List String) (words : List Word) :
    Act (List String) :=
  match fuel with
  | 0 => throw .exhausted
  | fuel + 1 => do
    match words with
    | [] => return before
    | word :: rest =>
      match if assigning then assignment? word else none with
      | some (name, value) =>
        let text ← textOf fuel true value
        fieldsOfAll fuel assigning (before ++ [name ++ "=" ++ text]) rest
      | none =>
        let found := before ++ (← fieldsOf fuel word)
        let assigning := assigning || match found with
          | [name] => Builtin.assigning.contains name
          | ["command", name] => Builtin.assigning.contains name
          | _ => false
        fieldsOfAll fuel assigning found rest

def targetsOf (fuel : Nat) (redirections : List Redirection) : Act (List Target) :=
  match fuel with
  | 0 => throw .exhausted
  | fuel + 1 => do
    match redirections with
    | [] => return []
    | .mk stream direction target :: rest =>
      let text ← match direction with
        | .document index => textOf fuel false (((← session).documents.lookup index).getD [])
        | _ => textOf fuel false target
      let copies := direction = .copyInput || direction = .copyOutput
      if copies && text ≠ "-" && !(text.length = 1 && text.toList.all Char.isDigit) then
        fail "Syntax error: Bad fd number"
      return ⟨stream, direction, text⟩ :: (← targetsOf fuel rest)

def assignAll (fuel : Nat) (assignments : List (String × Word)) : Act (List (String × String)) :=
  match fuel with
  | 0 => throw .exhausted
  | fuel + 1 => do
    match assignments with
    | [] => return []
    | (name, word) :: rest =>
      let value ← textOf fuel true word
      assign name value
      return (name, value) :: (← assignAll fuel rest)

def capture (fuel : Nat) (command : Command) : Act String :=
  match fuel with
  | 0 => throw .exhausted
  | fuel + 1 => do
    let index ← addChannel (.pipe "")
    let status ← forked do
      setDescriptor 1 (some ⟨index, false, true⟩)
      processEnding fuel (runCommand fuel false true command)
    let status ← reported status
    changeSession fun s => { s with outputStatus := status }
    let text := (← unread index).toList.filter (· ≠ '\x00')
    return String.ofList (text.reverse.dropWhile (· = '\n')).reverse

/-- Runs what a process does to its end, and then what is to be done when it ends. -/
def processEnding (fuel : Nat) (act : Act Nat) : Act Status :=
  match fuel with
  | 0 => throw .exhausted
  | fuel + 1 => do
    let status := ending (← attempt act)
    match status with
    | .killed _ _ => return status
    | .exited last =>
      match (← session).traps.lookup 0 with
      | none => return status
      | some action =>
        changeSession fun s =>
          { s with traps := s.traps.filter (·.1 ≠ 0), status := last, command := none }
        match ← attempt (runText fuel action) with
        | .ok _ => return status
        | .error jump => return ending (.error jump)

def runText (fuel : Nat) (text : String) : Act Nat :=
  match fuel with
  | 0 => throw .exhausted
  | fuel + 1 => do
    let s ← session
    runScript fuel s.tested false (Reading.ofText text s.nextDocument s.aliases) 0

/-- Runs the commands that are still to be read; `last` tells that nothing follows the script. -/
def runScript (fuel : Nat) (tested last : Bool) (reading : Reading) (status : Nat) : Act Nat :=
  match fuel with
  | 0 => throw .exhausted
  | fuel + 1 => do
    let s ← session
    let reading := { reading with nextDocument := s.nextDocument, aliases := s.aliases }
    match nextCommand.run reading with
    | .error fault =>
      changeSession fun s => { s with line := fault.line }
      fail fault.message
    | .ok (none, _) => return status
    | .ok (some none, after) => runScript fuel tested last after status
    | .ok (some (some command), after) =>
      keepDocuments after
      let status ← runCommand fuel tested (last && after.held.isSome) command
      runScript fuel tested last { after with documents := [] } status

/-- Runs a command; `tested` tells that its status is looked at, and `last` that the process ends
with it. -/
def runCommand (fuel : Nat) (tested last : Bool) (command : Command) : Act Nat :=
  match fuel with
  | 0 => throw .exhausted
  | fuel + 1 => do
    let finish (checked : Bool) (status : Nat) : Act Nat := do
      changeSession fun s => { s with status := status }
      deliver fuel
      if checked && !tested && status ≠ 0 && (← session).flags.contains 'e' then
        throw (.leave status)
      return status
    if (← session).flags.contains 'n' then return 0
    match command with
    | .simple line assignments words redirections =>
      changeSession fun s => { s with tested := tested }
      finish true (← runSimple fuel last line assignments words redirections)
    | .define line name body =>
      changeSession fun s => { s with functions := put name ⟨line, body⟩ s.functions }
      finish false 0
    | .subshell line body redirections =>
      changeSession fun s => { s with line := line }
      let targets ← targetsOf fuel redirections
      let status ← forked (processEnding fuel do
        connectAll targets
        runCommand fuel tested true body)
      finish true (← reported status)
    | .redirected line body redirections =>
      changeSession fun s => { s with line := line }
      let targets ← targetsOf fuel redirections
      match ← attempt (connected targets (runCommand fuel tested false body)) with
      | .ok result => finish false (← resume result)
      | .error (.fault status) => finish false status
      | .error jump => throw jump
    | .choose test yes no =>
      if (← runCommand fuel true false test) = 0 then runCommand fuel tested last yes
      else match no with
        | some no => runCommand fuel tested last no
        | none => finish false 0
    | .loop wanted test body =>
      changeSession fun s => { s with loops := s.loops + 1 }
      let loops := (← session).loops
      let result ← attempt (runLoop fuel wanted tested test body 0)
      changeSession fun s => { s with loops := loops - 1 }
      finish false (← resume result)
    | .each line name words body =>
      changeSession fun s => { s with line := line }
      let values ← fieldsOfAll fuel false [] words
      changeSession fun s => { s with loops := s.loops + 1 }
      let loops := (← session).loops
      let result ← attempt (runEach fuel tested name body values 0)
      changeSession fun s => { s with loops := loops - 1 }
      finish false (← resume result)
    | .select line word arms =>
      changeSession fun s => { s with line := line }
      let text ← textOf fuel false word
      match ← chooseArm fuel text.toList arms with
      | some (some body) => runCommand fuel tested last body
      | _ => finish false 0
    | .negate body =>
      let status ← runCommand fuel true false body
      finish false (if status = 0 then 1 else 0)
    | .pipeline stages => finish true (← runStages fuel none stages)
    | .both first second =>
      let status ← runCommand fuel true false first
      if status = 0 then runCommand fuel tested last second else return status
    | .either first second =>
      let status ← runCommand fuel true false first
      if status ≠ 0 then runCommand fuel tested last second else return status
    | .sequence first second =>
      let _ ← runCommand fuel tested false first
      runCommand fuel tested last second
    | .background body =>
      let job := (← world).nextProcess
      let status ← forked do
        let index ← addChannel .void
        setDescriptor 0 (some ⟨index, true, false⟩)
        processEnding fuel (runCommand fuel tested true body)
      changeWorld fun w => { w with jobs := (job, code status) :: w.jobs }
      changeSession fun s => { s with lastJob := some job }
      finish false 0

/-- Runs the rounds of a loop behind those that ended with a status. -/
def runLoop (fuel : Nat) (wanted tested : Bool) (test body : Command) (status : Nat) : Act Nat :=
  match fuel with
  | 0 => throw .exhausted
  | fuel + 1 => do
    let round : Act (Option Nat) := do
      let held := (← runCommand fuel true false test) = 0
      if held = wanted then return some (← runCommand fuel tested false body) else return none
    match ← attempt round with
    | .ok none => return status
    | .ok (some status) => runLoop fuel wanted tested test body status
    | .error (.leaveLoops count) => if count ≤ 1 then return 0 else throw (.leaveLoops (count - 1))
    | .error (.nextRound count) =>
      if count ≤ 1 then runLoop fuel wanted tested test body 0 else throw (.nextRound (count - 1))
    | .error jump => throw jump

def runEach (fuel : Nat) (tested : Bool) (name : String) (body : Command) (values : List String)
    (status : Nat) : Act Nat :=
  match fuel with
  | 0 => throw .exhausted
  | fuel + 1 => do
    match values with
    | [] => return status
    | value :: rest =>
      assign name value
      match ← attempt (runCommand fuel tested false body) with
      | .ok status => runEach fuel tested name body rest status
      | .error (.leaveLoops count) =>
          if count ≤ 1 then return 0 else throw (.leaveLoops (count - 1))
      | .error (.nextRound count) =>
        if count ≤ 1 then runEach fuel tested name body rest 0 else throw (.nextRound (count - 1))
      | .error jump => throw jump

def chooseArm (fuel : Nat) (text : List Char) (arms : List (List Word × Option Command)) :
    Act (Option (Option Command)) :=
  match fuel with
  | 0 => throw .exhausted
  | fuel + 1 => do
    match arms with
    | [] => return none
    | (patterns, body) :: rest =>
      if ← anyMatches fuel text patterns then return some body else chooseArm fuel text rest

def anyMatches (fuel : Nat) (text : List Char) (patterns : List Word) : Act Bool :=
  match fuel with
  | 0 => throw .exhausted
  | fuel + 1 => do
    match patterns with
    | [] => return false
    | pattern :: rest =>
      let items ← expand fuel false (← withTilde false pattern)
      if matchesPattern (Item.pattern (← joint) items) text then return true
      else anyMatches fuel text rest

/-- Runs the stages of a pipeline, the first of which reads from a channel if one is given. -/
def runStages (fuel : Nat) (source : Option Nat) (stages : List Command) : Act Nat :=
  match fuel with
  | 0 => throw .exhausted
  | fuel + 1 => do
    match stages with
    | [] => return 0
    | stage :: rest =>
      let sink ← if rest.isEmpty then pure none else some <$> addChannel (.pipe "")
      let status ← forked do
        if let some index := source then setDescriptor 0 (some ⟨index, true, false⟩)
        if let some index := sink then setDescriptor 1 (some ⟨index, false, true⟩)
        processEnding fuel (runCommand fuel false true stage)
      let status ← reported status
      if rest.isEmpty then return status else runStages fuel sink rest

/-- Deals with the signals that have been sent to this process. -/
def deliver (fuel : Nat) : Act Unit :=
  match fuel with
  | 0 => throw .exhausted
  | fuel + 1 => do
    let process := (← session).process
    match (← world).signals.find? fun sent => sent.1 = process with
    | none => return ()
    | some sent =>
      changeWorld fun w => { w with signals := w.signals.erase sent }
      let signal := sent.2
      let traps := (← session).traps
      match if signal = 9 then none else traps.lookup signal with
      | some "" => deliver fuel
      | some action =>
        let status := (← session).status
        let _ ← runText fuel action
        changeSession fun s => { s with status := status }
        deliver fuel
      | none => if harmless.contains signal then deliver fuel else throw (.killed signal)

def runSimple (fuel : Nat) (last : Bool) (line : Nat) (assignments : List (String × Word))
    (words : List Word) (redirections : List Redirection) : Act Nat :=
  match fuel with
  | 0 => throw .exhausted
  | fuel + 1 => do
    changeSession fun s => { s with line := line, outputStatus := 0 }
    let found ← fieldsOfAll fuel false [] words
    let targets ← targetsOf fuel redirections
    match found with
    | [] =>
      match ← attempt (connected targets (return 0)) with
      | .ok _ =>
        let values ← assignAll fuel assignments
        if !values.isEmpty then trace (values.map fun (name, value) => name ++ "=" ++ value)
        return (← session).outputStatus
      | .error (.fault status) => return status
      | .error jump => throw jump
    | name :: args =>
      let isFunction := ((← session).functions.lookup name).isSome
      let special := !isFunction && Builtin.special.contains name
      if name = "exec" && !isFunction then
        connectAll targets
        let values ← assignAll fuel assignments
        trace ((values.map fun (name, value) => name ++ "=" ++ value) ++ name :: args)
        runExec fuel values args
      else
        let command : Act Nat := do
          let before ← assignments.mapM fun (name, _) => return (name, ← findVariable name)
          let values ← assignAll fuel assignments
          trace ((values.map fun (name, value) => name ++ "=" ++ value) ++ name :: args)
          if special then runNamed fuel true last name args
          else
            for (name, _) in values do exportVariable name
            let result ← attempt (runNamed fuel true last name args)
            for (name, old) in before.reverse do restoreVariable name old
            resume result
        match ← attempt (connected targets command) with
        | .ok result => resume result
        | .error (.fault status) => if special then throw (.fault status) else return status
        | .error jump => throw jump

def runExec (fuel : Nat) (values : List (String × String)) (args : List String) : Act Nat :=
  match fuel with
  | 0 => throw .exhausted
  | fuel + 1 => do
    match if args.head? = some "--" then args.tail else args with
    | [] => return 0
    | name :: args =>
      for (name, _) in values do exportVariable name
      let result ← attempt (inCommand "exec" (runProgram fuel true name args))
      match result with
      | .ok status => throw (.leave status)
      | .error jump => throw jump

/-- Runs a command by its name: a function where that is allowed, a command of the shell's own or a
program. -/
def runNamed (fuel : Nat) (functions last : Bool) (name : String) (args : List String) : Act Nat :=
  match fuel with
  | 0 => throw .exhausted
  | fuel + 1 => do
    let known := (← session).functions
    match if functions then known.lookup name else none with
    | some function => runFunction fuel function args
    | none =>
      if name = "command" then runCommandWord fuel last args
      else if Builtin.isKnown name then
        match ← attempt (inCommand name (runOwn fuel name args)) with
        | .ok status => return status
        | .error (.fault status) =>
          if functions && Builtin.special.contains name then throw (.fault status)
            else return status
        | .error jump => throw jump
      else runProgram fuel last name args

def runOwn (fuel : Nat) (name : String) (args : List String) : Act Nat :=
  match fuel with
  | 0 => throw .exhausted
  | fuel + 1 => do
    match Builtin.plain? name with
    | some act => act args
    | none =>
      match name with
      | "eval" =>
        let text := " ".intercalate (if args.head? = some "--" then args.tail else args)
        if args = [] then return 0 else runText fuel text
      | "." => runFile fuel (if args.head? = some "--" then args.tail else args)
      | "exec" => runExec fuel [] args
      | "type" => describeAll true args
      | "hash" =>
        let mut status := 0
        for arg in args.filter (· ≠ "-r") do
          match ← find arg with
          | .program _ _ => pure ()
          | _ =>
            if !Builtin.isKnown arg then
              complain (arg ++ ": not found")
              status := 1
        return status
      | _ => return 0

def runFile (fuel : Nat) (args : List String) : Act Nat :=
  match fuel with
  | 0 => throw .exhausted
  | fuel + 1 => do
    match args with
    | [] => return 0
    | file :: _ =>
      let path := (← value? "PATH").getD ""
      let candidates := if file.toList.contains '/' then [file]
        else (piecesBetween ':' path).map fun dir => if dir = "" then file else dir ++ "/" ++ file
      let mut found : Option String := none
      for path in candidates do
        if found.isNone then
          match ← Builtin.nodeAt? path with
          | some (.file content) => found := some (Octets.ofBytes content)
          | _ => pure ()
      match found with
      | some text =>
        match ← attempt (inCommand file (runText fuel text)) with
        | .error (.return status) => return status
        | result => resume result
      | none =>
        if file.toList.contains '/' then fail ("cannot open " ++ file ++ ": No such file")
        else fail (file ++ ": not found")

/-- Runs a command behind the word `command`, or tells what it is. -/
def runCommandWord (fuel : Nat) (last : Bool) (args : List String) : Act Nat :=
  match fuel with
  | 0 => throw .exhausted
  | fuel + 1 => do
    let (letters, operands) ← Builtin.options ['p', 'v', 'V'] args
    match operands with
    | [] => return 0
    | name :: rest =>
      if letters.contains 'v' then describeAll false [name]
      else if letters.contains 'V' then describeAll true [name]
      else runNamed fuel false last name rest

def runFunction (fuel : Nat) (function : Function) (args : List String) : Act Nat :=
  match fuel with
  | 0 => throw .exhausted
  | fuel + 1 => do
    let before ← session
    changeSession fun s =>
      { s with
        arguments := args
        loops := 0
        functionLine := function.line
        locals := [] :: s.locals
        optionsRead := 0 }
    let result ← attempt (runCommand fuel before.tested false function.body)
    for (name, old) in ((← session).locals.head?.getD []) do restoreVariable name old
    changeSession fun s =>
      { s with
        arguments := before.arguments
        loops := before.loops
        functionLine := before.functionLine
        locals := s.locals.tail
        optionsRead := before.optionsRead }
    match result with
    | .error (.return status) => return status
    | result => resume result

/-- Runs a program; as the last thing of a process it takes the place of it. -/
def runProgram (fuel : Nat) (last : Bool) (name : String) (args : List String) : Act Nat :=
  match fuel with
  | 0 => throw .exhausted
  | fuel + 1 => do
    match ← find name with
    | .missing =>
      complain (name ++ ": not found")
      return 127
    | .denied =>
      complain (name ++ ": Permission denied")
      return if name.toList.contains '/' then 126 else 127
    | .program bare _ =>
      match Filter.ofName? bare with
      | some filter => runFilter bare filter args
      | none =>
        let act : Act Status :=
          if bare = "env" then runEnvironment fuel args else runShell fuel name args
        let trapped := (← session).traps.any fun trap => trap.2 ≠ ""
        if last && !trapped then
          match ← act with
          | .exited status => throw (.leave status)
          | .killed signal _ => throw (.killed signal)
        else reported (← forked act)

def runEnvironment (fuel : Nat) (args : List String) : Act Status :=
  match fuel with
  | 0 => throw .exhausted
  | fuel + 1 => do
    match args with
    | "-i" :: rest | "-" :: rest =>
      changeSession fun s =>
        { s with vars := s.vars.filter fun (name, _) => name = "PATH" }
      changeSession fun s =>
        { s with vars := s.vars.map fun (name, var) => (name, { var with exported := false }) }
      runEnvironment fuel rest
    | [] =>
      let vars := (← session).vars.filter fun (_, var) => var.exported
      let _ ← emit 1 (String.join (vars.map fun (name, var) =>
        name ++ "=" ++ var.value.getD "" ++ "\n"))
      return .exited 0
    | arg :: rest =>
      match splitAssignment? arg with
      | some (name, value) =>
        setVariable name ⟨some value, true, false⟩
        runEnvironment fuel rest
      | none =>
        match ← find arg with
        | .missing =>
          let _ ← emit 2 ("env: '" ++ arg ++ "': No such file or directory\n")
          return .exited 127
        | .denied =>
          let _ ← emit 2 ("env: '" ++ arg ++ "': Permission denied\n")
          return .exited 126
        | .program _ _ => return ending (← attempt (runProgram fuel true arg rest))

def runShell (fuel : Nat) (name : String) (args : List String) : Act Status :=
  match fuel with
  | 0 => throw .exhausted
  | fuel + 1 => do
    let refuse (text : String) : Act Status := do
      let _ ← emit 2 (name ++ ": 0: " ++ text ++ "\n")
      return .exited 2
    match Invocation.read [] false args with
    | .error text => refuse text
    | .ok invocation =>
      match ← Start.find name invocation with
      | .error text => refuse text
      | .ok start =>
        changeSession fun s => freshSession s s.process start.name start.arguments start.flags
        let last := invocation.direct && !start.flags.contains 's'
        processEnding fuel (runScript fuel false last (Reading.ofText start.text 0 []) 0)

end

end Run

end Scaffold.Host.Shell
