import Scaffold.Host.Shell.Script

/-!
# Reading shell scripts

A script is read one complete command at a time: what stands behind it is read only after it has
run.  Characters become tokens, and tokens become commands by recursive descent.  The text of a
document stands behind the line that asks for it; it is kept in a table, under a number that the
redirection holds.
-/

set_option autoImplicit false

namespace Scaffold.Host.Shell

inductive Token where
  | endOfText
  | lineEnd
  | semicolon
  | ampersand
  | both
  | either
  | pipe
  | opening
  | closing
  | armEnd
  | keyword (text : String)
  | redirection (stream : Nat) (direction : Direction)
  /-- A redirection from a document; the flag: without the tabs that its lines start with. -/
  | document (stream : Nat) (tabs : Bool)
  | word (word : Word)

instance : Inhabited Token := ⟨.endOfText⟩

namespace Token

def keywords : List String :=
  ["!", "case", "do", "done", "elif", "else", "esac", "fi", "for", "if", "in", "then", "until",
    "while", "\x7b", "\x7d"]

def text : Token → String
  | endOfText => "end of file"
  | lineEnd => "newline"
  | semicolon => "\";\""
  | ampersand => "\"&\""
  | both => "\"&&\""
  | either => "\"||\""
  | pipe => "\"|\""
  | opening => "\"(\""
  | closing => "\")\""
  | armEnd => "\";;\""
  | keyword text => "\"" ++ text ++ "\""
  | redirection _ _ => "redirection"
  | document _ _ => "redirection"
  | word _ => "word"

def endsList : Token → Bool
  | endOfText | closing | armEnd => true
  | keyword text => ["do", "done", "elif", "else", "esac", "fi", "then", "\x7d"].contains text
  | _ => false

def recognized : Token → Token
  | word [.text false text] =>
    if keywords.contains text then keyword text else word [.text false text]
  | token => token

def isKeyword (text : String) : Token → Bool
  | keyword other => other = text
  | _ => false

end Token

inductive Misreading where
  /-- A token that cannot stand there, and the one that could. -/
  | unexpected (found : Token) (wanted : Option Token)
  | unterminated
  | missingBrace
  | missingSumEnd
  | unfinishedOutput
  | badVariable
  | badFunction

structure SyntaxFault where
  line : Nat
  cause : Misreading

def SyntaxFault.message (fault : SyntaxFault) : String :=
  "Syntax error: " ++ match fault.cause with
    | .unexpected found none => found.text ++ " unexpected"
    | .unexpected found (some wanted) =>
      found.text ++ " unexpected (expecting " ++ wanted.text ++ ")"
    | .unterminated => "Unterminated quoted string"
    | .missingBrace => "Missing '\x7d'"
    | .missingSumEnd => "Missing '))'"
    | .unfinishedOutput => "EOF in backquote substitution"
    | .badVariable => "Bad for loop variable"
    | .badFunction => "Bad function name"

structure Owed where
  index : Nat
  delimiter : List Char
  plain : Bool
  tabs : Bool

structure Reading where
  /-- Other names of commands, with the text that takes their place. -/
  aliases : List (String × String)
  /-- The names that have been replaced, and how much is left to read behind each of the texts. -/
  replaced : List (String × Nat)
  rest : List Char
  line : Nat
  held : Option Token
  owed : List Owed
  documents : List (Nat × Word)
  nextDocument : Nat

/-- The beginning of a script, with the number of its first document. -/
def Reading.ofText (text : String) (nextDocument : Nat) (aliases : List (String × String)) :
    Reading where
  aliases := aliases
  replaced := []
  rest := text.toList
  line := 1
  held := none
  owed := []
  documents := []
  nextDocument := nextDocument

abbrev Reader := StateT Reading (Except SyntaxFault)

/-! ## Characters -/

namespace Reader

def fail {α : Type} (cause : Misreading) : Reader α := do throw ⟨(← get).line, cause⟩

def unexpected {α : Type} (found : Token) (wanted : Option Token) : Reader α :=
  fail (.unexpected found wanted)

/-- Takes off line ends that a backslash hides; also gives their number. -/
def dropContinuations : List Char → List Char × Nat
  | '\\' :: '\n' :: rest =>
    let (left, count) := dropContinuations rest
    (left, count + 1)
  | rest => (rest, 0)

/-- The characters ahead, without line ends that a backslash hides. -/
def ahead : Reader (List Char) := do
  let (rest, count) := dropContinuations (← get).rest
  modify fun s => { s with rest := rest, line := s.line + count }
  return rest

def goTo (rest : List Char) : Reader Unit := modify fun s => { s with rest := rest }

def goToLine (rest : List Char) : Reader Unit :=
  modify fun s => { s with rest := rest, line := s.line + 1 }

def hold (token : Token) : Reader Unit := modify fun s => { s with held := some token }

def inside {α : Type} (rest : List Char) (line : Nat) (reader : Reader α) : Reader α := do
  let before ← get
  set { before with rest := rest, line := line, held := none, owed := [] }
  let result ← reader
  modify fun s =>
    { s with rest := before.rest, line := before.line, held := before.held, owed := before.owed }
  return result

end Reader

/-! ## Words -/

inductive Ending where
  | blank
  | quote
  | brace
  | text
  /-- A sum ends at two parentheses; so many are open within it. -/
  | sum (opened : Nat)
  deriving DecidableEq, Repr

structure Place where
  quoted : Bool
  ending : Ending
  /-- Within a document, where double quotes stand for themselves. -/
  document : Bool
  deriving DecidableEq, Repr

def endsWord (c : Char) : Bool := " \t\n;&|()<>".toList.contains c

def addChar (quoted : Bool) (c : Char) : List Part → List Part
  | .text q text :: before =>
    if q = quoted then .text q (text.push c) :: before
    else .text quoted (String.singleton c) :: .text q text :: before
  | before => .text quoted (String.singleton c) :: before

/-- The characters that keep a backslash in front of them from standing for itself. -/
def escapable (place : Place) (c : Char) : Bool :=
  "$`\\".toList.contains c || (c = '"' && !(place.document && place.ending = .text))
    || (c = '\x7d' && place.ending = .brace)

def outOfText (place : Place) : Misreading :=
  match place.ending with
  | .sum _ => .missingSumEnd
  | .brace => if place.quoted && !place.document then .unterminated else .missingBrace
  | _ => .unterminated

/-- The command between backquotes, with the backslashes in it undone, and what follows. -/
def backquoted (quoted : Bool) : List Char → Option (List Char × List Char)
  | [] => none
  | '`' :: rest => some ([], rest)
  | '\\' :: c :: rest =>
    (backquoted quoted rest).map fun (inner, behind) =>
      if "`\\$".toList.contains c || (c = '"' && quoted) then (c :: inner, behind)
      else if c = '\n' then (inner, behind)
      else ('\\' :: c :: inner, behind)
  | c :: rest => (backquoted quoted rest).map fun (inner, behind) => (c :: inner, behind)

def isSpecialParameter (c : Char) : Bool := "$?!@*#-0123456789".toList.contains c

/-- The rule of a braced parameter behind its name: what its word is for, whether the word is read
as if outside of quotes, and the characters of the word; none when it means nothing. -/
def ruleOf? : List Char → Option ((Word → Use) × Bool × List Char)
  | '#' :: '#' :: rest => some (.trim false true, true, rest)
  | '#' :: rest => some (.trim false false, true, rest)
  | '%' :: '%' :: rest => some (.trim true true, true, rest)
  | '%' :: rest => some (.trim true false, true, rest)
  | ':' :: c :: rest => (replacement? c).map fun kind => (.replace kind true, false, rest)
  | c :: rest => (replacement? c).map fun kind => (.replace kind false, false, rest)
  | [] => none
where
  replacement? (c : Char) : Option Replacement :=
    [('-', Replacement.default), ('=', .assign), ('?', .complain), ('+', .alternative)].lookup c

/-- The lines of a document: its text, what follows, and the number of lines. -/
def documentLines (owed : Owed) : Nat → Bool → List Char → List Char × List Char × Nat
  | 0, _, rest => ([], rest, 0)
  | _, _, [] => ([], [], 0)
  | fuel + 1, continued, rest =>
    let whole := rest.takeWhile (· ≠ '\n')
    let behind := rest.dropWhile (· ≠ '\n')
    let line := if owed.tabs then whole.dropWhile (· = '\t') else whole
    if !continued && line = owed.delimiter then ([], behind.tail, 1)
    else
      let backslashes := (line.reverse.takeWhile (· = '\\')).length
      let (later, left, count) :=
        documentLines owed fuel (!owed.plain && backslashes % 2 = 1) behind.tail
      (line ++ behind.take 1 ++ later, left, count + 1)

def unquoted (word : Word) : String :=
  String.join (word.map fun
    | .text _ text => text
    | _ => "")

def hasQuotes (word : Word) : Bool :=
  word.any fun
    | .text quoted _ => quoted
    | _ => false

def digit? : Word → Option Nat
  | [.text false text] =>
    match text.toList with
    | [c] => if c.isDigit then some (c.toNat - '0'.toNat) else none
    | _ => none
  | _ => none

def assignment? : Word → Option (String × Word)
  | .text false text :: rest =>
    (splitAssignment? text).map fun (name, value) =>
      (name, if value = "" then rest else .text false value :: rest)
  | _ => none

inductive ListPlace where
  | line
  | body
  /-- A list that may be empty. -/
  | optional
  deriving DecidableEq, Repr

def joined (before : Option Command) (command : Command) : Command :=
  match before with
  | none => command
  | some first => .sequence first command

def reservedNames : List String :=
  [".", ":", "break", "continue", "eval", "exec", "exit", "export", "readonly", "return", "set",
    "shift", "times", "trap", "unset"]

def withRedirections (line : Nat) (redirections : List Redirection) (command : Command) : Command :=
  if redirections.isEmpty then command
  else match command with
    | .subshell at_ body _ => .subshell at_ body redirections
    | command => .redirected line command redirections

open Reader

/-- Reads the rest of a redirection behind its first character. -/
def redirection (c : Char) (stream : Nat) : Reader Token := do
  let rest ← ahead
  match c, rest with
  | '<', '<' :: behind =>
    goTo behind
    match ← ahead with
    | '-' :: behind =>
      goTo behind
      return .document stream true
    | _ => return .document stream false
  | '<', '&' :: behind =>
    goTo behind
    return .redirection stream .copyInput
  | '<', '>' :: behind =>
    goTo behind
    return .redirection stream .readWrite
  | '<', _ => return .redirection stream .read
  | _, '>' :: behind =>
    goTo behind
    return .redirection stream .append
  | _, '&' :: behind =>
    goTo behind
    return .redirection stream .copyOutput
  | _, '|' :: behind =>
    goTo behind
    return .redirection stream .overwrite
  | _, _ => return .redirection stream .write

mutual

/-- Reads parts up to the end of their place; those in front of them are given in reverse. -/
def parts (fuel : Nat) (place : Place) (before : List Part) : Reader (List Part) :=
  match fuel with
  | 0 => fail .unterminated
  | fuel + 1 => do
    match ← ahead with
    | [] =>
      if place.ending = .blank || place.ending = .text then return before.reverse
      else fail (outOfText place)
    | c :: rest =>
      if place.ending = .blank && endsWord c then return before.reverse
      else if place.ending = .quote && c = '"' then
        goTo rest
        return before.reverse
      else if place.ending = .brace && c = '\x7d' then
        goTo rest
        return before.reverse
      else match c with
        | '\\' =>
          match rest with
          | [] =>
            goTo []
            parts fuel place (addChar true '\\' before)
          | next :: behind =>
            if next = '\n' then goToLine behind else goTo behind
            if place.quoted && !escapable place next then
              parts fuel place (addChar true next (addChar true '\\' before))
            else parts fuel place (addChar true next before)
        | '\'' =>
          if place.quoted then
            goTo rest
            parts fuel place (addChar true c before)
          else
            let inner := rest.takeWhile (· ≠ '\'')
            match rest.dropWhile (· ≠ '\'') with
            | [] =>
              modify fun s => { s with line := s.line + inner.count '\n' }
              fail .unterminated
            | _ :: behind =>
              modify fun s => { s with rest := behind, line := s.line + inner.count '\n' }
              parts fuel place (.text true (String.ofList inner) :: before)
        | '"' =>
          goTo rest
          match place.ending with
          | .sum _ => parts fuel place (addChar true c before)
          | .text => parts fuel place (addChar true c before)
          | _ =>
            let inner ← parts fuel ⟨true, .quote, place.document⟩ []
            let shown := if inner.isEmpty then [.text true ""] else inner
            parts fuel place (shown.reverse ++ before)
        | '`' =>
          match backquoted place.quoted rest with
          | none =>
            modify fun s => { s with line := s.line + rest.count '\n' }
            fail .unfinishedOutput
          | some (inner, behind) =>
            let lines := (rest.take (rest.length - behind.length)).count '\n'
            modify fun s => { s with rest := behind, line := s.line + lines }
            let command ← inside inner 1 (list fuel .optional false none)
            parts fuel place (.output place.quoted command :: before)
        | '$' =>
          goTo rest
          let part ← dollar fuel place
          match part with
          | some part => parts fuel place (part :: before)
          | none => parts fuel place (addChar place.quoted '$' before)
        | '\n' =>
          goToLine rest
          parts fuel place (addChar place.quoted c before)
        | _ =>
          goTo rest
          match place.ending, c with
          | .sum opened, '(' =>
            parts fuel { place with ending := .sum (opened + 1) } (addChar true c before)
          | .sum (opened + 1), ')' =>
            parts fuel { place with ending := .sum opened } (addChar true c before)
          | .sum 0, ')' =>
            match ← ahead with
            | ')' :: behind =>
              goTo behind
              return before.reverse
            | _ => parts fuel place (addChar true c before)
          | _, _ => parts fuel place (addChar place.quoted c before)

def dollar (fuel : Nat) (place : Place) : Reader (Option Part) :=
  match fuel with
  | 0 => fail .unterminated
  | fuel + 1 => do
    match ← ahead with
    | '(' :: rest =>
      goTo rest
      match ← ahead with
      | '(' :: behind =>
        goTo behind
        return some (.sum place.quoted (← parts fuel ⟨true, .sum 0, place.document⟩ []))
      | _ =>
        let owed := (← get).owed
        modify fun s => { s with owed := [] }
        let command ← list fuel .optional false none
        let last ← token fuel false false
        match last with
        | .closing =>
          readDocuments fuel
          modify fun s => { s with owed := owed }
          return some (.output place.quoted command)
        | other => unexpected other (some .closing)
    | '\x7b' :: rest =>
      goTo rest
      return some (← braced fuel place)
    | c :: rest =>
      if isNameStart c then
        let name := (c :: rest).takeWhile isNameRest
        goTo ((c :: rest).dropWhile isNameRest)
        return some (.parameter place.quoted (String.ofList name) .value)
      else if isSpecialParameter c then
        goTo rest
        return some (.parameter place.quoted (String.singleton c) .value)
      else return none
    | [] => return none

def braced (fuel : Nat) (place : Place) : Reader Part :=
  match fuel with
  | 0 => fail .unterminated
  | fuel + 1 => do
    let chars ← ahead
    let (measured, chars) := match chars with
      | '#' :: '\x7d' :: _ => (false, chars)
      | '#' :: c :: rest =>
        if isNameRest c then (true, c :: rest)
        else if isSpecialParameter c && rest.head? = some '\x7d' then (true, c :: rest)
        else (false, chars)
      | _ => (false, chars)
    let (name, behind) := match chars with
      | c :: rest =>
        if isNameStart c then (chars.takeWhile isNameRest, chars.dropWhile isNameRest)
        else if c.isDigit then (chars.takeWhile Char.isDigit, chars.dropWhile Char.isDigit)
        else if isSpecialParameter c then ([c], rest)
        else ([], chars)
      | [] => ([], chars)
    goTo behind
    let name := String.ofList name
    let meaningless : Reader Part := do
      let _ ← parts fuel ⟨place.quoted, .brace, place.document⟩ []
      return .parameter place.quoted name .unknown
    if name = "" then meaningless
    else match ← ahead with
      | '\x7d' :: rest =>
        goTo rest
        return .parameter place.quoted name (if measured then .length else .value)
      | chars =>
        match if measured then none else ruleOf? chars with
        | none =>
          -- the character where a rule was looked for is passed over
          if !measured then goTo (chars.drop (if chars.head? = some ':' then 2 else 1))
          meaningless
        | some (use, plain, rest) =>
          goTo rest
          let word ← parts fuel ⟨place.quoted && !plain, .brace, place.document⟩ []
          return .parameter place.quoted name (use word)

def readDocuments (fuel : Nat) : Reader Unit :=
  match fuel with
  | 0 => return ()
  | fuel + 1 => do
    let s ← get
    match s.owed with
    | [] => return ()
    | owed :: others =>
      let (text, rest, lines) := documentLines owed (s.rest.length + 1) false s.rest
      set { s with owed := others }
      let word ← if owed.plain then pure [Part.text true (String.ofList text)]
        else inside text s.line (parts fuel ⟨true, .text, true⟩ [])
      modify fun s =>
        { s with
          rest := rest
          line := s.line + lines
          documents := (owed.index, word) :: s.documents }
      readDocuments fuel

def nextToken (fuel : Nat) : Reader Token :=
  match fuel with
  | 0 => fail .unterminated
  | fuel + 1 => do
    match ← ahead with
    | [] => return .endOfText
    | ' ' :: rest | '\t' :: rest =>
      goTo rest
      nextToken fuel
    | '#' :: rest =>
      goTo (rest.dropWhile (· ≠ '\n'))
      nextToken fuel
    | '\n' :: rest =>
      goToLine rest
      return .lineEnd
    | '&' :: rest =>
      goTo rest
      match ← ahead with
      | '&' :: behind =>
        goTo behind
        return .both
      | _ => return .ampersand
    | '|' :: rest =>
      goTo rest
      match ← ahead with
      | '|' :: behind =>
        goTo behind
        return .either
      | _ => return .pipe
    | ';' :: rest =>
      goTo rest
      match ← ahead with
      | ';' :: behind =>
        goTo behind
        return .armEnd
      | _ => return .semicolon
    | '(' :: rest =>
      goTo rest
      return .opening
    | ')' :: rest =>
      goTo rest
      return .closing
    | _ =>
      let word ← parts fuel ⟨false, .blank, false⟩ []
      match ← ahead with
      | c :: rest =>
        if c = '<' || c = '>' then
          match if word.isEmpty then some (if c = '<' then 0 else 1) else digit? word with
          | none => return .word word
          | some stream =>
            goTo rest
            redirection c stream
        else return .word word
      | [] => return .word word

/-- Reads a token, perhaps behind line ends, perhaps looking for keywords; where keywords may stand,
so may other names of commands. -/
def token (fuel : Nat) (skipLines keywords : Bool) : Reader Token :=
  match fuel with
  | 0 => fail .unterminated
  | fuel + 1 => do
    let before := (← get).rest.length
    let next ← match (← get).held with
      | some held =>
        modify fun s => { s with held := none }
        pure held
      | none => nextToken fuel
    match next with
    | .lineEnd =>
      if skipLines then
        readDocuments fuel
        token fuel skipLines keywords
      else return .lineEnd
    | .word [.text false text] =>
      let s ← get
      let inUse := s.replaced.any fun (name, left) => name = text && left < before
      match if keywords && !inUse && !Token.keywords.contains text then s.aliases.lookup text
          else none with
      | some replacement =>
        set { s with
          rest := replacement.toList ++ s.rest
          replaced := (text, s.rest.length) :: s.replaced }
        token fuel skipLines keywords
      | none => return if keywords then next.recognized else next
    | other => return other

def redirectionTarget (fuel : Nat) (start : Token) : Reader Redirection :=
  match fuel with
  | 0 => fail .unterminated
  | fuel + 1 => do
    let next ← token fuel false false
    match next, start with
    | .word word, .document stream tabs =>
      let s ← get
      let owed : Owed := ⟨s.nextDocument, (unquoted word).toList, hasQuotes word, tabs⟩
      set { s with owed := s.owed ++ [owed], nextDocument := s.nextDocument + 1 }
      return .mk stream (.document owed.index) []
    | .word word, .redirection stream direction =>
      return .mk stream direction word
    | other, _ => unexpected other none

def redirections (fuel : Nat) : Reader (List Redirection) :=
  match fuel with
  | 0 => fail .unterminated
  | fuel + 1 => do
    match ← token fuel false true with
    | .redirection stream direction =>
      let first ← redirectionTarget fuel (.redirection stream direction)
      return first :: (← redirections fuel)
    | .document stream tabs =>
      let first ← redirectionTarget fuel (.document stream tabs)
      return first :: (← redirections fuel)
    | other =>
      hold other
      return []

/-- Reads a list of commands behind those already read; `mayEnd` tells that a token may end it
here. -/
def list (fuel : Nat) (place : ListPlace) (mayEnd : Bool) (before : Option Command) :
    Reader (Option Command) :=
  match fuel with
  | 0 => fail .unterminated
  | fuel + 1 => do
    let first ← token fuel (place ≠ .line) true
    match first with
    | .lineEnd =>
      readDocuments fuel
      return before
    | .endOfText =>
      readDocuments fuel
      hold .endOfText
      return before
    | first =>
      hold first
      if (mayEnd || place = .optional) && place ≠ .line && first.endsList then return before
      else
        let chain ← andOr fuel
        let next ← token fuel false false
        let command := match next with
          | .ampersand => Command.background chain
          | _ => chain
        let all := some (joined before command)
        match next with
        | .endOfText =>
          readDocuments fuel
          hold .endOfText
          return all
        | .lineEnd =>
          hold .lineEnd
          list fuel place true all
        | .ampersand | .semicolon => list fuel place true all
        | other =>
          if place = .line then unexpected other none
          else
            hold other
            return all

/-- Reads a list that is empty only at the end of the script. -/
def body (fuel : Nat) : Reader Command :=
  match fuel with
  | 0 => fail .unterminated
  | fuel + 1 => do return (← list fuel .body false none).getD default

def andOr (fuel : Nat) : Reader Command :=
  match fuel with
  | 0 => fail .unterminated
  | fuel + 1 => do
    let first ← pipeline fuel
    andOrRest fuel first

def andOrRest (fuel : Nat) (first : Command) : Reader Command :=
  match fuel with
  | 0 => fail .unterminated
  | fuel + 1 => do
    match ← token fuel false false with
    | .both =>
      hold (← token fuel true true)
      andOrRest fuel (.both first (← pipeline fuel))
    | .either =>
      hold (← token fuel true true)
      andOrRest fuel (.either first (← pipeline fuel))
    | other =>
      hold other
      return first

def pipeline (fuel : Nat) : Reader Command :=
  match fuel with
  | 0 => fail .unterminated
  | fuel + 1 => do
    let first ← token fuel false false
    let negated := first.isKeyword "!"
    if negated then hold (← token fuel false true) else hold first
    let stages ← pipelineStages fuel
    let whole := match stages with
      | [single] => single
      | stages => Command.pipeline stages
    return if negated then .negate whole else whole

def pipelineStages (fuel : Nat) : Reader (List Command) :=
  match fuel with
  | 0 => fail .unterminated
  | fuel + 1 => do
    let first ← command fuel
    match ← token fuel false false with
    | .pipe =>
      hold (← token fuel true true)
      return first :: (← pipelineStages fuel)
    | other =>
      hold other
      return [first]

def expect (fuel : Nat) (skipLines : Bool) (text : String) : Reader Unit :=
  match fuel with
  | 0 => fail .unterminated
  | fuel + 1 => do
    let next ← token fuel skipLines true
    if next.isKeyword text then return () else unexpected next (some (.keyword text))

def command (fuel : Nat) : Reader Command :=
  match fuel with
  | 0 => fail .unterminated
  | fuel + 1 => do
    let line := (← get).line
    let first ← token fuel false false
    let made ← match first with
      | .keyword "if" =>
        let chosen ← choice fuel
        expect fuel false "fi"
        pure (some chosen)
      | .keyword "while" => pure (some (← loopBody fuel true))
      | .keyword "until" => pure (some (← loopBody fuel false))
      | .keyword "for" => pure (some (← eachLoop fuel line))
      | .keyword "case" => pure (some (← selection fuel line))
      | .keyword "\x7b" =>
        let inner ← body fuel
        expect fuel false "\x7d"
        pure (some inner)
      | .opening =>
        let inner ← body fuel
        match ← token fuel false false with
        | .closing => pure (some (.subshell line inner []))
        | other => unexpected other (some .closing)
      | .word _ | .redirection _ _ | .document _ _ => pure none
      | other => unexpected other none
    match made with
    | none =>
      hold first
      simple fuel (← get).line ([], [], [])
    | some made => return withRedirections line (← redirections fuel) made

def choice (fuel : Nat) : Reader Command :=
  match fuel with
  | 0 => fail .unterminated
  | fuel + 1 => do
    let test ← body fuel
    expect fuel false "then"
    let yes ← body fuel
    match ← token fuel false false with
    | .keyword "elif" => return .choose test yes (some (← choice fuel))
    | .keyword "else" => return .choose test yes (some (← body fuel))
    | other =>
      hold other
      return .choose test yes none

def loopBody (fuel : Nat) (wanted : Bool) : Reader Command :=
  match fuel with
  | 0 => fail .unterminated
  | fuel + 1 => do
    let test ← body fuel
    expect fuel false "do"
    let repeated ← body fuel
    expect fuel false "done"
    return .loop wanted test repeated

def eachLoop (fuel : Nat) (line : Nat) : Reader Command :=
  match fuel with
  | 0 => fail .unterminated
  | fuel + 1 => do
    let name ← match ← token fuel false false with
      | .word [.text false name] => if isName name then pure name else fail .badVariable
      | _ => fail .badVariable
    let next ← token fuel true true
    let words ← match next with
      | .keyword "in" => loopWords fuel
      | other => do
        match other with
        | .semicolon => pure ()
        | other => hold other
        pure [[Part.parameter true "@" .value]]
    expect fuel true "do"
    let repeated ← body fuel
    expect fuel false "done"
    return .each line name words repeated

/-- Reads the words of a loop, up to the end of the line or a semicolon. -/
def loopWords (fuel : Nat) : Reader (List Word) :=
  match fuel with
  | 0 => fail .unterminated
  | fuel + 1 => do
    match ← token fuel false false with
    | .word word => return word :: (← loopWords fuel)
    | .semicolon => return []
    | .lineEnd =>
      readDocuments fuel
      return []
    | other => unexpected other none

def selection (fuel : Nat) (line : Nat) : Reader Command :=
  match fuel with
  | 0 => fail .unterminated
  | fuel + 1 => do
    match ← token fuel false false with
    | .word word =>
      expect fuel true "in"
      return .select line word (← selectionArms fuel)
    | other => unexpected other (some (.word []))

/-- Reads the arms of a selection and the keyword behind them. -/
def selectionArms (fuel : Nat) : Reader (List (List Word × Option Command)) :=
  match fuel with
  | 0 => fail .unterminated
  | fuel + 1 => do
    let first ← token fuel true true
    if first.isKeyword "esac" then return []
    else
      let first ← match first with
        | .opening => token fuel false false
        | other => pure other
      let patterns ← armPatterns fuel first
      let inner ← list fuel .optional false none
      let next ← token fuel true true
      if next.isKeyword "esac" then return [(patterns, inner)]
      else match next with
        | .armEnd => return (patterns, inner) :: (← selectionArms fuel)
        | other => unexpected other (some .armEnd)

/-- Reads the patterns of an arm, the first of which is given, and the parenthesis behind them. -/
def armPatterns (fuel : Nat) (first : Token) : Reader (List Word) :=
  match fuel with
  | 0 => fail .unterminated
  | fuel + 1 => do
    let pattern : Word := match first with
      | .word word => word
      | .keyword text => [.text false text]
      | _ => []
    match ← token fuel false false with
    | .pipe => return pattern :: (← armPatterns fuel (← token fuel false false))
    | .closing => return [pattern]
    | other => unexpected other (some .closing)

def simple (fuel : Nat) (line : Nat)
    (before : List (String × Word) × List Word × List Redirection) : Reader Command :=
  match fuel with
  | 0 => fail .unterminated
  | fuel + 1 => do
    let (assignments, words, redirected) := before
    let finish : Reader Command := return .simple line assignments words redirected
    match ← token fuel false false with
    | .word word =>
      match if words.isEmpty then assignment? word else none with
      | some assignment => simple fuel line (assignments ++ [assignment], words, redirected)
      | none => simple fuel line (assignments, words ++ [word], redirected)
    | .redirection stream direction =>
      let next ← redirectionTarget fuel (.redirection stream direction)
      simple fuel line (assignments, words, redirected ++ [next])
    | .document stream tabs =>
      let next ← redirectionTarget fuel (.document stream tabs)
      simple fuel line (assignments, words, redirected ++ [next])
    | .opening =>
      match words, assignments, redirected with
      | [word], [], [] =>
        match ← token fuel false false with
        | .closing =>
          match word with
          | [.text false name] =>
            if isName name && !reservedNames.contains name then
              hold (← token fuel true true)
              let start := (← get).line
              return .define start name (← command fuel)
            else fail .badFunction
          | _ => fail .badFunction
        | other => unexpected other (some .closing)
      | _, _, _ =>
        hold .opening
        finish
    | other =>
      hold other
      finish

end

/-- Reads the next complete command of a script: none at its end, and no command for an empty
line. -/
def nextCommand : Reader (Option (Option Command)) := do
  modify fun s => { s with held := none, owed := [] }
  let s ← get
  let replacing := (s.aliases.flatMap fun (_, text) => text.toList).length
  let fuel := 16 * (s.rest.length + replacing + 16)
  match ← list fuel .line false none with
  | some command => return some (some command)
  | none =>
    match (← get).held with
    | some _ => return none
    | none => return some none

end Scaffold.Host.Shell
