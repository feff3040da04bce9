import Errand.Shell.Reader.Word

/-! # Reading commands

The grammar of scripts. A script is read one complete command at a time, and each is carried out
before the next one is looked at, because it may change what names stand for.

`Reader.complete` reads a complete command. -/

namespace Errand.Shell.Reader

/-- The words that mean something at the beginning of a command. -/
def keywords : List String :=
  ["!", "\x7b", "\x7d", "case", "do", "done", "elif", "else", "esac", "fi", "for", "if", "in",
    "then", "until", "while"]

/-- The tokens before which a list of commands may end. -/
def isListEnd : Token → Bool
  | .finish => true
  | .operator s => s == ")" || s == ";;"
  | .keyword s => ["\x7d", "do", "done", "elif", "else", "esac", "fi", "then"].contains s
  | _ => false

/-- Skips the rest of a line, but not its end. -/
def skipComment : Nat → Reader Unit
  | 0 => return ()
  | fuel + 1 => do
    match ← take with
    | none => return ()
    | some '\n' => putOne '\n'
    | some _ => skipComment fuel

/-- An operator that is longer if a character comes twice. -/
def doubled (c : Char) : Reader Token := do
  let d ← takeNext
  if d == some c then took (.operator (String.ofList [c, c]))
  else
    putOne d
    took (.operator (String.singleton c))

/-- Takes the next token without looking at what words mean. -/
def rawToken (inside : Inside) : Nat → Reader Token
  | 0 => took .finish
  | fuel + 1 => do
    let s ← get
    if s.again then
      set { s with again := false }
      return s.last
    match ← takeNext with
    | none => took .finish
    | some c =>
      if c == ' ' || c == '\t' then rawToken inside fuel
      else if c == '#' then
        skipComment ((← left) + 1)
        rawToken inside fuel
      else if c == '\n' then
        countLine
        took .newline
      else if c == '&' || c == '|' || c == ';' then doubled c
      else if c == '(' || c == ')' then took (.operator (String.singleton c))
      else readWord inside .bare none (some c)

/-- Reads the documents that were announced on a line that has ended. -/
def readDocuments (inside : Inside) : Reader Unit := do
  let awaited := (← get).awaited
  modify fun s => { s with awaited := [] }
  for a in awaited do
    let last := (← get).last
    let c ← if a.expands then takeNext else take
    let _ ← readWord inside (if a.expands then .double else .single)
      (some ⟨some a.mark, a.strips⟩) c
    modify fun s => { s with documents := s.documents.setIfInBounds a.index s.word, last }

/-- Takes tokens past ends of lines. -/
def pastNewlines (inside : Inside) : Nat → Token → Reader Token
  | 0, t => return t
  | fuel + 1, t => do
    if t != .newline then return t
    readDocuments inside
    checkFor {}
    pastNewlines inside fuel (← rawToken inside ((← left) + 2))

/-- Takes the next token; it is looked at for what was asked for. A name that stands for a text is
replaced by the text. -/
def tokenFrom (inside : Inside) : Nat → Check → Reader Token
  | 0, _ => took .finish
  | fuel + 1, check => do
    let size := (← left) + 2
    let t ← rawToken inside size
    let t ← if check.newlines then pastNewlines inside size t else pure t
    let s ← get
    let check := { check with aliases := check.aliases || s.check.aliases,
                              keywords := check.keywords || s.check.keywords }
    checkFor {}
    if t != .word || s.isQuoted then return t
    match s.word.plain? with
    | none => return t
    | some name =>
      if check.keywords && keywords.contains name then took (.keyword name)
      else if check.aliases && !s.busy.contains name then
        match s.aliases.lookup name with
        | some text =>
          if !text.isEmpty then
            let blank := text.endsWith " " || text.endsWith "\t"
            modify fun s => { s with
              items := itemsOf text.toList ++ .close name blank :: s.items
              busy := name :: s.busy }
          tokenFrom inside fuel check
        | none => return t
      else return t

/-- How many texts may stand for names in front of one token. -/
def aliasLimit : Nat := 1000

/-- Takes the next token. -/
def token (inside : Inside) : Reader Token := do
  tokenFrom inside aliasLimit (← get).check

/-- What is looked for where a command begins. -/
def atCommand : Check := { keywords := true, aliases := true }

/-- What is looked for where a command begins, maybe on another line. -/
def atLine : Check := { newlines := true, keywords := true, aliases := true }

/-- Takes the next token past ends of lines and looks for keywords and names that stand for
texts. -/
def tokenAtLine (inside : Inside) : Reader Token := do
  checkFor atLine
  token inside

/-- Takes a certain token. -/
def expect (inside : Inside) (t : Token) : Reader Unit := do
  if (← token inside) != t then unexpected (some t)

/-- Reads what a redirection leads to. -/
def target (inside : Inside) : Reader Redirect := do
  let announced := (← get).announced
  match announced with
  | .document .. => checkFor { mark := true }
  | _ => pure ()
  if (← token inside) != .word then unexpected
  let s ← get
  match announced with
  | .file n access => return .file n access s.word
  | .copy n => return .copy n s.word
  | .document n strips =>
    let index := s.documents.size
    let awaited : Awaited := ⟨index, Word.characters s.word, strips, !s.isQuoted⟩
    set { s with documents := s.documents.push [], awaited := s.awaited ++ [awaited] }
    return .document n index

/-- The redirections that follow each other. -/
def redirects (inside : Inside) : Nat → Reader (List Redirect)
  | 0 => return []
  | fuel + 1 => do
    if (← token inside) != .redirection then
      pushBack
      return []
    let r ← target inside
    return r :: (← redirects inside fuel)

/-- A list of commands in the background. -/
def inBackground : Command → Command
  | .pipeline stages _ => .pipeline stages true
  | .redirected line c rs => .background line c rs
  | c => .background 0 c []

/-- What belongs to a command of words. -/
structure Items where
  assignments : List Word := []
  words : List Word := []
  redirects : List Redirect := []

/-- The commands that no function can have the name of. -/
def protectedNames : List String :=
  [":", ".", "break", "continue", "eval", "exec", "exit", "export", "local", "readonly", "return",
    "set", "shift", "times", "trap", "unset"]

/-- Reads a command of words; `body` reads the command that is the body of a function. Only before
the first word is something assigned. -/
def simple (inside : Inside) (body : Reader Command) (line : Nat) :
    Nat → Check → Items → Reader Command
  | 0, _, _ => unexpected
  | fuel + 1, check, items => do
    checkFor check
    match ← token inside with
    | .word =>
      let w := (← get).word
      if check.aliases && (Word.assignment? w).isSome then
        simple inside body line fuel check { items with assignments := items.assignments ++ [w] }
      else simple inside body line fuel {} { items with words := items.words ++ [w] }
    | .redirection =>
      let r ← target inside
      simple inside body line fuel check { items with redirects := items.redirects ++ [r] }
    | .operator "(" =>
      match items.assignments, items.words, items.redirects with
      | [], [w], [] =>
        if (← token inside) != .operator ")" then unexpected (some (.operator ")"))
        match w.plain? with
        | some name =>
          if !isName name.toList || protectedNames.contains name then fail "Bad function name"
          checkFor atLine
          let start := (← get).line
          return .function start name (← body)
        | none => fail "Bad function name"
      | _, _, _ => ended items
    | _ => ended items
where
  /-- The command when it has ended. -/
  ended (items : Items) : Reader Command := do
    pushBack
    return .simple line items.assignments items.words items.redirects

/-- Words that follow each other. -/
def wordList (inside : Inside) : Nat → Reader (List Word)
  | 0 => return []
  | fuel + 1 => do
    if (← token inside) != .word then return []
    let w := (← get).word
    return w :: (← wordList inside fuel)

/-- The patterns of an arm from one that was taken on, up to what follows them. -/
def patternList (inside : Inside) : Nat → Reader (List Word)
  | 0 => return []
  | fuel + 1 => do
    let w := (← get).word
    if (← token inside) != .operator "|" then return [w]
    let _ ← token inside
    return w :: (← patternList inside fuel)

/-- How a list of commands is read: a line up to its end, commands inside something, or commands
that may be missing. -/
inductive Extent where
  | line
  | inner
  | optional
  deriving DecidableEq, Repr

/-- The first command and the next one. -/
def joined (first : Option Command) (next : Command) : Command :=
  match first with
  | some c => .sequence c next
  | none => next

mutual

/-- What reads commands inside words. -/
def inside : Nat → Inside
  | 0 => ⟨unexpected, unexpected⟩
  | fuel + 1 => ⟨toBracket fuel, list fuel .optional none true⟩

/-- Reads commands up to a closing bracket. -/
def toBracket : Nat → Reader Command
  | 0 => unexpected
  | fuel + 1 => do
    let c ← list fuel .optional none true
    expect (inside fuel) (.operator ")")
    return c

/-- Reads a list of commands after those that were read. -/
def list : Nat → Extent → Option Command → Bool → Reader Command
  | 0, _, _, _ => unexpected
  | fuel + 1, extent, done, isFirst => do
    checkFor { newlines := extent != .line, keywords := true, aliases := true }
    let finished := done.getD .nothing
    let t ← token (inside fuel)
    match t with
    | .newline =>
      readDocuments (inside fuel)
      return finished
    | .finish =>
      readDocuments (inside fuel)
      let _ ← took .finish
      pushBack
      return finished
    | _ =>
      pushBack
      if extent != .line && (extent == .optional || !isFirst) && isListEnd t then return finished
      let c ← andOr fuel
      let t ← token (inside fuel)
      let c := joined done (if t == .operator "&" then inBackground c else c)
      match t with
      | .newline | .finish =>
        pushBack
        list fuel extent (some c) false
      | .operator "&" | .operator ";" => list fuel extent (some c) false
      | _ =>
        if extent == .line then unexpected
        pushBack
        return c

/-- Reads pipelines with `&&` and `||` between them. -/
def andOr : Nat → Reader Command
  | 0 => unexpected
  | fuel + 1 => do chain fuel (← pipeline fuel)

/-- Reads the pipelines after the first one. -/
def chain : Nat → Command → Reader Command
  | 0, _ => unexpected
  | fuel + 1, c => do
    let t ← token (inside fuel)
    if t == .operator "&&" then
      checkFor atLine
      chain fuel (.both c (← pipeline fuel))
    else if t == .operator "||" then
      checkFor atLine
      chain fuel (.either c (← pipeline fuel))
    else
      pushBack
      return c

/-- Reads commands with `|` between them. -/
def pipeline : Nat → Reader Command
  | 0 => unexpected
  | fuel + 1 => do
    let negated := (← token (inside fuel)) == .keyword "!"
    if negated then checkFor atCommand else pushBack
    let c ← match ← stages fuel with
      | [c] => pure c
      | cs => pure (.pipeline cs false)
    return if negated then .negated c else c

/-- Reads the commands of a pipeline. -/
def stages : Nat → Reader (List Command)
  | 0 => unexpected
  | fuel + 1 => do
    let c ← command fuel
    if (← token (inside fuel)) == .operator "|" then
      checkFor atLine
      return c :: (← stages fuel)
    else
      pushBack
      return [c]

/-- Reads a command with the redirections after it. -/
def command : Nat → Reader Command
  | 0 => unexpected
  | fuel + 1 => do
    let line := (← get).line
    let t ← token (inside fuel)
    match t with
    | .word | .redirection =>
      pushBack
      simple (inside fuel) (command fuel) (← get).line ((← left) + 4) { aliases := true } {}
    | _ =>
      let c ← compound fuel line t
      checkFor atCommand
      let rs ← redirects (inside fuel) ((← left) + 2)
      match c with
      | .subshell line c _ => return .subshell line c rs
      | c => return if rs.isEmpty then c else .redirected line c rs

/-- Reads a command that begins with a token that is no word. -/
def compound : Nat → Nat → Token → Reader Command
  | 0, _, _ => unexpected
  | fuel + 1, line, t => do
    match t with
    | .keyword "if" => branch fuel
    | .keyword "while" | .keyword "until" =>
      let condition ← list fuel .inner none true
      let c := Command.loop (t == .keyword "until") condition (← body fuel)
      return c
    | .keyword "for" =>
      let t ← token (inside fuel)
      let s ← get
      match (if t == .word && !s.isQuoted then s.word.plain? else none) with
      | some name =>
        if !isName name.toList then fail "Bad for loop variable"
        let words ← if (← tokenAtLine (inside fuel)) == .keyword "in" then do
            let ws ← wordList (inside fuel) ((← left) + 2)
            let t := (← get).last
            if t != .newline && t != .operator ";" then unexpected
            pure ws
          else do
            if (← get).last != .operator ";" then pushBack
            pure [[.quote, .parameter ['@'] .value false [], .quote]]
        checkFor atLine
        return .each line name words (← body fuel)
      | none => fail "Bad for loop variable"
    | .keyword "case" =>
      if (← token (inside fuel)) != .word then unexpected (some .word)
      let subject := (← get).word
      checkFor atLine
      expect (inside fuel) (.keyword "in")
      return .select line subject (← arms fuel)
    | .operator "(" =>
      let c ← list fuel .inner none true
      expect (inside fuel) (.operator ")")
      return .subshell line c []
    | .keyword "\x7b" =>
      let c ← list fuel .inner none true
      expect (inside fuel) (.keyword "\x7d")
      return c
    | _ => unexpected

/-- Reads what stands between `do` and `done`. -/
def body : Nat → Reader Command
  | 0 => unexpected
  | fuel + 1 => do
    expect (inside fuel) (.keyword "do")
    let c ← list fuel .inner none true
    expect (inside fuel) (.keyword "done")
    return c

/-- Reads what follows `if` or `elif`. -/
def branch : Nat → Reader Command
  | 0 => unexpected
  | fuel + 1 => do
    let condition ← list fuel .inner none true
    expect (inside fuel) (.keyword "then")
    let consequence ← list fuel .inner none true
    match ← token (inside fuel) with
    | .keyword "elif" => return .branch condition consequence (some (← branch fuel))
    | .keyword "else" =>
      let alternative ← list fuel .inner none true
      expect (inside fuel) (.keyword "fi")
      return .branch condition consequence (some alternative)
    | t =>
      if t != .keyword "fi" then unexpected (some (.keyword "fi"))
      return .branch condition consequence none

/-- Reads the arms of a choice, up to `esac`. -/
def arms : Nat → Reader (List (List Word × Command))
  | 0 => unexpected
  | fuel + 1 => do
    checkFor { newlines := true, keywords := true }
    let t ← token (inside fuel)
    if t == .keyword "esac" then return []
    if t == .operator "(" then let _ ← token (inside fuel)
    let patterns ← patternList (inside fuel) ((← left) + 2)
    if (← get).last != .operator ")" then unexpected (some (.operator ")"))
    let c ← list fuel .optional none true
    checkFor { newlines := true, keywords := true }
    let t ← token (inside fuel)
    if t == .keyword "esac" then return [(patterns, c)]
    if t != .operator ";;" then unexpected (some (.operator ";;"))
    return (patterns, c) :: (← arms fuel)

end

/-- Whether the script was seen to have ended after the last command. -/
def State.hasEnded (s : State) : Bool := s.again && s.last == .finish

/-- Reads a complete command; none at the end of the script. -/
def complete : Reader (Option Command) := do
  modify fun s => { s with again := false, awaited := [], check := {} }
  let c ← list ((← left) * 4 + 64) .line none true
  match c with
  | .nothing => return if (← get).hasEnded then none else some c
  | c => return some c

/-- Reads a text as if it stood in double quotes; what is wrong with it leaves it as it is. -/
def quotedWord (s : State) : Word :=
  let inside := inside (s.items.length * 4 + 64)
  let read : Reader Unit := do
    let _ ← readWord inside .double (some ⟨none, false⟩) (← takeNext)
  match read.run s with
  | .ok (_, s) => s.word
  | .error _ => s.items.filterMap fun
    | .char c => some (.quoted c)
    | .close _ _ => none

end Errand.Shell.Reader
