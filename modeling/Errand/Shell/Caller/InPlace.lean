import Errand.Shell.Caller.Basic

/-! # Other programs in place of a process

Some programs change their process, and then another program runs in place of them: with another
environment, in another directory, or with less care for signals or for others that want to run. -/

namespace Errand.Shell

open Errand.Host

namespace Caller

/-- An environment with an assignment. -/
def assigned (environment : List (String × String)) (name value : String) :
    List (String × String) :=
  if environment.any (·.1 == name) then
    environment.map fun e => if e.1 == name then (name, value) else e
  else environment ++ [(name, value)]

/-- Takes the assignments off operands. -/
def assignments (environment : List (String × String)) :
    List String → List (String × String) × List String
  | [] => (environment, [])
  | a :: rest =>
    let name := a.toList.takeWhile (· != '=')
    if name.length = a.length then (environment, a :: rest)
    else assignments (assigned environment (.ofList name)
      (.ofList (a.toList.drop (name.length + 1)))) rest

/-- A text that stands for arguments is taken apart: what is read of it, and the argument that is
being read. -/
structure Splitting where
  words : List String := []
  word : Option (List Char) := none
  quote : Option Char := none

/-- The splitting after the end of an argument. -/
def Splitting.next (s : Splitting) : Splitting :=
  match s.word with
  | some w => { s with words := s.words ++ [.ofList w.reverse], word := none }
  | none => s

/-- The splitting after more characters of an argument. -/
def Splitting.push (s : Splitting) (cs : List Char) : Splitting :=
  { s with word := some (cs.reverse ++ s.word.getD []) }

/-- The characters that a letter after a backslash stands for. -/
def splitEscape? (ch : Char) : Option Char :=
  ([('f', '\x0c'), ('n', '\n'), ('r', '\r'), ('t', '\t'), ('v', '\x0b'), ('#', '#'), ('$', '$'),
    ('\\', '\\'), ('"', '"'), ('\'', '\''), (' ', ' ')].lookup ch)

/-- The name in braces at the beginning of a text, and what follows. -/
def braced? (cs : List Char) : Option (String × List Char) :=
  match cs with
  | '\x7b' :: rest =>
    let name := rest.takeWhile fun ch => ch.isAlphanum || ch == '_'
    match rest.drop name.length with
    | '\x7d' :: after => if name.isEmpty then none else some (.ofList name, after)
    | _ => none
  | _ => none

/-- Takes a text of arguments apart; the number bounds the characters. -/
def splitText (environment : List (String × String)) :
    Nat → Splitting → List Char → Except String (List String)
  | 0, s, _ => .ok s.next.words
  | _ + 1, s, [] =>
    if s.quote.isSome then .error "no terminating quote in -S string" else .ok s.next.words
  | fuel + 1, s, ch :: rest =>
    let isGap := ch == ' ' || (9 ≤ ch.toNat && ch.toNat ≤ 13)
    if s.quote == some ch then splitText environment fuel { s with quote := none } rest
    else if s.quote.isNone && (ch == '\'' || ch == '"') then
      splitText environment fuel { s.push [] with quote := some ch } rest
    else if s.quote.isNone && isGap then splitText environment fuel s.next rest
    else if s.quote.isNone && ch == '#' && s.word.isNone then .ok s.next.words
    else if ch == '\\' && s.quote != some '\'' then
      match rest with
      | [] => .error "invalid backslash at end of string in -S"
      | '_' :: rest =>
        if s.quote.isSome then splitText environment fuel (s.push [' ']) rest
        else splitText environment fuel s.next rest
      | 'c' :: _ =>
        if s.quote.isSome then .error "'\\c' must not appear in double-quoted -S string"
        else .ok s.next.words
      | l :: rest =>
        match splitEscape? l with
        | some e => splitText environment fuel (s.push [e]) rest
        | none => .error ("invalid sequence '\\" ++ String.singleton l ++ "' in -S")
    else if ch == '\\' then
      match rest with
      | l :: rest =>
        if l == '\\' || l == '\'' then splitText environment fuel (s.push [l]) rest
        else splitText environment fuel (s.push ['\\', l]) rest
      | [] => splitText environment fuel (s.push ['\\']) []
    else if ch == '$' && s.quote != some '\'' then
      match braced? rest with
      | some (name, rest) =>
        splitText environment fuel
          (match environment.lookup name with
            | some v => s.push v.toList
            | none => s) rest
      | none => .error ("only $\x7bVARNAME\x7d expansion is supported, error at: " ++
          String.ofList (ch :: rest))
    else splitText environment fuel (s.push [ch]) rest

/-- The options of a program that changes the environment. -/
def envFlags : List Host.Flag :=
  [⟨'i', "ignore-environment", .nothing⟩, ⟨'0', "null", .nothing⟩, ⟨'u', "unset", .value⟩,
    ⟨'C', "chdir", .value⟩, ⟨'v', "debug", .nothing⟩, ⟨'S', "split-string", .value⟩]

/-- The arguments with the first text that stands for arguments taken apart; what is told about
that. The number bounds such texts. -/
def splitArguments (c : Call) : Nat → List String → Except String (List String × List String)
  | 0, as => .ok (as, [])
  | fuel + 1, as =>
    match as with
    | [] => .ok ([], [])
    | a :: rest =>
      let open' : Option (List Char × Option String) := match a.toList with
        | '-' :: '-' :: _ =>
          if a.startsWith "--split-string=" then some ([], some (.ofList (a.toList.drop 15)))
          else none
        | '-' :: letters =>
          let before := letters.takeWhile fun l => l == 'i' || l == '0' || l == 'v'
          match letters.drop before.length with
          | 'S' :: [] => some (before, rest.head?)
          | 'S' :: text => some (before, some (.ofList text))
          | _ => none
        | _ => none
      match open' with
      | some (before, some text) => do
        let rest := if a.endsWith "S" && text != "" && rest.head? == some text then rest.drop 1
          else if a.toList.getLast? == some 'S' then rest.drop 1 else rest
        let words ← splitText c.environment (text.length + 1) {} text.toList
        let option := if before.isEmpty then [] else [String.ofList ('-' :: before)]
        let told := if !before.contains 'v' then [] else
          ["split -S:  " ++ c.quotedAlways text] ++
            (words.zip (List.range words.length)).map fun e =>
              (if e.2 = 0 then " into:    " else "     &    ") ++ c.quotedAlways e.1
        let (more, later) ← splitArguments c fuel (words ++ rest)
        return (option ++ more, told ++ later)
      | _ =>
        if a.startsWith "-" && a != "-" && a != "--" then do
          let takesNext := a == "-u" || a == "-C"
          let (more, told) ← splitArguments c fuel (if takesNext then rest.drop 1 else rest)
          return (a :: (if takesNext then rest.take 1 else []) ++ more, told)
        else .ok (as, [])

/-- What is told about the steps before a program runs. -/
def stepsTold (c : Call) (r : Host.Options.Read) (dropped : List String)
    (assigned rest : List String) : List String :=
  (if r.has 'i' || r.operands.head? == some "-" then ["cleaning environ"]
    else dropped.map ("unset:    " ++ ·)) ++
  assigned.map ("setenv:   " ++ ·) ++
  (match r.value? 'C' with
    | some path => ["chdir:    " ++ c.quotedAlways path]
    | none => []) ++
  (if rest.isEmpty then [] else ("executing: " ++ rest.headD "") ::
    (rest.zip (List.range rest.length)).map fun e =>
      "   arg[" ++ toString e.2 ++ "]= " ++ c.quoted e.1)

/-- Runs a program in another environment, or tells the environment. -/
def env (i : Interpreter) (c : Call) : Run Nat := do
  match splitArguments c 20 c.arguments with
  | .error e => complain c e
  | .ok (arguments, told) =>
    let c := { c with arguments }
    for line in told do Run.write 2 (line ++ "\n")
    withOptions c envFlags fun r => do
      let isBare := r.operands.head? == some "-"
      let operands := if isBare then r.operands.drop 1 else r.operands
      let dropped := r.given.filterMap fun g => if g.1 == 'u' then g.2 else none
      let kept := if isBare || r.has 'i' then []
        else c.environment.filter fun e => !dropped.contains e.1
      if let some name := dropped.find? fun n => n.isEmpty || n.contains '=' then
        if !isBare && !r.has 'i' then
          return ← complain c ("cannot unset " ++ c.quoted name ++ ": " ++ Refusal.invalid.reason)
      let (environment, rest) := assignments kept operands
      if r.has '0' && !rest.isEmpty then
        return ← misuse c "cannot specify --null (-0) with command"
      if r.has 'C' && rest.isEmpty then
        return ← misuse c "must specify command with --chdir (-C)"
      if r.has 'v' then
        let assigned := operands.take (operands.length - rest.length)
        for line in stepsTold c r dropped assigned rest do Run.write 2 (line ++ "\n")
      if let some path := r.value? 'C' then
        match c.files.directory? c.directory path with
        | .ok place => Run.onProcess fun p => { p with directory := place }
        | .error e =>
          return ← complain c ("cannot change directory to " ++ c.quotedAlways path ++ ": " ++
            e.reason)
      Run.surround environment
      if rest.isEmpty then
        let ending := if r.has '0' then "\x00" else "\n"
        let text := String.join (environment.map fun e => e.1 ++ "=" ++ e.2 ++ ending)
        Run.apply c "env" {} (Effect.print text.toList)
      else replace i rest fun e => do
        let name := rest.headD ""
        let status ← tell c "" (c.quoted name) e
        if e = .noEntry && name.contains ' ' then
          let _ ← complain c "use -[v]S to pass options in shebang lines"
        return status

/-- How little and how much a process may mind when others want to run. -/
def niceRange : Int × Int := (-20, 19)

/-- Runs a program that minds less when others want to run. -/
def nice (i : Interpreter) (c : Call) : Run Nat :=
  let arguments := match c.arguments with
    | a :: rest =>
      match a.toList with
      | '-' :: d :: ds =>
        let isCount := d.isDigit || (d == '-' || d == '+') && (ds.head?.map Char.isDigit).getD false
        if isCount then "-n" :: .ofList (d :: ds) :: rest else c.arguments
      | _ => c.arguments
    | [] => []
  withOptions { c with arguments } [⟨'n', "adjustment", .value⟩] fun r => do
    let step : Option Int := match r.value? 'n' with
      | none => some 10
      | some v => match Numeral.readAny (some 10) v.toList with
        | (some n, []) => some n
        | _ => none
    let now := (← Run.process).niceness
    match step, r.operands with
    | none, _ => complain c ("invalid adjustment " ++ c.quoted ((r.value? 'n').getD ""))
    | some _, [] =>
      if r.has 'n' then misuse c "a command must be given with an adjustment"
      else Run.apply c "nice" {} (Effect.print (toString now ++ "\n").toList)
    | some n, operands =>
      Run.onProcess fun p => { p with niceness := max niceRange.1 (min niceRange.2 (now + n)) }
      replace i operands (tell c "" (c.quoted (operands.headD "")))

/-- Runs a program that does not end when its terminal is gone. -/
def nohup (i : Interpreter) (c : Call) : Run Nat :=
  withOptions c [] fun r => do
    if r.operands.isEmpty then return ← misuse c "missing operand"
    Run.onProcess fun p => { p with traps := ("HUP", "") :: p.traps.filter fun t => t.1 != "HUP" }
    replace i r.operands
      (tell c "failed to run command " (c.quotedAlways (r.operands.headD "")))

/-- Runs a program in a session of its own. -/
def setsid (i : Interpreter) (c : Call) : Run Nat :=
  let flags : List Host.Flag := [⟨'c', "ctty", .nothing⟩, ⟨'f', "fork", .nothing⟩,
    ⟨'w', "wait", .nothing⟩]
  withOptions c flags (fun r => do
    if r.operands.isEmpty then return ← misuse c "no command specified" 1
    replace i r.operands (tell c "failed to execute " (r.operands.headD ""))) 1

/-- Runs a program that keeps back more or less of what it writes. -/
def stdbuf (i : Interpreter) (c : Call) : Run Nat :=
  let flags : List Host.Flag := [⟨'i', "input", .value⟩, ⟨'o', "output", .value⟩,
    ⟨'e', "error", .value⟩]
  withOptions c flags fun r => do
    if r.operands.isEmpty then return ← misuse c "missing operand"
    if r.given.isEmpty then return ← misuse c "you must specify a buffering mode option"
    replace i r.operands
      (tell c "failed to run command " (c.quoted (r.operands.headD "")))

end Caller

end Errand.Shell
