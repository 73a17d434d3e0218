import ShellCoverage.Shell.Expansion.Transform

/-!
# Expansion

Words are expanded into fields. Substituted commands are run by the argument `runs`, each in a copy of
the process.

* `Expansion.expandFrom` : the items of a text;
* `Sh.fields` : the fields of some words;
* `Sh.expandText`, `Sh.expandDocument`, `Sh.expandPattern` : one string, one text, one pattern;
* `Sh.arithmetic` : the value of an expression after expansion.
-/

namespace ShellCoverage.Shell

namespace Expansion

/-- A text in backquotes without the backslashes that the quotes take away. -/
def backquoted (inDouble : Bool) : List Char → List Char
  | '\\' :: c :: r =>
    if c = '\\' || c = '`' || c = '$' || (inDouble && c = '"') then c :: backquoted inDouble r
    else '\\' :: c :: backquoted inDouble r
  | c :: r => c :: backquoted inDouble r
  | [] => []

variable (runs : Runs)

/-- Remembers the status of a substitution, which the full shell shows at once. -/
def noteStatus (status : Nat) : Sh Unit :=
  Sh.change fun p => { p with
    substituted := some status
    status := if p.dialect = .full then status else p.status }

/-- What a substitution stands for, given what was read: null bytes and the last line feeds are dropped, null
bytes with a warning of the full shell. -/
def substituted (cs : List Char) : Sh Octets := do
  if cs.any (·.toNat = 0) && (← Sh.process).dialect = .full then
    Sh.report "warning: command substitution: ignored null byte in input"
  return Octets.trimLineFeeds (String.ofList (cs.filter fun c => c.toNat ≠ 0))

/-- Runs the commands of a substitution and gives what they write. -/
def substitute (text : List Char) : Sh Octets := do
  let line := (← Sh.process).line
  let (out, e) ← Sh.captured runs do
    Sh.change fun p => { p with
      depth := p.depth + 1
      options := if p.features.elem "inherit_errexit" || p.dialect = .plain then p.options
        else p.options.filter (· ≠ "errexit") }
    Sh.runInputText runs "command substitution" text (line - 1)
  noteStatus e.status
  substituted out.toList

/-- Starts the commands of a process substitution, which are read from or written to, and gives the path
of the pipe. -/
def substituteProcess (reads : Bool) (text : List Char) : Sh Octets := do
  let (reader, writer) ← Sh.addPipe (some Sh.pipeCapacity)
  let (mine, its) := if reads then (reader, writer) else (writer, reader)
  let line := (← Sh.process).line
  let child := Sh.withDescriptor (if reads then 1 else 0) its (← Sh.copyProcess)
  Sh.start runs child do
    Sh.change fun p => { p with depth := p.depth + 1, jobs := [] }
    Sh.runInputText runs "process substitution" text (line - 1)
  Sh.release its
  let fd ← Sh.highDescriptor
  Sh.moveToDescriptor fd mine
  Sh.change fun p => { p with
    substitutes := p.substitutes ++ [fd]
    lastJob := some child.pid
    children := p.children ++ [child.pid] }
  return "/dev/fd/" ++ Octets.ofNat fd

section
variable (expand : Expands)

/-- The items of a parameter's value after an operation; `text` is the expansion as it is written. -/
def operate (ctx : Context) (p : Parameter) (o : Operation) (text : Octets) : Sh (List Item) := do
  if let .variable name sub := p then
    Sh.warnCircular name (if sub.isSome then 2 else if o.isReading then 1 else 3)
  let found ← valueOf expand p
  let f ← match found, o with
    | .many [] _, .plain => pure found
    | .many [] _, _ => pure (if (← Sh.process).dialect = .plain then .one "" else found)
    | _, _ => pure found
  let wordCtx : Context := if ctx = .bare then .bare else .quotedWord
  let word (w : List Char) : Sh (List Item) := do
    let is ← expand wordCtx w
    if ctx = .bare then return asValue is else return is
  match o with
  | .plain =>
    requireSet p (text ≠ "") f
    emit ctx f
  | .default orEmpty w => if isMissing orEmpty f then word w else emit ctx f
  | .alternative orEmpty w => if isMissing orEmpty f then return [] else word w
  | .assign orEmpty w =>
    if isMissing orEmpty f then
      let s := Field.text (← expand wordCtx w)
      assignTo expand p s
      emit ctx (.one s)
    else emit ctx f
  | .require orEmpty w =>
    if isMissing orEmpty f then
      let s := Field.text (← expand wordCtx w)
      let plain := (← Sh.process).dialect = .plain
      let s := if s ≠ "" then s else if !orEmpty then "parameter not set"
        else if plain then "parameter not set or null" else "parameter null or not set"
      let isIndirect := Octets.startsWith "!" text
      let shown := String.ofList (text.toList.takeWhile fun c => c ≠ ':' && c ≠ '?')
      fail ((if isIndirect then shown else Parameter.text p) ++ ": " ++ s) true
    else emit ctx f
  | .slice offset length =>
    requireSet p (text ≠ "") f
    let n ← numberFor expand p offset
    let k ← match length with
      | some l => some <$> numberFor expand p l
      | none => pure none
    let shown := match length with
      | some l => String.ofList l
      | none => text
    emit ctx (← slice p f n k shown)
  | .dropHead longest w =>
    requireSet p (text ≠ "") f
    let ps ← patternOf expand w
    emit ctx (f.map (← Sh.charset) (Pattern.dropHead ps longest))
  | .dropTail longest w =>
    requireSet p (text ≠ "") f
    let ps ← patternOf expand w
    emit ctx (f.map (← Sh.charset) (Pattern.dropTail ps longest))
  | .replace all anchor w r =>
    requireSet p (text ≠ "") f
    let ps ← patternOf expand w
    let k ← Sh.charset
    let r := k.quotables (Field.flatten (← expand .bare r))
    let new := replacement (← Sh.hasFeature "patsub_replacement") r
    let change (cs : List Char) : List Char :=
      match anchor with
      | none => Pattern.replace ps all new cs
      | some '#' =>
        match Pattern.longestMatch? ps cs with
        | some (m, rest) => new m ++ rest
        | none => cs
      | some _ =>
        let rest := Pattern.dropTail ps true cs
        if rest.length = cs.length && !(Pattern.accepts false ps []) then cs
        else rest ++ new (cs.drop rest.length)
    emit ctx (if w = [] && anchor.isNone then f else f.map k change)
  | .fold change all w =>
    requireSet p (text ≠ "") f
    let ps ← if w = [] then pure [.any] else patternOf expand w
    let k ← Sh.charset
    emit ctx (f.map k (foldCase k change all ps))
  | .transform letters =>
    requireSet p (text ≠ "") f
    let result ← match letters with
      | [c] => transformed? expand p c f
      | _ => pure none
    match result, f with
    | some g, _ => emit ctx g
    | none, .unset | none, .many [] _ => return []
    | none, _ => fail ("$\x7b" ++ text ++ "\x7d: bad substitution") true

/-- The length of a parameter's value. -/
def lengthOf (p : Parameter) : Sh Nat := do
  match p with
  | .all _ => return (← Sh.parameters).length
  | _ =>
    let f ← match p with
      | .variable name (some sub) => do
        let isWhole := sub = ['@'] || sub = ['*']
        if isWhole && (← Sh.lookup? name).isNone && (← Sh.findVariable name).isNone then
          requireSet (.variable name none) true .unset
        valueOfElement expand name sub (fail (String.ofList sub ++ "]: bad array subscript") false)
      | .variable name none => do
        Sh.warnCircular name 1
        if Octets.has '[' (← Sh.resolveName name) then pure .unset else valueOf expand p
      | p => valueOf expand p
    requireSet p true f
    match f with
    | .unset => return 0
    | .one s => return (← Sh.charset).length s
    | .many ss _ => return ss.length

/-- The items of an expansion, the text of which stands between braces. -/
def expandBraces (ctx : Context) (cs : List Char) : Sh (List Item) := do
  let text := "$\x7b" ++ String.ofList cs ++ "\x7d"
  let read? := Substitution.read? cs
  if (← Sh.process).dialect = .plain && !read?.any Substitution.isPlain then fail "Bad substitution" true
  match read? with
  | none => fail (text ++ ": bad substitution") (← Sh.isStandard)
  | some (.value p o) => operate expand ctx p o (String.ofList cs)
  | some (.length p) => emit ctx (.one (Octets.ofNat (← lengthOf expand p)))
  | some (.names start star) =>
    let shell ← Sh.process
    let vs := Variables.visible shell.vars
    let names := ((vs.filter fun v => v.2.value.isSome && Octets.startsWith start v.1).map (·.1))
    let computed := Sh.computedNames.filter fun n => Octets.startsWith start n && Sh.isComputed shell n
    let names := (names ++ computed).eraseDups
    emit ctx (.many (names.mergeSort Sh.bytesLe) star)
  | some (.keys name star) =>
    Sh.warnCircular name 1
    let keys := (((← Sh.lookup? name).map Value.elements).getD []).map (·.1)
    emit ctx (.many keys star)
  | some (.indirect p o) =>
    let shell ← Sh.process
    let isReference ← match p with
      | .variable n none => do
        if ← Sh.isCircular n then fail (n ++ ": invalid indirect expansion") false
        pure ((Variables.find? n shell.vars).any (·.reference))
      | _ => pure false
    if isReference && (match o with | .plain => true | _ => false) then
      emit ctx (.one (← match p with | .variable n _ => Sh.resolveName n | _ => pure ""))
    else
      match ← valueOf expand p with
      | .unset =>
        let isPositional : Bool := match p with | .positional _ => true | _ => false
        let isOptional : Bool := match o with | .default .. | .alternative .. => true | _ => false
        if isPositional && isOptional then operate expand ctx p o (String.ofList cs)
        else
          if isPositional && (← Sh.hasOption "nounset") then fail ("!" ++ Parameter.text p ++ ": unbound variable") true
          fail (Parameter.text p ++ ": invalid indirect expansion") false
      | f =>
        let target := match f with | .one s => s | .many ss _ => ss.headD "" | .unset => ""
        match Parameter.read? target.toList with
        | some (q, []) => operate expand ctx q o (String.ofList cs)
        | _ => fail (target ++ ": invalid variable name") false

/-- No parenthesis is closed that was not opened; `n` are open before. -/
def isBalanced : Nat → List Char → Bool
  | _, [] => true
  | n, c :: cs =>
    if c = '(' then isBalanced (n + 1) cs
    else if c = ')' then n ≠ 0 && isBalanced (n - 1) cs
    else isBalanced n cs

/-- The word of a redirection of the input that is all of a substitution. -/
def inputWord? (text : List Char) : Option Word :=
  if (text.dropWhile Octets.isSpace).head? ≠ some '<' then none
  else
    match Reader.lineCommands (Reader.ofList text 0) with
    | .ok (some (some (.simple _ [] [⟨.implied, .input, w⟩]))) r => if r.rest = [] then some w else none
    | _ => none

/-- What the commands of a substitution write. A redirection of the input alone stands for what the file
holds. -/
def substituteOrRead (text : List Char) : Sh Octets := do
  match inputWord? text with
  | none => substitute runs text
  | some w =>
    let path ← stringOf expand w.toList
    match ← Sh.withFile path Sh.remaining with
    | .error e =>
      Sh.report (path ++ ": " ++ e.description)
      noteStatus 1
      return ""
    | .ok cs =>
      noteStatus 0
      substituted cs

/-- Fails if what keeps a text from being read are the commands of a substitution in it. The rest of the line is
dropped, or the shell ends after the first message if failures end it. -/
def checkCommands (read : Reads Unit) (cs : List Char) : Sh Unit := do
  let p ← Sh.process
  if p.dialect = .plain then return
  if let some e := Field.faultIn? read cs then
    let messages := e.messages.map fun m => (m.1 + p.line - 1, m.2)
    let ends ← Sh.hasOption "errexit"
    Sh.reportLines "command substitution" (if ends then messages.take 1 else messages)
    throw (if ends then .exited 2 else .discarded 1)

/-- Fails at a substitution in a text that has no closing character. A parameter without an operator is said
to be bad as such. -/
def unclosed {α : Type} (close : Char) (whole rest : List Char) : Sh α :=
  let named := rest.dropWhile Octets.isNameChar
  if close = '\x7d' && (named = [] || named.head?.any fun c => c = '[' || Octets.isSpace c) then
    fail (String.ofList whole ++ ": bad substitution") false
  else fail ("bad substitution: no closing \x60" ++ close.toString ++ "' in " ++ String.ofList whole) false

/-- The items for what follows a dollar sign in a text, and what is left after it. -/
def dollar (ctx : Context) (whole cs : List Char) : Sh (List Item × List Char) := do
  let isPlain := (← Sh.process).dialect = .plain
  let plainDollar : List Item × List Char := ([.char '$' (if ctx = .bare then .literal else .quoted)], cs)
  match cs with
  | '\x7b' :: r =>
    let quoted := ctx ≠ .bare
    match Field.upToIn (← Sh.process).dialect (.brace quoted) r with
    | some (a, rest) => return (← expandBraces expand ctx a.dropLast, rest)
    | none =>
      checkCommands (Field.closing (.brace quoted)) r
      unclosed '\x7d' whole r
  | '(' :: '(' :: r =>
    match Field.upTo .paren ('(' :: r) with
    | some (a, rest) =>
      let expression := (a.drop 1).take (a.length - 3)
      if a.drop (a.length - 2) = [')', ')'] && isBalanced 0 expression then
        let n ← numberOf expand expression
        return (Field.chars ctx.origin (Octets.ofInt n).toList, rest)
      else
        let s ← substitute runs a.dropLast
        return (Field.chars ctx.origin s.toList, rest)
    | none =>
      checkCommands (Field.closing .paren) ('(' :: r)
      if isPlain then return plainDollar else unclosed ')' whole r
  | '(' :: r =>
    match Field.upToSubstitution r with
    | some (a, rest) =>
      let s ← substituteOrRead runs expand a.dropLast
      return (Field.chars ctx.origin s.toList, rest)
    | none =>
      checkCommands Field.closingCommands r
      return plainDollar
  | '[' :: r =>
    if isPlain then return plainDollar
    match Field.upTo .bracket r with
    | some (a, rest) =>
      let n ← numberOf expand a.dropLast
      return (Field.chars ctx.origin (Octets.ofInt n).toList, rest)
    | none => unclosed ']' whole r
  | '\'' :: r =>
    if ctx = .bare && !isPlain then
      match Field.consumed .full (discard (Reader.escaped [])) r with
      | some (a, rest) =>
        return (.present :: Field.chars .quoted (Quoting.word (← Sh.charset) a.dropLast), rest)
      | none => return plainDollar
    else return plainDollar
  | '"' :: _ => if ctx = .bare && !isPlain then return ([], cs) else return plainDollar
  | c :: r =>
    if c.isDigit then return (← operate expand ctx (if c = '0' then .special '0'
      else .positional (c.toNat - 48)) .plain "", r)
    else if Octets.isNameStart c then
      let name := cs.takeWhile Octets.isNameChar
      return (← operate expand ctx (.variable (String.ofList name) none) .plain "",
        cs.drop name.length)
    else
      match Parameter.read? cs with
      | some (p, rest) => return (← operate expand ctx p .plain "", rest)
      | none => return plainDollar
  | [] => return plainDollar

end

/-- The items of a quoted text: there is a field unless it consists of parameters without any. -/
def inQuotes (is : List Item) : List Item :=
  let rest := is.filter (· ≠ .absent)
  if rest = [] && is ≠ [] then [.absent] else .present :: rest

/-- Adds the items of the rest of a text, in reverse order, to those before it. Tildes count where `tildes` is
set, and after colons too if `assigns` is. -/
def expandFrom (expand : Expands) (ctx : Context) (assigns : Bool) (whole : List Char) :
    Nat → Bool → List Item → List Char → Sh (List Item)
  | 0, _, acc, _ => return acc.reverse
  | _, _, acc, [] => return acc.reverse
  | n + 1, tildes, acc, c :: r => do
    let bare := ctx = .bare
    let next (acc : List Item) (r : List Char) : Sh (List Item) :=
      expandFrom expand ctx assigns whole n false acc r
    let plain : Sh (List Item) :=
      expandFrom expand ctx assigns whole n (assigns && c = ':')
        (.char c (if bare then .literal else .quoted) :: acc) r
    match c with
    | '\\' =>
      match r with
      | [] => next (.present :: acc) []
      | d :: r' =>
        if d = '\n' then next acc r'
        else if bare then next (.char d .quoted :: .present :: acc) r'
        else if d = '$' || d = '`' || d = '\\' || (d = '"' && ctx ≠ .document) ||
            (d = '\x7d' && ctx = .quotedWord) then
          next (.char d .quoted :: acc) r'
        else next (.char d .quoted :: .char '\\' .quoted :: acc) r'
    | '\'' =>
      if bare then
        let a := r.takeWhile (· ≠ '\'')
        next ((Field.chars .quoted a).reverse ++ .present :: acc) (r.drop (a.length + 1))
      else plain
    | '"' =>
      if bare then
        match Field.upTo .double r with
        | some (a, rest) => next ((inQuotes (← expand .quoted a.dropLast)).reverse ++ acc) rest
        | none =>
          checkCommands (Field.closing .double) r
          plain
      else if ctx = .quotedWord then next acc r
      else plain
    | '`' =>
      match Field.upTo .back r with
      | some (a, rest) =>
        let s ← substituteOrRead runs expand (backquoted (!bare && ctx ≠ .document) a.dropLast)
        next ((Field.chars ctx.origin s.toList).reverse ++ acc) rest
      | none =>
        if r = [] then plain
        else fail ("bad substitution: no closing \"\x60\" in " ++ String.ofList (c :: r)) false
    | '$' => do
      let (is, rest) ← dollar runs expand ctx whole r
      next (is.reverse ++ acc) rest
    | '<' | '>' =>
      match r with
      | '(' :: r' =>
        if bare && (← Sh.process).dialect = .full then
          match Field.upToSubstitution r' with
          | some (a, rest) =>
            let path ← substituteProcess runs (c = '<') a.dropLast
            next ((Field.chars .quoted path.toList).reverse ++ acc) rest
          | none =>
            checkCommands Field.closingCommands r'
            plain
        else plain
      | _ => plain
    | '~' =>
      if bare && tildes then
        let name := r.takeWhile fun d => d.isAlphanum || d = '_' || d = '+' || d = '-' || d = '.'
        let rest := r.drop name.length
        let ends := match rest with
          | [] => true
          | d :: _ => d = '/' || (assigns && d = ':')
        match ← (if ends then tilde? name else pure none : Sh (Option Octets)) with
        | some dir => next ((Field.chars .quoted dir.toList).reverse ++ .present :: acc) rest
        | none => plain
      else plain
    | _ => plain

/-- The items of a text; expansions nest at most so deep. -/
def expandAt (assigns tildes : Bool) : Nat → Expands
  | 0, _, _ => return []
  | n + 1, ctx, cs =>
    expandFrom runs (expandAt false true n) ctx assigns cs (cs.length + 1) tildes [] cs

/-- The items of a text. -/
def items (assigns tildes : Bool) (ctx : Context) (cs : List Char) : Sh (List Item) :=
  expandAt runs assigns tildes (cs.length + 2) ctx cs

end Expansion

namespace Sh
open Expansion

variable (runs : Runs)

/-- The expansion of a word as one string. -/
def expandText (w : Word) : Sh Octets := do
  return Field.text (← items runs false true .bare w.toList)

/-- The expansion of the value of an assignment as one string. -/
def expandValue (cs : List Char) : Sh Octets := do
  return Field.text (← items runs true true .bare cs)

/-- The expansion of the text of a redirection. -/
def expandDocument (s : Octets) : Sh Octets := do
  return Field.text (← items runs false false .document s.toList)

/-- The expansion of a text as if it stood in double quotes. -/
def expandQuoted (s : Octets) : Sh Octets := do
  return Field.text (← items runs false false .quoted s.toList)

/-- The expansion of a prompt. Only the full shell knows escapes in it. -/
def expandPrompt (s : Octets) : Sh Octets := do
  if (← process).dialect = .plain then expandQuoted runs s
  else
    let text := Prompt.replaced (← Prompt.facts) s
    if ← hasFeature "promptvars" then expandQuoted runs text else return text

/-- The characters of a word that is used as a pattern. -/
def expandPattern (w : Word) : Sh (List Quotable) := do
  return Field.flatten (← items runs false true .bare w.toList)

/-- The expansion of the text of an arithmetic expression, in which double quotes have no effect. -/
def expandExpression (s : Octets) : Sh Octets := do
  return Field.text (← items runs false false .quotedWord s.toList)

/-- The value of an expression after its expansion; the name of a command stands before its errors. -/
def arithmetic (name : Octets) (s : Octets) : Sh Int := do
  evaluate name (← expandExpression runs s)

/-- The paths for a field, or its text. -/
def pathsOf (field : List Quotable) : Sh (List Octets) := do
  let text := String.ofList (field.map (·.1))
  match ← glob? field with
  | some paths => return paths
  | none =>
    let p ← process
    let magic := Pattern.isMagic (p.features.elem "extglob") field && !(p.options.elem "noglob")
    if magic && p.features.elem "failglob" then
      report ("no match: " ++ text)
      throw (.discarded 1)
    if magic && p.features.elem "nullglob" then return []
    return [text]

/-- The fields of a word. -/
def fieldsOf (w : Word) : Sh (List Octets) := do
  let ws := if (← process).options.elem "braceexpand" then Field.braces w else [w]
  let mut out : List (List Octets) := []
  for w in ws do
    let cs := w.toList
    let assigns := Reader.isAssignment w && !(← isStrict)
    let is ←
      if assigns then
        let name := cs.takeWhile (· ≠ '=')
        let rest := cs.drop (name.length + 1)
        pure (Field.chars .literal (name ++ ['=']) ++ (← items runs true true .bare rest))
      else items runs false true .bare cs
    let fields := Field.splitIn (← Sh.charset) (← Sh.separators) is
    let paths ← fields.mapM pathsOf
    out := paths.flatten :: out
  return out.reverse.flatten

/-- The fields of some words. -/
def fields (ws : List Word) : Sh (List Octets) := return (← ws.mapM (fieldsOf runs)).flatten

end Sh

end ShellCoverage.Shell
