import ShellCoverage.Shell.Program.Files
import ShellCoverage.Shell.Regex.Reader

/-!
# Searching

`grep` writes the lines that match one of some expressions.

* `Program.Finder` : what is searched for; `Program.Finder.matches` : the matches in a line.
-/

namespace ShellCoverage.Shell.Program

/-- What is searched for. -/
structure Finder where
  expressions : List Regex
  manner : Regex.Manner
  /-- A match must be a word, or the whole line. -/
  words : Bool
  lines : Bool

namespace Finder

/-- The places after the matches at a place that count. -/
def ends (f : Finder) (text : List Char) (p : Regex.Place) : List Nat :=
  let all := f.expressions.flatMap fun r => Regex.places f.manner (Regex.refers r) text r p
  let all := if f.lines then all.filter fun q => p.position = 0 && q.rest.isEmpty else all
  let all :=
    if f.words then
      all.filter fun q => !p.prior.any Octets.isNameChar && !q.rest.head?.any Octets.isNameChar
    else all
  all.map (·.position)

/-- The first match from a place on, of which so many are tried: where it starts and stops. -/
def searchFrom? (f : Finder) (text : List Char) : Nat → Regex.Place → Option (Nat × Nat)
  | 0, _ => none
  | n + 1, p =>
    match f.ends text p with
    | [] =>
      match p.rest with
      | [] => none
      | d :: rest => searchFrom? f text n ⟨p.position + 1, some d, rest, []⟩
    | e :: es => some (p.position, es.foldl max e)

/-- A line has a match. -/
def accepts (f : Finder) (text : List Char) : Bool :=
  (f.searchFrom? text (text.length + 1) ⟨0, none, text, []⟩).isSome

/-- The matches in a line that are not empty, one after the other; the number bounds them. -/
def allMatches (f : Finder) (text : List Char) : Nat → Nat → List (Nat × Nat)
  | 0, _ => []
  | n + 1, start =>
    let prior := if start = 0 then none else text[start - 1]?
    match f.searchFrom? text (text.length + 1) ⟨start, prior, text.drop start, []⟩ with
    | none => []
    | some (a, b) =>
      if b = a then
        if text.length ≤ a then [] else allMatches f text n (a + 1)
      else (a, b) :: allMatches f text n b

end Finder

/-- An expression in which the classes that Perl has letters for are brackets. -/
def withoutPerlClasses : List Char → List Char
  | '\\' :: 'd' :: r => "[0-9]".toList ++ withoutPerlClasses r
  | '\\' :: 'D' :: r => "[^0-9]".toList ++ withoutPerlClasses r
  | '\\' :: c :: r => '\\' :: c :: withoutPerlClasses r
  | c :: r => c :: withoutPerlClasses r
  | [] => []

/-- How the lines of a file that match are shown. -/
structure Showing where
  charset : Charset
  finder : Finder
  inverted : Bool
  /-- At most so many lines count. -/
  most : Option Nat
  onlyMatches : Bool
  count : Bool
  /-- Nothing is shown, since one match is enough. -/
  quick : Bool
  numbers : Bool
  offsets : Bool
  before : Nat
  after : Nat
  /-- Lines around those that match are asked for. -/
  hasContext : Bool
  delimiter : Char

/-- How far the search in a file has come. -/
structure Search where
  number : Nat := 0
  offset : Nat := 0
  found : Nat := 0
  /-- The lines that may be shown before the next match, the latest first. -/
  waiting : List (Nat × Nat × Octets) := []
  /-- The number of lines that are to be shown after the last match. -/
  left : Nat := 0
  /-- The number of the last line that was shown. -/
  shown : Option Nat := none
  /-- The file holds bytes that are no text. -/
  isBinary : Bool := false

/-- The head of a line that is shown. -/
def lineHead (s : Showing) (name : Option Octets) (mark : Octets) (number offset : Nat) : Octets :=
  (match name with | some n => n ++ mark | none => "") ++
    (if s.numbers then Octets.ofNat number ++ mark else "") ++
    (if s.offsets then Octets.ofNat offset ++ mark else "")

/-- Shows a line around a match. -/
def showContext (s : Showing) (name : Option Octets) (x : Search) (l : Nat × Nat × Octets) : Sh Search := do
  if s.hasContext && x.shown.any (· + 1 < l.1) then Sh.write "--\n"
  Sh.write (lineHead s name "-" l.1 l.2.1 ++ l.2.2 ++ s.delimiter.toString)
  return { x with shown := some l.1 }

/-- Searches a line. -/
def searchLine (s : Showing) (name : Option Octets) (x : Search) (line : Octets) :
    Sh (ForInStep Search) := do
  let text := if line.toList.getLast? = some s.delimiter then String.ofList line.toList.dropLast else line
  let cs := s.charset.chars text.toList
  let isText := !(s.delimiter ≠ '\x00' && cs.elem '\x00') && !cs.any Charset.isStray
  let start := x.offset
  let x := { x with
    number := x.number + 1
    offset := x.offset + line.length
    isBinary := x.isBinary || !isText }
  let full := s.most.any (· ≤ x.found)
  if !full && s.finder.accepts cs != s.inverted then
    let x := { x with found := x.found + 1 }
    if s.quick then return .done x
    let isLast := s.most.any (· ≤ x.found) && s.after = 0
    if s.count || x.isBinary then
      return if isLast || (x.isBinary && !s.count) then .done x else .yield x
    let mut x := x
    for l in x.waiting.reverse do
      x ← showContext s name x l
    if s.hasContext && x.shown.any (· + 1 < x.number) then Sh.write "--\n"
    if s.onlyMatches then
      if !s.inverted then
        for m in s.finder.allMatches cs (cs.length + 2) 0 do
          let before := s.charset.octets (cs.take m.1)
          let found := s.charset.octets ((cs.drop m.1).take (m.2 - m.1))
          Sh.write (lineHead s name ":" x.number (start + before.length) ++ String.ofList found ++
            s.delimiter.toString)
    else Sh.write (lineHead s name ":" x.number start ++ text ++ s.delimiter.toString)
    let next := { x with waiting := [], left := s.after, shown := some x.number }
    return if isLast then .done next else .yield next
  else if 0 < x.left then
    let x ← showContext s name x (x.number, start, text)
    let next := { x with left := x.left - 1 }
    return if full && next.left = 0 then .done next else .yield next
  else if full then return .done x
  else
    return .yield { x with waiting := ((x.number, start, text) :: x.waiting).take s.before }

/-- The paths of the files below a directory that are searched; the number bounds the depth. -/
def searchedBelow (keepsFile keepsDirectory : Octets → Bool) : Nat → Octets → Node → List Octets
  | 0, _, _ => []
  | n + 1, path, x =>
    match x with
    | .directory _ es => es.flatMap fun e =>
      let name := Octets.ofBytes e.1
      let inner := if path = "" then name else below path name
      match e.2 with
      | .directory _ _ =>
        if keepsDirectory name then searchedBelow keepsFile keepsDirectory n inner e.2 else []
      | .file _ _ => if keepsFile name then [inner] else []
      | _ => []
    | _ => []

/-- Complains about the arguments of `grep`. -/
def grepMisuse (message : Option Octets) : Sh Nat := do
  match message with
  | some m => complain m
  | none => pure ()
  Sh.complain ("Usage: " ++ (← ownName) ++ " [OPTION]... PATTERNS [FILE]...\n")
  referToHelp
  return 2

/-- The options of `grep`. -/
def grepUsage : Usage :=
  { letters := "A:B:C:D:EFGHILPTUVX:abcd:e:f:hiLlm:noqRrsuvwxyzZ"
    failure := 2
    package := "GNU grep"
    release := "3.8"
    words := [("after-context", "A"), ("before-context", "B"), ("context", "C"), ("extended-regexp", "E"),
      ("fixed-strings", "F"), ("basic-regexp", "G"), ("with-filename", "H"), ("no-filename", "h"),
      ("files-without-match", "L"), ("files-with-matches", "l"), ("perl-regexp", "P"), ("text", "a"),
      ("byte-offset", "b"), ("count", "c"), ("regexp", "e"), ("file", "f"), ("ignore-case", "i"),
      ("max-count", "m"), ("line-number", "n"), ("only-matching", "o"), ("quiet", "q"), ("silent", "q"),
      ("recursive", "r"), ("dereference-recursive", "R"), ("no-messages", "s"), ("invert-match", "v"),
      ("word-regexp", "w"), ("line-regexp", "x"), ("null-data", "z"), ("null", "Z"), ("color", "color::"),
      ("colour", "color::"), ("include", "include:"), ("exclude", "exclude:"),
      ("exclude-dir", "exclude-dir:"), ("label", "label:"), ("line-buffered", "line-buffered"),
      ("no-ignore-case", "no-ignore-case"), ("binary-files", "binary-files:"), ("initial-tab", "T")] }

/-- Numbers among the arguments that ask for so many lines of context, as the option for that. -/
def contextNumbers (args : List Octets) : List Octets :=
  args.map fun a => match a.toList with
    | '-' :: ds => if ds ≠ [] && ds.all Char.isDigit then "-C" ++ String.ofList ds else a
    | _ => a

/-- The patterns that are given, each line of which is one; and the other operands. -/
def givenPatterns (os : Options) (operands : List Octets) :
    Sh (Except Octets (List Octets × List Octets)) := do
  let mut patterns := (os.values "e").flatMap (Octets.pieces '\n')
  for path in os.values "f" do
    match ← input path with
    | .ok s => patterns := patterns ++ bare s
    | .error e => return .error (named path ++ ": " ++ e.description)
  if os.has "e" || os.has "f" then return .ok (patterns, operands)
  return .ok (Octets.pieces '\n' (operands.headD ""), operands.tail)

/-- `grep`, for which expressions are of some kind if no option says otherwise. -/
def grepAs (kind : Octets) : Program := fun args => do
  match grepUsage.parse (contextNumbers args) with
  | .error e => grepMisuse (some e)
  | .ok (os, operands) =>
    if os.has "version" then
      Sh.write ((← ownName) ++ " (GNU grep) 3.8\n")
      return 0
    if !(os.has "e" || os.has "f") && operands = [] then return ← grepMisuse none
    let fail (message : Octets) : Sh Nat := do
      complain message
      return 2
    let k ← Sh.charset
    match ← givenPatterns os operands with
    | .error e => fail e
    | .ok (patterns, paths) =>
      let kind := (os.last? ["E", "F", "G", "P"]).getD kind
      let form := if kind = "E" || kind = "P" then Regex.Form.looseExtended else .basic
      let expression (p : Octets) : Except Regex.Fault Regex :=
        let cs := if kind = "P" then withoutPerlClasses p.toList else p.toList
        k.regex form (cs.map fun c => (c, kind = "F"))
      match patterns.mapM expression with
      | .error e => fail (if e = .emptyBracket then Regex.Fault.openBracket else e).message
      | .ok expressions =>
        if kind = "E" then
          for p in patterns do
            match p.toList with
            | c :: _ =>
              if "*+?".toList.elem c then complain ("warning: " ++ c.toString ++ " at start of expression")
            | [] => pure ()
        let number (key : Octets) : Option Nat := (os.value? key).bind Octets.natural?
        match ["A", "B", "C"].find? fun k => os.has k && (number k).isNone with
        | some k =>
          return ← fail ((os.value? k).getD "" ++ ": invalid context length argument")
        | none => pure ()
        if os.has "m" && ((os.value? "m").bind Octets.integer?).isNone then
          return ← fail "invalid max count"
        let context := (number "C").getD 0
        let onlyNames := os.last? ["l", "L"]
        let s : Showing := {
          charset := k
          finder := ⟨expressions, { fold := k.folding (os.has "i" || os.has "y") }, os.has "w", os.has "x"⟩
          inverted := os.has "v"
          most := number "m"
          onlyMatches := os.has "o"
          count := os.has "c"
          quick := os.has "q" || onlyNames.isSome
          numbers := os.has "n"
          offsets := os.has "b"
          before := if os.has "o" then 0 else (number "B").getD context
          after := if os.has "o" then 0 else (number "A").getD context
          hasContext := ["A", "B", "C"].any os.has
          delimiter := if os.has "z" then '\x00' else '\n' }
        let recursive := os.has "r" || os.has "R"
        let fits (p name : Octets) : Bool :=
          Pattern.accepts false (Pattern.parse false false (p.toList.map fun c => (c, false))) name.toList
        let keepsFile (name : Octets) : Bool :=
          ((os.values "include").isEmpty || (os.values "include").any (fits · name)) &&
            !(os.values "exclude").any (fits · name)
        let keepsDirectory (name : Octets) : Bool := !(os.values "exclude-dir").any (fits · name)
        let named := match os.last? ["h", "H"] with
          | some "h" => false
          | some _ => true
          | none => 1 < paths.length || recursive
        let starts := if paths = [] then (if recursive then [""] else ["-"]) else paths
        let mut files : List Octets := []
        let mut good := true
        let mut found := false
        for path in starts do
          match ← Sh.node? true (if path = "" then "." else path) with
          | .ok (_, x) =>
            if recursive && path ≠ "-" && x.isDirectory then
              files := files ++ searchedBelow keepsFile keepsDirectory 100 path x
            else files := files ++ [path]
          | .error _ => files := files ++ [path]
        for path in files do
          if os.has "q" && found then break
          let shown := if path = "-" then (os.value? "label").getD "(standard input)" else path
          let separator := if os.has "Z" then "\x00" else ":"
          let name := if named then some shown else none
          let result ← onDescriptor path fun fd =>
            foldLinesAt fd s.delimiter (s.most.isSome && !s.quick) ({} : Search) (searchLine s name)
          match result with
          | .error e =>
            if !os.has "s" then complainInput path e
            good := false
          | .ok x =>
            if 0 < x.found && onlyNames ≠ some "L" then found := true
            if x.found = 0 && onlyNames = some "L" then found := true
            if !os.has "q" then
              match onlyNames with
              | some "l" =>
                if 0 < x.found then Sh.write (shown ++ if os.has "Z" then "\x00" else "\n")
              | some _ =>
                if x.found = 0 then Sh.write (shown ++ if os.has "Z" then "\x00" else "\n")
              | none =>
                if s.count then
                  Sh.write ((if named then shown ++ separator else "") ++ Octets.ofNat x.found ++ "\n")
                else if x.isBinary && 0 < x.found then complain (shown ++ ": binary file matches")
        if !good && !(os.has "q" && found) then return 2
        return if found then 0 else 1

/-- `grep` -/
def grep : Program := grepAs "G"

end ShellCoverage.Shell.Program
