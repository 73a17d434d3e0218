import ShellCoverage.Shell.Octets
import ShellCoverage.Text.LetterCase

/-!
# Patterns

A pattern matches a string as a whole. Matching works on remainders: a part of a pattern turns a string
into the strings that may be left after it.

* `Pattern` : a part of a pattern; `Pattern.parse` : the parts of a text in which quoted characters
  stand for themselves;
* `Folding` : which letters are the same;
* `Pattern.remainders` : what may be left of a string after a pattern;
* `Pattern.accepts` : the pattern matches the string;
* `Pattern.dropHead`, `Pattern.dropTail`, `Pattern.replace` : removing and replacing matches.
-/

namespace ShellCoverage.Shell

/-- A character with a mark that says that it stands for itself. -/
abbrev Quotable := Char × Bool

/-- Which small and capital letters are the same. -/
inductive Folding where
  /-- None. -/
  | exact
  /-- Those of ASCII. -/
  | ascii
  /-- All. -/
  | wide
  deriving DecidableEq, Repr, Inhabited

/-- Letters of ASCII are the same where case is to be ignored. -/
instance : Coe Bool Folding := ⟨fun ignores => if ignores then .ascii else .exact⟩

/-- The small form of a letter that is the same. -/
def Folding.lower : Folding → Char → Char
  | .exact, c => c
  | .ascii, c => c.toLower
  | .wide, c => LetterCase.lower c

/-- The capital form of a letter that is the same. -/
def Folding.upper : Folding → Char → Char
  | .exact, c => c
  | .ascii, c => c.toUpper
  | .wide, c => LetterCase.upper c

/-- A part of a pattern. -/
inductive Pattern where
  | char (c : Char)
  /-- Any character. -/
  | any
  /-- Any string. -/
  | many
  /-- A character in one of the ranges, or in none of them. -/
  | bracket (negated : Bool) (ranges : List (Char × Char))
  /-- Some repetition of the alternatives, as the character before the parenthesis says. -/
  | group (kind : Char) (alternatives : List (List Pattern))
  deriving Repr, Inhabited

namespace Pattern

/-- The ranges of the named classes of characters. -/
def classes : List (Octets × List (Char × Char)) :=
  [("alpha", [('a', 'z'), ('A', 'Z')]), ("digit", [('0', '9')]),
    ("alnum", [('a', 'z'), ('A', 'Z'), ('0', '9')]), ("upper", [('A', 'Z')]), ("lower", [('a', 'z')]),
    ("space", [(' ', ' '), ('\t', '\x0d')]), ("blank", [(' ', ' '), ('\t', '\t')]),
    ("punct", [('!', '/'), (':', '@'), ('[', '\x60'), ('\x7b', '~')]), ("print", [(' ', '~')]),
    ("graph", [('!', '~')]), ("cntrl", [('\x00', '\x1f'), ('\x7f', '\x7f')]),
    ("xdigit", [('0', '9'), ('a', 'f'), ('A', 'F')]),
    ("ascii", [('\x00', '\x7f')]), ("word", [('a', 'z'), ('A', 'Z'), ('0', '9'), ('_', '_')])]

/-- Ranges of numbers as ranges of characters. -/
def charRanges (rs : List (Nat × Nat)) : List (Char × Char) :=
  rs.map fun r => (Char.ofNat r.1, Char.ofNat r.2)

/-- The characters beyond ASCII that a shift of letter case concerns. -/
def shiftRanges (shifts : List LetterCase.Shift) : List (Char × Char) :=
  shifts.flatMap fun s =>
    if s.2.2.1 = 1 then charRanges [(s.1, s.2.1)]
    else charRanges ((List.range ((s.2.1 - s.1) / 2 + 1)).map fun i => (s.1 + 2 * i, s.1 + 2 * i))

/-- The ranges of a named class beyond ASCII. -/
def wideRanges (name : Octets) : List (Char × Char) :=
  match name with
  | "alpha" | "alnum" => charRanges CharacterClass.wordRanges
  | "upper" => shiftRanges LetterCase.lowerShifts
  | "lower" => ('ß', 'ß') :: shiftRanges LetterCase.upperShifts
  | "space" | "blank" => charRanges (CharacterClass.blankRanges.filter fun r => 0xA0 < r.1)
  | _ => []

/-- The ranges of a named class, those beyond ASCII too if `wide` is set. -/
def classRanges? (wide : Bool) (name : Octets) : Option (List (Char × Char)) :=
  (classes.lookup name).map fun rs => rs ++ if wide then wideRanges name else []

/-- The names of characters, other than letters, that stand for themselves in a bracket expression. -/
def characterNames : List (Octets × Char) :=
  [("NUL", '\x00'), ("alert", '\x07'), ("backspace", '\x08'), ("tab", '\t'), ("newline", '\n'),
    ("vertical-tab", '\x0b'), ("form-feed", '\x0c'), ("carriage-return", '\x0d'), ("space", ' '),
    ("exclamation-mark", '!'), ("quotation-mark", '"'), ("number-sign", '#'), ("dollar-sign", '$'),
    ("percent-sign", '%'), ("ampersand", '&'), ("apostrophe", '\''), ("left-parenthesis", '('),
    ("right-parenthesis", ')'), ("asterisk", '*'), ("plus-sign", '+'), ("comma", ','), ("minus", '-'),
    ("hyphen", '-'), ("hyphen-minus", '-'), ("dash", '-'), ("period", '.'), ("full-stop", '.'),
    ("slash", '/'), ("solidus", '/'), ("zero", '0'), ("one", '1'), ("two", '2'), ("three", '3'),
    ("four", '4'), ("five", '5'), ("six", '6'), ("seven", '7'), ("eight", '8'), ("nine", '9'),
    ("colon", ':'), ("semicolon", ';'), ("less-than-sign", '<'), ("equals-sign", '='),
    ("greater-than-sign", '>'), ("question-mark", '?'), ("commercial-at", '@'),
    ("left-square-bracket", '['), ("backslash", '\\'), ("reverse-solidus", '\\'),
    ("right-square-bracket", ']'), ("circumflex", '^'), ("circumflex-accent", '^'), ("underscore", '_'),
    ("grave-accent", '\x60'), ("left-brace", '\x7b'), ("left-curly-bracket", '\x7b'),
    ("vertical-line", '|'), ("right-brace", '\x7d'), ("right-curly-bracket", '\x7d'), ("tilde", '~'),
    ("DEL", '\x7f')]

/-- The text up to a mark that is followed by a closing bracket, and what follows both. -/
def untilMark? (mark : Char) : List Quotable → Option (List Char × List Quotable)
  | a :: b :: r =>
    if a.1 = mark && b.1 = ']' then some ([], r)
    else (untilMark? mark (b :: r)).map fun p => (a.1 :: p.1, p.2)
  | _ => none

/-- What is between brackets and marks inside a bracket expression. -/
inductive Named where
  /-- A class of characters, or the characters that are equal to one. -/
  | ranges (rs : List (Char × Char))
  /-- A character; none if the name is that of no character. -/
  | symbol (c : Option Char)

/-- What begins with a bracket and a mark inside a bracket expression, and what follows it. -/
def named? (wide : Bool) : List Quotable → Option (Named × List Quotable)
  | ('[', _) :: (':', _) :: r =>
    some (((untilMark? ':' r).map fun p =>
      (.ranges ((classRanges? wide (String.ofList p.1)).getD []), p.2)).getD (.ranges [], (':', false) :: r))
  | ('[', _) :: ('=', _) :: (c, _) :: ('=', _) :: (']', _) :: r => some (.ranges [(c, c)], r)
  | ('[', _) :: ('.', _) :: r =>
    some (((untilMark? '.' r).map fun p =>
      (.symbol (match p.1 with | [c] => some c | cs => characterNames.lookup (String.ofList cs)), p.2)).getD
        (.symbol none, []))
  | _ => none

/-- A character as the end of a range, and what follows it; none if no such character has the name. -/
def rangeEnd? (wide : Bool) (cs : List Quotable) : Option (Option Char × List Quotable) :=
  match named? wide cs, cs with
  | some (.symbol c?, rest), _ => some (c?, rest)
  | _, ('\\', false) :: (d, _) :: r => some (some d, r)
  | _, (d, _) :: r => some (some d, r)
  | _, [] => none

/-- The range between two characters, if both are known. -/
def between (a b : Option Char) : List (Char × Char) :=
  match a, b with
  | some a, some b => [(a, b)]
  | _, _ => []

/-- The ranges of a bracket expression and what follows its closing bracket. -/
def ranges? (wide : Bool) : Nat → Bool → List Quotable → Option (List (Char × Char) × List Quotable)
  | 0, _, _ => none
  | _, _, [] => none
  | n + 1, first, (c, quoted) :: r =>
    if c = ']' && !quoted && !first then some ([], r)
    else
      let from_ (start : Option Char) (r : List Quotable) : Option (List (Char × Char) × List Quotable) :=
        match r with
        | ('-', false) :: r' =>
          if r'.head? = some (']', false) then
            (ranges? wide n false r).map fun p => (between start start ++ p.1, p.2)
          else
            match rangeEnd? wide r' with
            | none => none
            | some (stop, rest) => (ranges? wide n false rest).map fun p => (between start stop ++ p.1, p.2)
        | _ => (ranges? wide n false r).map fun p => (between start start ++ p.1, p.2)
      match if quoted then none else named? wide ((c, quoted) :: r) with
      | some (.ranges rs, rest) => (ranges? wide n false rest).map fun p => (rs ++ p.1, p.2)
      | some (.symbol s, rest) => from_ s rest
      | none =>
        match r with
        | (d, _) :: r' => if c = '\\' && !quoted then from_ (some d) r' else from_ (some c) r
        | [] => none

/-- The alternatives up to the closing parenthesis, and what follows it. -/
def alternatives? (depth : Nat) (current : List Quotable) :
    List Quotable → Option (List (List Quotable) × List Quotable)
  | [] => none
  | (c, quoted) :: r =>
    if quoted then alternatives? depth ((c, quoted) :: current) r
    else if c = '(' then alternatives? (depth + 1) ((c, quoted) :: current) r
    else if c = ')' then
      match depth with
      | 0 => some ([current.reverse], r)
      | depth + 1 => alternatives? depth ((c, quoted) :: current) r
    else if c = '|' && depth = 0 then
      (alternatives? depth [] r).map fun p => (current.reverse :: p.1, p.2)
    else alternatives? depth ((c, quoted) :: current) r

/-- The parts of a pattern; the number bounds its length. -/
def parseWith (wide extended : Bool) : Nat → List Quotable → List Pattern
  | 0, _ => []
  | _, [] => []
  | n + 1, (c, true) :: r => .char c :: parseWith wide extended n r
  | n + 1, (c, false) :: r =>
    let group : Option (List (List Quotable) × List Quotable) :=
      match r with
      | ('(', false) :: r' =>
        if extended && (c = '?' || c = '*' || c = '+' || c = '@' || c = '!') then
          alternatives? 0 [] r'
        else none
      | _ => none
    match group with
    | some (as, rest) => .group c (as.map (parseWith wide extended n)) :: parseWith wide extended n rest
    | none =>
      if c = '*' then .many :: parseWith wide extended n r
      else if c = '?' then .any :: parseWith wide extended n r
      else if c = '\\' then
        match r with
        | (d, _) :: r' => .char d :: parseWith wide extended n r'
        | [] => [.char c]
      else if c = '[' then
        let (negated, body) : Bool × List Quotable :=
          match r with
          | ('!', false) :: r' => (true, r')
          | ('^', false) :: r' => (true, r')
          | _ => (false, r)
        match ranges? wide (body.length + 1) true body with
        | some (rs, rest) => .bracket negated rs :: parseWith wide extended n rest
        | none => .char c :: parseWith wide extended n r
      else .char c :: parseWith wide extended n r

/-- The parts of a pattern. Named classes hold characters beyond ASCII too if `wide` is set. -/
def parse (wide extended : Bool) (cs : List Quotable) : List Pattern :=
  parseWith wide extended (cs.length + 1) cs

mutual

/-- The number of parts of a part, those of its alternatives included. -/
def size : Pattern → Nat
  | .group _ as => sizeOfAlternatives as + 1
  | _ => 1

/-- The number of parts of some parts. -/
def sizeOfParts : List Pattern → Nat
  | [] => 1
  | p :: ps => size p + sizeOfParts ps

/-- The number of parts of some alternatives. -/
def sizeOfAlternatives : List (List Pattern) → Nat
  | [] => 0
  | a :: as => sizeOfParts a + sizeOfAlternatives as

end

/-- All ends of a list, the longest first. -/
def ends : List Char → List (List Char)
  | [] => [[]]
  | c :: r => (c :: r) :: ends r

/-- Lists without those whose length was there before. -/
def distinct : List (List Char) → List (List Char)
  | [] => []
  | s :: ss => s :: (distinct ss).filter fun t => t.length ≠ s.length

/-- Characters are equal, perhaps up to case. -/
def same (fold : Folding) (a b : Char) : Bool := a = b || fold.lower a = fold.lower b

/-- A character is in one of some ranges. -/
def inRange (fold : Folding) (c : Char) (rs : List (Char × Char)) : Bool :=
  let isIn (c : Char) : Bool := rs.any fun r => r.1 ≤ c && c ≤ r.2
  isIn c || (fold ≠ .exact && (isIn (fold.lower c) || isIn (fold.upper c)))

/-- What may be left after one more round of each of some remainders. -/
def closure (step : List Char → List (List Char)) : Nat → List (List Char) → List (List Char)
  | 0, ss => ss
  | n + 1, ss =>
    let next := distinct (ss ++ ss.flatMap step)
    if next.length = ss.length then ss else closure step n next

/-- What may be left of a string after a pattern; the number bounds its depth. -/
def remaindersWith (fold : Folding) : Nat → List Pattern → List Char → List (List Char)
  | 0, _, _ => []
  | _, [], s => [s]
  | n + 1, p :: ps, s =>
    let heads : List (List Char) :=
      match p with
      | .char c =>
        match s with
        | d :: r => if same fold c d then [r] else []
        | [] => []
      | .any => match s with | _ :: r => [r] | [] => []
      | .many => ends s
      | .bracket negated rs =>
        match s with
        | d :: r => if inRange fold d rs != negated then [r] else []
        | [] => []
      | .group kind as =>
        let once (t : List Char) : List (List Char) := as.flatMap fun a => remaindersWith fold n a t
        if kind = '@' then once s
        else if kind = '?' then s :: once s
        else if kind = '*' then closure once (s.length + 1) [s]
        else if kind = '+' then closure once (s.length + 1) (distinct (once s))
        else
          (ends s).filter fun t => !((once s).any fun u => u.length = t.length)
    (distinct heads).flatMap fun t => remaindersWith fold n ps t

/-- What may be left of a string after a pattern. -/
def remainders (fold : Folding) (ps : List Pattern) (s : List Char) : List (List Char) :=
  remaindersWith fold (sizeOfParts ps + 1) ps s

/-- The pattern matches the string. -/
def accepts (fold : Folding) (ps : List Pattern) (s : List Char) : Bool :=
  (remainders fold ps s).any List.isEmpty

/-- The string without a match at its head: the longest one, or the shortest. -/
def dropHead (ps : List Pattern) (longest : Bool) (s : List Char) : List Char :=
  match remainders .exact ps s with
  | [] => s
  | r :: rs => rs.foldl (fun a b => if longest = (b.length < a.length) then b else a) r

/-- The string without a match at its end: the longest one, or the shortest. -/
def dropTail (ps : List Pattern) (longest : Bool) (s : List Char) : List Char :=
  let starts := (ends s).filter (accepts .exact ps)
  match (if longest then starts.head? else starts.getLast?) with
  | some t => s.take (s.length - t.length)
  | none => s

/-- The longest match at the head of a string, and what follows. -/
def longestMatch? (ps : List Pattern) (s : List Char) : Option (List Char × List Char) :=
  match remainders .exact ps s with
  | [] => none
  | r :: rs =>
    let rest := rs.foldl (fun a b => if b.length < a.length then b else a) r
    some (s.take (s.length - rest.length), rest)

/-- The string in which the first match, or every one, is replaced. A match of nothing stands before the next
character. -/
def replaceWith (ps : List Pattern) (all : Bool) (f : List Char → List Char) :
    Nat → List Char → List Char
  | 0, s => s
  | _, [] => []
  | n + 1, c :: r =>
    match longestMatch? ps (c :: r) with
    | some (m, rest) =>
      if m = [] then f [] ++ c :: (if all then replaceWith ps all f n r else r)
      else f m ++ (if all then replaceWith ps all f n rest else rest)
    | none => c :: replaceWith ps all f n r

/-- The string in which the first match, or every one, is replaced. -/
def replace (ps : List Pattern) (all : Bool) (f : List Char → List Char) (s : List Char) :
    List Char :=
  if s = [] then (if accepts .exact ps [] then f [] else []) else replaceWith ps all f (s.length + 1) s

/-- The text holds a character with a meaning in patterns. -/
def isMagic (extended : Bool) : List Quotable → Bool
  | [] => false
  | (c, quoted) :: r =>
    (!quoted && (c = '*' || c = '?' || (c = '[' && r.any fun q => q.1 = ']' && !q.2) ||
      (extended && (c = '+' || c = '@' || c = '!') && r.head? = some ('(', false)))) ||
      isMagic extended r

end Pattern

end ShellCoverage.Shell
