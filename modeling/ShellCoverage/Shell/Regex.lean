import ShellCoverage.Shell.Pattern

/-!
# Regular expressions

A search finds the leftmost match, and of those that begin there the longest one. Which characters the
groups of it take is decided by the order in which an expression tries its ways: the first way that leads to
the longest match counts.

* `Regex` : an expression;
* `Regex.places` : the places after the matches that begin at a place, the preferred ones first;
* `Regex.search?` : the leftmost match with its groups;
* `Regex.allMatches` : the matches one after the other.
-/

namespace ShellCoverage.Shell

/-- What holds between two characters without taking any. -/
inductive Border where
  /-- The start of the text, or of a line if lines matter. -/
  | lineStart
  /-- The end of the text, or of a line if lines matter. -/
  | lineEnd
  | textStart
  | textEnd
  | wordStart
  | wordEnd
  /-- The start or the end of a word. -/
  | wordEdge
  /-- Neither the start nor the end of a word. -/
  | noEdge
  deriving DecidableEq, Repr, Inhabited

/-- A regular expression. -/
inductive Regex where
  | empty
  | char (c : Char)
  | any
  | bracket (negated : Bool) (ranges : List (Char × Char))
  | border (b : Border)
  | sequence (a b : Regex)
  | either (a b : Regex)
  | repetition (r : Regex) (least : Nat) (most : Option Nat)
  | group (n : Nat) (r : Regex)
  | reference (n : Nat)
  deriving Repr, Inhabited

namespace Regex

/-- How matching is done. -/
structure Manner where
  /-- Small and capital letters are the same. -/
  fold : Folding := .exact
  /-- The borders of lines are those at line feeds too. -/
  byLine : Bool := false
  /-- Dots and negated brackets do not match a line feed. -/
  withinLines : Bool := false

/-- A place in a text: the number of characters before it, the last of them, those after it, and the groups
that were matched, each with its place and length. -/
structure Place where
  position : Nat
  prior : Option Char
  rest : List Char
  groups : List (Nat × Nat × Nat) := []

/-! ## Parts of expressions -/

/-- The number of groups of an expression. -/
def groupCount : Regex → Nat
  | .sequence a b | .either a b => max (groupCount a) (groupCount b)
  | .repetition r _ _ => groupCount r
  | .group n r => max n (groupCount r)
  | _ => 0

/-- The expression refers to a group. -/
def refers : Regex → Bool
  | .sequence a b | .either a b => refers a || refers b
  | .repetition r _ _ | .group _ r => refers r
  | .reference _ => true
  | _ => false

/-- The expression matches at the start of a text only. -/
def isAnchored : Regex → Bool
  | .border .lineStart | .border .textStart => true
  | .sequence a _ => isAnchored a
  | .either a b => isAnchored a && isAnchored b
  | .group _ r => isAnchored r
  | _ => false

/-! ## Places -/

/-- The place after the next character, if that is a fitting one. -/
def Place.next (p : Place) (fits : Char → Bool) : List Place :=
  match p.rest with
  | d :: rest =>
    if fits d then [{ p with position := p.position + 1, prior := some d, rest }] else []
  | [] => []

/-- A border is at a place. -/
def Place.isAt (m : Manner) (p : Place) (b : Border) : Bool :=
  let inWordBefore := p.prior.any Octets.isNameChar
  let inWordAfter := p.rest.head?.any Octets.isNameChar
  match b with
  | .lineStart => p.prior.isNone || (m.byLine && p.prior = some '\n')
  | .lineEnd => p.rest.isEmpty || (m.byLine && p.rest.head? = some '\n')
  | .textStart => p.prior.isNone
  | .textEnd => p.rest.isEmpty
  | .wordStart => !inWordBefore && inWordAfter
  | .wordEnd => inWordBefore && !inWordAfter
  | .wordEdge => inWordBefore != inWordAfter
  | .noEdge => inWordBefore == inWordAfter

/-- A number added to a descending list, unless it is in it. -/
def insertNew? (n : Nat) : List Nat → Option (List Nat)
  | [] => some [n]
  | m :: ms =>
    if n = m then none
    else if m < n then some (n :: m :: ms)
    else (insertNew? n ms).map (m :: ·)

/-- The places without those whose position came before. -/
def distinctFrom (seen : List Nat) : List Place → List Place
  | [] => []
  | p :: ps =>
    match insertNew? p.position seen with
    | some seen => p :: distinctFrom seen ps
    | none => distinctFrom seen ps

/-- The places that lead to different matches: if groups do not matter to what follows, one for each
position. -/
def distinct (exact : Bool) (ps : List Place) : List Place :=
  match ps with
  | [] | [_] => ps
  | ps => if exact then ps else distinctFrom [] ps

/-- The places after so many steps. -/
def after (exact : Bool) (step : Place → List Place) : Nat → List Place → List Place
  | 0, ps => ps
  | n + 1, ps =>
    match ps with
    | [] => []
    | ps => after exact step n (distinct exact (ps.flatMap step))

/-- What a repetition has found: places, the preferred ones last, and numbers for the places that it
has been at. -/
structure Found where
  places : List Place := []
  seen : List Nat := []

/-- The places after any number of steps, at most `left` if there is a limit, which is below `limit`; more
steps are preferred. They go on from each place once, unless `exact` is set. -/
def spread (exact : Bool) (step : Place → List Place) (limit : Nat) :
    Nat → Option Nat → Place → Found → Found
  | 0, _, p, f => { f with places := p :: f.places }
  | n + 1, left, p, f =>
    let f :=
      if left = some 0 then f
      else
        (step p).foldl (fun (f : Found) q =>
          if q.position ≤ p.position then f
          else
            let left := left.map (· - 1)
            if exact then spread exact step limit n left q f
            else
              match insertNew? (q.position * limit + left.getD 0) f.seen with
              | some seen => spread exact step limit n left q { f with seen }
              | none => f) f
    { f with places := p :: f.places }

/-- The places after the matches of an expression that begin at a place, the preferred ones first. -/
def places (m : Manner) (exact : Bool) (text : List Char) : Regex → Place → List Place
  | .empty, p => [p]
  | .char c, p => p.next fun d => Pattern.same m.fold c d
  | .any, p => p.next fun d => !(m.withinLines && d = '\n')
  | .bracket negated rs, p =>
    p.next fun d => (Pattern.inRange m.fold d rs != negated) && !(m.withinLines && negated && d = '\n')
  | .border b, p => if p.isAt m b then [p] else []
  | .sequence a b, p => distinct exact ((places m exact text a p).flatMap fun q => places m exact text b q)
  | .either a b, p => distinct exact (places m exact text a p ++ places m exact text b p)
  | .repetition a least most, p =>
    let step (q : Place) : List Place := places m exact text a q
    let starts := after exact step least [p]
    let more := starts.flatMap fun q =>
      (spread exact step (most.getD 0 + 1) (q.rest.length + 1) (most.map (· - least)) q {}).places.reverse
    distinct exact more
  | .group i a, p =>
    (places m exact text a p).map fun q =>
      { q with groups := (i, p.position, q.position - p.position) :: q.groups }
  | .reference i, p =>
    match p.groups.lookup i with
    | some (start, size) =>
      let s := (text.drop start).take size
      if s.length ≤ p.rest.length && (List.zipWith (Pattern.same m.fold) s p.rest).all id then
        [{ p with
          position := p.position + size
          prior := s.getLast?.orElse fun _ => p.prior
          rest := p.rest.drop size }]
      else []
    | none => []

/-! ## Searching -/

/-- A match: the characters before it, their number and its length, and the groups. -/
structure Match where
  start : Nat
  length : Nat
  groups : List (Nat × Nat × Nat) := []

/-- The longest match that begins at a place: the place after it. -/
def longestAt? (m : Manner) (text : List Char) (r : Regex) (p : Place) : Option Place :=
  match places m (refers r) text r p with
  | [] => none
  | q :: qs => some (qs.foldl (fun a b => if a.position < b.position then b else a) q)

/-- The leftmost match at or after a place, of which so many are tried. -/
def searchFrom? (m : Manner) (text : List Char) (r : Regex) : Nat → Place → Option Match
  | 0, _ => none
  | n + 1, p =>
    match longestAt? m text r p with
    | some q => some ⟨p.position, q.position - p.position, q.groups⟩
    | none =>
      match p.rest with
      | [] => none
      | d :: rest => searchFrom? m text r n ⟨p.position + 1, some d, rest, []⟩

/-- The leftmost match from a position on. -/
def search? (m : Manner) (r : Regex) (text : List Char) (start : Nat) : Option Match :=
  let prior := if start = 0 then none else text[start - 1]?
  let tries := if isAnchored r && !m.byLine then 1 else text.length + 1
  searchFrom? m text r tries ⟨start, prior, text.drop start, []⟩

/-- The matches one after the other, from a position on; an empty one does not follow another match at
once. The number bounds how many there are. -/
def matchesFrom (m : Manner) (r : Regex) (text : List Char) (size : Nat) :
    Nat → Nat → Option Nat → List Match
  | 0, _, _ => []
  | n + 1, start, last =>
    match search? m r text start with
    | none => []
    | some x =>
      let stop := x.start + x.length
      if size < x.start then []
      else if x.length = 0 && last = some x.start then
        if size ≤ x.start then [] else matchesFrom m r text size n (x.start + 1) none
      else if x.length = 0 then
        x :: if size ≤ x.start then [] else matchesFrom m r text size n (x.start + 1) none
      else x :: matchesFrom m r text size n stop (some stop)

/-- The matches in a text, one after the other. -/
def allMatches (m : Manner) (r : Regex) (text : List Char) : List Match :=
  matchesFrom m r text text.length (2 * text.length + 2) 0 none

/-- The text of a group; the group 0 is the whole match. -/
def Match.groupText (m : Match) (text : List Char) (i : Nat) : List Char :=
  if i = 0 then (text.drop m.start).take m.length
  else
    match m.groups.lookup i with
    | some (start, size) => (text.drop start).take size
    | none => []

end Regex

end ShellCoverage.Shell
