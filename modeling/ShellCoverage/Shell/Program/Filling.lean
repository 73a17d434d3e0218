import ShellCoverage.Shell.Program.Input

/-!
# The program that fills lines

`fmt` breaks paragraphs into lines of about the same length. Each way to break one has a cost, which is high for
lines that are far from the goal, for ragged ones, and for breaks at bad places; the cheapest way is taken.

* `Program.Token` : a word of a paragraph; `Program.Token.cost` : what a line that begins with it costs;
* `Program.breaks` : the cheapest way to break a paragraph;
* `Program.Filler` : the lines of the input with their indentation.
-/

namespace ShellCoverage.Shell.Program

/-! ## Words -/

/-- A word of a paragraph. -/
structure Token where
  text : List Char
  /-- The number of blanks after it. -/
  space : Nat := 0
  /-- It begins with an opening bracket or quote. -/
  opens : Bool := false
  /-- It ends like a sentence, but for closing brackets and quotes. -/
  period : Bool := false
  /-- It ends in punctuation. -/
  punctuated : Bool := false
  /-- It is the last one of a sentence. -/
  isFinal : Bool := false
  deriving Inhabited

namespace Token

/-- The word of some characters. -/
def ofText (cs : List Char) : Token :=
  let last := cs.getLastD ' '
  let body := (cs.drop 1).reverse.dropWhile ")]'\"".toList.elem
  { text := cs
    opens := cs.head?.any "(['\x60\"".toList.elem
    period := ".?!".toList.elem (body.headD (cs.headD ' '))
    punctuated := Quoting.isVisible last && !last.isAlphanum && last ≠ ' ' }

/-- The length of a word. -/
def length (t : Token) : Int := t.text.length

end Token

/-! ## Costs -/

/-- The square of a number. -/
def squared (n : Int) : Int := n * n

/-- The cost of a line that is so much longer or shorter than the goal. -/
def offGoalCost (n : Int) : Int := squared (n * 10)

/-- The cost of two lines with so much difference in length. -/
def raggedCost (n : Int) : Int := offGoalCost n / 2

/-- What it costs to begin a line with a word, given those before it, the last one first. -/
def Token.cost (t : Token) (before : List Token) : Int :=
  let line := squared 70
  let line := match before with
    | [] => line
    | p :: rest =>
      if p.period then if p.isFinal then line - squared 50 else line + squared 600
      else if p.punctuated then line - squared 40
      else if (rest.head?).any (·.isFinal) then line + Int.tdiv (squared 200) (p.length + 2)
      else line
  if t.opens then line - squared 40
  else if t.isFinal then line + Int.tdiv (squared 150) (t.length + 2)
  else line

/-- The cheapest way to go on from a word: the cost, the number of words on its line, and the length of that. -/
structure Break where
  cost : Int
  count : Nat
  length : Int
  deriving Inhabited

/-- The goal and the bound for the length of lines, and the indentation of the first and the other lines. -/
structure Measure where
  width : Int
  goal : Int
  first : Int
  other : Int

/-- What it costs to end a line of some length before the given words, which have their breaks. -/
def breakCost (m : Measure) (length : Int) : List (Token × Break) → Int
  | [] => 0
  | (t, b) :: rest =>
    let isLast : Bool := b.count = ((t, b) :: rest).length
    offGoalCost (m.goal - length) + (if isLast then 0 else raggedCost (length - b.length)) + b.cost

/-- The cheapest way to end a line that so far has some words and some length, and after which the given words
follow after so many blanks. -/
def bestBreak (m : Measure) : List (Token × Break) → Nat → Nat → Int → Option Break → Break
  | rest, space, count, length, best =>
    let cost := breakCost m length rest
    let here : Break := ⟨cost, count, length⟩
    let best := match best with
      | some b => if cost < b.cost then here else b
      | none => here
    match rest with
    | [] => best
    | (t, _) :: more =>
      let length := length + space + t.length
      if length < m.width then bestBreak m more t.space (count + 1) length (some best) else best

/-- The words of a paragraph with the cheapest ways to go on from each, given the words before them, the last one
first. -/
def breaks (m : Measure) : List Token → List Token → List (Token × Break)
  | _, [] => []
  | before, t :: ts =>
    let later := breaks m (t :: before) ts
    let start := (if before.isEmpty then m.first else m.other) + t.length
    let best := bestBreak m later t.space 1 start none
    (t, { best with cost := best.cost + t.cost before }) :: later

/-- The lines of a paragraph; at most so many. -/
def brokenLines : Nat → List (Token × Break) → List (List Token)
  | 0, _ => []
  | _, [] => []
  | n + 1, (t, b) :: rest =>
    let count := b.count - 1
    (t :: (rest.take count).map (·.1)) :: brokenLines n (rest.drop count)

/-! ## Lines and their indentation -/

/-- How lines are filled. -/
structure FillManner where
  width : Nat := 75
  goal : Nat := 70
  /-- The first two lines of a paragraph may have different indentations. -/
  crown : Bool := false
  /-- They must have different ones. -/
  tagged : Bool := false
  /-- Lines are broken but not joined. -/
  splits : Bool := false
  /-- One blank stands between words, two between sentences. -/
  uniform : Bool := false
  /-- The number of blanks before what the lines of paragraphs begin with. -/
  lead : Nat := 0
  /-- What the lines of paragraphs begin with. -/
  start : List Char := []

/-- What lines begin with, without blanks at its end. -/
def FillManner.mark (m : FillManner) : List Char := (m.start.reverse.dropWhile (· = ' ')).reverse

/-- A line of the input, with the column in which its text begins. -/
structure FillLine where
  /-- The column of what lines begin with. -/
  lead : Nat
  column : Nat
  /-- The text after the indentation, without the line feed. -/
  text : List Char
  /-- There is a line feed. -/
  ends : Bool
  deriving Inhabited

/-- The column after some blanks. -/
def blankColumn (n : Nat) : List Char → Nat
  | ' ' :: r => blankColumn (n + 1) r
  | '\t' :: r => blankColumn ((n / 8 + 1) * 8) r
  | _ => n

/-- Reads the indentation of a line. -/
def FillManner.line (m : FillManner) (l : Octets) : FillLine :=
  let ends := l.toList.getLast? = some '\n'
  let cs := if ends then l.toList.dropLast else l.toList
  let column := blankColumn 0 cs
  let rest := cs.dropWhile Octets.isBlank
  if m.mark = [] then ⟨min m.lead column, column, rest, ends⟩
  else
    let common := ((rest.zip m.mark).takeWhile fun p => p.1 = p.2).length
    if common = m.mark.length then
      let after := rest.drop common
      ⟨column, blankColumn (column + common) after, after.dropWhile Octets.isBlank, ends⟩
    else ⟨column, column + common, rest.drop common, ends⟩

/-- The words of a line, which begin in a column; `ends` says that there is a line feed. -/
def fillTokens (uniform ends : Bool) : Nat → Nat → List Char → List Token
  | 0, _, _ => []
  | _, _, [] => []
  | n + 1, column, c :: cs =>
      let word := c :: cs.takeWhile fun c => !Octets.isSpace c
      let rest := (c :: cs).drop word.length
      let column := column + word.length
      let after := blankColumn column rest
      let t := Token.ofText word
      let next := rest.dropWhile Octets.isBlank
      let endsLine := next = []
      let space := after - column
      let isFinal := (endsLine && !ends) || (t.period && (endsLine || 1 < space))
      let space := if endsLine || uniform then (if isFinal then 2 else 1) else space
      { t with space, isFinal } :: fillTokens uniform ends n after next

/-- What has been filled so far. -/
structure Filler where
  manner : FillManner
  /-- The input holds tabs, so that the output may. -/
  tabs : Bool := false
  /-- The column of what the lines of the last paragraph begin with. -/
  lead : Nat := 0
  /-- The indentation of all lines of the last paragraph but the first one. -/
  other : Nat := 0
  out : List Octets := []

/-- A line can belong to a paragraph whose lines begin at some column or after it. -/
def FillManner.holds (m : FillManner) (lead : Nat) (l : FillLine) : Bool :=
  l.text ≠ [] && lead ≤ l.lead && l.lead + m.start.length ≤ l.column

/-- Blanks from a column up to another one, with tabs where they fit if `tabs` is set. -/
def fillSpace (tabs : Bool) (start stop : Nat) : Octets :=
  let target := stop / 8 * 8
  if tabs && start + 1 < target then
    String.ofList (List.replicate (target / 8 - start / 8) '\t' ++ List.replicate (stop - target) ' ')
  else String.ofList (List.replicate (stop - start) ' ')

/-- The text of a line of words. -/
def Filler.shown (f : Filler) (lead indentation : Nat) (ts : List Token) : Octets × Nat :=
  let mark := f.manner.mark
  let column := lead + mark.length
  let head := fillSpace f.tabs 0 lead ++ String.ofList mark ++ fillSpace f.tabs column indentation
  let last := ts.length - 1
  let (text, column) := ts.zipIdx.foldl (fun (s : Octets × Nat) t =>
    let stop := s.2 + t.1.text.length
    let word := s.1 ++ String.ofList t.1.text
    if t.2 = last then (word, stop) else (word ++ fillSpace f.tabs stop (stop + t.1.space), stop + t.1.space))
    ("", max column indentation)
  (head ++ text ++ "\n", column)

/-- A line that belongs to no paragraph. -/
def Filler.copied (f : Filler) (l : FillLine) : Octets :=
  let body :=
    if l.lead < l.column || l.text ≠ [] then
      let mark := f.manner.mark.take (l.column - l.lead)
      let head := fillSpace f.tabs 0 l.lead ++ String.ofList mark
      head ++ (if l.text ≠ [] then fillSpace f.tabs (l.lead + mark.length) l.column else "") ++ String.ofList l.text
    else ""
  body ++ (if l.ends then "\n" else "")

/-- The indentation of the other lines of a paragraph that begins with a line, given the one after it if that may
belong to it. -/
def Filler.otherOf (f : Filler) (first : FillLine) (next : Option FillLine) : Nat :=
  let m := f.manner
  if m.splits then first.column
  else if m.crown then (next.map (·.column)).getD first.column
  else if m.tagged then
    match next.filter fun l => l.column ≠ first.column with
    | some l => l.column
    | none => if f.other = first.column then (if first.column = 0 then 3 else 0) else f.other
  else first.column

/-- Fills a paragraph that begins with a line, and gives the number of further lines that it has. -/
def Filler.paragraph (f : Filler) (first : FillLine) (rest : List FillLine) : Filler × Nat :=
  let m := f.manner
  let continues (l : FillLine) : Bool := m.holds first.lead l && l.lead = first.lead
  let next := rest.head?.filter continues
  let other := f.otherOf first next
  let follows (l : FillLine) : Bool := continues l && l.column = other
  let more :=
    if m.splits then []
    else if m.tagged && !next.any (fun l => l.column ≠ first.column) then []
    else rest.takeWhile follows
  let tokens := (first :: more).flatMap fun l => fillTokens m.uniform l.ends (l.text.length + 1) l.column l.text
  let tokens := match tokens.reverse with
    | t :: ts => ({ t with period := true, isFinal := true } :: ts).reverse
    | [] => []
  let measure : Measure := { width := m.width, goal := m.goal, first := first.column, other }
  let lines := brokenLines (tokens.length + 1) (breaks measure [] tokens)
  let texts := lines.zipIdx.map fun l => (f.shown first.lead (if l.2 = 0 then first.column else other) l.1).1
  ({ f with lead := first.lead, other, out := texts.reverse ++ f.out }, more.length)

/-- Fills the paragraphs of some lines. -/
def Filler.fill (f : Filler) : Nat → List FillLine → Filler
  | 0, _ => f
  | _, [] => f
  | n + 1, l :: ls =>
    if f.manner.holds f.lead l then
      let (f, more) := f.paragraph l ls
      f.fill n (ls.drop more)
    else { f with out := f.copied l :: f.out }.fill n ls

/-- The text of a file with filled lines. -/
def FillManner.filled (m : FillManner) (text : Octets) : Octets :=
  let lines := Octets.lines text
  let f : Filler := { manner := m, tabs := Octets.has '\t' text }
  String.join (f.fill (lines.length + 1) (lines.map m.line)).out.reverse

/-- The options of `fmt`, of which the first may be a width alone. -/
def fillOptions : List Octets → List Octets
  | a :: r =>
    match a.toList with
    | '-' :: d :: ds => if d.isDigit then ("-w" ++ String.ofList (d :: ds)) :: r else a :: r
    | _ => a :: r
  | [] => []

/-- `fmt` -/
def fmt : Program := fun args =>
  let u : Usage :=
    { letters := "cg:p:stuw:"
      words := [("crown-margin", "c"), ("goal", "g"), ("prefix", "p"), ("split-only", "s"), ("tagged-paragraph", "t"),
        ("uniform-spacing", "u"), ("width", "w")] }
  u.run (fillOptions args) fun os paths => do
    let number (key : Octets) (most : Nat) : Except Octets (Option Nat) :=
      match os.value? key with
      | none => .ok none
      | some s =>
        match Octets.natural? s with
        | none => .error (cited s)
        | some n => if n ≤ most then .ok (some n) else .error (cited s ++ ": Numerical result out of range")
    let refuse (reason : Octets) : Sh Nat := do
      complain ("invalid width: " ++ reason)
      return 1
    let complainOfFile (path : Octets) (e : Errno) : Sh Unit := do
      if e = .isDirectory then complain "read error"
      else if path = "-" then
        complain "read error"
        complain ("closing standard input: " ++ e.description)
      else complain ("cannot open " ++ cited path ++ " for reading: " ++ e.description)
    match number "w" 2500 with
    | .error reason => refuse reason
    | .ok width? =>
      match number "g" (width?.getD 75) with
      | .error reason => refuse reason
      | .ok goal? =>
        let width := width?.getD (match goal? with | some g => g + 10 | none => 75)
        let mark := ((os.value? "p").getD "").toList
        let start := mark.dropWhile (· = ' ')
        let m : FillManner :=
          { width
            goal := goal?.getD (width * 187 / 200)
            crown := os.has "c"
            tagged := os.has "t"
            splits := os.has "s"
            uniform := os.has "u"
            lead := mark.length - start.length
            start }
        let (files, good) ← inputsOr complainOfFile paths
        for f in files do
          Sh.write (m.filled f.2)
        return status good

end ShellCoverage.Shell.Program
