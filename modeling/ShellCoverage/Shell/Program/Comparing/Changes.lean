import ShellCoverage.Shell.Octets

/-!
# Differences of texts

Two texts are compared line by line. What is common to them is found by a search for a shortest way from the
start of both to their ends, which goes on from both sides until the two meet; then the parts before and after
the meeting point are compared in the same way.

* `Comparing.Marks` : the lines of both texts that are not common;
* `Comparing.Change` : lines that are replaced by others;
* `Comparing.changes` : the changes that lead from one text to another.
-/

namespace ShellCoverage.Shell.Comparing

/-- For the lines of each text, whether they differ. There is a place for a line before the first and after the
last one, which never differ. -/
structure Marks where
  left : Array Bool
  right : Array Bool

/-- The lines from a place in each text up to another. -/
structure Window where
  left : Nat
  leftEnd : Nat
  right : Nat
  rightEnd : Nat

variable (xs ys : Array Nat)

/-- Lines of both texts are the same. -/
def agree (x y : Nat) : Bool := xs[x]? = ys[y]?

/-- Goes on along common lines, so many at most. -/
def slideOn (w : Window) : Nat → Nat → Nat → Nat
  | 0, x, _ => x
  | n + 1, x, y =>
    if x < w.leftEnd && y < w.rightEnd && agree xs ys x y then slideOn w n (x + 1) (y + 1) else x

/-- Goes back along common lines, so many at most. -/
def slideBack (w : Window) : Nat → Nat → Nat → Nat
  | 0, x, _ => x
  | n + 1, x, y =>
    if w.left < x && w.right < y && agree xs ys (x - 1) (y - 1) then slideBack w n (x - 1) (y - 1) else x

/-- The point in the middle of a shortest way through a window in which neither the first nor the last lines
are common. The furthest points that can be reached from both ends are kept for each diagonal, which is the
difference of the line numbers. -/
def middle (w : Window) : Nat × Nat := Id.run do
  let shift : Int := ys.size + 2
  let size := xs.size + ys.size + 5
  let lengths := (w.leftEnd - w.left) + (w.rightEnd - w.right)
  let least : Int := (w.left : Int) - w.rightEnd
  let most : Int := (w.leftEnd : Int) - w.right
  let start : Int := (w.left : Int) - w.right
  let stop : Int := (w.leftEnd : Int) - w.rightEnd
  let odd := (start - stop) % 2 ≠ 0
  let infinite : Int := size * 2
  let mut ahead : Array Int := (Array.replicate size (-1)).set! (start + shift).toNat w.left
  let mut behind : Array Int := (Array.replicate size infinite).set! (stop + shift).toNat w.leftEnd
  let mut fmin := start
  let mut fmax := start
  let mut bmin := stop
  let mut bmax := stop
  for _ in [0:lengths + 1] do
    if least < fmin then
      fmin := fmin - 1
      ahead := ahead.set! (fmin - 1 + shift).toNat (-1)
    else fmin := fmin + 1
    if fmax < most then
      fmax := fmax + 1
      ahead := ahead.set! (fmax + 1 + shift).toNat (-1)
    else fmax := fmax - 1
    for k in [0:((fmax - fmin) / 2 + 1).toNat] do
      let d := fmax - 2 * (k : Int)
      let low := ahead[(d - 1 + shift).toNat]?.getD (-1)
      let high := ahead[(d + 1 + shift).toNat]?.getD (-1)
      let x0 := if low < high then high else low + 1
      let x := slideOn xs ys w lengths x0.toNat (x0 - d).toNat
      ahead := ahead.set! (d + shift).toNat x
      if odd && bmin ≤ d && d ≤ bmax && behind[(d + shift).toNat]?.getD infinite ≤ x then
        return (x, (x - d).toNat)
    if least < bmin then
      bmin := bmin - 1
      behind := behind.set! (bmin - 1 + shift).toNat infinite
    else bmin := bmin + 1
    if bmax < most then
      bmax := bmax + 1
      behind := behind.set! (bmax + 1 + shift).toNat infinite
    else bmax := bmax - 1
    for k in [0:((bmax - bmin) / 2 + 1).toNat] do
      let d := bmax - 2 * (k : Int)
      let low := behind[(d - 1 + shift).toNat]?.getD infinite
      let high := behind[(d + 1 + shift).toNat]?.getD infinite
      let x0 := if low < high then low else high - 1
      let x := slideBack xs ys w lengths x0.toNat (x0 - d).toNat
      behind := behind.set! (d + shift).toNat x
      if !odd && fmin ≤ d && d ≤ fmax && (x : Int) ≤ ahead[(d + shift).toNat]?.getD (-1) then
        return (x, (x - d).toNat)
  return (w.leftEnd, w.right)

/-- The lines from one number up to another are marked. -/
def mark (start stop : Nat) (m : Array Bool) : Array Bool :=
  (List.range (stop - start)).foldl (fun m i => m.set! (start + i + 1) true) m

/-- Marks the lines in a window that differ; the number bounds how often it is divided. -/
def compareWindow : Nat → Window → Marks → Marks
  | 0, w, m => ⟨mark w.left w.leftEnd m.left, mark w.right w.rightEnd m.right⟩
  | n + 1, w, m =>
    let lengths := (w.leftEnd - w.left) + (w.rightEnd - w.right)
    let left := slideOn xs ys w lengths w.left w.right
    let w : Window := { w with left, right := w.right + (left - w.left) }
    let leftEnd := slideBack xs ys w lengths w.leftEnd w.rightEnd
    let w : Window := { w with leftEnd, rightEnd := w.rightEnd - (w.leftEnd - leftEnd) }
    if w.left = w.leftEnd then { m with right := mark w.right w.rightEnd m.right }
    else if w.right = w.rightEnd then { m with left := mark w.left w.leftEnd m.left }
    else
      let (x, y) := middle xs ys w
      compareWindow n { w with left := x, right := y }
        (compareWindow n { w with leftEnd := x, rightEnd := y } m)

/-- The marks of the lines that differ. Lines that are in one of the texts only are left out of the
search. -/
def searchedMarks : Marks :=
  let kept (xs ys : Array Nat) : List Nat := (List.range xs.size).filter fun i =>
    match xs[i]? with
    | some v => ys.contains v
    | none => false
  let lefts := kept xs ys
  let rights := kept ys xs
  let pick (xs : Array Nat) (is : List Nat) : Array Nat := (is.filterMap fun i => xs[i]?).toArray
  let us := pick xs lefts
  let vs := pick ys rights
  let empty (size : Nat) : Array Bool := Array.replicate (size + 2) false
  let found := compareWindow us vs (us.size + vs.size + 1) ⟨0, us.size, 0, vs.size⟩
    ⟨empty us.size, empty vs.size⟩
  let spread (size : Nat) (is : List Nat) (m : Array Bool) : Array Bool :=
    is.zipIdx.foldl (fun acc p => acc.set! (p.1 + 1) (m[p.2 + 1]?.getD false)) (mark 0 size (empty size))
  ⟨spread xs.size lefts found.left, spread ys.size rights found.right⟩

/-! ## Moving changes

A run of lines that differ can be moved when the line before it is the same as its last one, or the line after
it as its first one. Runs are moved together where that is possible, and else to the end. -/

/-- The lines of a text, the marks of the other one, and a run: its start and end, and the place in the other
text. Places are counted from one. -/
structure Run where
  own : Array Bool
  start : Nat
  stop : Nat
  other : Nat
  /-- The end of the run where it meets a run of the other text. -/
  meeting : Nat := 0

/-- The place is marked. -/
def isMarked (m : Array Bool) (i : Nat) : Bool := m[i]?.getD false

/-- The first place before another that is not marked. -/
def before (m : Array Bool) : Nat → Nat
  | 0 => 0
  | i + 1 => if isMarked m i then before m i else i

/-- The first place from another on that is not marked, within so many. -/
def after (m : Array Bool) : Nat → Nat → Nat
  | 0, i => i
  | n + 1, i => if isMarked m i then after m n (i + 1) else i

variable (lines : Array Nat) (others : Array Bool)

/-- Moves a run back as far as its lines allow it, over so many lines at most. -/
def moveBack : Nat → Run → Run
  | 0, r => r
  | n + 1, r =>
    if 1 < r.start && lines[r.start - 2]? = lines[r.stop - 2]? then
      let own := (r.own.set! (r.start - 1) true).set! (r.stop - 1) false
      let start := before own (r.start - 1) + 1
      moveBack n { r with own, start, stop := r.stop - 1, other := before others r.other }
    else r

/-- Moves a run on as far as its lines allow it, over so many lines at most. -/
def moveOn : Nat → Run → Run
  | 0, r => r
  | n + 1, r =>
    if r.stop ≤ lines.size && lines[r.start - 1]? = lines[r.stop - 1]? then
      let own := (r.own.set! r.start false).set! r.stop true
      let stop := after own (own.size + 1) (r.stop + 1)
      let other := after others (others.size + 1) (r.other + 1)
      let meeting := if other = r.other + 1 then r.meeting else stop
      moveOn n { own, start := r.start + 1, stop, other, meeting }
    else r

/-- Moves a run until it does not grow any more. -/
def settle : Nat → Run → Run
  | 0, r => r
  | n + 1, r =>
    let size := r.stop - r.start
    let r := moveBack lines others (lines.size + 1) r
    let meeting := if isMarked others (r.other - 1) then r.stop else lines.size + 1
    let r := moveOn lines others (lines.size + 1) { r with meeting }
    if r.stop - r.start = size then r else settle n r

/-- Moves a run back to where it meets one of the other text. -/
def meet : Nat → Run → Run
  | 0, r => r
  | n + 1, r =>
    if r.meeting < r.stop then
      let own := (r.own.set! (r.start - 1) true).set! (r.stop - 1) false
      meet n { r with own, start := r.start - 1, stop := r.stop - 1, other := before others r.other }
    else r

/-- Goes on to the next run, over so many lines at most: the places in both texts. -/
def nextRun (own : Array Bool) : Nat → Nat → Nat → Nat × Nat
  | 0, i, j => (i, j)
  | n + 1, i, j =>
    if lines.size < i || isMarked own i then (i, j)
    else nextRun own n (i + 1) (after others (others.size + 1) j + 1)

/-- Moves the runs of a text from some places on. -/
def moveRuns : Nat → Nat → Nat → Array Bool → Array Bool
  | 0, _, _, own => own
  | n + 1, i, j, own =>
    let (start, j) := nextRun lines others own (lines.size + 1) i j
    if lines.size < start then own
    else
      let r : Run :=
        { own
          start
          stop := after own (own.size + 1) start
          other := after others (others.size + 1) j }
      let r := meet others (lines.size + 1) (settle lines others (lines.size + 1) r)
      moveRuns n r.stop r.other r.own

/-- The marks of the lines that differ. -/
def marks : Marks :=
  let m := searchedMarks xs ys
  let left := moveRuns xs m.right (xs.size + 1) 1 1 m.left
  ⟨left, moveRuns ys left (ys.size + 1) 1 1 m.right⟩

/-! ## Changes -/

/-- So many lines after some are replaced by so many lines of the other text. -/
structure Change where
  left : Nat
  removed : Nat
  right : Nat
  added : Nat
  deriving DecidableEq, Repr

/-- The changes from some places on. -/
def changesFrom (m : Marks) (size : Nat) : Nat → Nat → Nat → List Change
  | 0, _, _ => []
  | n + 1, i, j =>
    let i' := after m.left (m.left.size + 1) (i + 1) - 1
    let j' := after m.right (m.right.size + 1) (j + 1) - 1
    let rest := if size ≤ i' then [] else changesFrom m size n (i' + 1) (j' + 1)
    if i' = i && j' = j then rest else ⟨i, i' - i, j, j' - j⟩ :: rest

/-- The numbers of lines, of which the same ones have the same number, among those that were seen. -/
def numbered (seen : List Octets) : List Octets → List Nat × List Octets
  | [] => ([], seen)
  | l :: ls =>
    match seen.idxOf? l with
    | some i =>
      let (ns, seen) := numbered seen ls
      (i :: ns, seen)
    | none =>
      let (ns, after) := numbered (seen ++ [l]) ls
      (seen.length :: ns, after)

/-- The number of lines that are common at the starts of two texts. -/
def commonHead : List Octets → List Octets → Nat
  | a :: as, b :: bs => if a = b then commonHead as bs + 1 else 0
  | _, _ => 0

/-- The changes that lead from some lines to others, which are compared by a key. The first and the last
lines, as far as they are common, are left out, except for as many next to the others as `horizon` says. -/
def changes (horizon : Nat) (key : Octets → Octets) (old new : List Octets) : List Change :=
  let head := commonHead old new - horizon
  let olds := old.drop head
  let news := new.drop head
  let tail := commonHead olds.reverse news.reverse - horizon
  let (xs, seen) := numbered [] ((olds.take (olds.length - tail)).map key)
  let (ys, _) := numbered seen ((news.take (news.length - tail)).map key)
  (changesFrom (marks xs.toArray ys.toArray) xs.length (xs.length + ys.length + 1) 0 0).map fun c =>
    { c with left := c.left + head, right := c.right + head }

end ShellCoverage.Shell.Comparing
