import ShellCoverage.Shell.Octets

/-!
# Modes of files

Modes are nine bits for the owner, the group and the others, and three more in front of these.

* `Mode.change?` : the mode that an argument such as `755` or `u+x,go-w` makes of an old one;
* `Mode.letters` : a mode as letters.
-/

namespace ShellCoverage.Shell.Mode

/-- Who an entry of a mode is for: `1` for the others, `8` for the group and `64` for the owner. -/
def shares (who : List Char) : List Nat :=
  (if who.elem 'u' then [64] else []) ++ (if who.elem 'g' then [8] else []) ++
    (if who.elem 'o' then [1] else [])

/-- The bits in `a` that are not in `b`. -/
def without (a b : Nat) : Nat := a - (a &&& b)

/-- A mode after an action such as `+x` for some of those who can be meant. -/
def act (isDirectory : Bool) (mask : Nat) (who : List Char) (old : Nat) (op : Char) (letters : List Char) :
    Nat :=
  let all := who.isEmpty || who.elem 'a'
  let each := if all then [64, 8, 1] else shares who
  let spread (n : Nat) : Nat := (each.map (n * ·)).sum
  let hasX := isDirectory || old &&& 0o111 ≠ 0
  let plain := letters.foldl (fun n c => n ||| (match c with
    | 'r' => spread 4
    | 'w' => spread 2
    | 'x' => spread 1
    | 'X' => if hasX then spread 1 else 0
    | 's' => (if all || who.elem 'u' then 0o4000 else 0) ||| (if all || who.elem 'g' then 0o2000 else 0)
    | 't' => if all || who.elem 'o' then 0o1000 else 0
    | 'u' => spread (old / 64 % 8)
    | 'g' => spread (old / 8 % 8)
    | 'o' => spread (old % 8)
    | _ => 0)) 0
  let bits := if who.isEmpty then without plain mask else plain
  match op with
  | '+' => old ||| bits
  | '-' => without old bits
  | _ =>
    let kept := if isDirectory then 0o6000 else 0
    let cleared := spread 7 ||| without (if all then 0o7000 else
      (if who.elem 'u' then 0o4000 else 0) ||| (if who.elem 'g' then 0o2000 else 0) |||
        (if who.elem 'o' then 0o1000 else 0)) kept
    without old cleared ||| bits

/-- A mode after actions; the number bounds them. -/
def actions (isDirectory : Bool) (mask : Nat) (who : List Char) : Nat → Nat → List Char → Option Nat
  | 0, _, _ => none
  | _, old, [] => some old
  | n + 1, old, op :: r =>
    if !"+-=".toList.elem op then none
    else
      let letters := r.takeWhile "rwxXstugo".toList.elem
      actions isDirectory mask who n (act isDirectory mask who old op letters) (r.drop letters.length)

/-- A mode after a change such as `u+x`. -/
def clause? (isDirectory : Bool) (mask old : Nat) (cs : List Char) : Option Nat :=
  let who := cs.takeWhile "ugoa".toList.elem
  let rest := cs.drop who.length
  if rest = [] then none else actions isDirectory mask who (cs.length + 1) old rest

/-- The mode that an argument makes of an old one. -/
def change? (isDirectory : Bool) (mask old : Nat) (s : Octets) : Option Nat :=
  let cs := s.toList
  if cs ≠ [] && cs.all fun c => '0' ≤ c && c ≤ '7' then
    let n := cs.foldl (fun n c => n * 8 + (c.toNat - 48)) 0
    if 0o7777 < n then none
    else if isDirectory && cs.length < 5 then some (n ||| (old &&& 0o6000)) else some n
  else (Octets.pieces ',' s).foldlM (fun n p => clause? isDirectory mask n p.toList) old

/-- The letters for the three bits of one of those who can be meant; a bit in front changes the last one. -/
def triple (bits : Nat) (special : Bool) (letter : Char) : List Char :=
  [if bits / 4 % 2 = 1 then 'r' else '-', if bits / 2 % 2 = 1 then 'w' else '-',
    match special, decide (bits % 2 = 1) with
    | false, true => 'x'
    | false, false => '-'
    | true, true => letter
    | true, false => letter.toUpper]

/-- A mode as letters. -/
def letters (mode : Nat) : Octets :=
  String.ofList (triple (mode / 64 % 8) (mode / 0o4000 % 2 = 1) 's' ++
    triple (mode / 8 % 8) (mode / 0o2000 % 2 = 1) 's' ++ triple (mode % 8) (mode / 0o1000 % 2 = 1) 't')

/-- A mode in octal digits. -/
def octal (width mode : Nat) : Octets :=
  let ds := Nat.toDigits 8 mode
  String.ofList (List.replicate (width - ds.length) '0' ++ ds)

end ShellCoverage.Shell.Mode
