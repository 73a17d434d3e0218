import ShellCoverage.Shell.Program.Basic
import ShellCoverage.Shell.Regex.Reader

/-!
# Expressions as arguments

`expr` computes the value of the expression that its arguments form.

* `Program.ExprFault` : why there is no value; `Program.exprAt` : the value of an expression.
-/

namespace ShellCoverage.Shell.Program

/-- Why arguments have no value as an expression. -/
inductive ExprFault where
  | missingAfter (argument : Octets)
  | expectingClose (last : Octets) (instead : Option Octets)
  | unexpectedClose
  | unexpected (argument : Octets)
  | notInteger
  | divisionByZero
  | badPattern (fault : Regex.Fault)

/-- The words for a fault. -/
def ExprFault.message : ExprFault → Octets
  | .missingAfter a => "syntax error: missing argument after " ++ cited a
  | .expectingClose last none => "syntax error: expecting ')' after " ++ cited last
  | .expectingClose _ (some a) => "syntax error: expecting ')' instead of " ++ cited a
  | .unexpectedClose => "syntax error: unexpected ')'"
  | .unexpected a => "syntax error: unexpected argument " ++ cited a
  | .notInteger => "non-integer argument"
  | .divisionByZero => "division by zero"
  | .badPattern e => e.message

/-- The integer that a value is. -/
def exprInteger? (s : Octets) : Option Int :=
  match s.toList with
  | '-' :: ds => (Octets.natural? (String.ofList ds)).map fun n => -(n : Int)
  | _ => (Octets.natural? s).map fun n => (n : Int)

/-- A value that counts as false: nothing, or zeros. -/
def isNull (s : Octets) : Bool :=
  s = "" ||
    (match s.toList with
      | '-' :: r => r ≠ [] && r.all (· = '0')
      | cs => cs.all (· = '0'))

/-- What a pattern matches at the head of a text: its group, or the number of characters. -/
def exprMatch (text pattern : Octets) : Except ExprFault Octets :=
  match Regex.ofOctets .basic pattern with
  | .error e => .error (.badPattern e)
  | .ok r =>
    let cs := text.toList
    let hasGroup := Regex.groupCount r ≠ 0
    match Regex.longestAt? {} cs r ⟨0, none, cs, []⟩ with
    | none => .ok (if hasGroup then "" else "0")
    | some q =>
      let m : Regex.Match := ⟨0, q.position, q.groups⟩
      .ok (if hasGroup then String.ofList (m.groupText cs 1) else Octets.ofNat q.position)

/-- The value of an operation on two others. -/
def exprApply (op a b : Octets) : Except ExprFault Octets :=
  let arithmetic (f : Int → Int → Except ExprFault Int) : Except ExprFault Octets :=
    match exprInteger? a, exprInteger? b with
    | some x, some y => (f x y).map Octets.ofInt
    | _, _ => .error .notInteger
  let compare (f : Ordering → Bool) : Except ExprFault Octets :=
    let o := match exprInteger? a, exprInteger? b with
      | some x, some y => Ord.compare x y
      | _, _ => if a < b then .lt else if b < a then .gt else .eq
    .ok (if f o then "1" else "0")
  match op with
  | "+" => arithmetic fun x y => .ok (x + y)
  | "-" => arithmetic fun x y => .ok (x - y)
  | "*" => arithmetic fun x y => .ok (x * y)
  | "/" => arithmetic fun x y => if y = 0 then .error .divisionByZero else .ok (x.tdiv y)
  | "%" => arithmetic fun x y => if y = 0 then .error .divisionByZero else .ok (x.tmod y)
  | "<" => compare (· == .lt)
  | "<=" => compare (· != .gt)
  | "=" | "==" => compare (· == .eq)
  | "!=" => compare (· != .eq)
  | ">=" => compare (· != .lt)
  | ">" => compare (· == .gt)
  | ":" => exprMatch a b
  | _ => .ok a

/-- The rank of an operator: those of a higher one bind more tightly. -/
def exprRank (op : Octets) : Nat :=
  if op = "|" then 1 else if op = "&" then 2
  else if ["<", "<=", "=", "==", "!=", ">=", ">"].elem op then 3
  else if ["+", "-"].elem op then 4
  else if ["*", "/", "%"].elem op then 5
  else if op = ":" then 6 else 0

/-- The number of the first character of a text that is one of some others, counted from one; zero if there
is none. -/
def firstOf (text set : Octets) : Nat :=
  match text.toList.findIdx? fun c => Octets.has c set with
  | some i => i + 1
  | none => 0

/-- A part of a text: so many characters from a place on. -/
def partOf (text start length : Octets) : Octets :=
  match exprInteger? start, exprInteger? length with
  | some i, some n =>
    if i ≤ 0 || n ≤ 0 then "" else String.ofList ((text.toList.drop (i.toNat - 1)).take n.toNat)
  | _, _ => ""

mutual

/-- The value of the expression at the head of some arguments, with operators of some rank or a higher one,
and the arguments left. Nothing is computed unless `live` is set. The number bounds the depth. -/
def exprAt (live : Bool) (last : Octets) :
    Nat → Nat → List Octets → Except ExprFault (Octets × List Octets)
  | 0, _, _ => .error (.missingAfter last)
  | n + 1, rank, args =>
    if 6 < rank then exprOperand live last n args
    else do
      let (v, rest) ← exprAt live last n (rank + 1) args
      exprRest live n rank v rest

/-- Goes on with the operators of a rank after an operand. -/
def exprRest (live : Bool) : Nat → Nat → Octets → List Octets → Except ExprFault (Octets × List Octets)
  | 0, _, v, rest => .ok (v, rest)
  | n + 1, rank, v, rest =>
    match rest with
    | [] => .ok (v, rest)
    | op :: r =>
      if exprRank op ≠ rank then .ok (v, rest)
      else do
        let decided := (op = "|" && !isNull v) || (op = "&" && isNull v)
        let (w, rest) ← exprAt (live && !decided) op n (rank + 1) r
        let value ←
          if op = "|" then pure (if !isNull v then v else if isNull w then "0" else w)
          else if op = "&" then pure (if isNull v || isNull w then "0" else v)
          else if live then exprApply op v w
          else pure v
        exprRest live n rank value rest

/-- The value of a single operand. -/
def exprOperand (live : Bool) (last : Octets) :
    Nat → List Octets → Except ExprFault (Octets × List Octets)
  | 0, _ => .error (.missingAfter last)
  | n + 1, args =>
    match args with
    | [] => .error (.missingAfter last)
    | "+" :: r =>
      match r with
      | [] => .error (.missingAfter "+")
      | a :: r => .ok (a, r)
    | "length" :: r => do
      let (a, r) ← exprOperand live "length" n r
      return (Octets.ofNat a.length, r)
    | "match" :: r => do
      let (a, r) ← exprOperand live "match" n r
      let (b, r) ← exprOperand live a n r
      let v ← if live then exprMatch a b else pure a
      return (v, r)
    | "index" :: r => do
      let (a, r) ← exprOperand live "index" n r
      let (b, r) ← exprOperand live a n r
      return (Octets.ofNat (firstOf a b), r)
    | "substr" :: r => do
      let (a, r) ← exprOperand live "substr" n r
      let (b, r) ← exprOperand live a n r
      let (c, r) ← exprOperand live b n r
      return (partOf a b c, r)
    | "(" :: r => do
      let (v, rest) ← exprAt live "(" n 1 r
      match rest with
      | ")" :: rest => return (v, rest)
      | [] => .error (.expectingClose (r.getLastD "(") none)
      | a :: _ => .error (.expectingClose "" (some a))
    | ")" :: _ => .error .unexpectedClose
    | a :: r => .ok (a, r)

end

/-- `expr` -/
def expr : Program := fun args => do
  let args := if args.head? = some "--" then args.tail else args
  if args = [] then return ← misuse "missing operand" 2
  let k ← Sh.charset
  let args := args.map fun a => String.ofList (k.chars a.toList)
  let octets (s : Octets) : Octets := String.ofList (k.octets s.toList)
  let fail (e : ExprFault) : Sh Nat := do
    complain (octets e.message)
    return 2
  match exprAt true "" (10 * args.length + 20) 1 args with
  | .error e => fail e
  | .ok (_, a :: _) => fail (.unexpected a)
  | .ok (v, []) =>
    Sh.write (octets v ++ "\n")
    return if isNull v then 1 else 0

end ShellCoverage.Shell.Program
