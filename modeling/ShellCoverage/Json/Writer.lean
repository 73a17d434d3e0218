import ShellCoverage.Decimal.Literal
import ShellCoverage.Json.Value
import ShellCoverage.Text.Numeral

/-!
# Writing JSON

Output is ASCII. Every item and every member stands on a line of its own, indented by two blanks for
each level; empty lists and objects are written without a line break.

* `Json.writeText` : a string, other characters than printable ASCII as `\uXXXX`;
* `Json.chunks` : the pieces of a value's text; a number that is too large is an error in its place;
* `Json.render` : the text of a value;
* `Json.renderLine` : the text of a value on one line.
-/

namespace ShellCoverage.Json

/-- A `\uXXXX` escape. -/
def unicodeEscape (n : Nat) : Text := ("\\u" : Text) ++ Text.hex 4 n

/-- One code point inside a string. -/
def writePoint (c : CodePoint) : Text :=
  if c = CodePoint.ofChar '"' then "\\\""
  else if c = CodePoint.ofChar '\\' then "\\\\"
  else if c = 10 then "\\n"
  else if c = 13 then "\\r"
  else if c = 9 then "\\t"
  else if c = 12 then "\\f"
  else if c = 8 then "\\b"
  else if 0x20 ≤ c.val && c.val ≤ 0x7E then [c]
  else if c.val < 0x10000 then unicodeEscape c.val
  else
    let n := c.val - 0x10000
    unicodeEscape (0xD800 + n / 0x400) ++ unicodeEscape (0xDC00 + n % 0x400)

/-- A string. -/
def writeText (t : Text) : Text :=
  CodePoint.ofChar '"' :: t.flatMap writePoint ++ [CodePoint.ofChar '"']

/-- A floating-point number. -/
def writeFloat (x : Float) : Text :=
  if x.isNaN then "NaN"
  else if x.isInf then (if x < 0 then ("-Infinity" : Text) else "Infinity")
  else Decimal.Literal.write x

/-- A piece of output, or a number that cannot be written. -/
abbrev Chunk := Except Numeral.Error Text

/-- A line break before an item at some level. -/
def lineBreak (level : Nat) : Text := 10 :: List.replicate (2 * level) (CodePoint.ofChar ' ')

/-- A scalar as a piece of output. -/
def scalarChunk : Value → Chunk
  | .bool true => .ok "true"
  | .bool false => .ok "false"
  | .int n => Numeral.writeInt n
  | .float x => .ok (writeFloat x)
  | .text t => .ok (writeText t)
  | _ => .ok "null"

/-- A piece of output with a text before it. -/
def after (t : Text) (c : Chunk) : Chunk := c.map (t ++ ·)

mutual

/-- The pieces of a value at some level, the first of them after the text `lead`. -/
def chunks (lead : Text) (level : Nat) : Value → List Chunk
  | .list [] => [.ok (lead ++ "[]")]
  | .list (v :: vs) =>
    .ok lead :: chunks (("[" : Text) ++ lineBreak (level + 1)) (level + 1) v ++
      itemChunks (level + 1) vs ++ [.ok (lineBreak level ++ "]")]
  | .object [] => [.ok (lead ++ "\x7b\x7d")]
  | .object ((name, v) :: ms) =>
    .ok (lead ++ "\x7b" ++ lineBreak (level + 1) ++ writeText name ++ ": ") ::
      chunks [] (level + 1) v ++ memberChunks (level + 1) ms ++
      [.ok (lineBreak level ++ "\x7d")]
  | v => [after lead (scalarChunk v)]

/-- The pieces of the items after the first. -/
def itemChunks (level : Nat) : List Value → List Chunk
  | [] => []
  | v :: vs => chunks (("," : Text) ++ lineBreak level) level v ++ itemChunks level vs

/-- The pieces of the members after the first. -/
def memberChunks (level : Nat) : List (Text × Value) → List Chunk
  | [] => []
  | (name, v) :: ms =>
    .ok (("," : Text) ++ lineBreak level ++ writeText name ++ ": ") ::
      chunks [] level v ++ memberChunks level ms

end

/-- The text of pieces, or the text before the first number that cannot be written. -/
def assemble : List Chunk → Except (Text × Numeral.Error) Text
  | [] => .ok []
  | .error e :: _ => .error ([], e)
  | .ok t :: cs =>
    match assemble cs with
    | .ok u => .ok (t ++ u)
    | .error (u, e) => .error (t ++ u, e)

/-- The text of a value. -/
def render (v : Value) : Except (Text × Numeral.Error) Text := assemble (chunks [] 0 v)

mutual

/-- The text of a value on one line; integers of any size are written. -/
def renderLine : Value → Text
  | .null => "null"
  | .bool true => "true"
  | .bool false => "false"
  | .int n => Text.ofInt n
  | .float x => writeFloat x
  | .text t => writeText t
  | .list vs => ("[" : Text) ++ renderItems vs ++ "]"
  | .object ms => ("\x7b" : Text) ++ renderMembers ms ++ "\x7d"

/-- The items of a list on one line. -/
def renderItems : List Value → Text
  | [] => []
  | [v] => renderLine v
  | v :: vs => renderLine v ++ (", " : Text) ++ renderItems vs

/-- The members of an object on one line. -/
def renderMembers : List (Text × Value) → Text
  | [] => []
  | [(name, v)] => writeText name ++ (": " : Text) ++ renderLine v
  | (name, v) :: ms => writeText name ++ (": " : Text) ++ renderLine v ++ (", " : Text) ++
      renderMembers ms

end

end ShellCoverage.Json
