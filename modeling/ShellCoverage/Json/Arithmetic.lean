import ShellCoverage.Decimal.Literal
import ShellCoverage.Json.Value
import ShellCoverage.Text.Quoted

/-!
# Arithmetic on JSON values

Data files of other tools may hold any value where a count is expected. Values are added, measured and
iterated as far as their kinds allow it: numbers and truth values add up, texts and lists are joined,
texts, lists and objects have a length and items.

* `Json.DataError`, `Json.DataError.message` : a value does not allow an operation;
* `Value.isTrue`, `Value.orZero` : zero, empty and absent values count as nothing;
* `Value.add`, `Value.length`, `Value.item`, `Value.items` : the operations.
-/

namespace ShellCoverage.Json

/-- The kind of a value. -/
inductive Kind where
  | null
  | bool
  | int
  | float
  | text
  | list
  | object
  deriving DecidableEq, Repr

/-- The name of a kind in messages. -/
def Kind.name : Kind → Text
  | null => "NoneType"
  | bool => "bool"
  | int => "int"
  | float => "float"
  | text => "str"
  | list => "list"
  | object => "dict"

/-- Why a value does not allow an operation. -/
inductive DataError where
  /-- Values of these kinds have no sum. -/
  | noSum (a b : Kind)
  /-- A text or a list is joined only with its like. -/
  | noJoin (a b : Kind)
  /-- The value has no items. -/
  | noItems (a : Kind)
  /-- The value has no length. -/
  | noLength (a : Kind)
  /-- There is no such member. -/
  | noMember (name : Text)
  /-- An object has no item of this number. -/
  | noIndex (i : Nat)
  /-- An integer is too large to be added to a floating-point number. -/
  | tooLarge
  deriving DecidableEq

/-- The message of an error. -/
def DataError.message : DataError → Text
  | .noSum a b =>
    ("unsupported operand type(s) for +: '" : Text) ++ a.name ++ "' and '" ++ b.name ++ "'"
  | .noJoin a b =>
    ("can only concatenate " : Text) ++ a.name ++ " (not \"" ++ b.name ++ "\") to " ++ a.name
  | .noItems a => ("'" : Text) ++ a.name ++ "' object is not iterable"
  | .noLength a => ("object of type '" : Text) ++ a.name ++ "' has no len()"
  | .noMember name => name.quoted
  | .noIndex i => Text.ofNat i
  | .tooLarge => "int too large to convert to float"

namespace Value

/-- The kind of a value. -/
def kind : Value → Kind
  | .null => .null
  | .bool _ => .bool
  | .int _ => .int
  | .float _ => .float
  | .text _ => .text
  | .list _ => .list
  | .object _ => .object

/-- The value is neither absent nor zero nor empty. -/
def isTrue : Value → Bool
  | .null => false
  | .bool b => b
  | .int n => n ≠ 0
  | .float x => x != 0
  | .text t => !t.isEmpty
  | .list vs => !vs.isEmpty
  | .object ms => !ms.isEmpty

/-- The value is absent. -/
def isNull : Value → Bool
  | .null => true
  | _ => false

/-- The value, or zero in the place of one that counts as nothing. -/
def orZero (v : Value) : Value := if v.isTrue then v else .int 0

/-- A value as a number, if it is one. -/
inductive Number where
  | int (n : Int)
  | float (x : Float)

/-- The number that a value is; truth values are zero and one. -/
def number? : Value → Option Number
  | .bool b => some (.int (if b then 1 else 0))
  | .int n => some (.int n)
  | .float x => some (.float x)
  | _ => none

/-- An integer as a floating-point number. -/
def toFloat (n : Int) : Except DataError Float :=
  match Decimal.Literal.ofInt? n with
  | some x => .ok x
  | none => .error .tooLarge

/-- The sum of two values. -/
def add (a b : Value) : Except DataError Value :=
  match a, b with
  | .text s, .text t => .ok (.text (s ++ t))
  | .text _, b => .error (.noJoin .text b.kind)
  | .list vs, .list ws => .ok (.list (vs ++ ws))
  | .list _, b => .error (.noJoin .list b.kind)
  | a, b =>
    match a.number?, b.number? with
    | some (.int m), some (.int n) => .ok (.int (m + n))
    | some (.int m), some (.float y) => (toFloat m).map fun x => .float (x + y)
    | some (.float x), some (.int n) => (toFloat n).map fun y => .float (x + y)
    | some (.float x), some (.float y) => .ok (.float (x + y))
    | _, _ => .error (.noSum a.kind b.kind)

/-- The number of a value's items. -/
def length : Value → Except DataError Nat
  | .text t => .ok t.length
  | .list vs => .ok vs.length
  | .object ms => .ok ms.length
  | v => .error (.noLength v.kind)

/-- An item by its number. Objects have members and no numbers. -/
def item (v : Value) (i : Nat) : Except DataError Value :=
  match v with
  | .text t => .ok (((t[i]?).map fun c => Value.text [c]).getD .null)
  | .list vs => .ok ((vs[i]?).getD .null)
  | _ => .error (.noIndex i)

/-- The items in order: the characters of a text, the names of an object. -/
def items : Value → Except DataError (List Value)
  | .text t => .ok (t.map fun c => .text [c])
  | .list vs => .ok vs
  | .object ms => .ok (ms.map fun m => .text m.1)
  | v => .error (.noItems v.kind)

end Value

end ShellCoverage.Json
