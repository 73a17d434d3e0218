import ShellCoverage.Table
import ShellCoverage.Text.CodePoint

/-!
# JSON values

* `Json.Value` : integers and floating-point numbers are apart; the members of an object keep the
  order in which their names first appear;
* `Json.Value.member?` : a member of an object.
-/

namespace ShellCoverage

namespace Json

/-- A JSON value. -/
inductive Value where
  | null
  | bool (b : Bool)
  | int (n : Int)
  | float (x : Float)
  | text (t : Text)
  | list (vs : List Value)
  | object (ms : List (Text × Value))

namespace Value

instance : Inhabited Value := ⟨.null⟩

/-- A member of an object; nothing of any other value. -/
def member? (name : Text) : Value → Option Value
  | .object ms => Table.get? name ms
  | _ => none

end Value

end Json

end ShellCoverage
