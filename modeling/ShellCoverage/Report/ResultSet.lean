import ShellCoverage.Failure
import ShellCoverage.FileSystem.Update
import ShellCoverage.Json.Reader
import ShellCoverage.Json.Writer
import ShellCoverage.Report.Combine

/-!
# Resultsets

A resultset holds one entry per command: the arrays of the files that the command ran, and when it ran.
It is kept in a file that other tools read and write too; members of an entry that mean nothing here
are kept as they are.

* `ResultSet.Entry` : the members of an entry, of which `coverage` is an object;
* `ResultSet.store`, `ResultSet.result`, `ResultSet.combined` : entries and their arrays;
* `ResultSet.ofText`, `ResultSet.load`, `ResultSet.save` : the file.
-/

namespace ShellCoverage

namespace ResultSet

/-- The member with the arrays of an entry. -/
def coverageName : Text := "coverage"

/-- The member with the time of an entry. -/
def timestampName : Text := "timestamp"

/-- The member with the array of a file. -/
def linesName : Text := "lines"

/-- The members of an entry. -/
structure Entry where
  members : List (Text × Json.Value)
  /-- The files with their arrays, in one of the forms that `linesOf` knows. -/
  coverage : List (Text × Json.Value)
  /-- The arrays are those of the member. -/
  has_coverage : Table.get? coverageName members = some (.object coverage)

/-- The entry that a value is. -/
def Entry.ofValue? (v : Json.Value) : Option Entry :=
  match v with
  | .object ms =>
    match h : Table.get? coverageName ms with
    | some (.object c) => some ⟨ms, c, h⟩
    | _ => none
  | _ => none

/-- The entry as a value. -/
def Entry.toValue (e : Entry) : Json.Value := .object e.members

/-- The entry of a command with some arrays and a time. -/
def Entry.make (lines : List (Text × Json.Value)) (timestamp : Int) : Entry where
  members :=
    [(coverageName, .object (lines.map fun p => (p.1, .object [(linesName, p.2)]))),
      (timestampName, .int timestamp)]
  coverage := lines.map fun p => (p.1, .object [(linesName, p.2)])
  has_coverage := rfl

/-- The array of a file: the member `lines` of an object, or the bare array. -/
def linesOf (data : Json.Value) : Except Json.DataError (List Json.Value) :=
  match data with
  | .object ms =>
    match Table.get? linesName ms with
    | some v => v.items
    | none => .error (.noMember linesName)
  | v => v.items

/-- The arrays of an entry. -/
def Entry.result (e : Entry) : Except Json.DataError Report.Result :=
  e.coverage.mapM fun p => (linesOf p.2).map fun ls => (p.1, ls)

end ResultSet

/-- The entries of several commands, in the order in which the commands were first stored. -/
abbrev ResultSet := Table Text ResultSet.Entry

namespace ResultSet

/-- Sets the entry of a command. -/
def store (s : ResultSet) (name : Text) (lines : List (Text × Json.Value)) (timestamp : Int) :
    ResultSet :=
  Table.insert name (Entry.make lines timestamp) s

/-- The arrays of a command. -/
def result (s : ResultSet) (name : Text) : Except Json.DataError Report.Result :=
  match Table.get? name s with
  | some e => e.result
  | none => .error (.noMember name)

/-- The sum of the arrays of all commands. A command's arrays are read when their turn comes, after
those before it were added. -/
def combined (s : ResultSet) : Except Json.DataError Report.Result :=
  (s.foldlM addEntry []).map Report.sortByPath
where
  /-- A result with the arrays of an entry added to it. -/
  addEntry (acc : Report.Result) (p : Text × Entry) : Except Json.DataError Report.Result := do
    let r ← p.2.result
    Report.addFiles acc (r.map fun q => (q.1, .list q.2))

/-- The resultset as a value. -/
def toValue (s : ResultSet) : Json.Value := .object (s.map fun p => (p.1, p.2.toValue))

/-- The entries of an object's members. -/
def entriesOf (path : Text) : List (Text × Json.Value) → Except ResultSetError ResultSet
  | [] => .ok []
  | (name, v) :: ms =>
    match Entry.ofValue? v with
    | none => .error (.badEntry name path)
    | some e => (entriesOf path ms).map ((name, e) :: ·)

/-- The resultset that a value is. -/
def ofValue (path : Text) (v : Json.Value) : Except ResultSetError ResultSet :=
  match v with
  | .object ms => entriesOf path ms
  | _ => .error (.notObject path)

/-- The resultset that the bytes of a file hold. -/
def ofBytes (path : Text) (content : Bytes) : Except ResultSetError ResultSet :=
  match Text.ofBytes? content with
  | .error f => .error (.unreadable path f.message)
  | .ok t =>
    match Json.read t.unifyLineEnds with
    | .error e => .error (.unreadable path e.message)
    | .ok v => ofValue path v

/-- The resultset in a file; an absent file holds an empty one. -/
def load (fs : FileSystem) (path : Path) : Except Failure ResultSet :=
  let name := path.toText
  match fs.exists? name with
  | .error e => .error (.file e)
  | .ok false => .ok []
  | .ok true =>
    match fs.read name with
    | .error e => .error (.resultSet (.unreadable name e.message))
    | .ok content => (ofBytes name content).mapError .resultSet

/-- The text of the file, or what comes before the first number that cannot be written. -/
def render (s : ResultSet) : Except (Text × Numeral.Error) Text :=
  (Json.render s.toValue).map (· ++ [10])

/-- Writes a resultset to a file, the directory of which is made if it is missing. The file system is
changed even where a number cannot be written. -/
def save (s : ResultSet) (fs : FileSystem) (path : Path) : FileSystem × Except Failure Unit :=
  match fs.makeDirectories path.parent with
  | (fs, .error e) => (fs, .error (.file e))
  | (fs, .ok ()) =>
    let (text, outcome) : Text × Except Failure Unit :=
      match s.render with
      | .ok t => (t, .ok ())
      | .error (t, e) => (t, .error (.numeral e))
    match fs.write path.toText (text.toBytes?.getD []) with
    | .error e => (fs, .error (.file e))
    | .ok fs => (fs, outcome)

end ResultSet

end ShellCoverage
