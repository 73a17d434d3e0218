import ShellCoverage.Shell.Calendar
import ShellCoverage.Shell.Parameters

/-!
# Prompts

The escapes of a prompt stand for facts about the shell. A prompt is expanded after they are replaced, so
what comes from outside is put in with a backslash before each character that an expansion would change.

* `Prompt.Facts` : what a prompt can tell;
* `Prompt.replaced` : a prompt with its escapes replaced.
-/

namespace ShellCoverage.Shell.Prompt

/-- What a prompt can tell. -/
structure Facts where
  directory : Octets
  /-- The directory with a tilde for that of the user. -/
  shortDirectory : Octets
  /-- The parts of a shortened path that stay, if there is a limit. -/
  keptParts : Option Nat := none
  jobs : Nat := 0
  now : Moment

/-- A text with a backslash before each character that has a meaning between double quotes. -/
def guarded (s : Octets) : List Char :=
  s.toList.flatMap fun c => if c = '"' || c = '\\' || c = '$' || c = '`' then ['\\', c] else [c]

/-- The last part of a path. -/
def lastPart (path : Octets) : Octets :=
  if path = "/" then path else ((Octets.pieces '/' path).getLast?).getD path

/-- A path of which at most so many parts stay, with dots for the others. -/
def shortened (kept : Nat) (path : Octets) : Octets :=
  let (head, body) : Octets × Octets :=
    match Octets.dropHead? "~" path with
    | some rest => ("~", rest)
    | none => ("", path)
  let parts := (Octets.pieces '/' body).drop 1
  if parts.length ≤ kept then path
  else
    head ++ (if head = "" then "" else "/") ++ ".../" ++ Octets.join "/" (parts.drop (parts.length - kept))

/-- The byte that up to three octal digits denote, and what follows them; nothing if other characters
stand among the three. -/
def octal? (cs : List Char) : Option (Char × List Char) :=
  let three := cs.take 3
  if three.all fun c => (Quoting.octalDigit? c).isSome then
    let n := three.foldl (fun n c => n * 8 + (c.toNat - 48)) 0
    some (Quoting.byte n, cs.drop 3)
  else none

/-- The text that the letter of an escape stands for. -/
def escape? (f : Facts) (c : Char) : Option (List Char) :=
  let time (format : Octets) : Option (List Char) := some (f.now.format format).toList
  match c with
  | 'a' => some [Char.ofNat 7]
  | 'd' => time "%a %b %d"
  | 'e' => some [Char.ofNat 27]
  | 'h' | 'H' => some "localhost".toList
  | 'j' => some (Octets.ofNat f.jobs).toList
  | 'l' => some "tty".toList
  | 'n' => some ['\n']
  | 'r' => some ['\r']
  | 's' => some "bash".toList
  | 't' => time "%H:%M:%S"
  | 'T' => time "%I:%M:%S"
  | '@' => time "%I:%M %p"
  | 'A' => time "%H:%M"
  | 'u' => some "root".toList
  | 'v' => some (Octets.join "." (versionParts.take 2)).toList
  | 'V' => some (Octets.join "." (versionParts.take 3)).toList
  | 'w' =>
    some (guarded (match f.keptParts with
      | some n => shortened n f.shortDirectory
      | none => f.shortDirectory))
  | 'W' => some (guarded (if f.shortDirectory = "~" then "~" else lastPart f.directory))
  | '!' | '#' => some ['1']
  | '$' => some ['#']
  | '\\' => some ['\\']
  | '[' | ']' => some []
  | _ => none

/-- A prompt with its escapes replaced; the number bounds that of the characters. -/
def replacedWith (f : Facts) : Nat → List Char → List Char
  | 0, cs => cs
  | _, [] => []
  | n + 1, '\\' :: cs =>
    match cs with
    | [] => ['\\']
    | 'D' :: '\x7b' :: r =>
      let format := r.takeWhile (· ≠ '\x7d')
      let text := f.now.format (if format = [] then "%X" else String.ofList format)
      text.toList ++ replacedWith f n (r.drop (format.length + 1))
    | c :: r =>
      match octal? cs, escape? f c with
      | some (x, rest), _ => (if x.toNat = 0 then [] else [x]) ++ replacedWith f n rest
      | none, some text => text ++ replacedWith f n r
      | none, none =>
        if (Quoting.octalDigit? c).isSome then '\\' :: replacedWith f n cs
        else '\\' :: c :: replacedWith f n r
  | n + 1, c :: cs => c :: replacedWith f n cs

/-- A prompt with its escapes replaced. -/
def replaced (f : Facts) (prompt : Octets) : Octets :=
  String.ofList (replacedWith f (prompt.length + 1) prompt.toList)

/-- What a prompt can tell about the process that is running. -/
def facts : Sh Facts := do
  let p ← Sh.process
  let kept := (← Sh.scalar? "PROMPT_DIRTRIM").bind Octets.natural?
  return {
    directory := p.cwdPath
    shortDirectory := Sh.abbreviated p p.cwdPath
    keptParts := kept.bind fun n => if n = 0 then none else some n
    jobs := p.jobs.length
    now := Moment.ofSeconds ((startOfTime + (← Sh.world).seconds : Nat) : Int) }

end ShellCoverage.Shell.Prompt
