import ShellCoverage.Shell.Octets

/-!
# Times of commands

A format says how the time that a command took is shown. Behind a percent sign stand the number of places
after the point, an `l` for minutes and seconds apart, and the letter of a time.

* `Timing` : what was measured;
* `Timing.shown` : the text for a format, or the letter that has no meaning in one.
-/

namespace ShellCoverage.Shell

/-- The times that a command took, in milliseconds. -/
structure Timing where
  passed : Nat
  /-- The time in which the command itself was computing. -/
  user : Nat := 0
  /-- The time in which the system was computing for it. -/
  system : Nat := 0

namespace Timing

/-- The format of the full shell. -/
def longFormat : Octets := "\nreal\t%3lR\nuser\t%3lU\nsys\t%3lS"

/-- The format that other programs know. -/
def portableFormat : Octets := "real %2R\nuser %2U\nsys %2S"

/-- A number of milliseconds in seconds with some places after the point, of which there are at most three;
with minutes and units if `long` is set. -/
def seconds (places : Nat) (long : Bool) (milliseconds : Nat) : Octets :=
  let n := milliseconds / 1000
  let whole := if long then Octets.ofNat (n / 60) ++ "m" ++ Octets.ofNat (n % 60) else Octets.ofNat n
  let digits := Octets.ofNat (milliseconds % 1000)
  let digits := String.ofList (List.replicate (3 - digits.length) '0') ++ digits
  let fraction := if places = 0 then "" else "." ++ String.ofList (digits.toList.take places)
  whole ++ fraction ++ (if long then "s" else "")

/-- The share of the time in which something was computed for the command, in percent. -/
def share (t : Timing) : Octets :=
  let n := if t.passed = 0 then 0 else min 10000 ((t.user + t.system) * 10000 / t.passed)
  seconds 2 false (n * 10)

/-- The text for a format, the characters of which are at most `n`; or a letter without a meaning. -/
def shownWith (t : Timing) : Nat → List Char → Except Char Octets
  | 0, _ | _, [] => .ok ""
  | n + 1, '%' :: c :: r =>
    if c = '%' then (shownWith t n r).map ("%" ++ ·)
    else if c = 'P' then (shownWith t n r).map (t.share ++ ·)
    else
      let (places, r) := if c.isDigit then (min 3 (c.toNat - 48), r) else (3, c :: r)
      let (long, r) := match r with | 'l' :: r => (true, r) | r => (false, r)
      let rest := shownWith t n (r.drop 1)
      match r.headD '\x00' with
      | 'R' | 'E' => rest.map (seconds places long t.passed ++ ·)
      | 'U' => rest.map (seconds places long t.user ++ ·)
      | 'S' => rest.map (seconds places long t.system ++ ·)
      | d => .error d
  | n + 1, c :: r => (shownWith t n r).map (c.toString ++ ·)

/-- The text for a format, or a letter that has no meaning in it. -/
def shown (t : Timing) (format : Octets) : Except Char Octets := shownWith t (format.length + 1) format.toList

end Timing

end ShellCoverage.Shell
