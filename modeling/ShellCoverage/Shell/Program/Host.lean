import ShellCoverage.Shell.Program.Starting

/-!
# Programs on the machine

Programs that tell something of the machine and of the process: `id`, `uname`, `hostname`, `printenv`, `tty`
and the like.
-/

namespace ShellCoverage.Shell.Program

/-- `id` -/
def id : Program := fun args =>
  let u : Usage :=
    { letters := "agGnruzZ"
      words := [("group", "g"), ("groups", "G"), ("name", "n"), ("real", "r"), ("user", "u"), ("zero", "z")] }
  u.run args fun os operands => do
    match operands.find? fun a => a ≠ "root" && a ≠ "0" with
    | some a =>
      complain (cited a ++ ": no such user")
      return 1
    | none =>
      let chosen := ["u", "g", "G"].any os.has
      if os.has "n" && !chosen then
        complain "cannot print only names or real IDs in default format"
        return 1
      Sh.write (if !chosen then "uid=0(root) gid=0(root) groups=0(root)\n"
        else if os.has "n" then "root\n" else "0\n")
      return 0

/-- `groups` -/
def groupNames : Program := fun args =>
  let u : Usage := {}
  u.run args fun _ operands => do
    if operands = [] then
      Sh.write "root\n"
      return 0
    onEach operands fun a => do
      if a = "root" || a = "0" then
        Sh.write (a ++ " : root\n")
        return true
      else refuse (cited a ++ ": no such user")

/-- A program that writes a line. -/
def saying (text : Octets) : Program := fun args =>
  let u : Usage := {}
  u.run args fun _ operands => do
    match operands with
    | extra :: _ => extraOperand extra
    | [] =>
      if text ≠ "" then Sh.write (text ++ "\n")
      return 0

/-- `uname` -/
def uname : Program := fun args =>
  let u : Usage :=
    { letters := "asnrvmpio"
      words := [("all", "a"), ("kernel-name", "s"), ("nodename", "n"), ("kernel-release", "r"),
        ("kernel-version", "v"), ("machine", "m"), ("processor", "p"), ("hardware-platform", "i"),
        ("operating-system", "o")] }
  u.run args fun os operands => do
    match operands with
    | extra :: _ => extraOperand extra
    | [] =>
      let parts := [("s", "Linux"), ("n", "localhost"), ("r", "6.1.0"), ("v", "#1 SMP"), ("m", "x86_64"),
        ("o", "GNU/Linux")]
      let chosen := parts.filter fun p => os.has "a" || os.has p.1
      let chosen := chosen.map (·.2) ++ (if os.has "p" || os.has "i" then ["unknown"] else [])
      Sh.write (Octets.join " " (if chosen = [] then ["Linux"] else chosen) ++ "\n")
      return 0

/-- `printenv` -/
def printenv : Program := fun args =>
  let u : Usage := { letters := "0", words := [("null", "0")], leading := true, failure := 2 }
  u.run args fun os names => do
    let feed := if os.has "0" then "\x00" else "\n"
    let env ← environment
    match names with
    | [] =>
      for e in env do
        Sh.write (e.1 ++ "=" ++ e.2 ++ feed)
      return 0
    | names =>
      let mut good := true
      for n in names do
        match Table.get? n env with
        | some v => Sh.write (v ++ feed)
        | none => good := false
      return status good

/-- `tty` -/
def tty : Program := fun args =>
  let u : Usage := { letters := "s", words := [("silent", "s"), ("quiet", "s")], failure := 2 }
  u.run args fun os _ => do
    if !os.has "s" then Sh.write "not a tty\n"
    return 1

/-- `stty` -/
def stty : Program := fun _ => do
  complain "'standard input': Inappropriate ioctl for device"
  return 1

/-- `tput` -/
def tput : Program := fun args => do
  if (Table.get? "TERM" (← environment)).isNone && args.head? ≠ some "-T" then
    complain "No value for $TERM and no -T specified"
    return 2
  return 0

/-- `sync` -/
def sync : Program := fun args =>
  let u : Usage := { letters := "df", words := [("data", "d"), ("file-system", "f")] }
  u.run args fun _ _ => return 0

/-- `kill` -/
def kill : Program := Builtin.kill

end ShellCoverage.Shell.Program
