import ShellCoverage.Shell.Program.Columns
import ShellCoverage.Shell.Program.Comparing
import ShellCoverage.Shell.Program.Copying
import ShellCoverage.Shell.Program.Digest
import ShellCoverage.Shell.Program.Editing
import ShellCoverage.Shell.Program.Encoding
import ShellCoverage.Shell.Program.Expression
import ShellCoverage.Shell.Program.Files
import ShellCoverage.Shell.Program.Filling
import ShellCoverage.Shell.Program.Pieces
import ShellCoverage.Shell.Program.Units
import ShellCoverage.Shell.Program.Finding
import ShellCoverage.Shell.Program.Host
import ShellCoverage.Shell.Program.Listing
import ShellCoverage.Shell.Program.Matching
import ShellCoverage.Shell.Program.Ordering
import ShellCoverage.Shell.Program.Pairing
import ShellCoverage.Shell.Program.Paths
import ShellCoverage.Shell.Program.Rules
import ShellCoverage.Shell.Program.Starting
import ShellCoverage.Shell.Program.Values
import ShellCoverage.Shell.Start

/-!
# Launching programs

An executable file is a program of the machine, or a script whose first line names an interpreter.

* `Image.ofContent` : what an executable file is;
* `Sh.launch` : a process becomes a program;
* `Installation.tree` : the files of a machine with all programs.
-/

namespace ShellCoverage.Shell

/-- What an executable file is. -/
inductive Image where
  /-- A program of the machine. -/
  | program (name : Octets)
  /-- A script with an interpreter, which may get an argument. -/
  | script (interpreter : Octets) (argument : Option Octets)
  /-- Nothing that the system executes. -/
  | other
  deriving DecidableEq, Repr

namespace Image

/-- How the content of a program begins; its name follows. -/
def programMark : Octets := "\x7fELF "

/-- The image in a file. -/
def ofContent (content : Octets) : Image :=
  match Octets.dropHead? programMark content with
  | some name => .program name
  | none =>
    match content.toList with
    | '#' :: '!' :: cs =>
      let line := String.ofList (Octets.trim (cs.takeWhile (· ≠ '\n')))
      let interpreter := line.toList.takeWhile fun c => !Octets.isBlank c
      let rest := (line.toList.drop interpreter.length).dropWhile Octets.isBlank
      if interpreter = [] then .other
      else .script (String.ofList interpreter) (if rest = [] then none else some (String.ofList rest))
    | _ => .other

end Image

namespace Program

/-- The programs that end, compute or say something. -/
def generalPrograms : List (Octets × Program) :=
  [("true", succeed), ("false", failing), ("echo", echo), ("printf", printf), ("test", test "test"),
    ("[", test "["), ("sleep", sleep), ("seq", seq), ("factor", factor), ("numfmt", numfmt), ("date", date),
    ("getopt", getopt), ("tsort", tsort), ("expr", expr), ("yes", yes), ("id", id),
    ("whoami", saying "root"), ("groups", groupNames), ("hostid", saying "007f0101"), ("logname", saying ""), ("hostname", saying "localhost"),
    ("nproc", saying "1"), ("arch", saying "x86_64"), ("users", saying ""), ("who", saying ""),
    ("uname", uname), ("printenv", printenv), ("tty", tty), ("stty", stty), ("tput", tput),
    ("sync", sync), ("kill", kill)]

/-- The programs that work on texts. -/
def textPrograms : List (Octets × Program) :=
  [("cat", cat), ("tac", tac), ("rev", rev), ("tee", tee), ("head", head), ("tail", tail),
    ("split", split), ("csplit", csplit), ("dd", dd), ("wc", wc), ("nl", nl), ("sort", sort), ("shuf", shuf), ("uniq", uniq),
    ("comm", comm), ("join", join), ("cut", cut), ("paste", paste), ("tr", tr), ("fold", fold), ("fmt", fmt),
    ("expand", expand), ("unexpand", unexpand), ("base64", encoder .base64),
    ("base32", encoder .base32), ("basenc", basenc), ("od", od), ("b2sum", b2sum), ("cksum", cksum), ("sum", sum), ("diff", diff), ("cmp", cmp), ("grep", grep), ("egrep", grepAs "E"), ("fgrep", grepAs "F")]

/-- The programs that write digests. -/
def digestPrograms : List (Octets × Program) :=
  (digesters.filter (·.1 ≠ "blake2b")).map fun d => (d.1 ++ "sum", digester d.2)

/-- The programs that work on files. -/
def filePrograms : List (Octets × Program) :=
  [("mkdir", mkdir), ("rmdir", rmdir), ("rm", rm), ("unlink", unlink), ("touch", touch),
    ("truncate", truncate), ("cp", cp), ("mv", mv), ("ln", ln), ("link", link),
    ("install", install), ("chmod", chmod), ("chown", changeOwner "user"),
    ("chgrp", changeOwner "group"), ("mkfifo", mkfifo), ("mknod", mknod), ("ls", ls), ("dir", fun args => ls ("-C" :: "-b" :: args)), ("vdir", fun args => ls ("-l" :: "-b" :: args)), ("stat", stat),
    ("basename", basename), ("dirname", dirname), ("pwd", pwd), ("readlink", readlink),
    ("realpath", realpath), ("mktemp", mktemp), ("pathchk", pathchk)]

/-- The programs that run other programs or look for them. -/
def startingPrograms (launch : Launch) : List (Octets × Program) :=
  [("which", which), ("env", env launch), ("xargs", xargs launch), ("timeout", timeout launch),
    ("nohup", nohup launch), ("nice", nice launch), ("setsid", setsid launch),
    ("stdbuf", stdbuf launch), ("flock", flock launch),
    ("sed", sed launch), ("find", find launch), ("awk", awk launch),
    ("mawk", awk launch)]

/-- The programs of the machine. -/
def table (launch : Launch) : List (Octets × Program) :=
  generalPrograms ++ textPrograms ++ digestPrograms ++ filePrograms ++ startingPrograms launch

/-- Runs a program in the process up to its end. -/
def run (p : Program) (argv : List Octets) (env : Table Octets Octets) : Sh Ending := do
  let entries := env.map fun e => (e.1, Sh.exportedVariable e.2)
  Sh.change fun old => { old with
    name := argv.headD ""
    charset := Charset.ofEnvironment env
    vars := [{ entries }]
    functions := []
    frames := []
    options := []
    jobs := []
    traps := old.traps.filter fun t => t.2 = "" }
  Sh.noteTraps
  Sh.spend Sh.programTime
  Sh.changeWorld (·.look false)
  match ← Sh.untilJump (p argv.tail >>= Sh.setStatus) with
  | none => return .exited (← Sh.process).status
  | some j => return Sh.endingOf j 0

end Program

namespace Sh

variable (runs : Runs)

/-- Interpreters of interpreters nest at most so deep. -/
def maxInterpreters : Nat := 5

/-- A process becomes the program at a path; interpreters nest at most so deep. -/
def launchWith : Nat → Launch
  | 0, _, _, _ => return .error .tooManyLinks
  | n + 1, path, argv, env => do
    match ← node? true path with
    | .error e => return .error e
    | .ok (_, x) =>
      match x with
      | .file _ content =>
        if !x.isExecutable then return .error .accessDenied
        match Image.ofContent (Octets.ofBytes content) with
        | .program "bash" => return .ok (← shell runs .full 1 argv env)
        | .program "dash" => return .ok (← shell runs .plain 1 argv env)
        | .program name =>
          match (Program.table (launchWith n)).lookup name with
          | some p => return .ok (← Program.run p argv env)
          | none => return .ok (.exited 0)
        | .script interpreter argument =>
          launchWith n interpreter (interpreter :: argument.toList ++ path :: argv.tail) env
        | .other => return .error .notExecutable
      | _ => return .error .accessDenied

/-- A process becomes the program at a path. -/
def launch : Launch := launchWith runs maxInterpreters

end Sh

namespace Installation

/-- The executable file of a program. -/
def executable (name : Octets) : Node := .file 0o755 (Octets.toBytes (Image.programMark ++ name))

/-- The names of the programs. -/
def programNames : List Octets :=
  "bash" :: "dash" :: (Program.table fun _ _ _ => return .error .noEntry).map (·.1)

/-- A directory with entries of some names. -/
def directory (entries : List (Octets × Node)) : Node :=
  .directory Node.directoryMode (entries.map fun e => (Octets.toBytes e.1, e.2))

/-- A symbolic link. -/
def link (target : Octets) : Node := .link (Octets.toBytes target)

/-- The files of a machine with all programs. -/
def tree : Node :=
  directory [("bin", link "usr/bin"), ("sbin", link "usr/sbin"),
    ("usr", directory [("bin", directory (programNames.map (fun n => (n, executable n)) ++ [("sh", link "dash")])),
      ("sbin", directory []), ("local", directory [("bin", directory [])]), ("lib", directory []),
      ("share", directory [])]),
    ("dev", directory [("null", .device), ("zero", .device), ("tty", .device)]), ("etc", directory []),
    ("home", directory []), ("opt", directory []), ("proc", directory []), ("root", directory []),
    ("tmp", directory []), ("var", directory [("tmp", directory [])])]

end Installation

end ShellCoverage.Shell
