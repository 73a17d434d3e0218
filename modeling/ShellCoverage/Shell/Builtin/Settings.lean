import ShellCoverage.Shell.Builtin.Variables

/-!
# Commands on the state of the shell

`set`, `shopt`, `trap`, `umask`, `times`, `help`, `bind`, `enable`.
-/

namespace ShellCoverage.Shell.Builtin

/-- Sets or unsets an option. That for the standard is also a variable. -/
def setOption (name : Octets) (on : Bool) : Sh Unit := do
  if name = "posix" then
    let old? ← Sh.findVariable standardName
    Sh.markStandard on
    if !on then
      Sh.change fun p => { p with vars := Variables.remove standardName false p.vars }
    else if old?.isNone then Sh.store standardName "y"
  else
    Sh.change fun p => { p with
      options := if on then (if p.options.elem name then p.options else p.options ++ [name])
        else p.options.filter (· ≠ name) }

/-- A setting as a table shows it. -/
def settingRow (name : Octets) (on : Bool) : Octets :=
  Octets.padRight 15 name ++ "\t" ++ (if on then "on" else "off") ++ "\n"

/-- Writes the options, as a table or as commands. -/
def listOptions (asCommands : Bool) : Sh Unit := do
  let options := (← Sh.process).options
  for n in optionNames do
    let on := options.elem n
    Sh.write (if asCommands then "set " ++ (if on then "-o " else "+o ") ++ n ++ "\n" else settingRow n on)

/-- Sets the options that letters name. The result is the letter that is refused, if one is. -/
def setLetters (on : Bool) (cs : List Char) : Sh (Option Char) := do
  for c in cs do
    match optionLetters.lookup c with
    | some name => setOption name on
    | none => if c ≠ 'o' then return some c
  return none

/-- Handles the options at the head of the arguments of `set`; the result has the parameters to set,
or the status of a refusal. -/
def setArguments : Nat → List Octets → Sh (Except Nat (Option (List Octets)))
  | 0, _ => return .ok none
  | _, [] => return .ok none
  | n + 1, a :: r => do
    match a.toList with
    | ['-', '-'] => return .ok (some r)
    | ['-'] =>
      setOption "xtrace" false
      setOption "verbose" false
      return .ok (if r = [] then none else some r)
    | sign :: c :: cs =>
      if sign ≠ '-' && sign ≠ '+' then return .ok (some (a :: r))
      let on := sign = '-'
      match ← setLetters on (c :: cs) with
      | some bad => return .error (← refuseOption "set" (sign.toString ++ bad.toString))
      | none =>
        if (c :: cs).elem 'o' then
          match r with
          | [] =>
            listOptions (!on)
            return .ok none
          | name :: r =>
            if optionNames.elem name then
              setOption name on
              setArguments n r
            else return .error (← refuse 2 "set" (name ++ ": invalid option name"))
        else setArguments n r
    | _ => return .ok (some (a :: r))

/-- `set` -/
def set : Builtin := fun args => do
  if args = [] then
    listAll
    return 0
  match ← setArguments (args.length + 1) args with
  | .error n => return n
  | .ok none => return 0
  | .ok (some ps) =>
    Sh.change fun p => { p with parameters := ps }
    return 0

/-- Sets or unsets a further option. That for debuggers brings two others along. -/
def setFeature (name : Octets) (on : Bool) : Sh Unit := do
  Sh.markFeature name on
  if name = "extdebug" then
    setOption "errtrace" on
    setOption "functrace" on

/-- `shopt` -/
def shopt : Builtin := fun args => do
  match ← options? "shopt" "pqsuo" "" args with
  | none => return 2
  | some (os, names) =>
    if has os 's' && has os 'u' then
      return ← refuse 1 "shopt" "cannot set and unset shell options simultaneously"
    let p ← Sh.process
    let known : List Octets := if has os 'o' then optionNames else featureNames.map (·.1)
    let active : List Octets := if has os 'o' then p.options else p.features
    let row (n : Octets) : Octets :=
      let on := active.elem n
      if has os 'p' then
        (if has os 'o' then "set " ++ (if on then "-o " else "+o ")
          else "shopt " ++ (if on then "-s " else "-u ")) ++ n ++ "\n"
      else settingRow n on
    if names = [] then
      let shown := known.filter fun n =>
        if has os 's' then active.elem n else if has os 'u' then !(active.elem n) else true
      if !(has os 'q') then Sh.write (String.join (shown.map row))
      return 0
    let mut good := true
    for n in names do
      if !(known.elem n) then
        complain "shopt" (n ++ ": invalid " ++ (if has os 'o' then "option name" else "shell option name"))
        good := false
      else if has os 's' || has os 'u' then
        if has os 'o' then setOption n (has os 's')
        else
          setFeature n (has os 's')
      else
        if !(has os 'q') then Sh.write (row n)
        if !(active.elem n) then good := false
    return statusOf good

/-! ## Traps -/

/-- The names of the conditions that are no signals. -/
def conditions : List Octets := ["DEBUG", "ERR", "RETURN"]

/-- The condition that a word names. -/
def condition? (s : Octets) : Option Octets :=
  let name := s.map Char.toUpper
  if conditions.elem name then some name else (signalNumber? s).bind signalName?

/-- The name of a condition in lists; that of a signal has a mark, but not in the standard. -/
def conditionText (standard : Bool) (name : Octets) : Octets :=
  if standard || name = "EXIT" || conditions.elem name then name else "SIG" ++ name

/-- Writes the traps for some conditions. -/
def listTraps (names : List Octets) : Sh Unit := do
  let p ← Sh.process
  let traps := p.traps ++ p.formerTraps.filter fun t => !Table.has t.1 p.traps
  for n in names do
    match Table.get? n traps with
    | some text =>
      Sh.write ("trap -- " ++ Quoting.single text ++ " " ++ conditionText (← Sh.isStrict) n ++ "\n")
    | none => pure ()

/-- The signals as `trap -l` and `kill -l` list them. -/
def signalTable : Octets :=
  let cell (s : (Octets × Nat) × Nat) : Octets :=
    Octets.padLeft 2 (Octets.ofNat s.1.2) ++ ") SIG" ++ s.1.1 ++ (if (s.2 + 1) % 5 = 0 then "\n" else "\t")
  String.join ((signals.drop 1).zipIdx.map cell) ++ "\n"

/-- A word that should name a condition does not. -/
def refuseCondition (word : Octets) : Sh Bool := do
  match (← Sh.process).dialect with
  | .plain => complain "trap" (word ++ ": bad trap")
  | .full => complain "trap" (word ++ ": invalid signal specification")
  return false

/-- The condition that a word names in this shell. -/
def ownCondition? (word : Octets) : Sh (Option Octets) := do
  if (← Sh.process).dialect = .plain && conditions.elem word then return none
  return condition? word

/-- Sets or takes away the trap for a condition. -/
def setTrap (text : Option Octets) (word : Octets) : Sh Bool := do
  match ← ownCondition? word with
  | none => refuseCondition word
  | some c =>
    Sh.change fun p => { p with
      traps := match text with
        | some s => Table.insert c s p.traps
        | none => Table.erase c p.traps
      formerTraps := [] }
    Sh.noteTraps
    return true

/-- Writes the traps for the conditions that some words name. -/
def showTraps (names : List Octets) : Sh Nat := do
  if names = [] then
    listTraps (signals.map (·.1) ++ conditions)
    return 0
  else
    onEach names fun n => do
      match ← ownCondition? n with
      | none => refuseCondition n
      | some c =>
        listTraps [c]
        return true

/-- `trap`. A word alone is a condition whose trap is taken away. -/
def trap : Builtin := fun args => do
  let plain := (← Sh.process).dialect = .plain
  let read? ← if plain then pure (some ([], withoutMark args)) else options? "trap" "lp" "" args
  match read? with
  | none => return 2
  | some (os, args) =>
    if has os 'l' then
      Sh.write signalTable
      return 0
    else if has os 'p' then showTraps args
    else
      match args with
      | [] => showTraps []
      | "-" :: names => if names = [] && !plain then usage "trap" else onEach names (setTrap none)
      | [a] =>
        if plain || (a ≠ "" && (condition? a).isSome) then onEach [a] (setTrap none) else usage "trap"
      | a :: names =>
        if (Octets.natural? a).isSome && (plain || (condition? a).isSome) then onEach args (setTrap none)
        else onEach names (setTrap (some a))

/-! ## The rest -/

/-- Four octal digits. -/
def octalMode (n : Nat) : Octets :=
  let ds := String.ofList (Nat.toDigits 8 n)
  String.ofList (List.replicate (4 - ds.length) '0') ++ ds

/-- A mask as the permissions that are left. -/
def maskLetters (mask : Nat) : Octets :=
  let part (shift : Nat) : Octets :=
    let n := mask / shift % 8
    (if n / 4 % 2 = 0 then "r" else "") ++ (if n / 2 % 2 = 0 then "w" else "") ++
      (if n % 2 = 0 then "x" else "")
  "u=" ++ part 64 ++ ",g=" ++ part 8 ++ ",o=" ++ part 1

/-- The permissions that letters name, for everybody. -/
def permissionBits (cs : List Char) : Nat :=
  cs.foldl (fun n c => n ||| (if c = 'r' then 0o444 else if c = 'w' then 0o222 else 0o111)) 0

/-- The bits of those whom letters name. -/
def ownerBits (cs : List Char) : Nat :=
  cs.foldl (fun n c =>
    n ||| (if c = 'u' then 0o700 else if c = 'g' then 0o070 else if c = 'o' then 0o007 else 0o777)) 0

/-- The permissions after changes by letters, such as `u+x,go=r`; or the message of an error. -/
def changePermissions : Nat → Nat → List Char → Except Octets Nat
  | 0, bits, _ => .ok bits
  | fuel + 1, bits, cs =>
    let whom := cs.takeWhile "agou".toList.elem
    match cs.drop whom.length with
    | [] => .error "\x60\x00': invalid symbolic mode operator"
    | op :: r =>
      if !"+-=".toList.elem op then .error ("\x60" ++ op.toString ++ "': invalid symbolic mode operator")
      else
        let letters := r.takeWhile "rwx".toList.elem
        let all := if whom = [] then 0o777 else ownerBits whom
        let given := permissionBits letters &&& all
        let bits :=
          if op = '+' then bits ||| given
          else if op = '-' then bits &&& (0o777 ^^^ given)
          else (bits &&& (0o777 ^^^ all)) ||| given
        match r.drop letters.length with
        | [] => .ok bits
        | ',' :: r => changePermissions fuel bits r
        | c :: _ => .error ("\x60" ++ c.toString ++ "': invalid symbolic mode character")

/-- The mask that a word stands for: in octal digits, or by letters that change the permissions that the
current one leaves. -/
def readMask (mask : Nat) (s : Octets) : Except Octets Nat :=
  if s.toList.head?.any Char.isDigit then
    let n := s.toList.foldl (fun n c => n * 8 + (c.toNat - 48)) 0
    if (s.toList.all fun c => '0' ≤ c && c ≤ '7') && n < 0o10000 then .ok n
    else .error (s ++ ": octal number out of range")
  else (changePermissions (s.length + 1) (0o777 ^^^ (mask &&& 0o777)) s.toList).map fun bits => 0o777 ^^^ bits

/-- `umask` -/
def umask : Builtin := fun args => do
  match ← options? "umask" "pS" "" args with
  | none => return 2
  | some (os, []) =>
    let mask := (← Sh.process).maskedMode
    let text := if has os 'S' then maskLetters mask else octalMode mask
    Sh.write ((if has os 'p' then "umask " ++ (if has os 'S' then "-S " else "") else "") ++ text ++ "\n")
    return 0
  | some (os, a :: _) =>
    match readMask (← Sh.process).maskedMode a with
    | .error m => refuse 1 "umask" m
    | .ok mask =>
      Sh.change fun p => { p with maskedMode := mask &&& 0o777 }
      if has os 'S' then Sh.write (maskLetters mask ++ "\n")
      return 0

/-- `times` -/
def times : Builtin := fun _ => do
  Sh.write "0m0.000s 0m0.000s\n0m0.000s 0m0.000s\n"
  return 0

/-- Switches a command of the shell off or on. -/
def setEnabled (name : Octets) (on : Bool) : Sh Bool := do
  if !names.elem name then
    complain "enable" (name ++ ": not a shell builtin")
    return false
  Sh.change fun p => { p with
    disabled := if on then p.disabled.filter (· ≠ name)
      else if p.disabled.elem name then p.disabled else name :: p.disabled }
  return true

/-- `enable` -/
def enable : Builtin := fun args => do
  match ← options? "enable" "adnps" "f" args with
  | none => return 2
  | some (os, []) =>
    let disabled := (← Sh.process).disabled
    for n in names do
      let off := disabled.elem n
      if (!has os 's' || specialNames.elem n) && (has os 'a' || off = has os 'n') then
        Sh.write ("enable " ++ (if off then "-n " else "") ++ n ++ "\n")
    return 0
  | some (os, args) =>
    onEach args fun n => do
      if has os 'd' && names.elem n then
        complain "enable" (n ++ ": not dynamically loaded")
        return false
      else setEnabled n (!has os 'n')

/-- What the list of all topics begins with. -/
def overviewHeading : Octets :=
  "GNU bash, version " ++ versionText ++ " (x86_64-pc-linux-gnu)\n" ++
    "These shell commands are defined internally.  Type `help' to see this list.\n" ++
    "Type `help name' to find out more about the function `name'.\n" ++
    "Use `info bash' to find out more about the shell in general.\n" ++
    "Use `man -k' or `info' to find out more about commands not in this list.\n\n" ++
    "A star (*) next to a name means that the command is disabled.\n\n"

/-- The topics that a word means: those that it matches, or else those that begin with it. -/
def topicsFor (word : Octets) : List Topic :=
  let pattern := Pattern.parse false true (word.toList.map (·, false))
  let matching := Manual.topics.filter fun t =>
    t.name = word || Pattern.accepts false pattern t.name.toList
  if matching = [] then Manual.topics.filter fun t => Octets.startsWith word t.name else matching

/-- The text of a topic, in the form that options ask for. -/
def topicText (os : Options) (t : Topic) : Octets :=
  if has os 'd' then t.description
  else if has os 'm' then
    t.page ("    GNU bash, version " ++ versionText ++ " (x86_64-pc-linux-gnu)\n")
  else if has os 's' then t.heading
  else t.shown

/-- `help` -/
def help : Builtin := fun args => do
  match ← options? "help" "dms" "" args with
  | none => return 2
  | some (_, []) =>
    let disabled := (← Sh.process).disabled
    Sh.write (overviewHeading ++ String.join (Manual.overview disabled.elem (← Sh.screenWidth)))
    return 0
  | some (os, words) =>
    let last := words.getLastD ""
    if Pattern.isMagic false ((words.headD "").toList.map (·, false)) then
      Sh.write ("Shell commands matching keyword" ++ (if words.length = 1 then " " else "s ") ++ "`" ++
        Octets.join ", " words ++ "'\n\n")
    let found := words.flatMap topicsFor
    for t in found do
      Sh.write (topicText os t)
    if found = [] then
      refuse 1 "help" ("no help topics match `" ++ last ++ "'.  Try `help help' or `man -k " ++ last ++
        "' or `info " ++ last ++ "'.")
    else return 0

/-- `bind`: there are no lines to edit. -/
def bind : Builtin := fun args => do
  complain "bind" "warning: line editing not enabled"
  match ← options? "bind" "lvpVPsSX" "fqumrx" args with
  | none => return 2
  | some (os, _) =>
    if has os 'p' then Sh.write "\n"
    return 0

end ShellCoverage.Shell.Builtin
