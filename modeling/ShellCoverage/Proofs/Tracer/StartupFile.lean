import Mathlib.Data.List.TakeWhile
import ShellCoverage.Proofs.Text.Contents
import ShellCoverage.Tracer.StartupFile

/-!
# What a shell makes of the startup file

`read?` reads commands as the quoting rules of the shell say: nothing is special between single quotes; between double
quotes a backslash quotes some characters; elsewhere it quotes any, blanks end words, and line feeds end commands. It
reads commands that set variables, or are words; it refuses everything that a shell would expand, match, redirect, run
elsewhere or take for the begin of a compound command. So what it reads has no other meaning.

A traced shell may itself trace: its startup file is then that of the caller of another run. Files that are read one
from the other set the prompt in turn, and the last one is the outermost.

* `Scanner`, `read?` : the commands in a text;
* `run?_quote` : a quoted text is read as one word, or as the end of one;
* `content_reads_back` : the startup file is read as an assignment and the reading of the caller's file;
* `Executes`, `Reads` : what commands, and files that are read, do to variables;
* `Tracer.IsNest`, `Tracer.nested_prompt` : the prompt in a shell with several tracers.
-/

namespace ShellCoverage.StartupFile

/-! ## Words -/

/-- The characters of a word, each with whether it was quoted. -/
abbrev Word := List (CodePoint × Bool)

/-- The text of a word without its quotes. -/
def wordText (w : Word) : Text := w.map Prod.fst

/-- A text as a word, or a part of one, without quotes. -/
def unquoted (t : Text) : Word := t.map (·, false)

/-- A text as a word, or a part of one, between quotes. -/
def quoted (t : Text) : Word := t.map (·, true)

theorem wordText_unquoted (t : Text) : wordText (unquoted t) = t := by
  rw [wordText, unquoted, List.map_map]
  exact List.map_id t

theorem wordText_quoted (t : Text) : wordText (quoted t) = t := by
  rw [wordText, quoted, List.map_map]
  exact List.map_id t

/-- The character can stand in the name of a variable. -/
def isNameChar (c : CodePoint) : Bool := c.isAsciiLetter || c.isAsciiDigit || c = 95

/-- The name and the value, if the word is an assignment: the name and the sign after it are not quoted. -/
def assignment? (w : Word) : Option (Text × Text) :=
  let name := w.takeWhile fun p => !p.2 && isNameChar p.1
  match name, w.drop name.length with
  | (c, _) :: _, (61, false) :: value => if c.isAsciiDigit then none else some (wordText name, wordText value)
  | _, _ => none

/-- The words that begin or divide compound commands. -/
def reservedWords : List Text :=
  ["case", "coproc", "do", "done", "elif", "else", "esac", "fi", "for", "function", "if", "in", "select", "then",
    "time", "until", "while"]

/-- The word begins or divides a compound command; quotes take its meaning away. -/
def isReserved (w : Word) : Bool := w.all (!·.2) && reservedWords.elem (wordText w)

/-! ## Commands -/

/-- A command that sets variables, for itself only if it has words, of which the first is its name. -/
structure SimpleCommand where
  assignments : List (Text × Text)
  words : List Text

/-- The command that some words are. -/
def simpleCommand? : List Word → Option SimpleCommand
  | [] => some ⟨[], []⟩
  | w :: ws =>
    match assignment? w with
    | some a => (simpleCommand? ws).map fun c => ⟨a :: c.assignments, c.words⟩
    | none => if isReserved w then none else some ⟨[], wordText w :: ws.map wordText⟩

/-- Where a scanner is. -/
inductive Mode where
  | plain
  /-- After a backslash. -/
  | escape
  /-- Between single quotes. -/
  | single
  /-- Between double quotes. -/
  | double
  /-- After a backslash between double quotes. -/
  | doubleEscape
  deriving DecidableEq

/-- A reader of commands: the word that it is in, the words before it in the command, and the commands before. -/
structure Scanner where
  mode : Mode
  word : Option Word
  words : List Word
  commands : List SimpleCommand

namespace Scanner

/-- Nothing was read yet. -/
def start : Scanner := ⟨.plain, none, [], []⟩

/-- The word goes on with a character. -/
def add (s : Scanner) (m : Mode) (c : CodePoint) (quoted : Bool) : Scanner :=
  { s with mode := m, word := some (s.word.getD [] ++ [(c, quoted)]) }

/-- Quotes begin, and with them a word if there is none. -/
def enter (s : Scanner) (m : Mode) : Scanner := { s with mode := m, word := some (s.word.getD []) }

/-- The word ends, if there is one. -/
def endWord (s : Scanner) : Scanner := { s with word := none, words := s.words ++ s.word.toList }

/-- The command ends, if there is one. -/
def endCommand? (s : Scanner) : Option Scanner :=
  match s.endWord.words with
  | [] => some s.endWord
  | ws => (simpleCommand? ws).map fun c => ⟨s.mode, none, [], s.commands ++ [c]⟩

/-- The characters that mean more than themselves where no quotes are. -/
def special : Text := "|&;<>()$\x60*?[]^!#~\x7b\x7d"

/-- The characters that a backslash quotes between double quotes. -/
def doubleSpecial : Text := "$\x60\"\\"

/-- The scanner after one more character. -/
def step? (s : Scanner) (c : CodePoint) : Option Scanner :=
  match s.mode with
  | .plain =>
    if c = 39 then some (s.enter .single)
    else if c = 34 then some (s.enter .double)
    else if c = 92 then some { s with mode := .escape }
    else if c = 10 then s.endCommand?
    else if c = 32 || c = 9 then some s.endWord
    else if special.elem c then none
    else some (s.add .plain c false)
  | .escape => if c = 10 then some { s with mode := .plain } else some (s.add .plain c true)
  | .single => if c = 39 then some { s with mode := .plain } else some (s.add .single c true)
  | .double =>
    if c = 34 then some { s with mode := .plain }
    else if c = 92 then some { s with mode := .doubleEscape }
    else if c = 36 || c = 96 then none
    else some (s.add .double c true)
  | .doubleEscape =>
    if c = 10 then some { s with mode := .double }
    else if doubleSpecial.elem c then some (s.add .double c true)
    else some ((s.add .double 92 true).add .double c true)

/-- The commands, if no quotes are open. -/
def finish? (s : Scanner) : Option (List SimpleCommand) :=
  match s.mode with
  | .plain => s.endCommand?.map (·.commands)
  | _ => none

/-- The scanner after some text. -/
def run? (s : Scanner) (t : Text) : Option Scanner := t.foldlM step? s

theorem run?_append (s : Scanner) (t u : Text) : s.run? (t ++ u) = (s.run? t).bind (·.run? u) := List.foldlM_append

end Scanner

/-- The commands that a shell reads in a text. -/
def read? (t : Text) : Option (List SimpleCommand) := (Scanner.start.run? t).bind (·.finish?)

/-! ## Quoted texts -/

section
variable {ws : List Word} {cs : List SimpleCommand}

theorem run?_singleton (s : Scanner) (c : CodePoint) : s.run? [c] = s.step? c := by simp [Scanner.run?]

/-- A plain character stands for itself. -/
theorem step?_of_isPlain {c : CodePoint} (hc : isPlain c = true) (w : Option Word) :
    Scanner.step? ⟨.plain, w, ws, cs⟩ c = some ⟨.plain, some (w.getD [] ++ unquoted [c]), ws, cs⟩ := by
  have hother {x : CodePoint} (hx : isPlain x = false) : c ≠ x := by
    rintro rfl
    exact Bool.false_ne_true (hx.symm.trans hc)
  have hspecial : Scanner.special.elem c = false := by
    have hall : (Scanner.special.all fun x => !isPlain x) = true := by decide +kernel
    by_contra h
    have hmem : c ∈ Scanner.special := List.elem_iff.1 (by simpa using h)
    exact hother (by simpa using List.all_eq_true.1 hall c hmem) rfl
  have hblank : (c = 32 || c = 9) = false := by
    simp [hother (x := 32) (by decide), hother (x := 9) (by decide)]
  rw [Scanner.step?, if_neg (hother (by decide)), if_neg (hother (by decide)), if_neg (hother (by decide)),
    if_neg (hother (by decide)), hblank, hspecial]
  rfl

theorem run?_of_isPlain {t : Text} (ht : ∀ c ∈ t, isPlain c = true) (v : Word) :
    Scanner.run? ⟨.plain, some v, ws, cs⟩ t = some ⟨.plain, some (v ++ unquoted t), ws, cs⟩ := by
  induction t generalizing v with
  | nil =>
    rw [unquoted, List.map_nil, List.append_nil]
    rfl
  | cons c t ih =>
    obtain ⟨hc, ht⟩ := List.forall_mem_cons.1 ht
    rw [← List.singleton_append, Scanner.run?_append, run?_singleton, step?_of_isPlain hc, Option.bind_some, ih ht]
    simp [unquoted]

/-- Between single quotes each character stands for itself, and what is written for a quote is one. -/
theorem run?_single (t : Text) (v : Word) :
    Scanner.run? ⟨.single, some v, ws, cs⟩ (t.flatMap fun c => if c = 39 then innerQuote else [c]) =
      some ⟨.single, some (v ++ quoted t), ws, cs⟩ := by
  induction t generalizing v with
  | nil =>
    rw [quoted, List.map_nil, List.append_nil]
    rfl
  | cons c t ih =>
    have hfirst : Scanner.run? ⟨.single, some v, ws, cs⟩ (if c = 39 then innerQuote else [c]) =
        some ⟨.single, some (v ++ quoted [c]), ws, cs⟩ := by
      by_cases hc : c = 39
      · -- the quotes end, the quote stands between double quotes, and the quotes begin again
        rw [if_pos hc, hc]
        rfl
      · rw [if_neg hc, run?_singleton]
        exact if_neg hc
    rw [List.flatMap_cons, Scanner.run?_append, hfirst, Option.bind_some, ih]
    simp [quoted]

/-- A quoted text is read as itself: as a word, or as the end of the word that stands before it. -/
theorem run?_quote (ws : List Word) (cs : List SimpleCommand) (t : Text) (w : Option Word) :
    ∃ v : Word, wordText v = t ∧
      Scanner.run? ⟨.plain, w, ws, cs⟩ (quote t) = some ⟨.plain, some (w.getD [] ++ v), ws, cs⟩ := by
  rw [quote]
  split
  next h =>
    rw [Bool.and_eq_true, decide_eq_true_iff, List.all_eq_true] at h
    obtain ⟨c, r, rfl⟩ := List.exists_cons_of_ne_nil h.1
    obtain ⟨hc, hr⟩ := List.forall_mem_cons.1 h.2
    refine ⟨_, wordText_unquoted _, ?_⟩
    rw [← List.singleton_append, Scanner.run?_append, run?_singleton, step?_of_isPlain hc, Option.bind_some,
      run?_of_isPlain hr]
    simp [unquoted]
  next =>
    have hopen : Scanner.run? ⟨.plain, w, ws, cs⟩ [39] = some ⟨.single, some (w.getD []), ws, cs⟩ := rfl
    have hclose (v : Word) : Scanner.run? ⟨.single, some v, ws, cs⟩ [39] = some ⟨.plain, some v, ws, cs⟩ := rfl
    refine ⟨_, wordText_quoted t, ?_⟩
    rw [Scanner.run?_append, Scanner.run?_append, hopen, Option.bind_some, run?_single, Option.bind_some, hclose]

end

/-! ## The lines of the file -/

/-- The command that sets the prompt for a delimiter. -/
def setPrompt (d : Text) : SimpleCommand := ⟨[(Environment.promptName, Trace.prompt d)], []⟩

/-- The command that reads a file. -/
def sourceFile (path : Text) : SimpleCommand := ⟨[], [".", path]⟩

theorem run?_promptLine (d : Text) (cs : List SimpleCommand) :
    Scanner.run? ⟨.plain, none, [], cs⟩ (promptLine d ++ [10]) = some ⟨.plain, none, [], cs ++ [setPrompt d]⟩ := by
  have hname : Scanner.run? ⟨.plain, none, [], cs⟩ (Environment.promptName ++ [Trace.equals]) =
      some ⟨.plain, some (unquoted "PS4="), [], cs⟩ := by rfl
  obtain ⟨v, hv, hvalue⟩ := run?_quote [] cs (Trace.prompt d) (some (unquoted "PS4="))
  have hend : Scanner.run? ⟨.plain, some (unquoted "PS4=" ++ v), [], cs⟩ [10] =
      some ⟨.plain, none, [], cs ++ [⟨[(Environment.promptName, wordText v)], []⟩]⟩ := by rfl
  rw [promptLine, Scanner.run?_append, Scanner.run?_append, hname, Option.bind_some, hvalue, Option.bind_some,
    Option.getD_some, hend, hv]
  rfl

theorem run?_sourceLine (path : Text) (cs : List SimpleCommand) :
    Scanner.run? ⟨.plain, none, [], cs⟩ (sourceLine path ++ [10]) =
      some ⟨.plain, none, [], cs ++ [sourceFile path]⟩ := by
  have hname : Scanner.run? ⟨.plain, none, [], cs⟩ ". " = some ⟨.plain, none, [unquoted "."], cs⟩ := by rfl
  obtain ⟨v, hv, hargument⟩ := run?_quote [unquoted "."] cs path none
  have hend : Scanner.run? ⟨.plain, some v, [unquoted "."], cs⟩ [10] =
      some ⟨.plain, none, [], cs ++ [⟨[], [".", wordText v]⟩]⟩ := by rfl
  rw [sourceLine, Scanner.run?_append, Scanner.run?_append, hname, Option.bind_some, hargument, Option.bind_some,
    Option.getD_none, List.nil_append, hend, hv]
  rfl

/-- The caller's own startup file, if there is one. -/
def ownFile (callers : Option Text) : List Text := callers.toList.filter (· ≠ [])

theorem content_eq (d : Text) (callers : Option Text) :
    content d callers = promptLine d ++ [10] ++ (ownFile callers).flatMap fun path => sourceLine path ++ [10] := by
  cases callers with
  | none => simp [content, ownFile]
  | some path => by_cases hpath : path = [] <;> simp [content, ownFile, hpath]

theorem run?_sourceLines (paths : List Text) (cs : List SimpleCommand) :
    Scanner.run? ⟨.plain, none, [], cs⟩ (paths.flatMap fun path => sourceLine path ++ [10]) =
      some ⟨.plain, none, [], cs ++ paths.map sourceFile⟩ := by
  induction paths generalizing cs with
  | nil => rw [List.map_nil, List.append_nil]; rfl
  | cons path paths ih =>
    rw [List.flatMap_cons, Scanner.run?_append, run?_sourceLine, Option.bind_some, ih, List.append_assoc]
    rfl

/-- The file is read as the assignment of the prompt, and the reading of the caller's file. -/
theorem read_content (d : Text) (callers : Option Text) :
    read? (content d callers) = some (setPrompt d :: (ownFile callers).map sourceFile) := by
  rw [read?, content_eq, Scanner.run?_append, Scanner.start, run?_promptLine, Option.bind_some, run?_sourceLines]
  rfl

/-! ## The bytes of the file -/

theorem unencodable?_eq_none_iff {bad : CodePoint → Bool} {t : Text} :
    FileSystem.unencodable? bad t = none ↔ ∀ c ∈ t, bad c = false := by
  have hnil : (t.dropWhile fun c => !bad c) = [] ↔ ∀ c ∈ t, bad c = false := by
    simp [List.dropWhile_eq_nil_iff]
  rw [← hnil, FileSystem.unencodable?]
  cases t.dropWhile fun c => !bad c <;> simp

theorem isScalar_quote_iff {t : Text} : (quote t).IsScalar ↔ t.IsScalar := by
  have hinner : innerQuote.IsScalar := by decide +kernel
  have hends : Text.IsScalar [39] := by decide +kernel
  have hflat : Text.IsScalar (t.flatMap fun c => if c = 39 then innerQuote else [c]) ↔ t.IsScalar := by
    refine Text.isScalar_flatMap_iff.trans (forall₂_congr fun c _ => ?_)
    by_cases hc : c = 39
    · rw [if_pos hc, hc]
      exact iff_of_true hinner (hends 39 (List.mem_singleton_self _))
    · rw [if_neg hc]
      exact List.forall_mem_singleton
  rw [quote]
  split
  next => rfl
  next => rw [Text.isScalar_append_iff, Text.isScalar_append_iff, hflat, and_iff_left hends, and_iff_right hends]

theorem isScalar_prompt_iff {d : Text} : (Trace.prompt d).IsScalar ↔ d.IsScalar := by
  have hfield (f : Trace.Field) (h : d.IsScalar) : (Trace.fieldText d Trace.Field.expansion f).IsScalar := by
    have hlabel : (f.label ++ [Trace.equals] ++ f.expansion).IsScalar := by cases f <;> decide +kernel
    rw [Trace.fieldText, List.append_assoc, List.append_assoc, ← List.append_assoc f.label]
    exact Text.isScalar_append_iff.2 ⟨h, hlabel⟩
  have hends : Trace.depthMark.isSurrogate = false ∧ Text.IsScalar [CodePoint.ofChar ' '] := by decide +kernel
  rw [Trace.prompt, Text.isScalar_cons_iff, Trace.body, Text.isScalar_append_iff, Text.isScalar_append_iff,
    Text.isScalar_flatMap_iff, and_iff_right hends.1, and_iff_left hends.2]
  exact ⟨And.right, fun h => ⟨fun f _ => hfield f h, h⟩⟩

theorem isScalar_content_iff (d : Text) (callers : Option Text) :
    (content d callers).IsScalar ↔ d.IsScalar ∧ ∀ path ∈ callers, path.IsScalar := by
  have hname : (Environment.promptName ++ [Trace.equals]).IsScalar := by decide +kernel
  have hdot : Text.IsScalar ". " := by decide +kernel
  have hfeed : Text.IsScalar [10] := by decide +kernel
  have hsource (path : Text) : (sourceLine path ++ [10]).IsScalar ↔ path.IsScalar := by
    rw [Text.isScalar_append_iff, sourceLine, Text.isScalar_append_iff, isScalar_quote_iff, and_iff_right hdot,
      and_iff_left hfeed]
  rw [content_eq, Text.isScalar_append_iff, Text.isScalar_append_iff, promptLine, Text.isScalar_append_iff,
    isScalar_quote_iff, isScalar_prompt_iff, and_iff_right hname, and_iff_left hfeed, Text.isScalar_flatMap_iff]
  refine and_congr_right fun _ => ?_
  simp only [hsource, ownFile, List.mem_filter, Option.mem_toList, decide_eq_true_iff]
  refine ⟨fun h path hpath => ?_, fun h path hpath => h path hpath.1⟩
  by_cases hnil : path = []
  · rw [hnil]
    exact Text.isScalar_nil
  · exact h path ⟨hpath, hnil⟩

/-- **The startup file.** For every delimiter and every startup file of the caller, the file's text is read as one
assignment of the prompt, as it is, and, if and only if the caller has a startup file, one command that reads that file.
It can be written unless a text has surrogates; then the bytes are those of the text. -/
theorem content_reads_back (d : Text) (callers : Option Text) :
    read? (content d callers) = some (setPrompt d :: (ownFile callers).map sourceFile) ∧
      ((∃ bs, write d callers = .ok bs ∧ Text.ofBytes? bs = .ok (content d callers)) ↔
        d.IsScalar ∧ ∀ path ∈ callers, path.IsScalar) := by
  refine ⟨read_content d callers, ?_⟩
  rw [← isScalar_content_iff]
  constructor
  · rintro ⟨bs, -, hbs⟩
    exact Text.isScalar_of_ofBytes? hbs
  · intro h
    refine ⟨_, ?_, Text.ofBytes?_toWideBytes h⟩
    rw [write, unencodable?_eq_none_iff.2 h]

/-! ## Reading files -/

/-- Commands change the variables of a shell: assignments set them, and a file that is read runs its commands in
place. -/
inductive Executes (files : Text → Option Text) : List SimpleCommand → Environment → Environment → Prop where
  | nil {env : Environment} : Executes files [] env env
  | assign {as : List (Text × Text)} {cs : List SimpleCommand} {env env' : Environment} :
      Executes files cs (as.foldl (fun e a => Table.insert a.1 a.2 e) env) env' →
      Executes files (⟨as, []⟩ :: cs) env env'
  | source {path t : Text} {inner cs : List SimpleCommand} {env mid env' : Environment} :
      files path = some t → read? t = some inner → Executes files inner env mid → Executes files cs mid env' →
      Executes files (sourceFile path :: cs) env env'

/-- Commands have one outcome at most. -/
theorem Executes.unique {files : Text → Option Text} {cs : List SimpleCommand} {env e e' : Environment}
    (h : Executes files cs env e) (h' : Executes files cs env e') : e = e' := by
  induction h generalizing e' with
  | nil =>
    cases h'
    rfl
  | assign _ ih =>
    cases h' with
    | assign h' => exact ih h'
  | source hfile hread _ _ ihinner ihrest =>
    cases h' with
    | source hfile' hread' hinner hrest =>
      cases hfile.symm.trans hfile'
      cases hread.symm.trans hread'
      obtain rfl := ihinner hinner
      exact ihrest hrest

/-- A shell reads a file at its start: it has these variables afterwards. -/
def Reads (files : Text → Option Text) (path : Text) (env env' : Environment) : Prop :=
  Executes files [sourceFile path] env env'

section
variable {files : Text → Option Text} {path : Text} {env env' : Environment}

theorem Reads.intro {t : Text} {cs : List SimpleCommand} (hfile : files path = some t) (hread : read? t = some cs)
    (h : Executes files cs env env') : Reads files path env env' := .source hfile hread h .nil

/-- A startup file without a file of the caller sets the prompt. -/
theorem reads_alone {d : Text} {callers : Option Text} (hfile : files path = some (content d callers))
    (hown : callers.getD [] = []) :
    Reads files path env (Table.insert Environment.promptName (Trace.prompt d) env) := by
  have hnone : ownFile callers = [] := by
    cases callers with
    | none => rfl
    | some own =>
      obtain rfl : own = [] := hown
      rfl
  have hread := read_content d callers
  rw [hnone] at hread
  exact Reads.intro hfile hread (.assign .nil)

/-- A startup file sets the prompt before it reads the file of the caller. -/
theorem reads_own {d own : Text} (hfile : files path = some (content d (some own))) (hown : own ≠ [])
    (h : Reads files own (Table.insert Environment.promptName (Trace.prompt d) env) env') :
    Reads files path env env' := by
  have hsome : ownFile (some own) = [own] := by simp [ownFile, hown]
  have hread := read_content d (some own)
  rw [hsome] at hread
  exact Reads.intro hfile hread (.assign h)

end

/-! ## Nested tracers -/

/-- A traced run: its delimiter, the environment of its caller, and the path of its startup file. -/
structure Tracer where
  delimiter : Text
  environment : Environment
  startupPath : Text

namespace Tracer

/-- The text of the startup file. -/
def startup (t : Tracer) : Text := content t.delimiter (Table.get? Environment.startupName t.environment)

/-- Tracers one in the other, the innermost first, all of whose startup files are there. The caller of each has the
startup file of the next, the caller of the last has none. -/
inductive IsNest (files : Text → Option Text) : List Tracer → Prop where
  | outermost {t : Tracer} :
      files t.startupPath = some t.startup → (Table.get? Environment.startupName t.environment).getD [] = [] →
      IsNest files [t]
  | inside {t outer : Tracer} {ts : List Tracer} :
      files t.startupPath = some t.startup →
      Table.get? Environment.startupName t.environment = some outer.startupPath → outer.startupPath ≠ [] →
      IsNest files (outer :: ts) → IsNest files (t :: outer :: ts)

variable {files : Text → Option Text} {inner outer : Tracer} {ts : List Tracer}

/-- The startup file of the innermost tracer sets the prompt of the outermost one, and nothing else. -/
theorem IsNest.reads (h : IsNest files ts) (hinner : ts.head? = some inner) (houter : ts.getLast? = some outer)
    (env : Environment) :
    ∃ env', Reads files inner.startupPath env env' ∧
      ∀ name, Table.get? name env' =
        if Environment.promptName = name then some (Trace.prompt outer.delimiter) else Table.get? name env := by
  induction h generalizing inner env with
  | @outermost t hfile hnone =>
    cases hinner
    cases houter
    exact ⟨_, reads_alone hfile hnone, fun name => Table.get?_insert _ _ _ _⟩
  | @inside t next ts hfile hnext hne _ ih =>
    cases hinner
    obtain ⟨env', hreads, henv⟩ := ih rfl houter (Table.insert Environment.promptName (Trace.prompt t.delimiter) env)
    rw [startup, hnext] at hfile
    refine ⟨env', reads_own hfile hne hreads, fun name => ?_⟩
    rw [henv, Table.get?_insert]
    split <;> rfl

/-- Prompts tell their delimiters. -/
theorem prompt_inj {d d' : Text} : Trace.prompt d = Trace.prompt d' ↔ d = d' := by
  refine ⟨fun h => ?_, congrArg _⟩
  have hlength : d.length = d'.length := by
    have h := congrArg List.length h
    simp only [Trace.prompt, Trace.body, Trace.Field.all, Trace.fieldText, List.flatMap_cons, List.flatMap_nil,
      List.length_cons, List.length_append, List.length_nil] at h
    omega
  have hfirst (d : Text) : ∃ rest, Trace.prompt d = Trace.depthMark :: (d ++ rest) := by
    simp only [Trace.prompt, Trace.body, Trace.Field.all, Trace.fieldText, List.flatMap_cons, List.append_assoc]
    exact ⟨_, rfl⟩
  obtain ⟨rest, hd⟩ := hfirst d
  obtain ⟨rest', hd'⟩ := hfirst d'
  rw [hd, hd'] at h
  exact List.append_inj_left (List.cons.inj h).2 hlength

/-- **Nested tracers.** A shell that reads the startup file of the innermost tracer ends with variables that are as they
were, but for the prompt. The prompt is that of the outermost tracer, since each startup file reads the next one after
it set its own; it is that of the innermost one just if the two have the same delimiter. -/
theorem nested_prompt (h : IsNest files ts) (hinner : ts.head? = some inner) (houter : ts.getLast? = some outer)
    (env : Environment) :
    ∃ env', (∀ e, Reads files inner.startupPath env e ↔ e = env') ∧
      (∀ name, name ≠ Environment.promptName → Table.get? name env' = Table.get? name env) ∧
      Table.get? Environment.promptName env' = some (Trace.prompt outer.delimiter) ∧
      (Table.get? Environment.promptName env' = some (Trace.prompt inner.delimiter) ↔
        inner.delimiter = outer.delimiter) := by
  obtain ⟨env', hreads, henv⟩ := h.reads hinner houter env
  have hprompt := (henv Environment.promptName).trans (if_pos rfl)
  refine ⟨env', fun e => ⟨fun he => he.unique hreads, fun he => he ▸ hreads⟩, fun name hname => ?_, hprompt, ?_⟩
  · rw [henv, if_neg (Ne.symm hname)]
  · rw [hprompt, Option.some_inj, prompt_inj, eq_comm]

/-- In a shell that was traced with another delimiter, a startup file leaves the prompt for that delimiter. -/
theorem outer_prompt_stays :
    let outer : Tracer := ⟨"aa", [], "/o"⟩
    let inner : Tracer := ⟨"zz", Environment.traced [] "aa" none "/o", "/i"⟩
    let files : Text → Option Text := fun path => if path = "/o" then some outer.startup else some inner.startup
    IsNest files [inner, outer] ∧ ∃ env', Reads files inner.startupPath inner.environment env' ∧
      Table.get? Environment.promptName env' ≠ some (Trace.prompt inner.delimiter) := by
  intro outer inner files
  have hnest : IsNest files [inner, outer] :=
    .inside (if_neg (by decide)) rfl (by decide) (.outermost (if_pos rfl) rfl)
  obtain ⟨env', hreads, henv⟩ := hnest.reads rfl rfl inner.environment
  refine ⟨hnest, env', hreads, fun hprompt => ?_⟩
  rw [henv, if_pos rfl, Option.some_inj, prompt_inj] at hprompt
  exact absurd hprompt (by decide)

/-- Three tracers, of which the outermost and the innermost have the same delimiter. -/
theorem nested_prompt_three :
    let first : Tracer := ⟨"aa", [], "/1"⟩
    let second : Tracer := ⟨"zz", Environment.traced [] "aa" none "/1", "/2"⟩
    let third : Tracer := ⟨"aa", Environment.traced second.environment "zz" (some 3) "/2", "/3"⟩
    let files : Text → Option Text := fun path =>
      if path = "/1" then some first.startup else if path = "/2" then some second.startup else some third.startup
    IsNest files [third, second, first] ∧ ∃ env', Reads files "/3" third.environment env' ∧
      Table.get? Environment.promptName env' = some (Trace.prompt "aa") ∧
      Table.get? Environment.startupName env' = some "/2" := by
  intro first second third files
  have hnest : IsNest files [third, second, first] :=
    .inside ((if_neg (by decide)).trans (if_neg (by decide))) rfl (by decide)
      (.inside ((if_neg (by decide)).trans (if_pos rfl)) rfl (by decide) (.outermost (if_pos rfl) rfl))
  obtain ⟨env', hreads, hother, -, hprompt⟩ := nested_prompt hnest rfl rfl third.environment
  exact ⟨hnest, env', (hreads env').2 rfl, hprompt.2 rfl, (hother _ (by decide)).trans rfl⟩

end Tracer

end ShellCoverage.StartupFile
