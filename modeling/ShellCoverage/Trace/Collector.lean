import ShellCoverage.Coverage.Counts
import ShellCoverage.Failure
import ShellCoverage.Trace.Resolver

/-!
# Collecting counts from a trace

The lines of a trace are taken one by one, in the order in which the shell wrote them. Records are
resolved and counted; other lines may be relayed. Collection ends early at a collision, and at a failure
that no line should cause.

A command whose text spans lines is traced over several lines. The shell writes a quote inside a quoted
word as `\'`, so a record with an odd number of other quotes goes on in the next line; `inWord` says that
the next line belongs to the command before it.

* `Trace.oddQuotes` : an odd number of quotes, escaped ones left out;
* `Trace.Collector.step` : one line, with its effect;
* `Trace.collect` : all lines, with one effect for each line taken;
* `Trace.collectStages` : lines that are taken while the file system changes.
-/

namespace ShellCoverage.Trace

/-- The text without the pairs of a backslash and a quote. -/
def dropEscapedQuotes : Text → Text
  | 92 :: 39 :: t => dropEscapedQuotes t
  | c :: t => c :: dropEscapedQuotes t
  | [] => []

/-- The text has an odd number of quotes, escaped ones left out. -/
def oddQuotes (t : Text) : Bool := (dropEscapedQuotes t).count 39 % 2 = 1

/-- What a collector is told about a run. -/
structure Settings where
  delimiter : Text
  /-- The file that installs the prompt; its commands do not count. -/
  startupFile : Text
  /-- Lines that do not belong to the trace are passed on. -/
  relaysOthers : Bool

/-- What one line did. -/
inductive Effect where
  /-- It counted for a location, the total of which is now `total`. -/
  | counted (at_ : Location) (total : Nat)
  /-- It was a record whose file was not found. -/
  | unresolved (r : Record)
  /-- It was a command of the startup file. -/
  | startup
  /-- It belonged to the command before it. -/
  | continued
  /-- It was passed on. -/
  | relayed
  /-- It was dropped. -/
  | dropped

/-- The state between lines. -/
structure Collector where
  resolver : Resolver := {}
  counts : Counts := {}
  /-- The next line belongs to the command before it. -/
  inWord : Bool := false

/-- The outcome of one line. -/
inductive StepResult where
  | next (c : Collector) (e : Effect)
  | collision
  | failed (c : Collector) (f : Failure)

namespace Collector

/-- The command of a record's line: what follows the last delimiter. -/
def commandText (d line : Text) : Text := (Text.afterLast? d line).getD line

/-- The outcome of a record. -/
def takeRecord (fs : FileSystem) (s : Settings) (c : Collector) (line : Text) (r : Record) :
    StepResult :=
  let c := { c with inWord := oddQuotes (commandText s.delimiter line) }
  if r.source = s.startupFile then .next c .startup
  else
    match c.resolver.resolve fs r with
    | (resolver, .error e) => .failed { c with resolver } (.file e)
    | (resolver, .ok none) => .next { c with resolver } (.unresolved r)
    | (resolver, .ok (some (path, n))) =>
      let counts := c.counts.add path n 1
      .next { c with resolver, counts } (.counted (path, n) (counts.hits path n))

/-- The outcome of a line that is no record. -/
def takeOther (s : Settings) (c : Collector) (line : Text) : StepResult :=
  if c.inWord then .next { c with inWord := c.inWord != oddQuotes line } .continued
  else if s.relaysOthers && !Text.contains s.delimiter line then .next c .relayed
  else .next c .dropped

/-- The outcome of a line. -/
def step (fs : FileSystem) (s : Settings) (c : Collector) (raw : Bytes) : StepResult :=
  let line := Text.ofBytes raw
  match read s.delimiter line with
  | .collision => .collision
  | .badLine e => .failed c (.numeral e)
  | .record r => takeRecord fs s c line r
  | _ => takeOther s c line

end Collector

/-- How a collection ended. -/
inductive Ending where
  /-- All lines were taken. -/
  | finished
  /-- The delimiter occurred in the data of this line. -/
  | collided (line : Text)
  /-- Something failed. -/
  | failed (f : Failure)

/-- The outcome of a collection. -/
structure Collected where
  collector : Collector
  /-- The effects of the lines taken, in order. -/
  effects : List Effect
  ending : Ending

/-- Takes all lines, until one ends the collection. -/
def collectFrom (fs : FileSystem) (s : Settings) (c : Collector) : List Bytes → Collected
  | [] => ⟨c, [], .finished⟩
  | raw :: raws =>
    match c.step fs s raw with
    | .collision => ⟨c, [], .collided (chomp (Text.ofBytes raw))⟩
    | .failed c f => ⟨c, [], .failed f⟩
    | .next c e =>
      let r := collectFrom fs s c raws
      { r with effects := e :: r.effects }

/-- Takes all lines of a trace, until one ends the collection. -/
def collect (fs : FileSystem) (s : Settings) (raws : List Bytes) : Collected :=
  collectFrom fs s {} raws

namespace Collected

/-- Goes on with more lines, unless one has ended the collection. -/
def goOn (s : Settings) (r : Collected) (fs : FileSystem) (raws : List Bytes) : Collected :=
  match r.ending with
  | .finished =>
    let q := collectFrom fs s r.collector raws
    { q with effects := r.effects ++ q.effects }
  | _ => r

/-- The lines that were passed on, of those that were taken. -/
def relayed (r : Collected) (raws : List Bytes) : List Bytes :=
  (raws.zip r.effects).filterMap fun p =>
    match p.2 with
    | .relayed => some p.1
    | _ => none

/-- What an operator is told about the lines. -/
def log (r : Collected) (s : Settings) (raws : List Bytes) : List Log.Entry :=
  let lineEntries (raw : Bytes) : List Log.Entry :=
    let line := Text.ofBytes raw
    (read s.delimiter line).log line
  let taken := (raws.zip r.effects).flatMap fun p =>
    lineEntries p.1 ++
      match p.2 with
      | .unresolved rec => [unresolvedEntry rec]
      | _ => []
  let last :=
    match r.ending, raws.drop r.effects.length with
    | .finished, _ =>
      let n := r.collector.resolver.unresolved
      if n = 0 then []
      else
        [⟨.debug, .tracer, Text.ofNat n ++ " trace records could not be resolved"⟩]
    | _, raw :: _ => lineEntries raw
    | _, [] => []
  taken ++ last

end Collected

/-- Takes lines stage by stage, each stage with the file system at that time. -/
def collectStages (s : Settings) (stages : List (FileSystem × List Bytes)) : Collected :=
  stages.foldl (fun r stage => r.goOn s stage.1 stage.2) ⟨{}, [], .finished⟩

end ShellCoverage.Trace
