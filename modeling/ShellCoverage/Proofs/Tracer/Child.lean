import Mathlib
import ShellCoverage.Proofs.Table
import ShellCoverage.Proofs.Text.Lines
import ShellCoverage.Proofs.Text.Occurrence
import ShellCoverage.Tracer.Run

/-!
# What a child is given, and what comes out of it

A traced shell sees the variables of its caller, four of them apart. The options that its caller has set stay as they
are and in their order, and tracing is one of them once only, however often a tracer runs in a tracer.

The output of a child is passed on line by line. A sink for bytes receives the bytes of the child. A sink for text
receives the text that the bytes have as a whole, since a line feed is never part of a longer character; and the text
has these bytes again.

* `Environment.options`, `Environment.splitAt_tracedOptions` : the options of an environment, and those of a traced
  shell;
* `Environment.traced_variables` : the environment of a traced shell, variable by variable;
* `Stream.flatten_map_ofBytes_lines` : decoding line by line is decoding at once;
* `Stream.relay_faithful` : what sinks and queues hold;
* `Run.outcome_passes_on` : a run passes on what a relay gives to a sink for bytes.
-/

namespace ShellCoverage

/-! ## Variables -/

namespace Environment

/-- The variables that a tracer changes. -/
def changedNames : List Text := [promptName, startupName, optionsName, descriptorName]

/-- The options in the text of a variable, without empty ones. -/
def optionsOf (t : Text) : List Text := (Text.splitAt colon t).filter (· ≠ [])

/-- The options that an environment sets. -/
def options (env : Environment) : List Text := optionsOf ((Table.get? optionsName env).getD [])

/-- Some options, and the one that turns tracing on if it is not one of them. -/
def withTracing (os : List Text) : List Text := os ++ if tracingOption ∈ os then [] else [tracingOption]

theorem tracedOptions_eq (t : Text) : tracedOptions t = Text.join [colon] (withTracing (optionsOf t)) := by
  unfold tracedOptions withTracing
  by_cases h : tracingOption ∈ optionsOf t
  · rw [if_pos h, List.append_nil]
    show Text.join [colon] (if (optionsOf t).elem tracingOption then optionsOf t else _) = _
    rw [if_pos (List.elem_eq_true_of_mem h)]
  · rw [if_neg h]
    show Text.join [colon] (if (optionsOf t).elem tracingOption then _ else optionsOf t ++ [tracingOption]) = _
    rw [if_neg (fun helem => h (List.elem_iff.1 helem))]

/-- Neither the options of a text nor the one that turns tracing on are empty or have a separator in them. -/
theorem mem_withTracing {t o : Text} (h : o ∈ withTracing (optionsOf t)) : o ≠ [] ∧ colon ∉ o := by
  unfold withTracing at h
  rcases List.mem_append.1 h with h | h
  · obtain ⟨hmem, hne⟩ := List.mem_filter.1 h
    exact ⟨of_decide_eq_true hne, Text.notMem_of_mem_splitAt hmem⟩
  · split at h
    · cases h
    · rw [List.mem_singleton.1 h]
      exact ⟨by decide, by decide⟩

theorem withTracing_ne_nil (os : List Text) : withTracing os ≠ [] := by
  unfold withTracing
  split
  next h =>
    rw [List.append_nil]
    exact List.ne_nil_of_mem h
  next => simp

/-- The options of a traced shell, read back from their text. -/
theorem splitAt_tracedOptions (t : Text) : Text.splitAt colon (tracedOptions t) = withTracing (optionsOf t) := by
  rw [tracedOptions_eq]
  exact Text.splitAt_join (withTracing_ne_nil _) fun o ho => (mem_withTracing ho).2

theorem tracingOption_mem_withTracing (os : List Text) : tracingOption ∈ withTracing os := by
  unfold withTracing
  by_cases h : tracingOption ∈ os
  · exact List.mem_append_left _ h
  · simp [h]

/-- A tracer in a tracer adds no option. -/
theorem tracedOptions_tracedOptions (t : Text) : tracedOptions (tracedOptions t) = tracedOptions t := by
  have hoptions : optionsOf (tracedOptions t) = withTracing (optionsOf t) := by
    show (Text.splitAt colon (tracedOptions t)).filter (· ≠ []) = _
    rw [splitAt_tracedOptions, List.filter_eq_self]
    exact fun o ho => decide_eq_true (mem_withTracing ho).1
  have hagain : withTracing (withTracing (optionsOf t)) = withTracing (optionsOf t) := by
    have hmem := tracingOption_mem_withTracing (optionsOf t)
    generalize withTracing (optionsOf t) = os at hmem
    unfold withTracing
    rw [if_pos hmem, List.append_nil]
  rw [tracedOptions_eq (tracedOptions t), hoptions, hagain, ← tracedOptions_eq]

section
variable (env : Environment) (d : Text) (descriptor : Option Int) (path : Text)

/-- A variable of a traced shell. -/
theorem get?_traced (n : Text) :
    Table.get? n (env.traced d descriptor path) =
      if descriptorName = n then descriptor.map Text.ofInt
      else if optionsName = n then some (tracedOptions ((Table.get? optionsName env).getD []))
      else if startupName = n then some path
      else if promptName = n then some (Trace.prompt d)
      else Table.get? n env := by
  have hprompt : promptName ≠ optionsName := by decide
  have hstartup : startupName ≠ optionsName := by decide
  unfold traced
  cases descriptor with
  | none => simp only [Table.get?_erase, Table.get?_insert, if_neg hprompt, if_neg hstartup, Option.map_none]
  | some fd => simp only [Table.get?_insert, if_neg hprompt, if_neg hstartup, Option.map_some]

/-- The options of a traced shell are those of its caller, and tracing. -/
theorem get?_traced_options :
    Table.get? optionsName (env.traced d descriptor path) =
      some (tracedOptions ((Table.get? optionsName env).getD [])) := by
  rw [get?_traced, if_neg (by decide), if_pos rfl]

/-- **The environment of a traced shell.** The prompt, the startup file and the descriptor of the trace are the
tracer's; the options are the caller's, in their order, and tracing after them if it was none of them. All other
variables are as they were. A tracer in a tracer leaves the options as they are, whatever its delimiter, descriptor and
startup file. -/
theorem traced_variables :
    (∀ n, n ∉ changedNames → Table.get? n (env.traced d descriptor path) = Table.get? n env) ∧
    Table.get? promptName (env.traced d descriptor path) = some (Trace.prompt d) ∧
    Table.get? startupName (env.traced d descriptor path) = some path ∧
    Table.get? descriptorName (env.traced d descriptor path) = descriptor.map Text.ofInt ∧
    (∃ os, Table.get? optionsName (env.traced d descriptor path) = some os ∧
      Text.splitAt colon os = env.options ++ if tracingOption ∈ env.options then [] else [tracingOption]) ∧
    ∀ d' descriptor' path',
      Table.get? optionsName (Environment.traced (env.traced d descriptor path) d' descriptor' path') =
        Table.get? optionsName (env.traced d descriptor path) := by
  refine ⟨?_, ?_, ?_, ?_, ⟨_, get?_traced_options env d descriptor path, splitAt_tracedOptions _⟩, ?_⟩
  · intro n hn
    simp only [changedNames, List.mem_cons, List.not_mem_nil, or_false, not_or] at hn
    obtain ⟨hprompt, hstartup, hoptions, hdescriptor⟩ := hn
    rw [get?_traced, if_neg (Ne.symm hdescriptor), if_neg (Ne.symm hoptions), if_neg (Ne.symm hstartup),
      if_neg (Ne.symm hprompt)]
  · rw [get?_traced, if_neg (by decide), if_neg (by decide), if_neg (by decide), if_pos rfl]
  · rw [get?_traced, if_neg (by decide), if_neg (by decide), if_pos rfl]
  · rw [get?_traced, if_pos rfl]
  · intro d' descriptor' path'
    rw [get?_traced_options, get?_traced_options, Option.getD_some, tracedOptions_tracedOptions]

end

end Environment

/-! ## Streams -/

namespace Stream

/-- Decoding line by line is decoding at once. -/
theorem flatten_map_ofBytes_lines (bs : Bytes) : ((lines bs).map Text.ofBytes).flatten = Text.ofBytes bs := by
  rw [map_ofBytes_lines, flatten_cutAfter]

/-- **Relays and queues.** A sink for bytes receives the bytes. A sink for text receives their text, piece by piece,
which has the bytes again. A muted sink receives nothing. A queue holds the lines of the bytes, and then one mark for
their end. -/
theorem relay_faithful (bs : Bytes) :
    (∃ ps, relay bs .binary false = .bytes ps ∧ ps.flatten = bs) ∧
    (∃ ps, relay bs .text false = .text ps ∧ ps.flatten = Text.ofBytes bs ∧ Text.toBytes? ps.flatten = some bs) ∧
    relay bs .binary true = .bytes [] ∧ relay bs .text true = .text [] ∧
    ∃ ls, queued bs = ls.map some ++ [none] ∧ IsCut 10 bs ls := by
  refine ⟨⟨lines bs, rfl, (isCut_lines bs).flatten_eq⟩, ⟨_, rfl, flatten_map_ofBytes_lines bs, ?_⟩, rfl, rfl,
    lines bs, rfl, isCut_lines bs⟩
  show Text.toBytes? ((lines bs).map Text.ofBytes).flatten = some bs
  rw [flatten_map_ofBytes_lines, Text.toBytes?_ofBytes]

/-- What any sink has received, as bytes. -/
theorem toBytes_relay (bs : Bytes) (sink : Sink) (mute : Bool) :
    (relay bs sink mute).toBytes = if mute then [] else bs := by
  cases mute with
  | true => cases sink <;> rfl
  | false =>
    cases sink with
    | binary => exact (isCut_lines bs).flatten_eq
    | text =>
      show (Text.toBytes? ((lines bs).map Text.ofBytes).flatten).getD [] = bs
      rw [flatten_map_ofBytes_lines, Text.toBytes?_ofBytes]
      rfl

end Stream

/-- A run passes on what relays give to any sink: its output, and its errors if they have a stream of their own. -/
theorem Run.outcome_passes_on {r : Run} {route : Route} {c : Child.Ended} {raws : List Bytes} {t : Trace.Collected}
    {o : Outcome} (h : r.outcome route c raws t = .ok o) (sink : Stream.Sink) :
    o.output = (Stream.relay c.pipes.output sink r.mute).toBytes ∧
    (route = .dedicated → o.errors = (Stream.relay c.pipes.errors sink r.mute).toBytes) := by
  rw [Stream.toBytes_relay, Stream.toBytes_relay]
  unfold outcome at h
  dsimp only at h
  split at h
  · cases h
    refine ⟨rfl, ?_⟩
    rintro rfl
    rfl
  · cases h
    refine ⟨rfl, ?_⟩
    rintro rfl
    rfl
  · cases h

end ShellCoverage
