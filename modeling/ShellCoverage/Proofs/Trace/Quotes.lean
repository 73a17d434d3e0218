import ShellCoverage.Proofs.Text.Lines
import ShellCoverage.Proofs.Text.Occurrence
import ShellCoverage.Trace.Collector

/-!
# Quotes in the text of a traced command

A shell prints the words of a command that it traces so that they can be read again. A word with a character
that has a meaning stands between quotes, and a quote in it as `'\''`. A quote right after a backslash is not
counted (`oddQuotes_eq`). This leaves out the third character of every `'\''`, as it should; but it leaves
out a quote after a backslash of the word itself as well.

* `printed`, `printedCommand` : a word and a command as the shell prints them;
* `escapes` : the quotes of a text that come right after a backslash;
* `escapes_requoted` : which quotes are left out in what is printed;
* `OpenAtBreaks`, `openAtBreaks_printedCommand` : every line of a text but the last ends inside a word.
-/

namespace ShellCoverage.Trace

/-! ## Printed words -/

/-- A character that has no meaning where a word stands, `special` being those that have one besides blanks,
quotes and backslashes. -/
def isOrdinary (special : CodePoint → Bool) (c : CodePoint) : Bool :=
  !c.isBlank && c ≠ 39 && c ≠ 34 && c ≠ 92 && !special c

/-- A word with each of its quotes as the shell writes it between quotes. -/
def requoted (w : Text) : Text := w.flatMap fun c => if c = 39 then [39, 92, 39, 39] else [c]

/-- A word as the shell prints it. -/
def printed (special : CodePoint → Bool) (w : Text) : Text :=
  if w ≠ [] ∧ w.all (isOrdinary special) then w else 39 :: requoted w ++ [39]

/-- The words of a command as the shell prints them. -/
def printedCommand (special : CodePoint → Bool) (ws : List Text) : Text :=
  Text.join [32] (ws.map (printed special))

/-! ## Quotes that are left out -/

/-- The quotes that come right after a backslash. -/
def escapes : Text → Nat
  | [] => 0
  | c :: t => escapes t + if c = 92 ∧ t.head? = some 39 then 1 else 0

theorem count_dropEscapedQuotes (t : Text) : (dropEscapedQuotes t).count 39 + escapes t = t.count 39 := by
  fun_induction dropEscapedQuotes t with
  | case1 t ih =>
    simp [escapes, ← ih]
    omega
  | case2 c t hpair ih =>
    have hnot : ¬ (c = 92 ∧ t.head? = some 39) := by
      rintro ⟨rfl, ht⟩
      obtain ⟨u, rfl⟩ := List.head?_eq_some_iff.1 ht
      exact hpair u rfl rfl
    rw [escapes, if_neg hnot, List.count_cons, List.count_cons, ← ih]
    omega
  | case3 => rfl

/-- The quotes of a text, those after a backslash twice: their number is odd just if that of the others is. -/
def quotes (t : Text) : Nat := t.count 39 + escapes t

theorem oddQuotes_eq (t : Text) : oddQuotes t = decide (quotes t % 2 = 1) := by
  have h := count_dropEscapedQuotes t
  rw [oddQuotes, quotes, ← h]
  congr 1
  rw [eq_iff_iff]
  omega

/-- No backslash at the end of the first text comes right before a quote at the head of the second. -/
def Apart (a b : Text) : Prop := a.getLast? = some 92 → b.head? ≠ some 39

theorem Apart.of_append {a x y : Text} (h : Apart a (x ++ y)) : Apart a x := by
  intro ha hx
  refine h ha ?_
  rw [List.head?_append, hx]
  rfl

theorem apart_of_getLast? {a b : Text} (h : a.getLast? ≠ some 92) : Apart a b := fun ha => absurd ha h

theorem apart_of_head? {a b : Text} (h : b.head? ≠ some 39) : Apart a b := fun _ => h

theorem escapes_append {a b : Text} (h : Apart a b) : escapes (a ++ b) = escapes a + escapes b := by
  induction a with
  | nil => simp [escapes]
  | cons c a ih =>
    cases a with
    | nil =>
      have hpair : ¬ (c = 92 ∧ b.head? = some 39) := fun hc => h (by simp [hc.1]) hc.2
      simp [escapes, hpair]
    | cons x a =>
      rw [List.cons_append, escapes, escapes, ih fun ha => h (by simpa using ha), Nat.add_right_comm]
      rfl

theorem quotes_append {a b : Text} (h : Apart a b) : quotes (a ++ b) = quotes a + quotes b := by
  rw [quotes, quotes, quotes, List.count_append, escapes_append h]
  omega

theorem quotes_cons {c : CodePoint} (hquote : c ≠ 39) (hback : c ≠ 92) (t : Text) :
    quotes (c :: t) = quotes t := by
  simp [quotes, escapes, hquote, hback]

theorem quotes_concat {c : CodePoint} (hquote : c ≠ 39) (t : Text) : quotes (t ++ [c]) = quotes t := by
  rw [quotes_append (apart_of_head? (by simpa using hquote))]
  simp [quotes, escapes, hquote]

theorem escapes_of_notMem {t : Text} (h : 92 ∉ t) : escapes t = 0 := by
  induction t with
  | nil => rfl
  | cons c t ih =>
    rw [List.mem_cons, not_or] at h
    rw [escapes, ih h.2, if_neg fun hc => h.1 hc.1.symm]

/-! ## Quotes of printed words -/

@[simp] theorem requoted_nil : requoted [] = [] := rfl

@[simp] theorem requoted_cons (c : CodePoint) (w : Text) :
    requoted (c :: w) = (if c = 39 then [39, 92, 39, 39] else [c]) ++ requoted w := rfl

theorem requoted_append (u v : Text) : requoted (u ++ v) = requoted u ++ requoted v := List.flatMap_append

theorem count_requoted (w : Text) : (requoted w).count 39 = 3 * w.count 39 := by
  induction w with
  | nil => rfl
  | cons c w ih =>
    rw [requoted_cons, List.count_append, List.count_cons, ih]
    split
    · simp_all
      omega
    · simp_all

theorem head?_requoted_append (w r : Text) :
    (requoted w ++ r).head? = some 39 ↔ (w ++ r).head? = some 39 := by
  cases w with
  | nil => rfl
  | cons c w =>
    by_cases hc : c = 39
    · simp [hc]
    · simp [hc]

/-- The quotes that are left out of a printed word are one for every quote of the word, as it should be, and
besides them those that come right after a backslash of the word. -/
theorem escapes_requoted (w r : Text) : escapes (requoted w ++ r) = w.count 39 + escapes (w ++ r) := by
  induction w with
  | nil => simp
  | cons c w ih =>
    rw [List.cons_append, escapes, List.count_cons]
    by_cases hc : c = 39
    · subst hc
      simp [escapes, ih]
      omega
    · rw [requoted_cons, if_neg hc, List.singleton_append, List.cons_append, escapes, ih]
      simp only [head?_requoted_append, beq_iff_eq, if_neg hc]
      omega

/-- A word that is broken off is open, unless quotes are left out. -/
theorem quotes_open (w : Text) : quotes (39 :: requoted w) % 2 = (1 + escapes w) % 2 := by
  have h := escapes_requoted w []
  rw [List.append_nil, List.append_nil] at h
  simp [quotes, escapes, count_requoted, h]
  omega

section words
variable {special : CodePoint → Bool}

theorem printed_cases (special : CodePoint → Bool) (w : Text) :
    (printed special w = w ∧ ∀ c ∈ w, isOrdinary special c = true) ∨
      printed special w = 39 :: requoted w ++ [39] := by
  rw [printed]
  split
  · exact Or.inl ⟨rfl, fun c hc => List.all_eq_true.1 (by simp_all) c hc⟩
  · exact Or.inr rfl

theorem notMem_of_isOrdinary {w : Text} (h : ∀ c ∈ w, isOrdinary special c = true) {c : CodePoint}
    (hc : isOrdinary special c = false) : c ∉ w := by
  intro hmem
  rw [h c hmem] at hc
  cases hc

/-- A word that is written to its end is closed, unless quotes are left out. -/
theorem quotes_printed (special : CodePoint → Bool) (w : Text) :
    quotes (printed special w) % 2 = escapes (w ++ [39]) % 2 := by
  rcases printed_cases special w with ⟨h, hordinary⟩ | h
  · have hquote : 39 ∉ w := notMem_of_isOrdinary hordinary (by simp [isOrdinary])
    have hback : 92 ∉ w := notMem_of_isOrdinary hordinary (by simp [isOrdinary])
    rw [h, quotes, List.count_eq_zero_of_not_mem hquote, escapes_of_notMem hback,
      escapes_of_notMem (by simp [hback])]
  · rw [h, quotes, List.cons_append, escapes, escapes_requoted]
    simp [count_requoted]
    omega

end words

/-! ## Line feeds in a command -/

/-- Every line of the text but the last ends where a word is open, if there are `n` quotes before the text. -/
def OpenAtBreaks (n : Nat) (t : Text) : Prop := ∀ x y, t = x ++ 10 :: y → (n + quotes x) % 2 = 1

theorem openAtBreaks_of_notMem {n : Nat} {t : Text} (h : 10 ∉ t) : OpenAtBreaks n t := by
  rintro x y rfl
  exact absurd (by simp) h

/-- Only the number of quotes modulo two matters. -/
theorem openAtBreaks_congr {m n : Nat} (h : m % 2 = n % 2) (t : Text) :
    OpenAtBreaks m t ↔ OpenAtBreaks n t := by
  refine forall₃_congr fun x y _ => ?_
  omega

theorem openAtBreaks_append {n : Nat} {a b : Text} (h : Apart a b) :
    OpenAtBreaks n (a ++ b) ↔ OpenAtBreaks n a ∧ OpenAtBreaks (n + quotes a) b := by
  constructor
  · intro hopen
    refine ⟨fun x y hx => hopen x (y ++ b) (by simp [hx]), fun x y hx => ?_⟩
    have hapart : Apart a x := by
      rw [hx] at h
      exact h.of_append
    rw [Nat.add_assoc, ← quotes_append hapart]
    exact hopen (a ++ x) y (by simp [hx])
  · rintro ⟨ha, hb⟩ x y hxy
    rcases List.append_eq_append_iff.1 hxy with ⟨z, rfl, hz⟩ | ⟨z, rfl, hz⟩
    · have hapart : Apart a z := by
        rw [hz] at h
        exact h.of_append
      rw [quotes_append hapart, ← Nat.add_assoc]
      exact hb z y hz
    · cases z with
      | nil => simpa [quotes, escapes] using hb [] y hz.symm -- the line feed is the head of `b`
      | cons c z =>
        obtain ⟨rfl, rfl⟩ := List.cons.inj hz
        exact ha x z rfl

/-- What comes before a line feed in a word between quotes. -/
theorem requoted_eq_append {w x y : Text} (h : requoted w ++ [39] = x ++ 10 :: y) :
    ∃ u v, w = u ++ 10 :: v ∧ x = requoted u := by
  induction w generalizing x with
  | nil => simp [List.cons_eq_append_iff] at h
  | cons c w ih =>
    rw [requoted_cons] at h
    by_cases hc : c = 39
    · -- none of the four characters of an escaped quote is the line feed
      subst hc
      simp [List.cons_eq_append_iff] at h
      obtain ⟨x, rfl, h⟩ := h
      obtain ⟨u, v, rfl, rfl⟩ := ih h
      exact ⟨39 :: u, v, rfl, rfl⟩
    · rw [if_neg hc, List.singleton_append, List.cons_append, List.cons_eq_append_iff] at h
      rcases h with ⟨rfl, h⟩ | ⟨x, rfl, h⟩
      · obtain ⟨rfl, -⟩ := List.cons.inj h
        exact ⟨[], w, rfl, rfl⟩
      · obtain ⟨u, v, rfl, rfl⟩ := ih h
        exact ⟨c :: u, v, rfl, by simp [hc]⟩

section words
variable {special : CodePoint → Bool}

/-- A word is open at each of its line feeds, unless quotes are left out before. -/
theorem openAtBreaks_printed {n : Nat} (special : CodePoint → Bool) (w : Text) :
    OpenAtBreaks n (printed special w) ↔ ∀ u v, w = u ++ 10 :: v → (n + escapes u) % 2 = 0 := by
  rcases printed_cases special w with ⟨h, hordinary⟩ | h
  · have hwhole : 10 ∉ w := notMem_of_isOrdinary hordinary (by
      rw [isOrdinary, show CodePoint.isBlank 10 = true by decide]
      rfl)
    rw [h, iff_true_intro (openAtBreaks_of_notMem hwhole), true_iff]
    rintro u v rfl
    exact absurd (by simp) hwhole
  · rw [h]
    constructor
    · rintro hopen u v rfl
      have h := hopen (39 :: requoted u) (requoted v ++ [39]) (by simp [requoted_append])
      have hquotes := quotes_open u
      omega
    · intro hclosed x y hxy
      rw [List.cons_append, List.cons_eq_append_iff] at hxy
      rcases hxy with ⟨rfl, hx⟩ | ⟨x, rfl, hx⟩
      · cases hx
      · obtain ⟨u, v, hw, rfl⟩ := requoted_eq_append hx
        have h := hclosed u v hw
        have hquotes := quotes_open u
        omega

/-- The quotes of some words that are left out and should not be: those right after a backslash of the word,
the closing one included. -/
def leftOut (ws : List Text) : Nat := (ws.map fun w => escapes (w ++ [39])).sum

theorem leftOut_of_notMem {ws : List Text} (h : ∀ w ∈ ws, 92 ∉ w) : leftOut ws = 0 := by
  have hzero : ws.map (fun w => escapes (w ++ [39])) = ws.map fun _ => 0 :=
    List.map_congr_left fun w hw => escapes_of_notMem (by simp [h w hw])
  rw [leftOut, hzero]
  simp

theorem printedCommand_cons_cons (w v : Text) (ws : List Text) :
    printedCommand special (w :: v :: ws) =
      (printed special w ++ [32]) ++ printedCommand special (v :: ws) := by
  rw [printedCommand, List.map_cons, List.map_cons, Text.join_cons_cons]
  rfl

theorem quotes_printedCommand (ws : List Text) : quotes (printedCommand special ws) % 2 = leftOut ws % 2 := by
  induction ws with
  | nil => rfl
  | cons w ws ih =>
    have hw := quotes_printed special w
    cases ws with
    | nil => simpa [printedCommand, Text.join, leftOut] using hw
    | cons v ws =>
      rw [printedCommand_cons_cons, quotes_append (apart_of_getLast? (by simp)), quotes_concat (by decide),
        leftOut, List.map_cons, List.sum_cons, ← leftOut]
      omega

theorem openAtBreaks_printedCommand_cons {n : Nat} (w : Text) (ws : List Text) :
    OpenAtBreaks n (printedCommand special (w :: ws)) ↔
      OpenAtBreaks n (printed special w) ∧
        OpenAtBreaks (n + escapes (w ++ [39])) (printedCommand special ws) := by
  cases ws with
  | nil =>
    have hnone : OpenAtBreaks (n + escapes (w ++ [39])) (printedCommand special []) :=
      openAtBreaks_of_notMem (by simp [printedCommand, Text.join])
    rw [printedCommand, List.map_singleton, Text.join_singleton, iff_true_intro hnone, and_true]
  | cons v ws =>
    have hblank : OpenAtBreaks n (printed special w ++ [32]) ↔ OpenAtBreaks n (printed special w) := by
      have hlast : OpenAtBreaks (n + quotes (printed special w)) [32] := openAtBreaks_of_notMem (by simp)
      rw [openAtBreaks_append (apart_of_head? (by simp)), iff_true_intro hlast, and_true]
    have hw : (n + quotes (printed special w)) % 2 = (n + escapes (w ++ [39])) % 2 := by
      have := quotes_printed special w
      omega
    rw [printedCommand_cons_cons, openAtBreaks_append (apart_of_getLast? (by simp)), hblank,
      quotes_concat (by decide), openAtBreaks_congr hw]

/-- A command is open at each of its line feeds, unless quotes are left out before. -/
theorem openAtBreaks_printedCommand {n : Nat} (ws : List Text) :
    OpenAtBreaks n (printedCommand special ws) ↔
      ∀ before w after u v, ws = before ++ w :: after → w = u ++ 10 :: v →
        (n + leftOut before + escapes u) % 2 = 0 := by
  induction ws generalizing n with
  | nil => simp [OpenAtBreaks, printedCommand, Text.join]
  | cons w ws ih =>
    rw [openAtBreaks_printedCommand_cons, ih, openAtBreaks_printed]
    constructor
    · rintro ⟨hw, hws⟩ before x after u v hsplit hx
      rcases List.cons_eq_append_iff.1 hsplit with ⟨rfl, h⟩ | ⟨before, rfl, h⟩
      · obtain ⟨rfl, rfl⟩ := List.cons.inj h
        exact hw u v hx
      · have h := hws before x after u v h hx
        rw [leftOut, List.map_cons, List.sum_cons, ← leftOut]
        omega
    · intro h
      refine ⟨fun u v hw => h [] w ws u v rfl hw, fun before x after u v hsplit hx => ?_⟩
      have h := h (w :: before) x after u v (by rw [hsplit]; rfl) hx
      rw [leftOut, List.map_cons, List.sum_cons, ← leftOut] at h
      omega

end words

end ShellCoverage.Trace
