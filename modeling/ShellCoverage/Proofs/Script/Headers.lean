import ShellCoverage.Proofs.Script.Heredocs

/-!
# Headers of functions

Some lines have no command by their own text: empty lines, comments, words that stand alone, and headers of functions.
The headers are a language, which is put together here from its parts: the keyword, blanks, names, parentheses, a brace.

The reading of a header tries no part twice. Each part takes as much of the text as it can, and the next is read from
there. `isInert_trim_iff` says that this is as good as all ways to cut the line into parts. The reason is that classes of
characters are disjoint where parts meet: what can follow a name begins with no character of a name, and what must follow
blanks with no blank (`Avoids`). It holds for the names and the blanks of every script, not of ASCII alone.

* `many`, `atLeastOne`, `letter` : texts of a class of characters, and single characters;
* `blanks`, `separators`, `names`, `parens`, `headings`, `headers` : the parts of a header, and headers;
* `Avoids`, `mem_many_mul_iff`, `mem_atLeastOne_mul_iff` : a part may take as much as it can;
* `mem_names_mul_iff`, `mem_parens_mul_iff`, `isHeaderEnd_iff` : each part is read by its language;
* `isFunctionHeader_iff` : what is taken for a header, in texts with any blanks at their ends.
-/

namespace ShellCoverage

namespace Script

namespace Header

/-! ## The language -/

/-- Characters of a class, any number of them. -/
def many (p : CodePoint → Bool) : Language CodePoint := {w : Text | ∀ c ∈ w, p c = true}

/-- Characters of a class, at least one. -/
def atLeastOne (p : CodePoint → Bool) : Language CodePoint := {w : Text | w ≠ [] ∧ ∀ c ∈ w, p c = true}

/-- A single character. -/
def letter (c : Char) : Language CodePoint := {[CodePoint.ofChar c]}

/-- Blanks, or nothing. -/
def blanks : Language CodePoint := many CodePoint.isBlank

/-- Blanks, at least one. -/
def separators : Language CodePoint := atLeastOne CodePoint.isBlank

/-- Names of functions: characters of words, points, colons and hyphens, at least one. -/
def names : Language CodePoint := {w : Text | w ≠ [] ∧ ∀ c ∈ w, c.isWord = true ∨ c ∈ (".:-" : Text)}

/-- A pair of parentheses, with any blanks before and inside. -/
def parens : Language CodePoint := blanks * letter '(' * blanks * letter ')'

/-- What stands before the body of a function: its name after the keyword, perhaps with parentheses, or its name with
parentheses. -/
def headings : Language CodePoint :=
  {("function" : Text)} * separators * names * (1 + parens) + names * parens

/-- Headers of functions: of the body there is at most the brace in the line. -/
def headers : Language CodePoint := headings * blanks * (1 + letter '\x7b')

/-- The ends of headers, with any blanks after them. -/
def endings : Language CodePoint := blanks * ((1 + letter '\x7b') * blanks)

/-! ## Parts that take as much as they can -/

/-- No text of the language begins with a character of the class. -/
def Avoids (p : CodePoint → Bool) (M : Language CodePoint) : Prop := ∀ w ∈ M, ∀ c ∈ w.head?, p c = false

section
variable {p : CodePoint → Bool} {L M : Language CodePoint} {t : Text} {c : Char}

/-- Nothing is lost if all characters of the class are taken, since none can be left to what follows. -/
theorem mem_many_mul_iff (h : Avoids p M) : t ∈ many p * M ↔ t.dropWhile p ∈ M := by
  rw [Language.mem_mul]
  constructor
  · rintro ⟨w, hw, r, hr, rfl⟩
    rwa [(Heredoc.takeWhile_of_boundary hw (h r hr)).2]
  · intro hr
    exact ⟨t.takeWhile p, fun c hc => List.mem_takeWhile_imp hc, _, hr, List.takeWhile_append_dropWhile⟩

theorem mem_atLeastOne_mul_iff (h : Avoids p M) :
    t ∈ atLeastOne p * M ↔ t.takeWhile p ≠ [] ∧ t.dropWhile p ∈ M := by
  rw [Language.mem_mul]
  constructor
  · rintro ⟨w, ⟨hne, hw⟩, r, hr, rfl⟩
    obtain ⟨htake, hdrop⟩ := Heredoc.takeWhile_of_boundary hw (h r hr)
    rw [htake, hdrop]
    exact ⟨hne, hr⟩
  · rintro ⟨hne, hr⟩
    exact ⟨t.takeWhile p, ⟨hne, fun c hc => List.mem_takeWhile_imp hc⟩, _, hr, List.takeWhile_append_dropWhile⟩

theorem mem_letter_mul_iff : t ∈ letter c * M ↔ ∃ r ∈ M, t = CodePoint.ofChar c :: r := by
  rw [Language.mem_mul]
  constructor
  · rintro ⟨w, rfl, r, hr, rfl⟩
    exact ⟨r, hr, rfl⟩
  · rintro ⟨r, hr, rfl⟩
    exact ⟨[CodePoint.ofChar c], rfl, r, hr, rfl⟩

theorem Avoids.add (hL : Avoids p L) (hM : Avoids p M) : Avoids p (L + M) := fun w hw =>
  hw.elim (hL w) (hM w)

theorem Avoids.letter_mul (hc : p (CodePoint.ofChar c) = false) : Avoids p (letter c * M) := by
  intro w hw d hd
  obtain ⟨r, -, rfl⟩ := mem_letter_mul_iff.1 hw
  cases hd
  exact hc

/-- Where the first part can be empty, the second one counts too. -/
theorem Avoids.mul (hL : Avoids p L) (hM : ([] : Text) ∈ L → Avoids p M) : Avoids p (L * M) := by
  intro w hw
  obtain ⟨u, hu, r, hr, rfl⟩ := Language.mem_mul.1 hw
  cases u with
  | nil => exact hM hu r hr
  | cons c u => exact hL (c :: u) hu

end

/-! ## Classes of characters -/

theorem isNameChar_iff {c : CodePoint} : isNameChar c = true ↔ c.isWord = true ∨ c ∈ (".:-" : Text) := by
  rw [isNameChar, Bool.or_eq_true, Bool.or_eq_true, Bool.or_eq_true, decide_eq_true_iff, decide_eq_true_iff,
    decide_eq_true_iff, or_assoc, or_assoc]
  exact or_congr_right (by simp [Text.ofString])

theorem names_eq : names = atLeastOne isNameChar := by
  ext w
  exact and_congr_right fun _ => forall₂_congr fun c _ => isNameChar_iff.symm

/-- No blank is in a name. -/
theorem not_isNameChar_of_isBlank {c : CodePoint} (h : c.isBlank = true) : isNameChar c = false := by
  have hcontinues := Heredoc.not_continuesName_of_isBlank h
  rw [Heredoc.continuesName, Bool.or_eq_false_iff] at hcontinues
  rw [← Bool.not_eq_true, isNameChar_iff, hcontinues.1]
  rintro (hword | hmem)
  · cases hword
  · have hnone : (".:-" : Text).any CodePoint.isBlank = false := by decide
    exact List.any_eq_false.1 hnone c hmem h

theorem avoids_names : Avoids CodePoint.isBlank names := by
  intro w hw c hc
  rw [names_eq] at hw
  rw [← Bool.not_eq_true]
  intro hblank
  have hname := hw.2 c (List.mem_of_mem_head? hc)
  rw [not_isNameChar_of_isBlank hblank] at hname
  cases hname

theorem avoids_blanks : Avoids isNameChar blanks := fun _ hw c hc =>
  not_isNameChar_of_isBlank (hw c (List.mem_of_mem_head? hc))

/-! ## The reading of the parts -/

section
variable {M : Language CodePoint} {t : Text}

theorem mem_word_mul_iff {d : Text} :
    t ∈ ({d} : Language CodePoint) * M ↔ ∃ r ∈ M, Text.dropHead? d t = some r := by
  rw [Language.mem_mul]
  constructor
  · rintro ⟨w, rfl, r, hr, rfl⟩
    exact ⟨r, hr, Text.dropHead?_append w r⟩
  · rintro ⟨r, hr, hdrop⟩
    exact ⟨d, rfl, r, hr, (Text.dropHead?_eq_some hdrop).symm⟩

/-- There are blanks if something is skipped. -/
theorem mem_separators_mul_iff (h : Avoids CodePoint.isBlank M) :
    t ∈ separators * M ↔ skipBlanks t ≠ t ∧ skipBlanks t ∈ M := by
  rw [separators, mem_atLeastOne_mul_iff h]
  refine and_congr_left' (not_congr ?_)
  rw [List.takeWhile_eq_nil_iff, skipBlanks, List.dropWhile_eq_self_iff]
  rfl

theorem mem_names_mul_iff (h : Avoids isNameChar M) : t ∈ names * M ↔ ∃ r ∈ M, afterName? t = some r := by
  rw [names_eq, mem_atLeastOne_mul_iff h, afterName?]
  by_cases hname : t.takeWhile isNameChar = []
  · simp [hname]
  · simp [hname]

theorem afterChar?_eq_some_iff {c : Char} {r : Text} : afterChar? c t = some r ↔ t = CodePoint.ofChar c :: r := by
  cases t with
  | nil => simp [afterChar?]
  | cons x t => simp [afterChar?]

/-- A character that is no blank is read after all blanks. -/
theorem mem_blanks_letter_mul_iff {c : Char} (hc : (CodePoint.ofChar c).isBlank = false) :
    t ∈ blanks * (letter c * M) ↔ ∃ r ∈ M, afterChar? c (skipBlanks t) = some r := by
  rw [blanks, mem_many_mul_iff (Avoids.letter_mul hc), mem_letter_mul_iff]
  simp only [afterChar?_eq_some_iff, skipBlanks]

theorem mem_parens_mul_iff : t ∈ parens * M ↔ ∃ r ∈ M, afterParens? t = some r := by
  have hclosing : (CodePoint.ofChar ')').isBlank = false := by decide
  rw [parens, mul_assoc, mul_assoc, mul_assoc, mem_blanks_letter_mul_iff (by decide)]
  simp only [mem_blanks_letter_mul_iff hclosing, afterParens?, Option.bind_eq_some_iff]
  constructor
  · rintro ⟨u, ⟨r, hr, hclose⟩, hopen⟩
    exact ⟨r, hr, u, hopen, hclose⟩
  · rintro ⟨r, hr, u, hopen, hclose⟩
    exact ⟨u, ⟨r, hr, hclose⟩, hopen⟩

theorem skipBlanks_eq_nil_iff : skipBlanks t = [] ↔ t ∈ blanks := List.dropWhile_eq_nil_iff

theorem blanks_mul_blanks : blanks * blanks = blanks := by
  ext w
  rw [Language.mem_mul]
  constructor
  · rintro ⟨u, hu, v, hv, rfl⟩
    exact List.forall_mem_append.2 ⟨hu, hv⟩
  · intro hw
    exact ⟨[], nofun, w, hw, rfl⟩

/-- An end has no brace and is blank, or it has one, with blanks before and after it. -/
theorem isHeaderEnd_iff : isHeaderEnd t = true ↔ t ∈ endings := by
  have hbrace : t ∈ blanks * (letter '\x7b' * blanks) ↔ ∃ r ∈ blanks, afterChar? '\x7b' (skipBlanks t) = some r :=
    mem_blanks_letter_mul_iff (by decide)
  rw [endings, add_mul, one_mul, mul_add, blanks_mul_blanks, Language.mem_add, hbrace, isHeaderEnd, decide_eq_true_iff,
    skipBlanks_eq_nil_iff]
  cases hafter : afterChar? '\x7b' (skipBlanks t) with
  | none =>
    have hskip : skipBlanks (skipBlanks t) = skipBlanks t := List.dropWhile_idempotent _ t
    simp [← skipBlanks_eq_nil_iff, hskip]
  | some r =>
    have hne : t ∉ blanks := by
      rw [← skipBlanks_eq_nil_iff, afterChar?_eq_some_iff.1 hafter]
      exact List.cons_ne_nil _ _
    simp [hne]

/-! ## Headers -/

theorem avoids_endings : Avoids isNameChar endings := by
  have hbrace : isNameChar (CodePoint.ofChar '\x7b') = false := by decide +kernel
  refine avoids_blanks.mul fun _ => ?_
  rw [add_mul, one_mul]
  exact avoids_blanks.add (.letter_mul hbrace)

theorem avoids_parens_mul : Avoids isNameChar (parens * M) := by
  have hopening : isNameChar (CodePoint.ofChar '(') = false := by decide +kernel
  rw [parens, mul_assoc, mul_assoc, mul_assoc]
  exact avoids_blanks.mul fun _ => .letter_mul hopening

/-- What can follow the name after the keyword. -/
theorem mem_one_add_parens_mul_endings_iff :
    t ∈ (1 + parens) * endings ↔ (isHeaderEnd t || ((afterParens? t).map isHeaderEnd).getD false) = true := by
  rw [add_mul, one_mul, Language.mem_add, mem_parens_mul_iff, Bool.or_eq_true]
  simp only [← isHeaderEnd_iff]
  cases afterParens? t with
  | none => simp
  | some r => simp

theorem isPlainHeader_iff : isPlainHeader t = true ↔ t ∈ names * (parens * endings) := by
  rw [mem_names_mul_iff avoids_parens_mul]
  simp only [mem_parens_mul_iff, ← isHeaderEnd_iff]
  unfold isPlainHeader
  cases hname : afterName? t with
  | none => simp
  | some r =>
    cases hparens : afterParens? r with
    | none => simp [hparens]
    | some u => simp [hparens]

theorem isKeywordHeader_iff :
    isKeywordHeader t = true ↔ t ∈ {("function" : Text)} * (separators * (names * ((1 + parens) * endings))) := by
  have hafter : Avoids isNameChar ((1 + parens) * endings) := by
    rw [add_mul, one_mul]
    exact avoids_endings.add avoids_parens_mul
  have hname : Avoids CodePoint.isBlank (names * ((1 + parens) * endings)) :=
    avoids_names.mul fun hnil => absurd rfl hnil.1
  rw [mem_word_mul_iff]
  simp only [mem_separators_mul_iff hname, mem_names_mul_iff hafter, mem_one_add_parens_mul_endings_iff]
  unfold isKeywordHeader functionWord
  cases hword : Text.dropHead? "function" t with
  | none => simp
  | some r =>
    by_cases hskip : skipBlanks r = r
    · simp [hskip]
    · cases hname : afterName? (skipBlanks r) with
      | none => simp [hname]
      | some u => simp [hname, hskip]

/-- A header and any blanks after it are what is taken for a header. -/
theorem isFunctionHeader_iff : isFunctionHeader t = true ↔ t ∈ headers * blanks := by
  have hheaders :=
    calc headers * blanks
      _ = headings * endings := by rw [headers, endings, mul_assoc, mul_assoc]
      _ = {("function" : Text)} * separators * names * (1 + parens) * endings + names * parens * endings :=
        add_mul _ _ _
      _ = {("function" : Text)} * (separators * (names * ((1 + parens) * endings))) + names * (parens * endings) := by
        simp only [mul_assoc]
  rw [isFunctionHeader, Bool.or_eq_true, isKeywordHeader_iff, isPlainHeader_iff, hheaders, Language.mem_add]

/-- A text that does not end in a blank leaves nothing to blanks at the end. -/
theorem mem_mul_blanks_iff (hlast : ∀ c ∈ t.getLast?, c.isBlank = false) : t ∈ M * blanks ↔ t ∈ M := by
  rw [Language.mem_mul]
  constructor
  · rintro ⟨u, hu, b, hb, rfl⟩
    rcases List.eq_nil_or_concat b with rfl | ⟨b, c, rfl⟩
    · rwa [List.append_nil]
    · have hblank : c.isBlank = true := hb c (by simp)
      rw [hlast c (by simp)] at hblank
      cases hblank
  · intro ht
    exact ⟨t, ht, [], nofun, List.append_nil t⟩

end

theorem not_isBlank_getLast?_trim (l : Text) : ∀ c ∈ l.trim.getLast?, c.isBlank = false := by
  rw [Text.trim, Text.trimRight, List.getLast?_reverse]
  exact Heredoc.boundary_dropWhile _ _

end Header

/-- **Lines without commands.** A line, without the blanks around it, has no command by its own text just if it is empty,
begins a comment, is one of the structural words, or is the header of a function. -/
theorem isInert_trim_iff (l : Text) :
    isInert l.trim = true ↔
      l.trim = [] ∨ l.trim.head? = some (CodePoint.ofChar '#') ∨ l.trim ∈ structuralWords ∨ l.trim ∈ Header.headers := by
  rw [isInert, isComment]
  simp only [Bool.or_eq_true, decide_eq_true_iff, List.elem_iff, or_assoc, Header.isFunctionHeader_iff,
    Header.mem_mul_blanks_iff (Header.not_isBlank_getLast?_trim l)]

/-- A function may have the name of the keyword, and a body in the line of its header makes it a line with commands. -/
example : isInert "function\tfunction ( )\x7b" = true ∧ isInert "function () \x7b" = true ∧
    isInert "inline() \x7b echo one-liner; \x7d" = false := by decide +kernel

end Script

end ShellCoverage
