import Mathlib.Data.List.TakeWhile
import ShellCoverage.Proofs.Script.Numbering
import ShellCoverage.Proofs.Text.DecimalDigits

/-!
# Heredocs

An operator is two `<` and no more, a hyphen or none, blanks, and a name, plain or between two equal quotes. The scan of
a script takes the leftmost operator of a line that is no comment, and skips the lines up to the one that ends the body.

`heredoc_body_skipped` says that a body is skipped whatever its lines are, and that no line outside depends on them. This is
so of the first heredoc of a line alone: by `heredocs_skipped_iff` the body of a second one is scanned as commands.
`opensNone_iff_shifts` says when a script with here-strings and shifts opens no heredoc. A here-string never does; a
shift does if a name follows it, so that a shift by a variable hides the lines after it (`shift_opens_heredoc`).

Without heredocs each line counts by its own text and by the end of the line before it. A shell joins two lines if the
first ends in a backslash that no other one quotes. The scan takes the last character that is no blank: by
`continuation_hides_iff` it hides each line that is joined to the one before, and others too (`quoted_backslash_hides`).

* `Begins`, `operatorAt?_eq_some_iff` : the grammar of operators, and that they are read by it;
* `IsAt`, `operators`, `find?_eq_head?` : the operators of a line, of which the leftmost is found;
* `find?_trim` : blanks around a line make no difference;
* `Scan.after`, `relevanceFrom_append` : the scan in parts;
* `relevanceFrom_body`, `relevanceFrom_heredoc` : bodies leave the state of the scan as it is;
* `IsBody`, `bodyLines`, `SkipsBodies` : the bodies of several heredocs;
* `IsPair`, `InRun`, `InArithmetic` : where two `<` can stand;
* `OpensNone`, `ownRelevance`, `opensNone_iff` : scripts without heredocs;
* `IsJoined`, `LooksJoined`, `isContinued_trim_iff` : lines that go on, and those that are taken for such.
-/

namespace ShellCoverage

/-! ## Classes of characters -/

section classes
variable {c : CodePoint}

/-- A character that begins a name, or a quote before it. -/
def Heredoc.startsWord (c : CodePoint) : Bool := c = 39 || c = 34 || startsName c

theorem Heredoc.inRanges_of_startsWord (h : startsWord c = true) :
    CharacterClass.inRanges [(34, 34), (39, 39), (65, 90), (95, 95), (97, 122)] c.val = true := by
  have hval (n : CodePoint) (hn : c = n) : c.val = n.val := congrArg Fin.val hn
  simp only [startsWord, startsName, CodePoint.isAsciiLetter, Bool.or_eq_true, Bool.and_eq_true,
    decide_eq_true_eq] at h
  simp only [CharacterClass.inRanges, List.any_cons, List.any_nil, Bool.or_false, Bool.or_eq_true, Bool.and_eq_true,
    decide_eq_true_eq]
  rcases h with (h | h) | ((h | h) | h)
  · have : c.val = 39 := hval 39 h
    omega
  · have : c.val = 34 := hval 34 h
    omega
  · omega
  · omega
  · have : c.val = 95 := hval _ h
    omega

theorem Heredoc.not_isBlank_of_startsWord (h : startsWord c = true) : c.isBlank = false :=
  Numeral.inRanges_eq_false (by decide) (inRanges_of_startsWord h)

/-- Blanks are in no word. -/
theorem Heredoc.not_continuesName_of_isBlank (h : c.isBlank = true) : continuesName c = false := by
  have hword : CharacterClass.inRanges CharacterClass.wordRanges c.val = false :=
    Numeral.inRanges_eq_false (by decide +kernel) h
  have hascii : CharacterClass.inRanges [(45, 45), (48, 57), (65, 90), (95, 95), (97, 122)] c.val = false :=
    Numeral.inRanges_eq_false (by decide) h
  simp only [CharacterClass.inRanges, List.any_cons, List.any_nil, Bool.or_false, Bool.or_eq_false_iff,
    Bool.and_eq_false_iff, decide_eq_false_iff_not] at hascii
  have hne : c ≠ CodePoint.ofChar '-' := by
    rintro rfl
    exact absurd h (by decide)
  rw [continuesName, CodePoint.isWord, hword, CodePoint.isAsciiLetter, CodePoint.isAsciiDigit]
  simp only [Bool.or_eq_false_iff, Bool.and_eq_false_iff, decide_eq_false_iff_not, beq_eq_false_iff_ne]
  refine ⟨⟨⟨⟨⟨?_, ?_⟩, ?_⟩, ?_⟩, trivial⟩, hne⟩ <;> omega

end classes

/-- A text is itself without blanks around it, between these blanks. -/
theorem Text.eq_blanks_append_trim (l : Text) :
    ∃ b e : Text, (∀ c ∈ b, c.isBlank = true) ∧ (∀ c ∈ e, c.isBlank = true) ∧ l = b ++ (l.trim ++ e) := by
  refine ⟨l.takeWhile CodePoint.isBlank, ((l.dropWhile CodePoint.isBlank).reverse.takeWhile CodePoint.isBlank).reverse,
    fun c hc => List.mem_takeWhile_imp hc, fun c hc => List.mem_takeWhile_imp (List.mem_reverse.1 hc), ?_⟩
  rw [Text.trim, Text.trimRight, ← List.reverse_append, List.takeWhile_append_dropWhile, List.reverse_reverse,
    List.takeWhile_append_dropWhile]

namespace Heredoc

/-! ## Operators -/

/-- A letter or an underscore, then characters of words and hyphens. -/
def IsName (w : Text) : Prop := ∃ c t, w = c :: t ∧ startsName c = true ∧ ∀ d ∈ t, continuesName d = true

/-- The hyphen of an operator that strips tabs. -/
def hyphen (h : Heredoc) : Text := if h.stripsTabs then [45] else []

/-- The text begins with the operator: two `<`, a hyphen where tabs are stripped, blanks, and the name of the line that
ends the body. A plain name goes as far as it can; a name between quotes has the same quote on both sides. -/
inductive Begins (h : Heredoc) : Text → Prop where
  | plain {blanks rest : Text} : (∀ c ∈ blanks, c.isBlank = true) → IsName h.terminator →
      (∀ c ∈ rest.head?, continuesName c = false) →
      Begins h (less :: less :: (h.hyphen ++ (blanks ++ (h.terminator ++ rest))))
  | quoted {blanks rest : Text} {q : CodePoint} : (∀ c ∈ blanks, c.isBlank = true) → IsName h.terminator →
      q = 39 ∨ q = 34 →
      Begins h (less :: less :: (h.hyphen ++ (blanks ++ (q :: (h.terminator ++ q :: rest)))))

/-- The operator stands at a place of the line, and no `<` before it. -/
def IsAt (h : Heredoc) (line : Text) (i : Nat) : Prop := (line.take i).getLast? ≠ some less ∧ Begins h (line.drop i)

/-- The operator at a place of a line. -/
def at? (line : Text) (i : Nat) : Option Heredoc :=
  if (line.take i).getLast? = some less then none else operatorAt? (line.drop i)

/-- The operators of a line, from left to right. -/
def operators (line : Text) : List Heredoc := (List.range line.length).filterMap (at? line)

/-- What a class of characters takes off the head of a text. -/
theorem takeWhile_of_boundary {p : CodePoint → Bool} {w r : Text} (hw : ∀ c ∈ w, p c = true)
    (hr : ∀ c ∈ r.head?, p c = false) : (w ++ r).takeWhile p = w ∧ (w ++ r).dropWhile p = r := by
  rw [List.takeWhile_append_of_pos hw, List.dropWhile_append_of_pos hw]
  cases r with
  | nil => simp
  | cons c r =>
    have hc : p c = false := hr c rfl
    simp [hc]

theorem boundary_dropWhile (p : CodePoint → Bool) (t : Text) : ∀ c ∈ (t.dropWhile p).head?, p c = false := by
  intro c hc
  have hhead := List.head?_dropWhile_not p t
  rw [Option.mem_def.1 hc] at hhead
  exact hhead

theorem name?_eq_some_iff {t w r : Text} :
    name? t = some (w, r) ↔ t = w ++ r ∧ IsName w ∧ ∀ c ∈ r.head?, continuesName c = false := by
  constructor
  · intro h
    cases t with
    | nil => cases h
    | cons c t =>
      rw [name?] at h
      split at h
      · next hc =>
        cases h
        refine ⟨?_, ⟨c, _, rfl, hc, fun d hd => List.mem_takeWhile_imp hd⟩, boundary_dropWhile _ t⟩
        rw [List.cons_append, List.takeWhile_append_dropWhile]
      · cases h
  · rintro ⟨rfl, ⟨c, t, rfl, hc, ht⟩, hr⟩
    obtain ⟨htake, hdrop⟩ := takeWhile_of_boundary ht hr
    rw [List.cons_append, name?, if_pos hc, htake, hdrop]

theorem startsName_of_isQuote {q : CodePoint} (hq : q = 39 ∨ q = 34) : startsName q = false := by
  rcases hq with rfl | rfl <;> decide

theorem continuesName_of_isQuote {q : CodePoint} (hq : q = 39 ∨ q = 34) : continuesName q = false := by
  rcases hq with rfl | rfl <;> decide +kernel

/-- The word at the head of a text is a name, plain or between two equal quotes. -/
theorem word?_eq_some_iff {t w : Text} :
    word? t = some w ↔ IsName w ∧ ((∃ r : Text, t = w ++ r ∧ ∀ c ∈ r.head?, continuesName c = false) ∨
      ∃ (q : CodePoint) (r : Text), (q = 39 ∨ q = 34) ∧ t = q :: (w ++ q :: r)) := by
  constructor
  · intro h
    cases t with
    | nil => cases h
    | cons c t =>
      rw [word?] at h
      simp only [Bool.or_eq_true, decide_eq_true_eq] at h
      split at h
      · next hc =>
        split at h
        next v q r hname =>
          rw [Option.ite_none_right_eq_some] at h
          obtain ⟨rfl, hv⟩ := h
          cases hv
          obtain ⟨rfl, hw, -⟩ := name?_eq_some_iff.1 hname
          exact ⟨hw, Or.inr ⟨q, r, hc, rfl⟩⟩
        next => cases h
      · obtain ⟨⟨v, r⟩, hname, rfl⟩ := Option.map_eq_some_iff.1 h
        obtain ⟨ht, hw, hr⟩ := name?_eq_some_iff.1 hname
        exact ⟨hw, Or.inl ⟨r, ht, hr⟩⟩
  · rintro ⟨hw, ⟨r, rfl, hr⟩ | ⟨q, r, hq, rfl⟩⟩
    · have hname : name? (w ++ r) = some (w, r) := name?_eq_some_iff.2 ⟨rfl, hw, hr⟩
      obtain ⟨c, t, rfl, hc, -⟩ := hw
      have hplain : ¬ (c = 39 ∨ c = 34) := by
        intro hquote
        rw [startsName_of_isQuote hquote] at hc
        cases hc
      rw [List.cons_append] at hname ⊢
      rw [word?]
      simp only [Bool.or_eq_true, decide_eq_true_eq, if_neg hplain, hname, Option.map_some]
    · have hboundary : ∀ c ∈ (q :: r).head?, continuesName c = false := by
        rintro c ⟨⟩
        exact continuesName_of_isQuote hq
      have hname : name? (w ++ q :: r) = some (w, q :: r) := name?_eq_some_iff.2 ⟨rfl, hw, hboundary⟩
      rw [word?]
      simp only [Bool.or_eq_true, decide_eq_true_eq, if_pos hq, hname, if_true]

/-- A word begins with a quote or a name. -/
theorem startsWord_of_word? {t w : Text} (h : word? t = some w) : ∃ c r, t = c :: r ∧ startsWord c = true := by
  obtain ⟨⟨c, v, rfl, hc, -⟩, ⟨r, rfl, -⟩ | ⟨q, r, hq, rfl⟩⟩ := word?_eq_some_iff.1 h
  · exact ⟨c, v ++ r, rfl, by rw [startsWord, hc, Bool.or_true]⟩
  · refine ⟨q, _, rfl, ?_⟩
    simp only [startsWord, Bool.or_eq_true, decide_eq_true_eq]
    exact Or.inl hq

/-- Blanks and a word begin with neither a hyphen nor a `<`. -/
theorem head?_blanks_append_ne {blanks r : Text} {c x : CodePoint} (hb : ∀ d ∈ blanks, d.isBlank = true)
    (hc : startsWord c = true) (hblank : x.isBlank = false) (hword : startsWord x = false) :
    (blanks ++ c :: r).head? ≠ some x := by
  intro hx
  cases blanks with
  | nil =>
    cases hx
    rw [hc] at hword
    cases hword
  | cons b blanks =>
    cases hx
    rw [hb x List.mem_cons_self] at hblank
    cases hblank

theorem afterOperator?_of_head? {t : Text} (h : t.head? ≠ some 45) :
    afterOperator? t = (word? (t.dropWhile CodePoint.isBlank)).map fun w => ⟨false, w⟩ := by
  unfold afterOperator?
  split
  next b u hsplit =>
    split at hsplit
    · exact absurd rfl h
    · cases hsplit
      rfl

/-- What follows the two `<` of an operator. -/
theorem afterOperator?_eq_some_iff {h : Heredoc} {t : Text} :
    afterOperator? t = some h ↔
      ∃ blanks u : Text, t = h.hyphen ++ (blanks ++ u) ∧ (∀ c ∈ blanks, c.isBlank = true) ∧
        word? u = some h.terminator := by
  have hblanks (t : Text) : t = t.takeWhile CodePoint.isBlank ++ t.dropWhile CodePoint.isBlank :=
    List.takeWhile_append_dropWhile.symm
  constructor
  · intro hafter
    unfold afterOperator? at hafter
    split at hafter
    next b u hsplit =>
      obtain ⟨w, hw, rfl⟩ := Option.map_eq_some_iff.1 hafter
      refine ⟨u.takeWhile CodePoint.isBlank, u.dropWhile CodePoint.isBlank, ?_, fun c hc => List.mem_takeWhile_imp hc, hw⟩
      rw [← hblanks]
      split at hsplit
      · cases hsplit
        rfl
      · cases hsplit
        rfl
  · rintro ⟨blanks, u, rfl, hb, hw⟩
    obtain ⟨stripsTabs, w⟩ := h
    obtain ⟨c, r, rfl, hc⟩ := startsWord_of_word? hw
    have hdrop : (blanks ++ c :: r).dropWhile CodePoint.isBlank = c :: r :=
      (takeWhile_of_boundary hb fun d hd => by cases hd; exact not_isBlank_of_startsWord hc).2
    cases stripsTabs with
    | true =>
      show (word? ((blanks ++ c :: r).dropWhile CodePoint.isBlank)).map (Heredoc.mk true) = _
      rw [hdrop, hw]
      rfl
    | false =>
      have hhead : (blanks ++ c :: r).head? ≠ some 45 := head?_blanks_append_ne hb hc (by decide) (by decide)
      show afterOperator? (blanks ++ c :: r) = _
      rw [afterOperator?_of_head? hhead, hdrop, hw]
      rfl

/-- The reading of an operator follows its grammar. -/
theorem operatorAt?_eq_some_iff {h : Heredoc} {t : Text} : operatorAt? t = some h ↔ Begins h t := by
  constructor
  · intro hop
    unfold operatorAt? at hop
    split at hop
    next a b t =>
      rw [Option.ite_none_right_eq_some] at hop
      obtain ⟨hless, hop⟩ := hop
      simp only [Bool.and_eq_true, decide_eq_true_eq] at hless
      obtain ⟨⟨rfl, rfl⟩, -⟩ := hless
      obtain ⟨blanks, u, rfl, hb, hw⟩ := afterOperator?_eq_some_iff.1 hop
      obtain ⟨hname, ⟨r, rfl, hr⟩ | ⟨q, r, hq, rfl⟩⟩ := word?_eq_some_iff.1 hw
      · exact .plain hb hname hr
      · exact .quoted hb hname hq
    next => cases hop
  · intro hbegins
    have hread {blanks u : Text} (hb : ∀ c ∈ blanks, c.isBlank = true) (hw : word? u = some h.terminator) :
        operatorAt? (less :: less :: (h.hyphen ++ (blanks ++ u))) = some h := by
      obtain ⟨c, r, rfl, hc⟩ := startsWord_of_word? hw
      have hhead : (h.hyphen ++ (blanks ++ c :: r)).head? ≠ some less := by
        unfold hyphen
        split
        · intro hless
          cases hless
        · exact head?_blanks_append_ne hb hc (by decide) (by decide)
      rw [operatorAt?, if_pos]
      · exact afterOperator?_eq_some_iff.2 ⟨blanks, c :: r, rfl, hb, hw⟩
      · rw [Bool.and_eq_true, Bool.and_eq_true]
        exact ⟨⟨decide_eq_true rfl, decide_eq_true rfl⟩, decide_eq_true hhead⟩
    cases hbegins with
    | plain hb hname hr => exact hread hb (word?_eq_some_iff.2 ⟨hname, Or.inl ⟨_, rfl, hr⟩⟩)
    | quoted hb hname hq => exact hread hb (word?_eq_some_iff.2 ⟨hname, Or.inr ⟨_, _, hq, rfl⟩⟩)

/-! ## Operators of a line -/

theorem at?_eq_some_iff {h : Heredoc} {line : Text} {i : Nat} : at? line i = some h ↔ IsAt h line i := by
  unfold at? IsAt
  rw [Option.ite_none_left_eq_some, operatorAt?_eq_some_iff]

/-- An operator has two `<`, and no more. -/
theorem Begins.exists_eq {h : Heredoc} {t : Text} (hbegins : Begins h t) :
    ∃ u, t = less :: less :: u ∧ u.head? ≠ some less := by
  have hop := operatorAt?_eq_some_iff.2 hbegins
  unfold operatorAt? at hop
  split at hop
  next a b u =>
    rw [Option.ite_none_right_eq_some, Bool.and_eq_true, Bool.and_eq_true] at hop
    obtain ⟨⟨⟨ha, hb⟩, hu⟩, -⟩ := hop
    exact ⟨u, by rw [of_decide_eq_true ha, of_decide_eq_true hb], of_decide_eq_true hu⟩
  next => cases hop

theorem IsAt.lt_length {h : Heredoc} {line : Text} {i : Nat} (hat : IsAt h line i) : i < line.length := by
  obtain ⟨u, hu, -⟩ := hat.2.exists_eq
  refine Nat.lt_of_not_le fun hle => ?_
  rw [List.drop_eq_nil_of_le hle] at hu
  cases hu

/-- A line has an operator just if it stands somewhere. -/
theorem mem_operators_iff {h : Heredoc} {line : Text} : h ∈ operators line ↔ ∃ i, IsAt h line i := by
  unfold operators
  rw [List.mem_filterMap]
  constructor
  · rintro ⟨i, -, hat⟩
    exact ⟨i, at?_eq_some_iff.1 hat⟩
  · rintro ⟨i, hat⟩
    exact ⟨i, List.mem_range.2 hat.lt_length, at?_eq_some_iff.2 hat⟩

theorem operators_eq_nil_iff {line : Text} : operators line = [] ↔ ∀ i h, ¬ IsAt h line i := by
  rw [List.eq_nil_iff_forall_not_mem, forall_comm]
  refine forall_congr' fun h => ?_
  rw [mem_operators_iff, not_exists]

/-- The operator that is found is the leftmost one. -/
theorem findFrom?_eq (before t : Text) :
    findFrom? (before.getLast? = some less) t =
      (List.range t.length).findSome? fun i => at? (before ++ t) (before.length + i) := by
  induction t generalizing before with
  | nil => rfl
  | cons c t ih =>
    have hhere : at? (before ++ c :: t) (before.length + 0) =
        if before.getLast? = some less then none else operatorAt? (c :: t) := by
      rw [at?, Nat.add_zero, List.take_left, List.drop_left]
    have hlater (i : Nat) : at? (before ++ c :: t) (before.length + (i + 1)) =
        at? (before ++ [c] ++ t) ((before ++ [c]).length + i) := by
      rw [List.length_append, List.length_singleton, List.append_assoc, List.singleton_append, Nat.add_assoc,
        Nat.add_comm 1 i]
    have hrest := ih (before ++ [c])
    simp only [List.getLast?_concat, Option.some.injEq] at hrest
    rw [findFrom?, hrest, List.length_cons, List.range_succ_eq_map, List.findSome?_cons, hhere, List.findSome?_map]
    simp only [Function.comp_def, Nat.succ_eq_add_one, hlater, decide_eq_true_eq]
    by_cases hless : before.getLast? = some less
    · simp only [if_pos hless]
    · simp only [if_neg hless]
      cases operatorAt? (c :: t) <;> rfl

theorem find?_eq_head? (line : Text) : find? line = (operators line).head? := by
  have hfind := findFrom?_eq [] line
  simp only [List.getLast?_nil, List.nil_append, List.length_nil, Nat.zero_add, reduceCtorEq, decide_false] at hfind
  rw [find?, hfind, operators, List.head?_filterMap]

/-! ## Blanks around a line -/

/-- Blanks at the end of a text come after each other character. -/
theorem eq_append_of_append_blanks {t b v r : Text} {c : CodePoint} (hb : ∀ d ∈ b, d.isBlank = true)
    (hc : c.isBlank = false) (h : t ++ b = v ++ c :: r) : ∃ r', t = v ++ c :: r' ∧ r = r' ++ b := by
  rcases List.append_eq_append_iff.1 h with ⟨u, -, hblanks⟩ | ⟨u, rfl, hu⟩
  · have hmem : c ∈ b := hblanks ▸ List.mem_append_right u List.mem_cons_self
    rw [hb c hmem] at hc
    cases hc
  · cases u with
    | nil =>
      have hmem : c ∈ b := by
        rw [List.nil_append] at hu
        exact hu ▸ List.mem_cons_self
      rw [hb c hmem] at hc
      cases hc
    | cons d u =>
      obtain ⟨rfl, rfl⟩ := List.cons.inj hu
      exact ⟨u, rfl, rfl⟩

theorem IsName.eq_concat {w : Text} (hw : IsName w) : ∃ v c, w = v ++ [c] ∧ c.isBlank = false := by
  obtain ⟨c, t, rfl, hc, ht⟩ := hw
  rcases List.eq_nil_or_concat t with rfl | ⟨u, d, rfl⟩
  · exact ⟨[], c, rfl, not_isBlank_of_startsWord (by rw [startsWord, hc, Bool.or_true])⟩
  · refine ⟨c :: u, d, by rw [List.concat_eq_append, List.cons_append], ?_⟩
    rw [← Bool.not_eq_true]
    intro hblank
    have hcontinues := ht d (by simp)
    rw [not_continuesName_of_isBlank hblank] at hcontinues
    cases hcontinues

section blanks
variable {h : Heredoc} {t b : Text} (hb : ∀ c ∈ b, c.isBlank = true)
include hb

/-- The name of an operator, or the quote after it, comes before the blanks at the end. -/
theorem Begins.of_append_blanks (hbegins : Begins h (t ++ b)) : Begins h t := by
  generalize hu : t ++ b = u at hbegins
  cases hbegins with
  | @plain blanks rest hblanks hname hrest =>
    obtain ⟨v, c, hv, hc⟩ := hname.eq_concat
    have hsplit : t ++ b = (less :: less :: (h.hyphen ++ (blanks ++ v))) ++ c :: rest := by
      rw [hu, hv]
      simp
    obtain ⟨r, rfl, rfl⟩ := eq_append_of_append_blanks hb hc hsplit
    have hr : ∀ d ∈ r.head?, continuesName d = false := by
      intro d hd
      exact hrest d (by rw [List.head?_append, Option.mem_def.1 hd]; rfl)
    have hplain : Begins h (less :: less :: (h.hyphen ++ (blanks ++ (h.terminator ++ r)))) :=
      .plain hblanks hname hr
    rw [hv] at hplain
    simpa using hplain
  | @quoted blanks rest q hblanks hname hq =>
    have hqblank : q.isBlank = false := by rcases hq with rfl | rfl <;> decide
    have hsplit : t ++ b = (less :: less :: (h.hyphen ++ (blanks ++ (q :: h.terminator)))) ++ q :: rest := by
      rw [hu]
      simp
    obtain ⟨r, rfl, rfl⟩ := eq_append_of_append_blanks hb hqblank hsplit
    have hquoted : Begins h (less :: less :: (h.hyphen ++ (blanks ++ (q :: (h.terminator ++ q :: r))))) :=
      .quoted hblanks hname hq
    simpa using hquoted

theorem Begins.append_blanks (hbegins : Begins h t) : Begins h (t ++ b) := by
  cases hbegins with
  | @plain blanks rest hblanks hname hrest =>
    have hr : ∀ d ∈ (rest ++ b).head?, continuesName d = false := by
      intro d hd
      cases rest with
      | nil => exact not_continuesName_of_isBlank (hb d (List.mem_of_mem_head? hd))
      | cons e rest => exact hrest d hd
    have hplain : Begins h (less :: less :: (h.hyphen ++ (blanks ++ (h.terminator ++ (rest ++ b))))) :=
      .plain hblanks hname hr
    simpa using hplain
  | @quoted blanks rest q hblanks hname hq =>
    have hquoted : Begins h (less :: less :: (h.hyphen ++ (blanks ++ (q :: (h.terminator ++ q :: (rest ++ b)))))) :=
      .quoted hblanks hname hq
    simpa using hquoted

theorem operatorAt?_append_blanks : operatorAt? (t ++ b) = operatorAt? t := by
  ext h
  rw [operatorAt?_eq_some_iff, operatorAt?_eq_some_iff]
  exact ⟨Begins.of_append_blanks hb, Begins.append_blanks hb⟩

end blanks

theorem findFrom?_cons_of_ne {c : CodePoint} (hc : c ≠ less) (afterLess : Bool) (t : Text) :
    findFrom? afterLess (c :: t) = findFrom? false t := by
  have hnone : operatorAt? (c :: t) = none := by
    cases t with
    | nil => rfl
    | cons d t => rw [operatorAt?, if_neg (by simp [hc])]
  rw [findFrom?, hnone]
  cases afterLess <;> simp [hc]

theorem ne_less_of_isBlank {c : CodePoint} (hc : c.isBlank = true) : c ≠ less := by
  rintro rfl
  exact absurd hc (by decide)

theorem findFrom?_blanks_append {b : Text} (hb : ∀ c ∈ b, c.isBlank = true) (t : Text) :
    findFrom? false (b ++ t) = findFrom? false t := by
  induction b with
  | nil => rfl
  | cons c b ih =>
    obtain ⟨hc, hb⟩ := List.forall_mem_cons.1 hb
    rw [List.cons_append, findFrom?_cons_of_ne (ne_less_of_isBlank hc), ih hb]

theorem findFrom?_append_blanks {b : Text} (hb : ∀ c ∈ b, c.isBlank = true) (afterLess : Bool) (t : Text) :
    findFrom? afterLess (t ++ b) = findFrom? afterLess t := by
  induction t generalizing afterLess with
  | nil =>
    cases b with
    | nil => rfl
    | cons c b =>
      obtain ⟨hc, hb⟩ := List.forall_mem_cons.1 hb
      have hrest := findFrom?_blanks_append hb []
      rw [List.append_nil] at hrest
      rw [List.nil_append, findFrom?_cons_of_ne (ne_less_of_isBlank hc), hrest]
      rfl
  | cons c t ih => rw [List.cons_append, findFrom?, findFrom?, ← List.cons_append, operatorAt?_append_blanks hb, ih]

/-- Blanks around a line do not change which operator is found. -/
theorem find?_trim (line : Text) : find? line.trim = find? line := by
  obtain ⟨b, e, hb, he, hline⟩ := Text.eq_blanks_append_trim line
  calc find? line.trim
      = findFrom? false (line.trim ++ e) := (findFrom?_append_blanks he false _).symm
    _ = findFrom? false (b ++ (line.trim ++ e)) := (findFrom?_blanks_append hb _).symm
    _ = find? line := by
        rw [← hline]
        rfl

end Heredoc

namespace Script

/-! ## The scan -/

/-- The state after some lines. -/
def Scan.after (s : Scan) (ls : List Text) : Scan := ls.foldl (fun s l => (s.next l).1) s

@[simp] theorem Scan.after_nil (s : Scan) : s.after [] = s := rfl

@[simp] theorem Scan.after_cons (s : Scan) (l : Text) (ls : List Text) : s.after (l :: ls) = (s.next l).1.after ls := rfl

theorem Scan.after_append (s : Scan) (ls ms : List Text) : s.after (ls ++ ms) = (s.after ls).after ms :=
  List.foldl_append

/-- A scan goes on from the state to which it has come. -/
theorem relevanceFrom_append (s : Scan) (ls ms : List Text) :
    relevanceFrom s (ls ++ ms) = relevanceFrom s ls ++ relevanceFrom (s.after ls) ms := by
  induction ls generalizing s with
  | nil => rfl
  | cons l ls ih =>
    rw [List.cons_append, relevanceFrom, relevanceFrom, ih, List.cons_append, Scan.after_cons]

section body
variable {s : Scan} {h : Heredoc} (hs : s.heredoc = some h)
include hs

theorem Scan.next_of_body {l : Text} (hl : h.closes l = false) : s.next l = (s, false) := by
  obtain ⟨heredoc, continued⟩ := s
  cases hs
  simp only [Scan.next, hl, Bool.false_eq_true, if_false]

theorem Scan.next_of_end {l : Text} (hl : h.closes l = true) : s.next l = (⟨none, s.continued⟩, false) := by
  obtain ⟨heredoc, continued⟩ := s
  cases hs
  simp only [Scan.next, hl, if_true]

/-- Lines of a body leave the state as it is, whatever they are. -/
theorem relevanceFrom_body {B : List Text} (hB : ∀ l ∈ B, h.closes l = false) :
    relevanceFrom s B = List.replicate B.length false ∧ s.after B = s := by
  induction B with
  | nil => exact ⟨rfl, rfl⟩
  | cons l B ih =>
    obtain ⟨hl, hB⟩ := List.forall_mem_cons.1 hB
    obtain ⟨hflags, hafter⟩ := ih hB
    rw [relevanceFrom, Scan.after_cons, Scan.next_of_body hs hl]
    exact ⟨by rw [hflags]; rfl, hafter⟩

/-- After a body and its end the scan goes on as before the body. -/
theorem relevanceFrom_heredoc {B : List Text} {t : Text} (hB : ∀ l ∈ B, h.closes l = false)
    (ht : h.closes t = true) (C : List Text) :
    relevanceFrom s (B ++ t :: C) = List.replicate (B.length + 1) false ++ relevanceFrom ⟨none, s.continued⟩ C := by
  obtain ⟨hflags, hafter⟩ := relevanceFrom_body hs hB
  rw [relevanceFrom_append, hflags, hafter, relevanceFrom, Scan.next_of_end hs ht, List.replicate_succ',
    List.append_assoc]
  rfl

end body

/-- A line that is no comment opens its first heredoc. -/
theorem Scan.next_of_operator {s : Scan} {o : Text} {h : Heredoc} (hs : s.heredoc = none)
    (hcomment : isComment o.trim = false) (hfirst : (Heredoc.operators o).head? = some h) :
    (s.next o).1 = ⟨some h, isContinued o.trim⟩ := by
  have hopened : opened? o.trim = some h := by
    rw [opened?, hcomment, Heredoc.find?_trim, Heredoc.find?_eq_head?, hfirst]
    rfl
  rw [Scan.next, hs]
  simp only [hopened]

/-- The flags of a script in which a line opens a heredoc. -/
theorem relevance_of_operator {A : List Text} {o : Text} {h : Heredoc} (hA : (Scan.after {} A).heredoc = none)
    (hcomment : isComment o.trim = false) (hfirst : (Heredoc.operators o).head? = some h) (D : List Text) :
    relevance (A ++ o :: D) = relevance (A ++ [o]) ++ relevanceFrom ⟨some h, isContinued o.trim⟩ D := by
  have hafter : Scan.after {} (A ++ [o]) = ⟨some h, isContinued o.trim⟩ := by
    rw [Scan.after_append, Scan.after_cons, Scan.after_nil, Scan.next_of_operator hA hcomment hfirst]
  rw [List.append_cons, relevance, relevanceFrom_append, hafter]
  rfl

/-- The numbers of the lines after a line, by their flags. -/
theorem mem_irrelevantLines_after {A D : List Text} {o : Text} {flags : List Bool}
    (h : relevance (A ++ o :: D) = relevance (A ++ [o]) ++ flags) (i : Nat) :
    A.length + 2 + i ∈ irrelevantLines (A ++ o :: D) ↔ flags[i]? = some false := by
  have hlength : (relevance (A ++ [o])).length = A.length + 1 := by
    rw [relevance, length_relevanceFrom, List.length_append, List.length_singleton]
  rw [irrelevantLines, mem_numbersWith, h, List.getElem?_append_right (by rw [hlength]; omega), hlength,
    show A.length + 2 + i - 1 - (A.length + 1) = i by omega]
  exact and_iff_right (by omega)

/-! ## Bodies -/

/-- The body of the first heredoc of a line is skipped to its end, whatever it is, and no line outside it depends on
it. Without an end all lines are skipped. -/
theorem heredoc_body_skipped {A : List Text} {o : Text} {h : Heredoc} (hA : (Scan.after {} A).heredoc = none)
    (hcomment : isComment o.trim = false) (hfirst : (Heredoc.operators o).head? = some h) :
    (∀ (B : List Text) (t : Text) (C : List Text), (∀ l ∈ B, h.closes l = false) → h.closes t = true →
      (∀ i < B.length + 1, A.length + 2 + i ∈ irrelevantLines (A ++ o :: (B ++ t :: C))) ∧
      ∀ B' : List Text, B'.length = B.length → (∀ l ∈ B', h.closes l = false) →
        irrelevantLines (A ++ o :: (B' ++ t :: C)) = irrelevantLines (A ++ o :: (B ++ t :: C))) ∧
    ∀ D : List Text, (∀ l ∈ D, h.closes l = false) →
      ∀ i < D.length, A.length + 2 + i ∈ irrelevantLines (A ++ o :: D) := by
  have hflags := relevance_of_operator hA hcomment hfirst
  refine ⟨fun B t C hB ht => ⟨?_, ?_⟩, ?_⟩
  · intro i hi
    have hbody := hflags (B ++ t :: C)
    rw [relevanceFrom_heredoc rfl hB ht] at hbody
    rw [mem_irrelevantLines_after hbody, List.getElem?_append_left (by rwa [List.length_replicate]),
      List.getElem?_replicate, if_pos hi]
  · intro B' hlength hB'
    have hsame : relevance (A ++ o :: (B' ++ t :: C)) = relevance (A ++ o :: (B ++ t :: C)) := by
      rw [hflags (B' ++ t :: C), hflags (B ++ t :: C), relevanceFrom_heredoc rfl hB' ht, relevanceFrom_heredoc rfl hB ht,
        hlength]
    unfold irrelevantLines numbersWith
    rw [hsame]
  · intro D hD i hi
    have hbody := hflags D
    rw [(relevanceFrom_body rfl hD).1] at hbody
    rw [mem_irrelevantLines_after hbody, List.getElem?_replicate, if_pos hi]

/-- The lines of a body may look like operators, ends, continuations, comments and open quotes. -/
theorem heredoc_body_skipped_lookalikes :
    let A : List Text := ["x=1"]
    let o : Text := "  cat <<-'EOF' | sort"
    let h : Heredoc := ⟨true, "EOF"⟩
    let B : List Text := ["<<X", " EOF", "EOF\\", "#", "'"]
    let t : Text := "\tEOF"
    let C : List Text := ["ls"]
    (Scan.after {} A).heredoc = none ∧ isComment o.trim = false ∧ (Heredoc.operators o).head? = some h ∧
      (∀ l ∈ B, h.closes l = false) ∧ h.closes t = true ∧
      ∀ i < B.length + 1, A.length + 2 + i ∈ irrelevantLines (A ++ o :: (B ++ t :: C)) := by
  intro A o h B t C
  have hA : (Scan.after {} A).heredoc = none := by decide +kernel
  have hcomment : isComment o.trim = false := by decide +kernel
  have hfirst : (Heredoc.operators o).head? = some h := by decide +kernel
  have hB : ∀ l ∈ B, h.closes l = false := by decide +kernel
  have ht : h.closes t = true := by decide +kernel
  exact ⟨hA, hcomment, hfirst, hB, ht, ((heredoc_body_skipped hA hcomment hfirst).1 B t C hB ht).1⟩

/-! ## Several heredocs of a line -/

/-- Lines of a body and the line that ends it. -/
def IsBody (h : Heredoc) (b : List Text × Text) : Prop := (∀ l ∈ b.1, h.closes l = false) ∧ h.closes b.2 = true

instance (h : Heredoc) (b : List Text × Text) : Decidable (IsBody h b) :=
  inferInstanceAs (Decidable ((∀ l ∈ b.1, h.closes l = false) ∧ h.closes b.2 = true))

/-- The lines of bodies and their ends. -/
def bodyLines (bs : List (List Text × Text)) : List Text := bs.flatMap fun b => b.1 ++ [b.2]

/-- In a script with the bodies after a line, no line of them is relevant, and the next line is taken as it is after
the line alone: by its own text, and by whether the line goes on. -/
structure SkipsBodies (A : List Text) (o : Text) (bs : List (List Text × Text)) (C : List Text) : Prop where
  inside : ∀ i < (bodyLines bs).length, A.length + 2 + i ∈ irrelevantLines (A ++ o :: (bodyLines bs ++ C))
  next : ∀ l C', C = l :: C' →
    (A.length + 2 + (bodyLines bs).length ∈ irrelevantLines (A ++ o :: (bodyLines bs ++ C)) ↔
      isContinued o.trim = true ∨ isInert l.trim = true)

theorem bodyLines_cons (b : List Text × Text) (bs : List (List Text × Text)) :
    bodyLines (b :: bs) = b.1 ++ b.2 :: bodyLines bs := by
  rw [bodyLines, List.flatMap_cons, List.append_assoc]
  rfl

/-- After the first body the other bodies are scanned as commands. -/
theorem relevance_bodyLines {A : List Text} {o : Text} {h : Heredoc} (hA : (Scan.after {} A).heredoc = none)
    (hcomment : isComment o.trim = false) (hfirst : (Heredoc.operators o).head? = some h)
    {b : List Text × Text} (hb : IsBody h b) (bs : List (List Text × Text)) (C : List Text) :
    relevance (A ++ o :: (bodyLines (b :: bs) ++ C)) = relevance (A ++ [o]) ++
      (List.replicate (b.1.length + 1) false ++ relevanceFrom ⟨none, isContinued o.trim⟩ (bodyLines bs ++ C)) := by
  rw [relevance_of_operator hA hcomment hfirst, bodyLines_cons, List.append_assoc, List.cons_append,
    relevanceFrom_heredoc rfl hb.1 hb.2]

theorem closes_terminator {h : Heredoc} (hname : Heredoc.IsName h.terminator) : h.closes h.terminator = true := by
  obtain ⟨stripsTabs, w⟩ := h
  obtain ⟨c, t, rfl, hc, -⟩ := hname
  have hne : c ≠ 9 := by
    rintro rfl
    exact absurd hc (by decide)
  cases stripsTabs <;> simp [Heredoc.closes, hne]

/-- A line with a blank inside ends no body. -/
theorem closes_of_blank {h : Heredoc} (hname : Heredoc.IsName h.terminator) : h.closes "a b" = false := by
  obtain ⟨stripsTabs, w⟩ := h
  have hne : ("a b" : Text) ≠ w := by
    rintro rfl
    obtain ⟨c, t, heq, -, ht⟩ := hname
    cases heq
    have hblank := ht (CodePoint.ofChar ' ') (by decide)
    rw [Heredoc.not_continuesName_of_isBlank (by decide)] at hblank
    cases hblank
  have hdrop : ("a b" : Text).dropWhile (· = 9) = "a b" := by decide
  cases stripsTabs <;> simp [Heredoc.closes, hdrop, hne]

theorem isName_of_mem_operators {h : Heredoc} {o : Text} (hmem : h ∈ Heredoc.operators o) :
    Heredoc.IsName h.terminator := by
  obtain ⟨i, -, hbegins⟩ := Heredoc.mem_operators_iff.1 hmem
  generalize o.drop i = t at hbegins
  cases hbegins with
  | plain _ hname _ => exact hname
  | quoted _ hname _ => exact hname

/-- The shortest body: its end alone. -/
def noBody (h : Heredoc) : List Text × Text := ([], h.terminator)

/-- A body of two lines that outside a heredoc are commands. -/
def commandBody (h : Heredoc) : List Text × Text := (["a b", "a b"], h.terminator)

theorem isBody_noBody {h : Heredoc} (hname : Heredoc.IsName h.terminator) : IsBody h (noBody h) :=
  ⟨nofun, closes_terminator hname⟩

theorem isBody_commandBody {h : Heredoc} (hname : Heredoc.IsName h.terminator) : IsBody h (commandBody h) := by
  refine ⟨fun l hl => ?_, closes_terminator hname⟩
  have hsame : l = "a b" := by simpa [commandBody] using hl
  rw [hsame]
  exact closes_of_blank hname

/-- The second line of such a body is relevant, also where the line before the body goes on. -/
theorem relevanceFrom_commandBody (continued : Bool) (h : Heredoc) (bs : List (List Text × Text)) :
    relevanceFrom ⟨none, continued⟩ (bodyLines (commandBody h :: bs)) =
      (!continued) :: true :: relevanceFrom {} (h.terminator :: bodyLines bs) := by
  have hline (continued : Bool) : (⟨none, continued⟩ : Scan).next "a b" = ({}, !continued) := by
    cases continued <;> decide +kernel
  show relevanceFrom _ ("a b" :: "a b" :: h.terminator :: bodyLines bs) = _
  rw [relevanceFrom, hline, relevanceFrom, hline]
  rfl

section several
variable {A : List Text} {o : Text} {h : Heredoc} (hA : (Scan.after {} A).heredoc = none)
  (hcomment : isComment o.trim = false)
include hA hcomment

/-- The body of a single heredoc is skipped. -/
theorem skipsBodies_singleton (hfirst : (Heredoc.operators o).head? = some h) {b : List Text × Text} (hb : IsBody h b)
    (C : List Text) : SkipsBodies A o [b] C := by
  have hflags := relevance_bodyLines hA hcomment hfirst hb [] C
  have hlength : (bodyLines [b]).length = b.1.length + 1 := by simp [bodyLines]
  refine ⟨fun i hi => ?_, ?_⟩
  · rw [hlength] at hi
    rw [mem_irrelevantLines_after hflags, List.getElem?_append_left (by rwa [List.length_replicate]),
      List.getElem?_replicate, if_pos hi]
  · rintro l C' rfl
    rw [mem_irrelevantLines_after hflags, hlength,
      List.getElem?_append_right (by rw [List.length_replicate]), List.length_replicate, Nat.sub_self]
    show (relevanceFrom ⟨none, isContinued o.trim⟩ (l :: C'))[0]? = some false ↔ _
    rw [relevanceFrom, List.getElem?_cons_zero, Option.some.injEq, Scan.next, Bool.not_eq_false', Bool.or_eq_true]

/-- Of several heredocs the second has a body that is not skipped. -/
theorem exists_not_skipsBodies {g : Heredoc} {gs : List Heredoc} (hoperators : Heredoc.operators o = h :: g :: gs) :
    ∃ bs, List.Forall₂ IsBody (h :: g :: gs) bs ∧ ¬ SkipsBodies A o bs [] := by
  have hname (f : Heredoc) (hf : f ∈ h :: g :: gs) : Heredoc.IsName f.terminator :=
    isName_of_mem_operators (hoperators ▸ hf)
  have hfirst : IsBody h (noBody h) := isBody_noBody (hname h (by simp))
  refine ⟨noBody h :: commandBody g :: gs.map noBody, ?_, ?_⟩
  · refine .cons hfirst (.cons (isBody_commandBody (hname g (by simp))) ?_)
    rw [List.forall₂_map_right_iff, List.forall₂_same]
    exact fun f hf => isBody_noBody (hname f (by simp [hf]))
  · intro hskips
    have hinside := hskips.inside 2 (by simp [bodyLines, noBody, commandBody])
    rw [mem_irrelevantLines_after (relevance_bodyLines hA hcomment (by rw [hoperators]; rfl) hfirst _ _), List.append_nil,
      relevanceFrom_commandBody] at hinside
    cases hinside

end several

/-- Of the heredocs of a line the first alone is skipped, and what follows it is scanned as commands. So all are
skipped, whatever their bodies, just if the line has no other. -/
theorem heredocs_skipped_iff {A : List Text} {o : Text} {h : Heredoc} {hs : List Heredoc}
    (hA : (Scan.after {} A).heredoc = none) (hcomment : isComment o.trim = false)
    (hoperators : Heredoc.operators o = h :: hs) :
    (∀ (b : List Text × Text) (bs : List (List Text × Text)) (C : List Text), IsBody h b →
      relevance (A ++ o :: (bodyLines (b :: bs) ++ C)) = relevance (A ++ [o]) ++
        (List.replicate (b.1.length + 1) false ++ relevanceFrom ⟨none, isContinued o.trim⟩ (bodyLines bs ++ C))) ∧
    ((∀ (bs : List (List Text × Text)) (C : List Text), List.Forall₂ IsBody (h :: hs) bs → SkipsBodies A o bs C) ↔
      hs = []) := by
  have hfirst : (Heredoc.operators o).head? = some h := by rw [hoperators]; rfl
  refine ⟨fun b bs C hb => relevance_bodyLines hA hcomment hfirst hb bs C, ?_, ?_⟩
  · intro hskips
    by_contra hne
    obtain ⟨g, gs, rfl⟩ := List.exists_cons_of_ne_nil hne
    obtain ⟨bs, hbodies, hbs⟩ := exists_not_skipsBodies hA hcomment hoperators
    exact hbs (hskips bs [] hbodies)
  · rintro rfl bs C (_ | ⟨hb, _ | _⟩)
    exact skipsBodies_singleton hA hcomment hfirst hb C

/-- Of two heredocs the second is scanned: an operator in its body opens one more, which hides what follows. -/
theorem heredocs_skipped_iff_two :
    let o : Text := "cat <<A - <<-'B'"
    let C : List Text := ["ls"]
    let second : List (List Text × Text) := [(["\x7b", "cat <<X"], "\tB")]
    (Scan.after {} []).heredoc = none ∧ isComment o.trim = false ∧
      Heredoc.operators o = [⟨false, "A"⟩, ⟨true, "B"⟩] ∧ IsBody ⟨false, "A"⟩ (["a"], "A") ∧
      relevance (o :: (bodyLines ((["a"], "A") :: second) ++ C)) =
        [true, false, false, false, true, false, false] ∧
      ¬ ∀ (bs : List (List Text × Text)) (C : List Text),
        List.Forall₂ IsBody [⟨false, "A"⟩, ⟨true, "B"⟩] bs → SkipsBodies [] o bs C := by
  intro o C second
  have hcomment : isComment o.trim = false := by decide +kernel
  have hoperators : Heredoc.operators o = [⟨false, "A"⟩, ⟨true, "B"⟩] := by decide +kernel
  have hbody : IsBody ⟨false, "A"⟩ (["a"], "A") := by decide +kernel
  obtain ⟨hflags, hall⟩ := heredocs_skipped_iff (A := []) rfl hcomment hoperators
  refine ⟨rfl, hcomment, hoperators, hbody, (hflags _ second C hbody).trans (by decide +kernel), ?_⟩
  rw [hall]
  exact List.cons_ne_nil _ _

/-- The body of the second heredoc of a line counts as commands. -/
theorem second_heredoc_scanned :
    let o : Text := "cat <<A <<B"
    let bs : List (List Text × Text) := [([], "A"), (["echo b"], "B")]
    let C : List Text := ["echo"]
    isComment o.trim = false ∧ Heredoc.operators o = [⟨false, "A"⟩, ⟨false, "B"⟩] ∧
      List.Forall₂ IsBody (Heredoc.operators o) bs ∧ irrelevantLines ([] ++ o :: (bodyLines bs ++ C)) = [2] ∧
      ¬ SkipsBodies [] o bs C := by
  intro o bs C
  have hoperators : Heredoc.operators o = [⟨false, "A"⟩, ⟨false, "B"⟩] := by decide +kernel
  have hbodies : List.Forall₂ IsBody [⟨false, "A"⟩, ⟨false, "B"⟩] bs :=
    .cons (by decide +kernel) (.cons (by decide +kernel) .nil)
  have hlines : irrelevantLines ([] ++ o :: (bodyLines bs ++ C)) = [2] := by decide +kernel
  refine ⟨by decide +kernel, hoperators, hoperators ▸ hbodies, hlines, ?_⟩
  intro hskips
  have hsecond := hskips.inside 1 (by decide)
  rw [hlines] at hsecond
  exact absurd hsecond (by decide)

/-! ## Here-strings and shifts -/

/-- Two `<` stand at a place of the line. -/
def IsPair (l : Text) (i : Nat) : Prop := l[i]? = some Heredoc.less ∧ l[i + 1]? = some Heredoc.less

/-- The two `<` at a place belong to three or more. -/
def InRun (l : Text) (i : Nat) : Prop :=
  l[i + 2]? = some Heredoc.less ∨ (l.take i).getLast? = some Heredoc.less

/-- The parentheses of a text match. -/
def IsBalanced (t : Text) : Prop :=
  (∀ p, p <+: t → p.count (CodePoint.ofChar ')') ≤ p.count (CodePoint.ofChar '(')) ∧
    t.count (CodePoint.ofChar ')') = t.count (CodePoint.ofChar '(')

/-- The two `<` at a place are inside an arithmetic expansion. -/
def InArithmetic (l : Text) (i : Nat) : Prop :=
  ∃ before inside rest : Text, l = before ++ ("$((" : Text) ++ inside ++ ("))" : Text) ++ rest ∧ IsBalanced inside ∧
    before.length + 3 ≤ i ∧ i + 2 ≤ before.length + 3 + inside.length

instance (l : Text) (i : Nat) : Decidable (IsPair l i) :=
  inferInstanceAs (Decidable (l[i]? = some Heredoc.less ∧ l[i + 1]? = some Heredoc.less))

instance (l : Text) (i : Nat) : Decidable (InRun l i) :=
  inferInstanceAs (Decidable (l[i + 2]? = some Heredoc.less ∨ (l.take i).getLast? = some Heredoc.less))

instance (t : Text) : Decidable (IsBalanced t) :=
  decidable_of_iff ((∀ p ∈ t.inits, p.count (CodePoint.ofChar ')') ≤ p.count (CodePoint.ofChar '(')) ∧
    t.count (CodePoint.ofChar ')') = t.count (CodePoint.ofChar '(')) (by simp only [List.mem_inits, IsBalanced])

/-- The places of pairs in a line. -/
def pairs (l : Text) : List Nat := (List.range l.length).filter fun i => decide (IsPair l i)

theorem mem_pairs_iff {l : Text} {i : Nat} : i ∈ pairs l ↔ IsPair l i := by
  rw [pairs, List.mem_filter, List.mem_range, decide_eq_true_iff]
  refine and_iff_right_of_imp fun hpair => ?_
  exact (List.getElem?_eq_some_iff.1 hpair.1).1

/-- No line of the script opens a heredoc. -/
def OpensNone (ls : List Text) : Prop := ∀ a, a <+: ls → (Scan.after {} a).heredoc = none

/-- The flag of each line by its own text, and by whether the line before it goes on. -/
def ownRelevance (ls : List Text) : List Bool :=
  List.zipWith (fun continued l => !(continued || isInert l.trim)) (false :: ls.map fun l => isContinued l.trim) ls

theorem Scan.next_of_no_operator {s : Scan} {l : Text} (hs : s.heredoc = none)
    (hl : isComment l.trim = false → Heredoc.operators l = []) :
    s.next l = (⟨none, isContinued l.trim⟩, !(s.continued || isInert l.trim)) := by
  have hopened : opened? l.trim = none := by
    unfold opened?
    cases hcomment : isComment l.trim with
    | true => rfl
    | false =>
      rw [Heredoc.find?_trim, Heredoc.find?_eq_head?, hl hcomment]
      rfl
  rw [Scan.next, hs]
  simp only [hopened]

theorem heredoc_after_of_no_operator {s : Scan} {ls : List Text} (hs : s.heredoc = none)
    (hls : ∀ l ∈ ls, isComment l.trim = false → Heredoc.operators l = []) : (s.after ls).heredoc = none := by
  induction ls generalizing s with
  | nil => exact hs
  | cons l ls ih =>
    obtain ⟨hl, hls⟩ := List.forall_mem_cons.1 hls
    rw [Scan.after_cons, Scan.next_of_no_operator hs hl]
    exact ih rfl hls

theorem opensNone_iff {ls : List Text} :
    OpensNone ls ↔ ∀ l ∈ ls, isComment l.trim = false → Heredoc.operators l = [] := by
  constructor
  · intro hnone l hl hcomment
    by_contra hne
    obtain ⟨h, hs, hoperators⟩ := List.exists_cons_of_ne_nil hne
    obtain ⟨a, b, rfl⟩ := List.append_of_mem hl
    have hbefore := hnone a (List.prefix_append a _)
    have hafter := hnone (a ++ [l]) ⟨b, by simp⟩
    rw [Scan.after_append, Scan.after_cons, Scan.after_nil,
      Scan.next_of_operator hbefore hcomment (by rw [hoperators]; rfl)] at hafter
    cases hafter
  · intro hls a ha
    exact heredoc_after_of_no_operator rfl fun l hl => hls l (ha.subset hl)

/-- Without heredocs a line counts by its own text and by the line before it. -/
theorem relevanceFrom_of_no_operator {s : Scan} {ls : List Text} (hs : s.heredoc = none)
    (hls : ∀ l ∈ ls, isComment l.trim = false → Heredoc.operators l = []) :
    relevanceFrom s ls = List.zipWith (fun continued l => !(continued || isInert l.trim))
      (s.continued :: ls.map fun l => isContinued l.trim) ls := by
  induction ls generalizing s with
  | nil => rfl
  | cons l ls ih =>
    obtain ⟨hl, hls⟩ := List.forall_mem_cons.1 hls
    rw [relevanceFrom, Scan.next_of_no_operator hs hl, ih rfl hls, List.map_cons, List.zipWith_cons_cons]

theorem isPair_of_isAt {h : Heredoc} {l : Text} {i : Nat} (hat : Heredoc.IsAt h l i) : IsPair l i := by
  obtain ⟨u, hu, -⟩ := hat.2.exists_eq
  have hplace (j : Nat) : l[i + j]? = (Heredoc.less :: Heredoc.less :: u)[j]? := by
    rw [← hu, List.getElem?_drop]
  exact ⟨hplace 0, hplace 1⟩

/-- No operator is part of a here-string. -/
theorem not_inRun_of_isAt {h : Heredoc} {l : Text} {i : Nat} (hat : Heredoc.IsAt h l i) : ¬ InRun l i := by
  obtain ⟨hbefore, hbegins⟩ := hat
  obtain ⟨u, hu, hhead⟩ := hbegins.exists_eq
  rintro (hafter | hless)
  · have hplace : l[i + 2]? = u.head? := by
      rw [← List.getElem?_drop, hu, List.head?_eq_getElem?]
      rfl
    exact hhead (hplace ▸ hafter)
  · exact hbefore hless

/-- Where each pair of `<` is part of a here-string or of an arithmetic expansion, no heredoc is opened just if no
shift has a name to its right that makes it an operator. Each line counts by its own text and by the line before it
then. -/
theorem opensNone_iff_shifts {ls : List Text}
    (hpairs : ∀ l ∈ ls, ∀ i, IsPair l i → InRun l i ∨ InArithmetic l i) :
    (OpensNone ls ↔
      ∀ l ∈ ls, isComment l.trim = false → ∀ i, InArithmetic l i → ∀ h, ¬ Heredoc.IsAt h l i) ∧
    (OpensNone ls → relevance ls = ownRelevance ls) := by
  constructor
  · rw [opensNone_iff]
    constructor
    · intro hnone l hl hcomment i _ h
      exact Heredoc.operators_eq_nil_iff.1 (hnone l hl hcomment) i h
    · intro hshifts l hl hcomment
      refine Heredoc.operators_eq_nil_iff.2 fun i h hat => ?_
      rcases hpairs l hl i (isPair_of_isAt hat) with hrun | harithmetic
      · exact not_inRun_of_isAt hat hrun
      · exact hshifts l hl hcomment i harithmetic h hat
  · intro hnone
    exact relevanceFrom_of_no_operator rfl (opensNone_iff.1 hnone)

/-- A here-string, a shift by a number and a shift in a comment open nothing. -/
theorem opensNone_iff_shifts_numbers :
    let ls : List Text := ["read x <<<y \\", "z=$(( (x<<2) + 1 ))", "# $((x<<n))"]
    (∀ l ∈ ls, ∀ i, IsPair l i → InRun l i ∨ InArithmetic l i) ∧ OpensNone ls ∧ relevance ls = ownRelevance ls ∧
      ownRelevance ls = [true, false, false] := by
  intro ls
  have hpairs : ∀ l ∈ ls, ∀ i, IsPair l i → InRun l i ∨ InArithmetic l i := by
    simp only [ls, ← mem_pairs_iff, List.forall_mem_cons]
    rw [show pairs "read x <<<y \\" = [7, 8] by decide +kernel, show pairs "z=$(( (x<<2) + 1 ))" = [8] by decide +kernel,
      show pairs "# $((x<<n))" = [6] by decide +kernel]
    simp only [List.forall_mem_cons]
    refine ⟨⟨.inl (by decide), .inl (by decide), nofun⟩, ⟨.inr ?_, nofun⟩, ⟨.inr ?_, nofun⟩, nofun⟩
    · exact ⟨"z=", " (x<<2) + 1 ", "", by decide, by decide, by decide, by decide⟩
    · exact ⟨"# ", "x<<n", "", by decide, by decide, by decide, by decide⟩
  have hoperators : ∀ l ∈ ls, isComment l.trim = false → Heredoc.operators l = [] := by decide +kernel
  obtain ⟨hopens, hown⟩ := opensNone_iff_shifts hpairs
  have hnone : OpensNone ls := hopens.2 fun l hl hcomment i _ h =>
    Heredoc.operators_eq_nil_iff.1 (hoperators l hl hcomment) i h
  exact ⟨hpairs, hnone, hown hnone, by decide +kernel⟩

/-- A shift by a variable opens a heredoc, which hides the lines after it. -/
theorem shift_opens_heredoc :
    let ls : List Text := ["y=$((1<<n))", "echo a"]
    (∀ l ∈ ls, ∀ i, IsPair l i → InRun l i ∨ InArithmetic l i) ∧ ¬ OpensNone ls ∧ irrelevantLines ls = [2] ∧
      relevance ls = [true, false] ∧ ownRelevance ls = [true, true] := by
  intro ls
  have hpairs : ∀ l ∈ ls, ∀ i, IsPair l i → InRun l i ∨ InArithmetic l i := by
    simp only [ls, ← mem_pairs_iff, List.forall_mem_cons]
    rw [show pairs "y=$((1<<n))" = [6] by decide +kernel, show pairs "echo a" = [] by decide +kernel]
    simp only [List.forall_mem_cons]
    refine ⟨⟨.inr ?_, nofun⟩, nofun, nofun⟩
    exact ⟨"y=", "1<<n", "", by decide, by decide, by decide, by decide⟩
  refine ⟨hpairs, ?_, by decide +kernel, by decide +kernel, by decide +kernel⟩
  intro hnone
  have hafter := hnone ["y=$((1<<n))"] ⟨["echo a"], rfl⟩
  exact absurd hafter (by decide +kernel)

/-! ## Continued lines -/

/-- The character that quotes the end of a line. -/
def backslash : CodePoint := CodePoint.ofChar '\\'

/-- The number of backslashes at the end of a line, with nothing after them. -/
def trailingBackslashes (l : Text) : Nat := (l.reverse.takeWhile (· = backslash)).length

/-- The line goes on in the next: it is no comment, and of the backslashes at its end the last is not quoted by the one
before it. -/
def IsJoined (l : Text) : Prop := isComment l.trim = false ∧ trailingBackslashes l % 2 = 1

/-- The line looks as if it went on: it is no comment, and its last character other than a blank is a backslash. -/
def LooksJoined (l : Text) : Prop :=
  isComment l.trim = false ∧ ∃ u blanks : Text, (∀ c ∈ blanks, c.isBlank = true) ∧ l = u ++ backslash :: blanks

instance (l : Text) : Decidable (IsJoined l) :=
  inferInstanceAs (Decidable (isComment l.trim = false ∧ trailingBackslashes l % 2 = 1))

theorem isBlank_backslash : backslash.isBlank = false := by decide

/-- The last character of a line without blanks around it is the last that is no blank. -/
theorem getLast?_trim_eq_some_iff {l : Text} {c : CodePoint} (hc : c.isBlank = false) :
    l.trim.getLast? = some c ↔ ∃ u blanks : Text, (∀ d ∈ blanks, d.isBlank = true) ∧ l = u ++ c :: blanks := by
  constructor
  · intro hlast
    obtain ⟨u, hu⟩ := List.getLast?_eq_some_iff.1 hlast
    obtain ⟨b, e, -, he, hl⟩ := Text.eq_blanks_append_trim l
    refine ⟨b ++ u, e, he, ?_⟩
    rw [hl, hu]
    simp
  · rintro ⟨u, blanks, hblanks, rfl⟩
    have hne : ¬ c.isBlank = true := by rw [hc]; exact Bool.false_ne_true
    obtain ⟨v, hv⟩ : ∃ v, (u ++ c :: blanks).dropWhile CodePoint.isBlank = v ++ c :: blanks := by
      rw [List.dropWhile_append]
      split
      next => exact ⟨[], List.dropWhile_cons_of_neg hne⟩
      next => exact ⟨_, rfl⟩
    have hend : (blanks.reverse ++ c :: v.reverse).dropWhile CodePoint.isBlank = c :: v.reverse := by
      rw [List.dropWhile_append_of_pos fun d hd => hblanks d (List.mem_reverse.1 hd), List.dropWhile_cons_of_neg hne]
    rw [Text.trim, Text.trimRight, hv, List.reverse_append, List.reverse_cons, List.append_assoc, List.singleton_append,
      hend, List.reverse_cons, List.getLast?_concat]

theorem isContinued_trim_iff {l : Text} : isContinued l.trim = true ↔ LooksJoined l := by
  rw [isContinued, Bool.and_eq_true, decide_eq_true_iff, Bool.not_eq_true', LooksJoined, and_comm]
  exact and_congr_right fun _ => getLast?_trim_eq_some_iff isBlank_backslash

/-- What goes on looks like it. -/
theorem IsJoined.looksJoined {l : Text} (h : IsJoined l) : LooksJoined l := by
  obtain ⟨hcomment, hodd⟩ := h
  refine ⟨hcomment, ?_⟩
  rcases List.eq_nil_or_concat l with rfl | ⟨u, c, rfl⟩
  · cases hodd
  · rw [List.concat_eq_append] at hodd ⊢
    refine ⟨u, [], nofun, ?_⟩
    by_cases hc : c = backslash
    · rw [hc]
    · have hnone : trailingBackslashes (u ++ [c]) = 0 := by simp [trailingBackslashes, hc]
      rw [hnone] at hodd
      cases hodd

/-- Without heredocs a line with a command is hidden just if the line before it looks as if it went on. So lines are
hidden that should not be, where that line ends in an even number of backslashes or has blanks after them, and no
others. -/
theorem continuation_hides_iff {ls : List Text} {n : Nat} {l m : Text} (hnone : OpensNone ls) (hl : ls[n]? = some l)
    (hm : ls[n + 1]? = some m) (hown : isInert m.trim = false) :
    (n + 2 ∈ irrelevantLines ls ↔ LooksJoined l) ∧
    ((n + 2 ∈ irrelevantLines ls ↔ IsJoined l) ↔ ¬ (LooksJoined l ∧ trailingBackslashes l % 2 = 0)) := by
  have hhidden : n + 2 ∈ irrelevantLines ls ↔ LooksJoined l := by
    have hflags : relevance ls = ownRelevance ls := relevanceFrom_of_no_operator rfl (opensNone_iff.1 hnone)
    have hflag : (ownRelevance ls)[n + 1]? = some (!isContinued l.trim) := by
      rw [ownRelevance, List.getElem?_zipWith, hm, List.getElem?_cons_succ, List.getElem?_map, hl]
      simp only [Option.map_some, hown, Bool.or_false]
    rw [irrelevantLines, mem_numbersWith, hflags, show n + 2 - 1 = n + 1 from rfl, hflag, Option.some.injEq,
      Bool.not_eq_false', isContinued_trim_iff]
    exact and_iff_right (by omega)
  refine ⟨hhidden, ?_⟩
  rw [hhidden]
  constructor
  · rintro hiff ⟨hlooks, heven⟩
    have hodd := (hiff.1 hlooks).2
    omega
  · intro hnot
    refine ⟨fun hlooks => ⟨hlooks.1, ?_⟩, IsJoined.looksJoined⟩
    have hodd : ¬ trailingBackslashes l % 2 = 0 := fun heven => hnot ⟨hlooks, heven⟩
    omega

/-- A chain of lines that go on, the last with a backslash that is quoted before the one that quotes its end. -/
theorem continuation_hides_iff_chain :
    let ls : List Text := ["# a \\", "b \\", "c \\\\\\", "d"]
    OpensNone ls ∧ ls[2]? = some ("c \\\\\\" : Text) ∧ ls[3]? = some ("d" : Text) ∧ isInert (Text.trim "d") = false ∧
      irrelevantLines ls = [1, 3, 4] ∧ IsJoined "c \\\\\\" ∧ (4 ∈ irrelevantLines ls ↔ IsJoined "c \\\\\\") := by
  intro ls
  have hoperators : ∀ l ∈ ls, isComment l.trim = false → Heredoc.operators l = [] := by decide +kernel
  have hown : isInert (Text.trim "d") = false := by decide +kernel
  have hjoined : IsJoined "c \\\\\\" := by decide +kernel
  have hiff := (continuation_hides_iff (n := 2) (opensNone_iff.2 hoperators) rfl rfl hown).2.2 fun h => by
    exact absurd h.2 (by decide +kernel)
  exact ⟨opensNone_iff.2 hoperators, rfl, rfl, hown, by decide +kernel, hjoined, hiff⟩

/-- Two backslashes at the end of a line, and one with a blank after it, hide the next line. -/
theorem quoted_backslash_hides :
    let ls : List Text := ["echo a\\\\", "echo b \\ ", "echo c"]
    OpensNone ls ∧ (∀ l ∈ ls, isInert l.trim = false) ∧ irrelevantLines ls = [2, 3] ∧
      ¬ (2 ∈ irrelevantLines ls ↔ IsJoined "echo a\\\\") ∧ ¬ (3 ∈ irrelevantLines ls ↔ IsJoined "echo b \\ ") := by
  intro ls
  have hoperators : ∀ l ∈ ls, isComment l.trim = false → Heredoc.operators l = [] := by decide +kernel
  exact ⟨opensNone_iff.2 hoperators, by decide +kernel, by decide +kernel, by decide +kernel, by decide +kernel⟩

end Script

end ShellCoverage
