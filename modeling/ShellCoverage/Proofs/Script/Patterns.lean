import ShellCoverage.Proofs.Script.Heredocs

/-!
# Patterns that backtrack

A pattern is often given as a row of parts, some of which can take more or less of a text. A matcher that backtracks
tries the ways in which it can do so in turn: each part takes first as much as it can, and less only where the parts
after it fail. The leftmost place of a line at which one way succeeds counts, and there the first such way.

The reading of a heredoc's operator tries one way at a place, and each part of it looks at one character only.
`find?_leftmost` says that this is as good: the operator that is found is the one that a matcher would report. It is the
operator at the leftmost place at which there is one, with the longest name that it can have there.

* `Ways`, `Ways.one`, `Ways.many`, `Ways.perhaps`, `Ways.exactly` : the parts of a pattern;
* `Heredoc.tries`, `Heredoc.searched` : the pattern of an operator, at the head of a text and anywhere in a line;
* `Heredoc.head?_tries`, `Heredoc.find?_eq_head?_searched` : the first way is the one that is read;
* `Heredoc.CanStand` : an operator with any name that it can have at a place.
-/

namespace ShellCoverage

/-! ## Parts of patterns -/

/-- The ways in which a part of a pattern takes the head of a text, in the order in which they are tried: what is taken,
and what is left. -/
abbrev Ways := Text → List (Text × Text)

namespace Ways

/-- One character of a class. -/
def one (p : CodePoint → Bool) : Ways
  | [] => []
  | c :: t => if p c then [([c], t)] else []

/-- Characters of a class, as many as there are first, and then one less each time. -/
def many (p : CodePoint → Bool) : Ways
  | [] => [([], [])]
  | c :: t => (if p c then (many p t).map fun w => (c :: w.1, w.2) else []) ++ [([], c :: t)]

/-- One character of a class, or else none. -/
def perhaps (p : CodePoint → Bool) : Ways := fun t => one p t ++ [([], t)]

/-- A given text. -/
def exactly (s : Text) : Ways := fun t => (Text.dropHead? s t).toList.map fun r => (s, r)

section
variable {β : Type} {p : CodePoint → Bool} {f : Text × Text → Option β}

theorem head?_many (p : CodePoint → Bool) (t : Text) : (many p t).head? = some (t.takeWhile p, t.dropWhile p) := by
  induction t with
  | nil => rfl
  | cons c t ih =>
    cases hc : p c with
    | true => simp [many, hc, ih]
    | false => simp [many, hc]

/-- The first way counts if what follows succeeds then, or else fails before every character of the class. -/
theorem findSome?_many {t : Text} (h : f (t.takeWhile p, t.dropWhile p) = none →
      ∀ w r : Text, (∃ c ∈ r.head?, p c = true) → f (w, r) = none) :
    (many p t).findSome? f = f (t.takeWhile p, t.dropWhile p) := by
  induction t generalizing f with
  | nil => simp [many]
  | cons c t ih =>
    cases hc : p c with
    | true =>
      rw [List.takeWhile_cons_of_pos hc, List.dropWhile_cons_of_pos hc] at h ⊢
      have hrest := ih (f := fun w => f (c :: w.1, w.2)) fun hfails w => h hfails (c :: w)
      simp only [many, hc, if_true, List.findSome?_append, List.findSome?_map, Function.comp_def, hrest]
      cases hfirst : f (c :: t.takeWhile p, t.dropWhile p) with
      | some b => rfl
      | none =>
        have hlast : f ([], c :: t) = none := h hfirst [] (c :: t) ⟨c, rfl, hc⟩
        rw [Option.none_or, List.findSome?_cons, hlast, List.findSome?_nil]
    | false => simp [many, hc]

theorem findSome?_perhaps_cons (c : CodePoint) (t : Text) :
    (perhaps p (c :: t)).findSome? f = if p c then (f ([c], t)).or (f ([], c :: t)) else f ([], c :: t) := by
  cases hc : p c with
  | true =>
    simp only [perhaps, one, hc, if_true, List.singleton_append, List.findSome?_cons, List.findSome?_nil]
    cases f ([c], t) with
    | none =>
      rw [Option.none_or]
      cases f ([], c :: t) <;> rfl
    | some b => rfl
  | false =>
    simp only [perhaps, one, hc, Bool.false_eq_true, if_false, List.nil_append, List.findSome?_cons,
      List.findSome?_nil]
    cases f ([], c :: t) <;> rfl

end

theorem head?_map_exactly {β : Type} (s t : Text) (g : Text × Text → β) :
    ((exactly s t).map g).head? = (Text.dropHead? s t).map fun r => g (s, r) := by
  unfold exactly
  cases Text.dropHead? s t <;> rfl

end Ways

/-! ## The pattern of an operator -/

namespace Heredoc
open Ways

/-- A quote around a name. -/
def isQuote (c : CodePoint) : Bool := c = 39 || c = 34

/-- The names at the head of a text, up to a given quote. -/
def nameTries (quote t : Text) : List Text :=
  (one startsName t).flatMap fun (first, t) =>
    (many continuesName t).flatMap fun (more, t) => (exactly quote t).map fun _ => first ++ more

/-- The names at the head of a text, plain or between quotes. -/
def wordTries (t : Text) : List Text := (perhaps isQuote t).flatMap fun (quote, t) => nameTries quote t

/-- The operators at the head of a text, in the order in which a matcher tries them: `<<` and no further `<`, a hyphen
or none, blanks, a quote or none, a name, and the quote again. -/
def tries (t : Text) : List Heredoc :=
  (exactly [less, less] t).flatMap fun (_, t) =>
    if t.head? = some less then []
    else
      (perhaps (· = 45) t).flatMap fun (hyphen, t) =>
        (many CodePoint.isBlank t).flatMap fun (_, t) => (wordTries t).map fun w => ⟨hyphen ≠ [], w⟩

/-- The operators that a matcher tries in a line, from left to right; none directly after a `<`. -/
def searched (line : Text) : List Heredoc :=
  (List.range (line.length + 1)).flatMap fun i =>
    if (line.take i).getLast? = some less then [] else tries (line.drop i)

/-! ## The first way -/

/-- A name goes as far as it can, also before the quote that ends it, since no name has a quote in it. -/
theorem head?_nameTries {quote : Text} (hquote : quote = [] ∨ ∃ q, isQuote q = true ∧ quote = [q]) (t : Text) :
    (nameTries quote t).head? = (name? t).bind fun n => (Text.dropHead? quote n.2).map fun _ => n.1 := by
  unfold nameTries
  cases t with
  | nil => rfl
  | cons c t =>
    rw [name?, one]
    by_cases hc : startsName c = true
    · rw [if_pos hc, if_pos hc, List.flatMap_singleton, List.head?_flatMap, Option.bind_some]
      simp only [head?_map_exactly, List.singleton_append]
      apply findSome?_many
      rintro hfails w r ⟨d, hd, hcontinues⟩
      obtain rfl | ⟨q, hq, rfl⟩ := hquote
      · cases hfails
      · obtain ⟨r, rfl⟩ := List.head?_eq_some_iff.1 hd
        have hne : q ≠ d := by
          rintro rfl
          rw [continuesName_of_isQuote (by simpa [isQuote] using hq)] at hcontinues
          cases hcontinues
        rw [Text.dropHead?, if_neg hne]
        rfl
    · rw [if_neg hc, if_neg hc]
      rfl

theorem word?_cons (c : CodePoint) (t : Text) :
    word? (c :: t) =
      if isQuote c then (name? t).bind fun n => (Text.dropHead? [c] n.2).map fun _ => n.1
      else (name? (c :: t)).map (·.1) := by
  rw [word?, isQuote]
  split
  · split
    next w q r hname =>
      rw [hname]
      by_cases hq : c = q
      · simp [Text.dropHead?, hq]
      · simp [Text.dropHead?, hq, Ne.symm hq]
    next hnone =>
      cases hname : name? t with
      | none => rfl
      | some n =>
        obtain ⟨w, r⟩ := n
        cases r with
        | nil => rfl
        | cons q r => exact absurd hname (hnone w q r)
  · rfl

theorem head?_wordTries (t : Text) : (wordTries t).head? = word? t := by
  unfold wordTries
  rw [List.head?_flatMap]
  cases t with
  | nil => rfl
  | cons c t =>
    have hplain : (nameTries [] (c :: t)).head? = (name? (c :: t)).map (·.1) := by
      rw [head?_nameTries (Or.inl rfl)]
      cases name? (c :: t) <;> rfl
    rw [findSome?_perhaps_cons, word?_cons, hplain]
    cases hc : isQuote c with
    | true =>
      have hnone : name? (c :: t) = none := by
        rw [name?, startsName_of_isQuote (by simpa [isQuote] using hc)]
        rfl
      simp only [if_true, head?_nameTries (Or.inr ⟨c, hc, rfl⟩), hnone, Option.map_none, Option.or_none]
    | false => rfl

/-- No word begins with a character that begins neither a name nor a quoted one. -/
theorem word?_of_head? {t : Text} (h : ∀ c ∈ t.head?, startsWord c = false) : word? t = none := by
  rw [Option.eq_none_iff_forall_ne_some]
  intro w hw
  obtain ⟨c, r, rfl, hc⟩ := startsWord_of_word? hw
  rw [h c rfl] at hc
  cases hc

theorem head?_blanks_wordTries (b : Bool) (t : Text) :
    ((many CodePoint.isBlank t).flatMap fun w => (wordTries w.2).map fun name => Heredoc.mk b name).head? =
      (word? (t.dropWhile CodePoint.isBlank)).map fun name => ⟨b, name⟩ := by
  rw [List.head?_flatMap]
  simp only [List.head?_map, head?_wordTries]
  apply findSome?_many
  rintro - w r ⟨c, hc, hblank⟩
  have hnone : word? r = none := by
    apply word?_of_head?
    intro d hd
    cases hc.symm.trans hd
    rw [← Bool.not_eq_true]
    intro hstarts
    rw [not_isBlank_of_startsWord hstarts] at hblank
    cases hblank
  rw [hnone]
  rfl

theorem head?_hyphen_tries (t : Text) :
    ((perhaps (· = 45) t).flatMap fun w =>
        (many CodePoint.isBlank w.2).flatMap fun v =>
          (wordTries v.2).map fun name => Heredoc.mk (w.1 ≠ []) name).head? =
      afterOperator? t := by
  rw [List.head?_flatMap]
  simp only [head?_blanks_wordTries]
  by_cases hhyphen : t.head? = some 45
  · obtain ⟨r, rfl⟩ := List.head?_eq_some_iff.1 hhyphen
    -- without the hyphen no word would follow
    have hnone : word? ((45 :: r).dropWhile CodePoint.isBlank) = none := by
      rw [List.dropWhile_cons_of_neg (by decide)]
      apply word?_of_head?
      rintro c ⟨⟩
      decide
    rw [findSome?_perhaps_cons, if_pos (by decide)]
    simp only [hnone, Option.map_none, Option.or_none]
    rfl
  · rw [afterOperator?_of_head? hhyphen]
    cases t with
    | nil => rfl
    | cons c t =>
      have hc : ¬ c = 45 := fun hc => hhyphen (congrArg some hc)
      rw [findSome?_perhaps_cons, if_neg (by simpa using hc)]
      rfl

/-- At the head of a text the first way is the operator that is read. -/
theorem head?_tries (t : Text) : (tries t).head? = operatorAt? t := by
  have htail (u : Text) (f : Text × Text → List Heredoc) :
      ((exactly [less, less] (less :: less :: u)).flatMap f).head? = (f ([less, less], u)).head? := by
    simp [exactly, Text.dropHead?]
  cases htwo : Text.dropHead? [less, less] t with
  | none =>
    have hnone : operatorAt? t = none := by
      cases hop : operatorAt? t with
      | none => rfl
      | some h =>
        obtain ⟨u, rfl, -⟩ := (operatorAt?_eq_some_iff.1 hop).exists_eq
        cases htwo
    unfold tries exactly
    rw [htwo, hnone]
    rfl
  | some u =>
    obtain rfl := Text.dropHead?_eq_some htwo
    show ((exactly [less, less] (less :: less :: u)).flatMap _).head? = operatorAt? (less :: less :: u)
    rw [htail, operatorAt?]
    by_cases hless : u.head? = some less
    · simp [hless]
    · simp only [hless, if_false, ne_eq, not_false_eq_true, decide_true, Bool.and_self, if_true]
      exact head?_hyphen_tries u

/-- In a line the first operator that a matcher finds is the one that is found. -/
theorem find?_eq_head?_searched (line : Text) : find? line = (searched line).head? := by
  have hplace (i : Nat) :
      (if (line.take i).getLast? = some less then [] else tries (line.drop i)).head? = at? line i := by
    unfold at?
    split
    · rfl
    · exact head?_tries _
  have hend : at? line line.length = none := by
    unfold at?
    rw [List.drop_length]
    split <;> rfl
  unfold searched
  rw [List.head?_flatMap, find?_eq_head?, operators, List.head?_filterMap, List.range_succ, List.findSome?_append]
  simp only [hplace, List.findSome?_cons, hend, List.findSome?_nil, Option.or_none]

/-! ## The leftmost operator and its longest name -/

/-- The operator can stand at a place of the line: two `<` with no third one before or after them, a hyphen where tabs
are stripped, blanks, a quote or none, the name, and the quote again. The name may go on after its end. -/
def CanStand (h : Heredoc) (l : Text) (i : Nat) : Prop :=
  ∃ before blanks quote rest : Text, before.length = i ∧
    l = before ++ less :: less :: (h.hyphen ++ (blanks ++ (quote ++ (h.terminator ++ (quote ++ rest))))) ∧
    before.getLast? ≠ some less ∧ l[i + 2]? ≠ some less ∧ (∀ c ∈ blanks, c.isBlank = true) ∧
    (quote = [] ∨ quote = [39] ∨ quote = [34]) ∧ IsName h.terminator

section
variable {h : Heredoc} {l : Text} {i : Nat}

theorem IsAt.canStand (hat : IsAt h l i) : CanStand h l i := by
  have hlength : (l.take i).length = i := by
    have hlt := hat.lt_length
    rw [List.length_take]
    omega
  obtain ⟨hbefore, hbegins⟩ := hat
  have hafter : l[i + 2]? ≠ some less := by
    obtain ⟨u, hu, hless⟩ := hbegins.exists_eq
    rw [← List.getElem?_drop, hu]
    rwa [List.head?_eq_getElem?] at hless
  have hline : l = l.take i ++ l.drop i := (List.take_append_drop i l).symm
  generalize l.drop i = t at hbegins hline
  cases hbegins with
  | @plain blanks rest hblanks hname hrest =>
    exact ⟨l.take i, blanks, [], rest, hlength, hline, hbefore, hafter, hblanks, Or.inl rfl, hname⟩
  | @quoted blanks rest q hblanks hname hq =>
    refine ⟨l.take i, blanks, [q], rest, hlength, hline, hbefore, hafter, hblanks, ?_, hname⟩
    exact Or.inr (hq.imp (congrArg ([·])) (congrArg ([·])))

theorem IsName.append {w v : Text} (hw : IsName w) (hv : ∀ c ∈ v, continuesName c = true) : IsName (w ++ v) := by
  obtain ⟨c, t, rfl, hc, ht⟩ := hw
  exact ⟨c, t ++ v, List.cons_append, hc, List.forall_mem_append.2 ⟨ht, hv⟩⟩

/-- Where an operator can stand, there is one with the longest name. -/
theorem CanStand.exists_isAt (hcan : CanStand h l i) :
    ∃ h', IsAt h' l i ∧ h'.stripsTabs = h.stripsTabs ∧ h.terminator <+: h'.terminator := by
  obtain ⟨before, blanks, quote, rest, rfl, hline, hbefore, -, hblanks, hquote, hname⟩ := hcan
  have htake : l.take before.length = before := by rw [hline, List.take_left]
  have hdrop : l.drop before.length =
      less :: less :: (h.hyphen ++ (blanks ++ (quote ++ (h.terminator ++ (quote ++ rest))))) := by
    rw [hline, List.drop_left]
  have hquoted {q : CodePoint} (hq : q = 39 ∨ q = 34) (hquote : quote = [q]) : IsAt h l before.length := by
    refine ⟨by rwa [htake], ?_⟩
    rw [hdrop, hquote]
    exact .quoted hblanks hname hq
  rcases hquote with rfl | hquote | hquote
  · -- the name goes on as far as it can
    have hrest : rest = rest.takeWhile continuesName ++ rest.dropWhile continuesName :=
      List.takeWhile_append_dropWhile.symm
    have hlong : IsName (h.terminator ++ rest.takeWhile continuesName) :=
      hname.append fun c hc => List.mem_takeWhile_imp hc
    have hplain : Begins ⟨h.stripsTabs, h.terminator ++ rest.takeWhile continuesName⟩ (less :: less ::
        (h.hyphen ++ (blanks ++ (h.terminator ++ rest.takeWhile continuesName ++ rest.dropWhile continuesName)))) :=
      .plain hblanks hlong (boundary_dropWhile continuesName rest)
    refine ⟨⟨h.stripsTabs, h.terminator ++ rest.takeWhile continuesName⟩, ⟨by rwa [htake], ?_⟩, rfl,
      List.prefix_append _ _⟩
    rw [hdrop, List.nil_append, List.nil_append]
    rwa [List.append_assoc h.terminator, ← hrest] at hplain
  · exact ⟨h, hquoted (Or.inl rfl) hquote, rfl, List.prefix_refl _⟩
  · exact ⟨h, hquoted (Or.inr rfl) hquote, rfl, List.prefix_refl _⟩

theorem IsAt.unique {h' : Heredoc} (hat : IsAt h l i) (hat' : IsAt h' l i) : h' = h :=
  Option.some.inj ((at?_eq_some_iff.2 hat').symm.trans (at?_eq_some_iff.2 hat))

/-- The operator that is found stands at the leftmost place at which there is one. -/
theorem find?_eq_some_iff : find? l = some h ↔ ∃ i, IsAt h l i ∧ ∀ j h', IsAt h' l j → i ≤ j := by
  have hsorted : (List.range l.length).Pairwise (· < ·) := List.pairwise_lt_range
  rw [find?_eq_head?, operators, List.head?_filterMap, List.findSome?_eq_some_iff]
  constructor
  · rintro ⟨before, i, after, hrange, hat, hnone⟩
    refine ⟨i, at?_eq_some_iff.1 hat, fun j h' hat' => ?_⟩
    rw [hrange, List.pairwise_append] at hsorted
    have hj : j ∈ before ++ i :: after := hrange ▸ List.mem_range.2 hat'.lt_length
    rcases List.mem_append.1 hj with hj | hj
    · have hsome := at?_eq_some_iff.2 hat'
      rw [hnone j hj] at hsome
      cases hsome
    · rcases List.mem_cons.1 hj with rfl | hj
      · exact Nat.le_refl j
      · exact Nat.le_of_lt (List.rel_of_pairwise_cons hsorted.2.1 hj)
  · rintro ⟨i, hat, hleft⟩
    obtain ⟨before, after, hrange⟩ := List.append_of_mem (List.mem_range.2 hat.lt_length)
    refine ⟨before, i, after, hrange, at?_eq_some_iff.2 hat, fun j hj => ?_⟩
    rw [hrange, List.pairwise_append] at hsorted
    have hlt : j < i := hsorted.2.2 j hj i List.mem_cons_self
    rw [Option.eq_none_iff_forall_ne_some]
    intro h' hat'
    have hle := hleft j h' (at?_eq_some_iff.1 hat')
    omega

end

/-- **The operator of a line.** The operator that is found is the first that a matcher finds which backtracks. There is
one just if an operator can stand somewhere in the line, and it is the one at the leftmost such place, with the hyphen
that is there or not and the longest name. -/
theorem find?_leftmost (l : Text) :
    find? l = (searched l).head? ∧ ((find? l).isSome = true ↔ ∃ i h, CanStand h l i) ∧
    ∀ h, find? l = some h ↔
      ∃ i, CanStand h l i ∧ ∀ j h', CanStand h' l j →
        i ≤ j ∧ (j = i → h'.stripsTabs = h.stripsTabs ∧ h'.terminator <+: h.terminator) := by
  refine ⟨find?_eq_head?_searched l, ?_, fun h => ?_⟩
  · rw [Option.isSome_iff_exists]
    constructor
    · rintro ⟨h, hfind⟩
      obtain ⟨i, hat, -⟩ := find?_eq_some_iff.1 hfind
      exact ⟨i, h, hat.canStand⟩
    · rintro ⟨i, h, hcan⟩
      obtain ⟨h', hat, -⟩ := hcan.exists_isAt
      have hne : operators l ≠ [] := fun hnil => operators_eq_nil_iff.1 hnil i h' hat
      obtain ⟨first, rest, hcons⟩ := List.exists_cons_of_ne_nil hne
      exact ⟨first, by rw [find?_eq_head?, hcons]; rfl⟩
  · rw [find?_eq_some_iff]
    constructor
    · rintro ⟨i, hat, hleft⟩
      refine ⟨i, hat.canStand, fun j h' hcan => ?_⟩
      obtain ⟨h'', hat'', hstrips, hname⟩ := hcan.exists_isAt
      refine ⟨hleft j h'' hat'', ?_⟩
      rintro rfl
      obtain rfl := hat.unique hat''
      exact ⟨hstrips.symm, hname⟩
    · rintro ⟨i, hcan, hbest⟩
      obtain ⟨h', hat, hstrips, hname⟩ := hcan.exists_isAt
      have hlongest := ((hbest i h' hat.canStand).2 rfl).2
      have heq : h' = h := by
        obtain ⟨stripsTabs, w⟩ := h
        obtain ⟨stripsTabs', w'⟩ := h'
        rw [Heredoc.mk.injEq]
        exact ⟨hstrips, (hname.eq_of_length_le hlongest.length_le).symm⟩
      subst heq
      exact ⟨i, hat, fun j h'' hat' => (hbest j h'' hat'.canStand).1⟩

end Heredoc

end ShellCoverage
