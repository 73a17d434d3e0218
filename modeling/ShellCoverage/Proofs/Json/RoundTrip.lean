import ShellCoverage.Proofs.Json.Values

/-!
# Reading back what was written

The reader takes the text of a value from the head of a text, whatever follows, unless the value is a number
and goes on there. Its steps are stated first, one by one; the text of a value is then read by induction on the
value.

* `readValue_layout` : the text of a value is read as the value;
* `read_layout` : the text of a whole file.
-/

namespace ShellCoverage.Json

open Value

/-! ## Blanks -/

theorem skip_cons {c : CodePoint} (h : isSpace c = false) (t : Text) : skip (c :: t) = c :: t :=
  List.dropWhile_cons_of_neg (by simp [h])

theorem skip_lineBreak (level : Nat) (t : Text) : skip (lineBreak level ++ t) = skip t := by
  refine List.dropWhile_append_of_pos fun c hc => ?_
  rw [lineBreak, List.mem_cons, List.mem_replicate] at hc
  rcases hc with rfl | ⟨-, rfl⟩ <;> rfl

theorem endsNumber_lineBreak (level : Nat) (t : Text) : EndsNumber (lineBreak level ++ t) :=
  endsNumber_cons (by decide) (by decide) (by decide) (by decide) _

/-! ## Steps of the reader -/

section steps
variable {depth : Nat} {r r' t : Text} {v : Value}

theorem readValue_text {s : Text} (h : readString (34 :: r) r = .ok (s, r')) :
    readValue (depth + 1) (34 :: r) = .ok (.text s, r') := by
  rw [readValue.eq_2, h]
  rfl

theorem readValue_list (h : ∀ r', skip r ≠ 93 :: r') :
    readValue (depth + 1) (91 :: r) = (readItems depth (skip r)).map fun p => (.list p.1, p.2) := by
  rw [readValue.eq_3]
  split
  next r' hr => exact absurd hr (h r')
  next => cases readItems depth (skip r) <;> rfl

theorem readValue_object (h : ∀ r', skip r ≠ 125 :: r') :
    readValue (depth + 1) (123 :: r) =
      (readMembers depth (skip r)).map fun p => (.object (Table.ofList p.1), p.2) := by
  rw [readValue.eq_4]
  split
  next r' hr => exact absurd hr (h r')
  next => cases readMembers depth (skip r) <;> rfl

theorem readItems_last (h : readValue depth t = .ok (v, r)) (hr : skip r = 93 :: r') :
    readItems (depth + 1) t = .ok ([v], r') := by
  rw [readItems.eq_2, h]
  simp only [bind, Except.bind, hr]
  rfl

theorem readItems_next (h : readValue depth t = .ok (v, r)) (hr : skip r = 44 :: r') :
    readItems (depth + 1) t = (readItems depth (skip r')).map fun p => (v :: p.1, p.2) := by
  rw [readItems.eq_2, h]
  simp only [bind, Except.bind, hr]
  cases readItems depth (skip r') <;> rfl

section members
variable {name t' : Text} (hname : readString (34 :: t) t = .ok (name, t')) (hcolon : skip t' = 58 :: r)
include hname hcolon

theorem readMembers_last (h : readValue depth (skip r) = .ok (v, r')) {u : Text} (hr : skip r' = 125 :: u) :
    readMembers (depth + 1) (34 :: t) = .ok ([(name, v)], u) := by
  rw [readMembers.eq_2, hname]
  simp only [bind, Except.bind, hcolon, h, hr]
  rfl

theorem readMembers_next (h : readValue depth (skip r) = .ok (v, r')) {u : Text} (hr : skip r' = 44 :: u) :
    readMembers (depth + 1) (34 :: t) =
      (readMembers depth (skip u)).map fun p => ((name, v) :: p.1, p.2) := by
  rw [readMembers.eq_2, hname]
  simp only [bind, Except.bind, hcolon, h, hr]
  cases readMembers depth (skip u) <;> rfl

end members

end steps

/-! ## The text of a value -/

theorem writeText_append (t r : Text) : writeText t ++ r = 34 :: (t.flatMap writePoint ++ 34 :: r) := by
  have hquote : CodePoint.ofChar '"' = 34 := rfl
  simp [writeText, hquote]

theorem skip_writeText (name t : Text) : skip (writeText name ++ t) = writeText name ++ t := by
  rw [writeText_append, skip_cons (by decide)]

theorem skip_name (name : Text) (level : Nat) (t : Text) :
    skip (lineBreak level ++ (writeText name ++ t)) = writeText name ++ t := by
  rw [skip_lineBreak, skip_writeText]

/-- Digits are neither blanks nor brackets. -/
theorem ne_of_isAsciiDigit {c d : CodePoint} (h : c.isAsciiDigit = true) (hd : d.isAsciiDigit = false) :
    c ≠ d := by
  rintro rfl
  rw [h] at hd
  cases hd

theorem exists_ofNat (n : Nat) : ∃ d t, Text.ofNat n = d :: t ∧ d.isAsciiDigit = true := by
  have hne : Text.ofNat n ≠ [] := List.map_eq_nil_iff.not.2 Nat.toDigits_ne_nil
  obtain ⟨d, t, ht⟩ := List.exists_cons_of_ne_nil hne
  exact ⟨d, t, ht, isAsciiDigit_of_mem_ofNat (n := n) (by rw [ht]; exact List.mem_cons_self)⟩

/-- An integer begins with a digit, perhaps after a minus sign. -/
theorem exists_ofInt (n : Int) :
    ∃ d t, d.isAsciiDigit = true ∧ (Text.ofInt n = d :: t ∨ Text.ofInt n = 45 :: d :: t) := by
  cases n with
  | ofNat n =>
    obtain ⟨d, t, ht, hd⟩ := exists_ofNat n
    exact ⟨d, t, hd, Or.inl ht⟩
  | negSucc n =>
    obtain ⟨d, t, ht, hd⟩ := exists_ofNat (n + 1)
    exact ⟨d, t, hd, Or.inr (congrArg (45 :: ·) ht)⟩

/-- The words that are values begin with no digit, nor with a minus sign before a digit. -/
theorem readWord?_ofInt (n : Int) (r : Text) : readWord? (Text.ofInt n ++ r) = none := by
  have hwords : ∀ w ∈ words, ∃ x xs, w.1 = x :: xs ∧ x.isAsciiDigit = false ∧
      (x ≠ 45 ∨ ∃ y ys, xs = y :: ys ∧ y.isAsciiDigit = false) := by
    simp only [words, List.forall_mem_cons, List.not_mem_nil, false_implies, implies_true, and_true]
    exact ⟨⟨110, _, rfl, rfl, Or.inl (by decide)⟩, ⟨116, _, rfl, rfl, Or.inl (by decide)⟩,
      ⟨102, _, rfl, rfl, Or.inl (by decide)⟩, ⟨78, _, rfl, rfl, Or.inl (by decide)⟩,
      ⟨73, _, rfl, rfl, Or.inl (by decide)⟩, ⟨45, _, rfl, rfl, Or.inr ⟨73, _, rfl, rfl⟩⟩⟩
  rw [readWord?, List.findSome?_eq_none_iff]
  intro w hw
  obtain ⟨x, xs, hx, hdigit, hnext⟩ := hwords w hw
  obtain ⟨d, t, hd, ht⟩ := exists_ofInt n
  rw [Option.map_eq_none_iff, hx]
  rcases ht with ht | ht
  · rw [ht, List.cons_append, Text.dropHead?, if_neg (Ne.symm (ne_of_isAsciiDigit hd hdigit))]
  · rw [ht, List.cons_append, Text.dropHead?]
    by_cases hminus : x = 45
    · obtain ⟨y, ys, rfl, hy⟩ := hnext.resolve_left (not_not_intro hminus)
      rw [if_pos hminus, List.cons_append, Text.dropHead?, if_neg (Ne.symm (ne_of_isAsciiDigit hd hy))]
    · rw [if_neg hminus]

theorem isSpace_of_isAsciiDigit {d : CodePoint} (hd : d.isAsciiDigit = true) : isSpace d = false := by
  simp [isSpace, ne_of_isAsciiDigit hd (d := 32) (by decide), ne_of_isAsciiDigit hd (d := 9) (by decide),
    ne_of_isAsciiDigit hd (d := 10) (by decide), ne_of_isAsciiDigit hd (d := 13) (by decide)]

theorem lt_of_isAsciiDigit {d : CodePoint} (hd : d.isAsciiDigit = true) : d.val < 0x80 := by
  have hle := of_decide_eq_true (Bool.and_eq_true_iff.1 hd).2
  omega

/-- The text of a value begins with an ASCII character that is no blank and no bracket that closes. -/
theorem exists_layout {v : Value} (h : v.IsExact) (level : Nat) :
    ∃ c t, layout level v = c :: t ∧ isSpace c = false ∧ c ≠ 93 ∧ c ≠ 125 ∧ c.val < 0x80 := by
  cases v with
  | null => exact ⟨110, _, rfl, by decide⟩
  | bool b => cases b <;> exact ⟨_, _, rfl, by decide⟩
  | int n =>
    obtain ⟨d, t, hd, ht⟩ := exists_ofInt n
    rcases ht with ht | ht
    · exact ⟨d, t, ht, isSpace_of_isAsciiDigit hd, ne_of_isAsciiDigit hd (by decide),
        ne_of_isAsciiDigit hd (by decide), lt_of_isAsciiDigit hd⟩
    · exact ⟨45, d :: t, ht, by decide⟩
  | float x => exact h.elim
  | text t => exact ⟨34, _, rfl, by decide⟩
  | list vs => cases vs <;> exact ⟨91, _, rfl, by decide⟩
  | object ms => cases ms <;> exact ⟨123, _, rfl, by decide⟩

theorem readValue_int {n : Int} {depth : Nat} {r : Text} (hn : n.natAbs < 10 ^ Numeral.digitLimit)
    (hr : EndsNumber r) : readValue (depth + 1) (Text.ofInt n ++ r) = .ok (.int n, r) := by
  have hhead (c : CodePoint) (hminus : (45 : CodePoint) ≠ c) (hc : c.isAsciiDigit = false) (r' : Text)
      (h : Text.ofInt n ++ r = c :: r') : False := by
    obtain ⟨d, t, hd, ht | ht⟩ := exists_ofInt n
    · rw [ht] at h
      exact ne_of_isAsciiDigit hd hc (List.cons.inj h).1
    · rw [ht] at h
      exact hminus (List.cons.inj h).1
  rw [readValue.eq_5 _ _ (hhead 34 (by decide) (by decide)) (hhead 91 (by decide) (by decide))
    (hhead 123 (by decide) (by decide)), readWord?_ofInt]
  exact readNumber_ofInt hn hr

theorem endsNumber_layoutItems (vs : List Value) (level close : Nat) (r : Text) :
    EndsNumber (layoutItems level vs ++ (lineBreak close ++ r)) := by
  cases vs with
  | nil => exact endsNumber_lineBreak close r
  | cons v vs => exact endsNumber_cons (by decide) (by decide) (by decide) (by decide) _

theorem endsNumber_layoutMembers (ms : List (Text × Value)) (level close : Nat) (r : Text) :
    EndsNumber (layoutMembers level ms ++ (lineBreak close ++ r)) := by
  cases ms with
  | nil => exact endsNumber_lineBreak close r
  | cons m ms => exact endsNumber_cons (by decide) (by decide) (by decide) (by decide) _

/-- The text of a value, after a line break, is found by the reader. -/
theorem skip_layout {v : Value} (h : v.IsExact) (k level : Nat) (r : Text) :
    skip (lineBreak k ++ (layout level v ++ r)) = layout level v ++ r := by
  obtain ⟨c, t, ht, hspace, -⟩ := exists_layout h level
  rw [skip_lineBreak, ht, List.cons_append, skip_cons hspace]

theorem skip_space {v : Value} (h : v.IsExact) {level : Nat} {r : Text} :
    skip (32 :: (layout level v ++ r)) = layout level v ++ r := by
  obtain ⟨c, t, ht, hspace, -⟩ := exists_layout h level
  have hblank : isSpace 32 = true := rfl
  rw [skip, List.dropWhile_cons_of_pos hblank, ← skip, ht, List.cons_append, skip_cons hspace]

mutual

/-- The text of a value is read as the value. -/
theorem readValue_layout : ∀ (v : Value) (level depth : Nat) (r : Text), v.Every IsSafe → EndsNumber r →
    2 * (layout level v ++ r).length + 2 ≤ depth → readValue depth (layout level v ++ r) = .ok (v, r)
  | _, _, 0, _, _, _, hdepth => absurd hdepth (by omega)
  | .list [], level, depth + 1, r, _, _, _ => rfl
  | .list (v :: vs), level, depth + 1, r, h, _, hdepth => by
    have htext : layout level (.list (v :: vs)) ++ r = 91 :: (lineBreak (level + 1) ++ (layout (level + 1) v ++
        (layoutItems (level + 1) vs ++ (lineBreak level ++ 93 :: r)))) := by
      simp [layout]
    rw [htext] at hdepth ⊢
    generalize htail : layoutItems (level + 1) vs ++ (lineBreak level ++ 93 :: r) = tail at hdepth ⊢
    have hskip := skip_layout h.2.1.here.isExact (level + 1) (level + 1) tail
    have hopen (r' : Text) : layout (level + 1) v ++ tail ≠ 93 :: r' := by
      obtain ⟨c, t, ht, -, hc, -, -⟩ := exists_layout h.2.1.here.isExact (level + 1)
      rw [ht]
      exact fun he => hc (List.cons.inj he).1
    simp only [List.length_cons, List.length_append] at hdepth
    obtain ⟨depth, rfl⟩ : ∃ d, depth = d + 1 := ⟨depth - 1, by omega⟩
    have hv := readValue_layout v (level + 1) depth tail h.2.1 (htail ▸ endsNumber_layoutItems vs _ _ _)
      (by simp only [List.length_append]; omega)
    have hitems := readItems_layoutItems vs v (level + 1) level depth (layout (level + 1) v ++ tail) r h.2.2
      (htail ▸ hv) (by rw [htail]; omega)
    rw [readValue_list (by rw [hskip]; exact hopen), hskip, hitems]
    rfl
  | .object [], level, depth + 1, r, _, _, _ => rfl
  | .object ((name, v) :: ms), level, depth + 1, r, h, _, hdepth => by
    have htext : layout level (.object ((name, v) :: ms)) ++ r = 123 :: (lineBreak (level + 1) ++
        (writeText name ++ 58 :: 32 :: (layout (level + 1) v ++
          (layoutMembers (level + 1) ms ++ (lineBreak level ++ 125 :: r))))) := by
      simp [layout]
    rw [htext] at hdepth ⊢
    generalize htail : layoutMembers (level + 1) ms ++ (lineBreak level ++ 125 :: r) = tail at hdepth ⊢
    obtain ⟨hnodup, hnames⟩ := h.1.isPlain
    obtain ⟨hname, hnames⟩ := List.forall_mem_cons.1 hnames
    simp only [List.length_cons, List.length_append] at hdepth
    obtain ⟨depth, rfl⟩ : ∃ d, depth = d + 1 := ⟨depth - 1, by omega⟩
    have hv := readValue_layout v (level + 1) depth tail h.2.1 (htail ▸ endsNumber_layoutMembers ms _ _ _)
      (by simp only [List.length_append]; omega)
    rw [← skip_space h.2.1.here.isExact] at hv
    have hmembers := readMembers_layoutMembers ms name v (level + 1) level depth
      (32 :: (layout (level + 1) v ++ tail)) r hname (fun m hm => hnames m.1 (List.mem_map_of_mem hm)) h.2.2
      (by rw [htail]; exact hv) (by rw [htail]; omega)
    rw [readValue_object (by rw [skip_name, writeText_append]; exact nofun), skip_name, hmembers]
    exact congrArg (fun ms => Except.ok (Value.object ms, r)) (Table.ofList_of_nodup hnodup)
  | .null, level, depth + 1, r, _, _, _ => rfl
  | .bool true, level, depth + 1, r, _, _, _ => rfl
  | .bool false, level, depth + 1, r, _, _, _ => rfl
  | .int n, level, depth + 1, r, h, hr, _ => readValue_int h.fits hr
  | .float x, level, depth + 1, r, h, _, _ => h.isExact.elim
  | .text t, level, depth + 1, r, h, _, _ => by
    have hlayout : layout level (.text t) ++ r = 34 :: (t.flatMap writePoint ++ 34 :: r) := writeText_append t r
    rw [hlayout]
    exact readValue_text (readString_flatMap_writePoint h.isPlain r)

/-- The items after the first are read up to the bracket. -/
theorem readItems_layoutItems : ∀ (vs : List Value) (v : Value) (level close depth : Nat) (t r : Text),
    EveryItem IsSafe vs →
    readValue depth t = .ok (v, layoutItems level vs ++ (lineBreak close ++ 93 :: r)) →
    2 * (layoutItems level vs ++ (lineBreak close ++ 93 :: r)).length + 2 ≤ depth →
      readItems (depth + 1) t = .ok (v :: vs, r)
  | [], v, level, close, depth, t, r, _, hv, _ => readItems_last hv (skip_lineBreak close _)
  | w :: ws, v, level, close, depth, t, r, h, hv, hdepth => by
    have htext : layoutItems level (w :: ws) ++ (lineBreak close ++ 93 :: r) = 44 :: (lineBreak level ++
        (layout level w ++ (layoutItems level ws ++ (lineBreak close ++ 93 :: r)))) := by
      simp [layoutItems]
    rw [htext] at hv hdepth
    generalize htail : layoutItems level ws ++ (lineBreak close ++ 93 :: r) = tail at hv hdepth
    simp only [List.length_cons, List.length_append] at hdepth
    obtain ⟨depth, rfl⟩ : ∃ d, depth = d + 1 := ⟨depth - 1, by omega⟩
    have hw := readValue_layout w level depth tail h.1 (htail ▸ endsNumber_layoutItems ws _ _ _)
      (by simp only [List.length_append]; omega)
    have hitems := readItems_layoutItems ws w level close depth (layout level w ++ tail) r h.2 (htail ▸ hw)
      (by rw [htail]; omega)
    rw [readItems_next hv (skip_cons (by decide) _), skip_layout h.1.here.isExact, hitems]
    rfl

/-- The members after the first are read up to the brace. -/
theorem readMembers_layoutMembers : ∀ (ms : List (Text × Value)) (name : Text) (v : Value)
    (level close depth : Nat) (t r : Text), name.IsUnpaired → (∀ m ∈ ms, m.1.IsUnpaired) →
    EveryMember IsSafe ms →
    readValue depth (skip t) = .ok (v, layoutMembers level ms ++ (lineBreak close ++ 125 :: r)) →
    2 * (layoutMembers level ms ++ (lineBreak close ++ 125 :: r)).length + 2 ≤ depth →
      readMembers (depth + 1) (writeText name ++ 58 :: t) = .ok ((name, v) :: ms, r)
  | [], name, v, level, close, depth, t, r, hname, _, _, hv, _ => by
    rw [writeText_append]
    exact readMembers_last (readString_flatMap_writePoint hname _) (skip_cons (by decide) _) hv
      (skip_lineBreak close _)
  | (name', w) :: ms, name, v, level, close, depth, t, r, hname, hnames, h, hv, hdepth => by
    have htext : layoutMembers level ((name', w) :: ms) ++ (lineBreak close ++ 125 :: r) =
        44 :: (lineBreak level ++ (writeText name' ++ 58 :: 32 :: (layout level w ++
          (layoutMembers level ms ++ (lineBreak close ++ 125 :: r))))) := by
      simp [layoutMembers]
    rw [htext] at hv hdepth
    generalize htail : layoutMembers level ms ++ (lineBreak close ++ 125 :: r) = tail at hv hdepth
    obtain ⟨hname', hnames⟩ := List.forall_mem_cons.1 hnames
    simp only [List.length_cons, List.length_append] at hdepth
    obtain ⟨depth, rfl⟩ : ∃ d, depth = d + 1 := ⟨depth - 1, by omega⟩
    have hw := readValue_layout w level depth tail h.1 (htail ▸ endsNumber_layoutMembers ms _ _ _)
      (by simp only [List.length_append]; omega)
    rw [← skip_space h.1.here.isExact] at hw
    have hmembers := readMembers_layoutMembers ms name' w level close depth (32 :: (layout level w ++ tail)) r
      hname' hnames h.2 (by rw [htail]; exact hw) (by rw [htail]; omega)
    rw [writeText_append, readMembers_next (readString_flatMap_writePoint hname _) (skip_cons (by decide) _) hv
      (skip_cons (by decide) _), skip_name, hmembers]
    rfl

end

/-- The text of a file that was written is read as the value. -/
theorem read_layout {v : Value} (h : v.Every IsSafe) : read (layout 0 v ++ [10]) = .ok v := by
  obtain ⟨c, t, ht, hspace, -, -, hc⟩ := exists_layout h.here.isExact 0
  have hmark : ∀ u, layout 0 v ++ [10] ≠ 0xFEFF :: u := by
    intro u hu
    rw [ht] at hu
    rw [(List.cons.inj hu).1] at hc
    exact absurd hc (by decide)
  have hskip : skip (layout 0 v ++ [10]) = layout 0 v ++ [10] := by
    rw [ht, List.cons_append, skip_cons hspace]
  have hvalue := readValue_layout v 0 (2 * (layout 0 v ++ [10]).length + 2) [10] h
    (endsNumber_cons (by decide) (by decide) (by decide) (by decide) []) (Nat.le_refl _)
  rw [read.eq_2 _ hmark, hskip, hvalue]
  rfl

end ShellCoverage.Json
