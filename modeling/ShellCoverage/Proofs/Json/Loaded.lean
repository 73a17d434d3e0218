import ShellCoverage.Proofs.Json.Values
import ShellCoverage.Proofs.Text.Contents

/-!
# Values that are read

A text without surrogates can still have strings with some, through escapes, but no two of these make a pair: the
reader joins them. So all values that are read from a file are plain, and can be read back when they are written
again.

* `Yields` : what a reader gives, provided that it succeeds, and that it leaves no surrogates;
* `yields_readString`, `yields_readValue` : readers, one by one;
* `every_isPlain_of_read` : what a whole text gives.
-/

namespace ShellCoverage

namespace Json

/-! ## Readers -/

section
variable {α β : Type} {P : α → Prop} {Q : β → Prop}

/-- Where a reader succeeds, what it gives has a property, and no surrogates are left. -/
def Yields (P : α → Prop) (x : Except Refusal (α × Text)) : Prop :=
  ∀ a r, x = .ok (a, r) → P a ∧ r.IsScalar

theorem yields_error (f : Refusal) : Yields P (.error f) := nofun

theorem yields_ok {a : α} {r : Text} (ha : P a) (hr : r.IsScalar) : Yields P (.ok (a, r)) := by
  intro b u h
  cases h
  exact ⟨ha, hr⟩

theorem Yields.bind {x : Except Refusal (α × Text)} {f : α × Text → Except Refusal (β × Text)} (hx : Yields P x)
    (hf : ∀ a r, P a → r.IsScalar → Yields Q (f (a, r))) : Yields Q (x >>= f) := by
  intro b u h
  obtain ⟨⟨a, r⟩, ha, hb⟩ := Except.bind_eq_ok_iff.1 h
  obtain ⟨hpa, hr⟩ := hx a r ha
  exact hf a r hpa hr b u hb

/-- A reader whose result is put into another one. -/
theorem Yields.bind_pure {x : Except Refusal (α × Text)} (hx : Yields P x) {g : α → β} (hg : ∀ a, P a → Q (g a)) :
    Yields Q (x >>= fun p => pure (g p.1, p.2)) :=
  hx.bind fun a _ ha hr => yields_ok (hg a ha) hr

end

/-! ## Strings -/

theorem isHigh_eq_false {c : CodePoint} (h : c.isSurrogate = false) : isHigh c.val = false := by
  simp only [CodePoint.isSurrogate, isHigh, Bool.and_eq_false_iff, decide_eq_false_iff_not] at h ⊢
  omega

theorem isLow_eq_false {c : CodePoint} (h : c.isSurrogate = false) : isLow c.val = false := by
  simp only [CodePoint.isSurrogate, isLow, Bool.and_eq_false_iff, decide_eq_false_iff_not] at h ⊢
  omega

theorem isSurrogate_joinPair {high low : Nat} (hhigh : isHigh high = true) (hlow : isLow low = true) :
    (joinPair high low).isSurrogate = false := by
  simp only [isHigh, isLow, Bool.and_eq_true, decide_eq_true_iff] at hhigh hlow
  have hval := Utf8.ofNat_val (n := 0x10000 + (high - 0xD800) * 0x400 + (low - 0xDC00)) (by omega)
  rw [joinPair, CodePoint.isSurrogate, hval]
  simp only [Bool.and_eq_false_iff, decide_eq_false_iff_not]
  omega

theorem isSurrogate_of_simpleEscape? {c x : CodePoint} (h : simpleEscape? c = some x) :
    x.isSurrogate = false := by
  rw [simpleEscape?] at h
  split at h
  next hc =>
    cases h
    simp only [Bool.or_eq_true, decide_eq_true_iff] at hc
    rcases hc with (rfl | rfl) | rfl <;> rfl
  next =>
    repeat' (split at h)
    all_goals cases h
    all_goals rfl

theorem hexValue?_lt {c : CodePoint} {n : Nat} (h : hexValue? c = some n) : n < 16 := by
  rw [hexValue?] at h
  split at h
  next hc =>
    cases h
    simp only [CodePoint.isAsciiDigit, Bool.and_eq_true, decide_eq_true_iff] at hc
    omega
  split at h
  next hc =>
    cases h
    simp only [Bool.and_eq_true, decide_eq_true_iff] at hc
    omega
  split at h
  next hc =>
    cases h
    simp only [Bool.and_eq_true, decide_eq_true_iff] at hc
    omega
  next => cases h

theorem hex4?_lt {a b c d : CodePoint} {n : Nat} (h : hex4? a b c d = some n) : n < 0x10000 := by
  simp only [hex4?, bind, Option.bind_eq_some_iff, pure, Option.some.injEq] at h
  obtain ⟨x, hx, y, hy, z, hz, w, hw, rfl⟩ := h
  have := hexValue?_lt hx
  have := hexValue?_lt hy
  have := hexValue?_lt hz
  have := hexValue?_lt hw
  omega

/-- What a string is that was read from a text: no pair is in it, and a surrogate at its head that ends pairs
comes from an escape at the head of the text. -/
structure IsStringOf (t s : Text) : Prop where
  isUnpaired : s.IsUnpaired
  escaped : ∀ d ∈ s.head?, isLow d.val = true → ∃ p, lowHalf? t = .ok (some p)

theorem isStringOf_nil (t : Text) : IsStringOf t [] := ⟨Text.isUnpaired_nil, nofun⟩

theorem IsStringOf.cons {t r s : Text} {c : CodePoint} (h : IsStringOf r s) (hc : c.isSurrogate = false) :
    IsStringOf t (c :: s) where
  isUnpaired := by
    refine Text.isUnpaired_cons_iff.2 ⟨fun hhigh => ?_, h.isUnpaired⟩
    rw [isHigh_eq_false hc] at hhigh
    cases hhigh
  escaped := by
    intro d hd hlow
    cases hd
    rw [isLow_eq_false hc] at hlow
    cases hlow

/-- An escape that is not joined to what follows. -/
theorem IsStringOf.cons_escape {a b c d e : CodePoint} {r s : Text} {n : Nat} (hn : hex4? a b c d = some n)
    (hjoin : isHigh n = true → lowHalf? (e :: r) = .ok none) (h : IsStringOf (e :: r) s) :
    IsStringOf (92 :: 117 :: a :: b :: c :: d :: e :: r) (CodePoint.ofNat n :: s) := by
  have hval : (CodePoint.ofNat n).val = n := Utf8.ofNat_val (by have := hex4?_lt hn; omega)
  constructor
  · refine Text.isUnpaired_cons_iff.2 ⟨fun hhigh x hx => ?_, h.isUnpaired⟩
    rw [hval] at hhigh
    by_contra hlow
    obtain ⟨p, hp⟩ := h.escaped x hx (Bool.not_eq_false _ ▸ hlow)
    rw [hjoin hhigh] at hp
    cases hp
  · intro x hx hlow
    cases hx
    rw [hval] at hlow
    exact ⟨(n, e :: r), by rw [lowHalf?, hn]; simp only [hlow, if_true]⟩

theorem lowHalf?_eq_some {t r : Text} {n : Nat} (ht : t.IsScalar) (h : lowHalf? t = .ok (some (n, r))) :
    isLow n = true ∧ r.IsScalar := by
  rw [lowHalf?.eq_def] at h
  split at h
  next a b c d e r' =>
    split at h
    next => cases h
    next m hm =>
      simp only [Except.ok.injEq, Option.ite_none_right_eq_some, Option.some.injEq, Prod.mk.injEq] at h
      obtain ⟨hlow, rfl, rfl⟩ := h
      exact ⟨hlow, ht.tail.tail.tail.tail.tail.tail⟩
  next => cases h

theorem yields_readString {opening t : Text} (ht : t.IsScalar) : Yields (IsStringOf t) (readString opening t) := by
  fun_induction readString opening t with
  | case1 | case3 | case4 | case5 | case8 | case9 | case11 => exact yields_error _
  | case2 r => exact yields_ok (isStringOf_nil _) ht.tail
  | case6 a b c d e r n hn hjoin ih =>
    have hnone (hhigh : isHigh n = true) : lowHalf? (e :: r) = .ok none := by
      rw [dif_pos hhigh] at hjoin
      exact hjoin
    exact (ih ht.tail.tail.tail.tail.tail.tail).bind_pure fun s hs => hs.cons_escape hn hnone
  | case7 a b c d e r n hn m r' hjoin ih =>
    have hhigh : isHigh n = true := by
      by_contra hhigh
      rw [dif_neg hhigh] at hjoin
      cases hjoin
    rw [dif_pos hhigh] at hjoin
    obtain ⟨hlow, hr⟩ := lowHalf?_eq_some ht.tail.tail.tail.tail.tail.tail hjoin
    exact (ih hr).bind_pure fun s hs => hs.cons (isSurrogate_joinPair hhigh hlow)
  | case10 c r hc hne x hx ih =>
    exact (ih ht.tail.tail).bind_pure fun s hs => hs.cons (isSurrogate_of_simpleEscape? hx)
  | case12 c r _ _ _ _ hc ih =>
    exact (ih ht.tail).bind_pure fun s hs => hs.cons (Text.isScalar_cons_iff.1 ht).1

/-! ## Numbers and words -/

theorem isScalar_digitsOf {t : Text} (ht : t.IsScalar) : (digitsOf t).2.IsScalar := ht.dropWhile _

theorem isScalar_readWhole {t r : Text} {ds : List Nat} (ht : t.IsScalar) (h : readWhole t = some (ds, r)) :
    r.IsScalar := by
  rw [readWhole.eq_def] at h
  split at h
  next r' =>
    cases h
    exact ht.tail
  next c r' _ =>
    rw [Option.ite_none_right_eq_some] at h
    obtain ⟨-, h⟩ := h
    cases h
    exact isScalar_digitsOf ht
  next => cases h

theorem isScalar_readPlaces {t : Text} (ht : t.IsScalar) : (readPlaces t).2.IsScalar := by
  fun_cases readPlaces t with
  | case1 c r hc ds r' hds =>
    have hr := isScalar_digitsOf ht.tail
    rw [hds] at hr
    exact hr
  | case2 | case3 => exact ht

theorem isScalar_readExponent {t : Text} (ht : t.IsScalar) : (readExponent t).2.IsScalar := by
  fun_cases readExponent t with
  | case1 | case3 | case4 => exact ht
  | case2 e r he negative body hsign ds r' hds hne n =>
    have hbody : body.IsScalar := by
      split at hsign
      · cases hsign
        exact ht.tail.tail
      · cases hsign
        exact ht.tail.tail
      · cases hsign
        exact ht.tail
    have hr := isScalar_digitsOf hbody
    rw [hds] at hr
    exact hr

theorem isScalar_unsigned {t body : Text} {negative : Bool}
    (h : (match t with
      | 45 :: r => (true, r)
      | _ => (false, t)) = (negative, body)) (ht : t.IsScalar) : body.IsScalar := by
  split at h
  · cases h
    exact ht.tail
  · cases h
    exact ht

theorem yields_readNumber {t : Text} (ht : t.IsScalar) : Yields (fun v => v.Every Value.IsPlain) (readNumber t) := by
  have hrest {body r r' : Text} {whole : List Nat} {exponent : Option Int} (hb : body.IsScalar)
      (hwhole : readWhole body = some (whole, r)) (hexponent : readExponent (readPlaces r).2 = (exponent, r')) :
      r'.IsScalar := by
    have hr := isScalar_readExponent (isScalar_readPlaces (isScalar_readWhole hb hwhole))
    rw [hexponent] at hr
    exact hr
  fun_cases readNumber t with
  | case1 | case2 => exact yields_error _
  | case3 negative body hsign whole r hwhole places r' hexponent =>
    exact yields_ok trivial (hrest (isScalar_unsigned hsign ht) hwhole hexponent)
  | case4 negative body hsign whole r hwhole places u exponent r' _ hexponent =>
    exact yields_ok trivial (hrest (isScalar_unsigned hsign ht) hwhole hexponent)

theorem readWord?_eq_some {t r : Text} {v : Value} (ht : t.IsScalar) (h : readWord? t = some (v, r)) :
    v.Every Value.IsPlain ∧ r.IsScalar := by
  rw [readWord?] at h
  obtain ⟨w, hw, hv⟩ := List.exists_of_findSome?_eq_some h
  obtain ⟨u, hu, he⟩ := Option.map_eq_some_iff.1 hv
  cases he
  have hplain : ∀ w ∈ words, w.2.Every Value.IsPlain := by
    simp only [words, List.forall_mem_cons, List.not_mem_nil, false_implies, implies_true, and_true]
    exact ⟨trivial, trivial, trivial, trivial, trivial, trivial⟩
  rw [Text.dropHead?_eq_some hu] at ht
  exact ⟨hplain w hw, ht.of_append⟩

/-! ## Values -/

theorem isScalar_skip {t : Text} (ht : t.IsScalar) : (skip t).IsScalar := ht.dropWhile isSpace

/-- Members of an object, before those with one name are made one. -/
structure ArePlain (ms : List (Text × Value)) : Prop where
  values : Value.EveryMember Value.IsPlain ms
  names : ∀ m ∈ ms, m.1.IsUnpaired

theorem ArePlain.cons {ms : List (Text × Value)} (h : ArePlain ms) {name : Text} {v : Value} (hname : name.IsUnpaired)
    (hv : v.Every Value.IsPlain) : ArePlain ((name, v) :: ms) :=
  ⟨⟨hv, h.values⟩, List.forall_mem_cons.2 ⟨hname, h.names⟩⟩

theorem arePlain_nil : ArePlain [] := ⟨trivial, nofun⟩

/-- An object with one member for each name. -/
theorem ArePlain.object {ms : List (Text × Value)} (h : ArePlain ms) :
    Value.Every Value.IsPlain (.object (Table.ofList ms)) := by
  have hmem : ∀ m ∈ Table.ofList ms, m ∈ ms := fun m => Table.mem_of_mem_ofList
  refine ⟨⟨Table.nodup_ofList ms, fun name hname => ?_⟩, ?_⟩
  · obtain ⟨m, hm, rfl⟩ := List.mem_map.1 hname
    exact h.names m (hmem m hm)
  · exact Value.everyMember_iff.2 fun m hm => Value.everyMember_iff.1 h.values m (hmem m hm)

/-- What the readers of values, items and members give, up to some depth. -/
structure YieldPlain (depth : Nat) : Prop where
  value : ∀ t : Text, t.IsScalar → Yields (fun v => v.Every Value.IsPlain) (readValue depth t)
  items : ∀ t : Text, t.IsScalar → Yields (Value.EveryItem Value.IsPlain) (readItems depth t)
  members : ∀ t : Text, t.IsScalar → Yields ArePlain (readMembers depth t)

theorem yieldPlain_zero : YieldPlain 0 where
  value _ _ := yields_error _
  items _ _ := yields_error _
  members _ _ := yields_error _

namespace YieldPlain
variable {depth : Nat} (h : YieldPlain depth) {t : Text}
include h

theorem next_value (ht : t.IsScalar) : Yields (fun v => v.Every Value.IsPlain) (readValue (depth + 1) t) := by
  rw [readValue.eq_def]
  dsimp only
  split
  next r => exact (yields_readString ht.tail).bind_pure fun s hs => hs.isUnpaired
  next r =>
    have hr := isScalar_skip ht.tail
    split
    next r' hclose => exact yields_ok ⟨trivial, trivial⟩ (hclose ▸ hr).tail
    next => exact (h.items _ hr).bind_pure fun vs hvs => ⟨trivial, hvs⟩
  next r =>
    have hr := isScalar_skip ht.tail
    split
    next r' hclose => exact yields_ok ⟨⟨List.nodup_nil, nofun⟩, trivial⟩ (hclose ▸ hr).tail
    next => exact (h.members _ hr).bind_pure fun ms hms => hms.object
  next =>
    split
    next a ha =>
      obtain ⟨v, r⟩ := a
      obtain ⟨hv, hr⟩ := readWord?_eq_some ht ha
      exact yields_ok hv hr
    next => exact yields_readNumber ht

theorem next_items (ht : t.IsScalar) : Yields (Value.EveryItem Value.IsPlain) (readItems (depth + 1) t) := by
  rw [readItems.eq_def]
  refine (h.value t ht).bind fun v r hv hr => ?_
  have hskip := isScalar_skip hr
  dsimp only
  split
  next r' hclose => exact yields_ok ⟨hv, trivial⟩ (hclose ▸ hskip).tail
  next r' hcomma => exact (h.items _ (isScalar_skip (hcomma ▸ hskip).tail)).bind_pure fun vs hvs => ⟨hv, hvs⟩
  next => exact yields_error _

theorem next_members (ht : t.IsScalar) : Yields ArePlain (readMembers (depth + 1) t) := by
  rw [readMembers.eq_def]
  dsimp only
  split
  next r =>
    refine (yields_readString ht.tail).bind fun name r' hname hr' => ?_
    have hskip := isScalar_skip hr'
    dsimp only
    split
    next r'' hcolon =>
      refine (h.value _ (isScalar_skip (hcolon ▸ hskip).tail)).bind fun v r3 hv hr3 => ?_
      have hskip3 := isScalar_skip hr3
      dsimp only
      split
      next r4 hclose => exact yields_ok (arePlain_nil.cons hname.isUnpaired hv) (hclose ▸ hskip3).tail
      next r4 hcomma =>
        exact (h.members _ (isScalar_skip (hcomma ▸ hskip3).tail)).bind_pure fun ms hms => hms.cons hname.isUnpaired hv
      next => exact yields_error _
    next => exact yields_error _
  next => exact yields_error _

end YieldPlain

theorem yieldPlain (depth : Nat) : YieldPlain depth := by
  induction depth with
  | zero => exact yieldPlain_zero
  | succ depth ih => exact ⟨fun _ => ih.next_value, fun _ => ih.next_items, fun _ => ih.next_members⟩

/-- What is read from a text without surrogates can be read back when it is written again. -/
theorem every_isPlain_of_read {t : Text} (ht : t.IsScalar) {v : Value} (h : read t = .ok v) :
    v.Every Value.IsPlain := by
  rw [read.eq_def] at h
  split at h
  next => cases h
  next =>
    split at h
    next => cases h
    next w r hread =>
      obtain ⟨hw, -⟩ := (yieldPlain _).value _ (isScalar_skip ht) w r hread
      split at h
      next =>
        cases h
        exact hw
      next => cases h

end Json

end ShellCoverage
