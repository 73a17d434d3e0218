import ShellCoverage.Proofs.Json.RoundTrip

/-!
# Output that ends at a number

An integer that is too large to be written ends the output in the middle. What comes before it is not taken for
a value by the reader: a bracket stays open.

* `Unreadable` : a text at the head of which there is no value, though one may have begun;
* `UnreadableItems`, `UnreadableMembers` : how a list or an object goes on without an end;
* `cutAt_chunks` : the output for a value that has too large an integer;
* `render_of_large` : the output is refused by the reader.
-/

namespace ShellCoverage.Json

open Value

/-- There is no value at the head of the text; a list or an object may have begun. -/
structure Unreadable (u : Text) : Prop where
  head : ∀ c ∈ u.head?, c = 91 ∨ c = 123
  refused : ∀ depth, 2 * u.length + 2 ≤ depth → ∃ f, readValue depth u = .error f

/-- After an item of a list, the list goes on with this text, but does not end. -/
structure UnreadableItems (p : Text) : Prop where
  ends : EndsNumber p
  refused : ∀ depth t v, readValue depth t = .ok (v, p) → 2 * p.length + 2 ≤ depth →
    ∃ f, readItems (depth + 1) t = .error f

/-- After a member of an object, the object goes on with this text, but does not end. -/
structure UnreadableMembers (p : Text) : Prop where
  ends : EndsNumber p
  refused : ∀ depth t v name, Text.IsUnpaired name → readValue depth (skip t) = .ok (v, p) →
    2 * p.length + 2 ≤ depth → ∃ f, readMembers (depth + 1) (writeText name ++ 58 :: t) = .error f

/-! ## Steps of the reader that fail -/

section steps
variable {depth : Nat} {r r' t : Text} {v : Value} {f : Refusal}

theorem readItems_error (h : readValue depth t = .error f) : readItems (depth + 1) t = .error f := by
  rw [readItems.eq_2, h]
  rfl

theorem readItems_nil (h : readValue depth t = .ok (v, [])) :
    readItems (depth + 1) t = .error (.malformed .missingComma []) := by
  rw [readItems.eq_2, h]
  rfl

theorem readMembers_error {name : Text} (hname : name.IsUnpaired) (h : readValue depth (skip t) = .error f) :
    readMembers (depth + 1) (writeText name ++ 58 :: t) = .error f := by
  rw [writeText_append, readMembers.eq_2, readString_flatMap_writePoint hname]
  simp only [bind, Except.bind, skip_cons (c := 58) (by decide), h]

end steps

namespace Unreadable

theorem nil : Unreadable [] where
  head := nofun
  refused depth hdepth := by
    obtain ⟨depth, rfl⟩ : ∃ d, depth = d + 1 := ⟨depth - 1, by simp at hdepth; omega⟩
    exact ⟨_, rfl⟩

theorem skip_eq {u : Text} (h : Unreadable u) : skip u = u := by
  cases u with
  | nil => rfl
  | cons c u =>
    rcases h.head c rfl with rfl | rfl <;> exact skip_cons (by decide) u

theorem skip_blank {u : Text} (h : Unreadable u) : skip (32 :: u) = u := by
  have hblank : isSpace 32 = true := rfl
  rw [skip, List.dropWhile_cons_of_pos hblank, ← skip, h.skip_eq]

/-- A list that does not end. -/
theorem list {u : Text} (level : Nat) (hhead : ∀ r', u ≠ 93 :: r') (hskip : skip u = u)
    (hitems : ∀ depth, 2 * u.length + 3 ≤ depth → ∃ f, readItems depth u = .error f) :
    Unreadable (91 :: (lineBreak level ++ u)) where
  head c hc := by
    cases hc
    exact Or.inl rfl
  refused depth hdepth := by
    simp only [List.length_cons, List.length_append] at hdepth
    obtain ⟨depth, rfl⟩ : ∃ d, depth = d + 1 := ⟨depth - 1, by omega⟩
    obtain ⟨f, hf⟩ := hitems depth (by omega)
    have hu : skip (lineBreak level ++ u) = u := by rw [skip_lineBreak, hskip]
    exact ⟨f, by rw [readValue_list (by rw [hu]; exact hhead), hu, hf]; rfl⟩

/-- An object that does not end. -/
theorem object {u : Text} (level : Nat) (hhead : ∀ r', u ≠ 125 :: r') (hskip : skip u = u)
    (hmembers : ∀ depth, 2 * u.length + 3 ≤ depth → ∃ f, readMembers depth u = .error f) :
    Unreadable (123 :: (lineBreak level ++ u)) where
  head c hc := by
    cases hc
    exact Or.inr rfl
  refused depth hdepth := by
    simp only [List.length_cons, List.length_append] at hdepth
    obtain ⟨depth, rfl⟩ : ∃ d, depth = d + 1 := ⟨depth - 1, by omega⟩
    obtain ⟨f, hf⟩ := hmembers depth (by omega)
    have hu : skip (lineBreak level ++ u) = u := by rw [skip_lineBreak, hskip]
    exact ⟨f, by rw [readValue_object (by rw [hu]; exact hhead), hu, hf]; rfl⟩

end Unreadable

namespace Unreadable
variable {u : Text}

theorem ne_bracket (h : Unreadable u) (r' : Text) : u ≠ 93 :: r' := by
  rintro rfl
  rcases h.head 93 rfl with he | he <;> exact absurd he (by decide)

theorem refused_items (h : Unreadable u) (depth : Nat) (hdepth : 2 * u.length + 3 ≤ depth) :
    ∃ f, readItems depth u = .error f := by
  obtain ⟨depth, rfl⟩ : ∃ d, depth = d + 1 := ⟨depth - 1, by omega⟩
  obtain ⟨f, hf⟩ := h.refused depth (by omega)
  exact ⟨f, readItems_error hf⟩

theorem refused_members (h : Unreadable u) {name : Text} (hname : name.IsUnpaired) (depth : Nat)
    (hdepth : 2 * (writeText name ++ 58 :: 32 :: u).length + 3 ≤ depth) :
    ∃ f, readMembers depth (writeText name ++ 58 :: 32 :: u) = .error f := by
  simp only [List.length_cons, List.length_append] at hdepth
  obtain ⟨depth, rfl⟩ : ∃ d, depth = d + 1 := ⟨depth - 1, by omega⟩
  obtain ⟨f, hf⟩ := h.refused depth (by omega)
  rw [← h.skip_blank] at hf
  exact ⟨f, readMembers_error hname hf⟩

end Unreadable

theorem skip_layout_append {v : Value} (h : v.IsExact) (level : Nat) (r : Text) :
    skip (layout level v ++ r) = layout level v ++ r := by
  obtain ⟨c, t, ht, hspace, -⟩ := exists_layout h level
  rw [ht, List.cons_append, skip_cons hspace]

theorem layout_append_ne {v : Value} (h : v.IsExact) (level : Nat) (r r' : Text) :
    layout level v ++ r ≠ 93 :: r' := by
  obtain ⟨c, t, ht, -, hc, -⟩ := exists_layout h level
  rw [ht]
  exact fun he => hc (List.cons.inj he).1

namespace UnreadableItems
variable {u p : Text} {w : Value}

/-- A list that does not end after its first item. -/
theorem of_first (h : UnreadableItems p) (hw : w.Every IsSafe) (level depth : Nat)
    (hdepth : 2 * (layout level w ++ p).length + 3 ≤ depth) :
    ∃ f, readItems depth (layout level w ++ p) = .error f := by
  obtain ⟨depth, rfl⟩ : ∃ d, depth = d + 1 := ⟨depth - 1, by omega⟩
  have hread := readValue_layout w level depth p hw h.ends (by omega)
  simp only [List.length_append] at hdepth
  exact h.refused depth _ w hread (by omega)

theorem nil : UnreadableItems [] where
  ends := endsNumber_nil
  refused _ _ _ hv _ := ⟨_, readItems_nil hv⟩

/-- The next item does not end. -/
theorem begun (h : Unreadable u) (level : Nat) : UnreadableItems (44 :: (lineBreak level ++ u)) where
  ends := endsNumber_cons (by decide) (by decide) (by decide) (by decide) _
  refused depth t v hv hdepth := by
    simp only [List.length_cons, List.length_append] at hdepth
    obtain ⟨depth, rfl⟩ : ∃ d, depth = d + 1 := ⟨depth - 1, by omega⟩
    obtain ⟨f, hf⟩ := h.refused_items (depth + 1) (by omega)
    rw [readItems_next hv (skip_cons (by decide) _), skip_lineBreak, h.skip_eq, hf]
    exact ⟨f, rfl⟩

/-- The next item ends, and the list goes on. -/
theorem next (hw : w.Every IsSafe) (h : UnreadableItems p) (level : Nat) :
    UnreadableItems (44 :: (lineBreak level ++ (layout level w ++ p))) where
  ends := endsNumber_cons (by decide) (by decide) (by decide) (by decide) _
  refused depth t v hv hdepth := by
    simp only [List.length_cons, List.length_append] at hdepth
    obtain ⟨depth, rfl⟩ : ∃ d, depth = d + 1 := ⟨depth - 1, by omega⟩
    obtain ⟨f, hf⟩ := h.of_first hw level (depth + 1) (by simp only [List.length_append]; omega)
    rw [readItems_next hv (skip_cons (by decide) _), skip_layout hw.here.isExact, hf]
    exact ⟨f, rfl⟩

end UnreadableItems

namespace UnreadableMembers
variable {u p name : Text} {w : Value}

/-- An object that does not end after its first member. -/
theorem of_first (h : UnreadableMembers p) (hname : name.IsUnpaired) (hw : w.Every IsSafe) (level depth : Nat)
    (hdepth : 2 * (writeText name ++ 58 :: 32 :: (layout level w ++ p)).length + 3 ≤ depth) :
    ∃ f, readMembers depth (writeText name ++ 58 :: 32 :: (layout level w ++ p)) = .error f := by
  simp only [List.length_cons, List.length_append] at hdepth
  obtain ⟨depth, rfl⟩ : ∃ d, depth = d + 1 := ⟨depth - 1, by omega⟩
  have hread := readValue_layout w level depth p hw h.ends (by simp only [List.length_append]; omega)
  rw [← skip_space hw.here.isExact] at hread
  exact h.refused depth _ w name hname hread (by omega)

theorem next_eq {depth : Nat} {t r r' : Text} {v : Value} {name : Text} (hname : name.IsUnpaired)
    (hv : readValue depth (skip t) = .ok (v, r)) (hr : skip r = 44 :: r') :
    readMembers (depth + 1) (writeText name ++ 58 :: t) =
      (readMembers depth (skip r')).map fun p => ((name, v) :: p.1, p.2) := by
  rw [writeText_append, readMembers_next (readString_flatMap_writePoint hname _) (skip_cons (by decide) _) hv hr]

/-- The value of the next member does not end. -/
theorem begun (hname : name.IsUnpaired) (h : Unreadable u) (level : Nat) :
    UnreadableMembers (44 :: (lineBreak level ++ (writeText name ++ 58 :: 32 :: u))) where
  ends := endsNumber_cons (by decide) (by decide) (by decide) (by decide) _
  refused depth t v name' hname' hv hdepth := by
    simp only [List.length_cons, List.length_append] at hdepth
    obtain ⟨depth, rfl⟩ : ∃ d, depth = d + 1 := ⟨depth - 1, by omega⟩
    obtain ⟨f, hf⟩ := h.refused_members hname (depth + 1)
      (by simp only [List.length_cons, List.length_append]; omega)
    rw [next_eq hname' hv (skip_cons (by decide) _), skip_name, hf]
    exact ⟨f, rfl⟩

/-- The next member ends, and the object goes on. -/
theorem next (hname : name.IsUnpaired) (hw : w.Every IsSafe) (h : UnreadableMembers p) (level : Nat) :
    UnreadableMembers (44 :: (lineBreak level ++ (writeText name ++ 58 :: 32 :: (layout level w ++ p)))) where
  ends := endsNumber_cons (by decide) (by decide) (by decide) (by decide) _
  refused depth t v name' hname' hv hdepth := by
    simp only [List.length_cons, List.length_append] at hdepth
    obtain ⟨depth, rfl⟩ : ∃ d, depth = d + 1 := ⟨depth - 1, by omega⟩
    obtain ⟨f, hf⟩ := h.of_first hname hw level (depth + 1)
      (by simp only [List.length_cons, List.length_append]; omega)
    rw [next_eq hname' hv (skip_cons (by decide) _), skip_name, hf]
    exact ⟨f, rfl⟩

end UnreadableMembers

/-! ## The output for a value -/

/-- The pieces give no text, but end with `p`, whatever comes after them. -/
def CutAt (cs : List Chunk) (p : Text) : Prop := ∃ e, ∀ cs', assemble (cs ++ cs') = .error (p, e)

theorem CutAt.cons {cs : List Chunk} {p : Text} (h : CutAt cs p) (t : Text) : CutAt (.ok t :: cs) (t ++ p) := by
  obtain ⟨e, he⟩ := h
  exact ⟨e, fun cs' => by rw [List.cons_append, assemble_ok_cons, he, addHead]⟩

theorem CutAt.append {cs : List Chunk} {p : Text} (h : CutAt cs p) (ds : List Chunk) : CutAt (cs ++ ds) p := by
  obtain ⟨e, he⟩ := h
  exact ⟨e, fun cs' => by rw [List.append_assoc, he]⟩

/-- A value that is written, and then the end. -/
theorem CutAt.after {ds : List Chunk} {p : Text} (h : CutAt ds p) {v : Value} (hv : v.Every Fits) (lead : Text)
    (level : Nat) : CutAt (chunks lead level v ++ ds) (lead ++ (layout level v ++ p)) := by
  obtain ⟨e, he⟩ := h
  refine ⟨e, fun cs' => ?_⟩
  rw [List.append_assoc, assemble_chunks v lead level _ hv, he, addHead, List.append_assoc]

theorem Unreadable.of_no_lead {p : Text} (h : p = [] ∨ ∃ u, p = [] ++ u ∧ Unreadable u) : Unreadable p := by
  rcases h with rfl | ⟨u, rfl, hu⟩
  · exact .nil
  · exact hu

mutual

/-- What is written of a value that has too large an integer. -/
theorem cutAt_chunks : ∀ (v : Value) (lead : Text) (level : Nat), v.Every IsRegular → ¬ v.Every Fits →
    ∃ p, CutAt (chunks lead level v) p ∧ (p = [] ∨ ∃ u, p = lead ++ u ∧ Unreadable u)
  | .list [], _, _, _, hlarge => absurd ⟨trivial, trivial⟩ hlarge
  | .list (v :: vs), lead, level, h, hlarge => by
    rw [chunks]
    by_cases hv : v.Every Fits
    · obtain ⟨p, hp, hunreadable⟩ := cutAt_itemChunks vs (level + 1) h.2.2 fun hvs => hlarge ⟨trivial, hv, hvs⟩
      have hsafe := h.2.1.isSafe hv
      refine ⟨_, ((hp.after hv _ (level + 1)).cons lead).append _, Or.inr ⟨_, rfl, ?_⟩⟩
      exact .list (level + 1) (layout_append_ne hsafe.here.isExact (level + 1) p)
        (skip_layout_append hsafe.here.isExact (level + 1) p) (hunreadable.of_first hsafe (level + 1))
    · obtain ⟨p, hp, hunreadable⟩ :=
        cutAt_chunks v (("[" : Text) ++ lineBreak (level + 1)) (level + 1) h.2.1 hv
      refine ⟨_, ((hp.append _).cons lead).append _, Or.inr ⟨p, rfl, ?_⟩⟩
      rcases hunreadable with rfl | ⟨u, rfl, hu⟩
      · exact .nil
      · exact .list (level + 1) hu.ne_bracket hu.skip_eq hu.refused_items
  | .object [], _, _, _, hlarge => absurd ⟨trivial, trivial⟩ hlarge
  | .object ((name, v) :: ms), lead, level, h, hlarge => by
    rw [chunks]
    obtain ⟨hname, hnames⟩ := List.forall_mem_cons.1 h.1.isPlain.2
    have hopen (t : Text) : lead ++ ("\x7b" : Text) ++ lineBreak (level + 1) ++ writeText name ++ (": " : Text) ++ t =
        lead ++ 123 :: (lineBreak (level + 1) ++ (writeText name ++ 58 :: 32 :: t)) := by
      simp only [List.append_assoc]
      rfl
    have hbrace (t r' : Text) : writeText name ++ t ≠ 125 :: r' := by
      rw [writeText_append]
      exact nofun
    by_cases hv : v.Every Fits
    · obtain ⟨p, hp, hunreadable⟩ := cutAt_memberChunks ms (level + 1)
        (fun m hm => hnames m.1 (List.mem_map_of_mem hm)) h.2.2 fun hms => hlarge ⟨trivial, hv, hms⟩
      refine ⟨_, ((hp.after hv _ (level + 1)).cons _).append _, Or.inr ⟨_, hopen _, ?_⟩⟩
      exact .object (level + 1) (hbrace _) (skip_writeText _ _)
        (hunreadable.of_first hname (h.2.1.isSafe hv) (level + 1))
    · obtain ⟨p, hp, hunreadable⟩ := cutAt_chunks v [] (level + 1) h.2.1 hv
      have hu := Unreadable.of_no_lead hunreadable
      refine ⟨_, ((hp.append _).cons _).append _, Or.inr ⟨_, hopen _, ?_⟩⟩
      exact .object (level + 1) (hbrace _) (skip_writeText _ _) (hu.refused_members hname)
  | .int n, lead, level, _, hlarge => by
    have hle : 10 ^ Numeral.digitLimit ≤ n.natAbs := Nat.not_lt.1 hlarge
    have hchunks : chunks lead level (.int n) = [after lead (scalarChunk (.int n))] := rfl
    rw [scalarChunk, Numeral.writeInt, if_pos hle] at hchunks
    exact ⟨[], ⟨.tooLarge, fun cs' => by rw [hchunks]; rfl⟩, Or.inl rfl⟩
  | .null, _, _, _, hlarge | .bool _, _, _, _, hlarge | .float _, _, _, _, hlarge
  | .text _, _, _, _, hlarge => absurd trivial hlarge

theorem cutAt_itemChunks : ∀ (vs : List Value) (level : Nat), EveryItem IsRegular vs → ¬ EveryItem Fits vs →
    ∃ p, CutAt (itemChunks level vs) p ∧ UnreadableItems p
  | [], _, _, hlarge => absurd trivial hlarge
  | v :: vs, level, h, hlarge => by
    rw [itemChunks]
    by_cases hv : v.Every Fits
    · obtain ⟨p, hp, hunreadable⟩ := cutAt_itemChunks vs level h.2 fun hvs => hlarge ⟨hv, hvs⟩
      exact ⟨_, hp.after hv _ level, hunreadable.next (h.1.isSafe hv) level⟩
    · obtain ⟨p, hp, hunreadable⟩ := cutAt_chunks v (("," : Text) ++ lineBreak level) level h.1 hv
      refine ⟨p, hp.append _, ?_⟩
      rcases hunreadable with rfl | ⟨u, rfl, hu⟩
      · exact .nil
      · exact .begun hu level

theorem cutAt_memberChunks : ∀ (ms : List (Text × Value)) (level : Nat), (∀ m ∈ ms, m.1.IsUnpaired) →
    EveryMember IsRegular ms → ¬ EveryMember Fits ms →
      ∃ p, CutAt (memberChunks level ms) p ∧ UnreadableMembers p
  | [], _, _, _, hlarge => absurd trivial hlarge
  | (name, v) :: ms, level, hnames, h, hlarge => by
    rw [memberChunks]
    obtain ⟨hname, hnames⟩ := List.forall_mem_cons.1 hnames
    have hnext (t : Text) : ("," : Text) ++ lineBreak level ++ writeText name ++ (": " : Text) ++ t =
        44 :: (lineBreak level ++ (writeText name ++ 58 :: 32 :: t)) := by
      simp only [List.append_assoc]
      rfl
    by_cases hv : v.Every Fits
    · obtain ⟨p, hp, hunreadable⟩ := cutAt_memberChunks ms level hnames h.2 fun hms => hlarge ⟨hv, hms⟩
      refine ⟨_, (hp.after hv [] level).cons _, ?_⟩
      rw [hnext]
      exact hunreadable.next hname (h.1.isSafe hv) level
    · obtain ⟨p, hp, hunreadable⟩ := cutAt_chunks v [] level h.1 hv
      have hu := Unreadable.of_no_lead hunreadable
      refine ⟨_, (hp.append _).cons _, ?_⟩
      rw [hnext]
      exact .begun hname hu level

end

/-! ## The output as a whole -/

theorem Unreadable.read_eq_error {u : Text} (h : Unreadable u) : ∃ e, read u = .error e := by
  have hmark : ∀ r, u ≠ 0xFEFF :: r := by
    rintro r rfl
    rcases h.head 0xFEFF rfl with he | he <;> exact absurd he (by decide)
  obtain ⟨f, hf⟩ := h.refused (2 * u.length + 2) (Nat.le_refl _)
  exact ⟨f.locate u, by rw [read.eq_2 u hmark, h.skip_eq, hf]⟩

/-- What is written of a value that has too large an integer is refused by the reader. -/
theorem render_of_large {v : Value} (h : v.Every IsRegular) (hlarge : ¬ v.Every Fits) :
    ∃ p e, render v = .error (p, e) ∧ ∃ f, read p = .error f := by
  obtain ⟨p, ⟨e, he⟩, hp⟩ := cutAt_chunks v [] 0 h hlarge
  have hrender : render v = .error (p, e) := by
    rw [render, ← he [], List.append_nil]
  refine ⟨p, e, hrender, ?_⟩
  rcases hp with rfl | ⟨u, rfl, hu⟩
  · exact Unreadable.nil.read_eq_error
  · exact hu.read_eq_error

/-- What was written in full has integers that are small enough. -/
theorem every_fits_of_render {v : Value} (h : v.Every IsRegular) {t : Text} (ht : render v = .ok t) :
    v.Every Fits := by
  by_contra hlarge
  obtain ⟨p, e, hp, -⟩ := render_of_large h hlarge
  cases ht.symm.trans hp

end ShellCoverage.Json
