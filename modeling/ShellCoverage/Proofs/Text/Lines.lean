import ShellCoverage.Proofs.Text.Utf8
import ShellCoverage.Tracer.Stream

/-!
# Lines of bytes and lines of text

`cutAfter x` cuts a list after each `x`. A stream of bytes is cut after each line feed, and its text is cut
at the same places: a line feed is never part of a longer character.

* `IsCut`, `isCut_iff` : the cut by what its pieces are;
* `Stream.lines_eq_cutAfter`, `Stream.isCut_lines` : the lines of a stream are such a cut;
* `cutAfter_flatMap` : a concatenation of parts that end in `x` is cut part by part;
* `map_ofBytes_lines` : decoding line by line and cutting the decoded text give the same lines.
-/

namespace ShellCoverage

/-- The pieces make up the list, each of them ends after its first `x`, and only the last one may lack it. -/
structure IsCut {α : Type} (x : α) (t : List α) (ls : List (List α)) : Prop where
  flatten_eq : ls.flatten = t
  ne_nil : ∀ l ∈ ls, l ≠ []
  notMem : ∀ l ∈ ls, x ∉ l.dropLast
  ended : ∀ l ∈ ls.dropLast, l.getLast? = some x

section cut
variable {α : Type} [DecidableEq α] {x : α}

/-- The pieces of a list, each of which ends after an `x`; the last one may lack it. -/
def cutAfter (x : α) : List α → List (List α)
  | [] => []
  | c :: t =>
    if c = x then [c] :: cutAfter x t
    else
      match cutAfter x t with
      | [] => [[c]]
      | l :: ls => (c :: l) :: ls

theorem cutAfter_append_cons {a : List α} (h : x ∉ a) (b : List α) :
    cutAfter x (a ++ x :: b) = (a ++ [x]) :: cutAfter x b := by
  induction a with
  | nil => rw [List.nil_append, cutAfter, if_pos rfl, List.nil_append]
  | cons c a ih =>
    rw [List.mem_cons, not_or] at h
    rw [List.cons_append, cutAfter, if_neg (Ne.symm h.1), ih h.2, List.cons_append]

theorem cutAfter_of_notMem {a : List α} (h : x ∉ a) (hne : a ≠ []) : cutAfter x a = [a] := by
  induction a with
  | nil => exact absurd rfl hne
  | cons c a ih =>
    rw [List.mem_cons, not_or] at h
    rw [cutAfter, if_neg (Ne.symm h.1)]
    cases a with
    | nil => rfl
    | cons y a => rw [ih h.2 (List.cons_ne_nil y a)]

/-- A list holds no `x`, or it has a first one. -/
theorem notMem_or_eq_append (x : α) (t : List α) : x ∉ t ∨ ∃ a b, t = a ++ x :: b ∧ x ∉ a := by
  by_cases h : x ∈ t
  · exact Or.inr (List.eq_append_cons_of_mem h)
  · exact Or.inl h

theorem cutAfter_ne_nil {t : List α} (h : t ≠ []) : cutAfter x t ≠ [] := by
  rcases notMem_or_eq_append x t with hx | ⟨a, b, rfl, ha⟩
  · rw [cutAfter_of_notMem hx h]
    exact List.cons_ne_nil _ _
  · rw [cutAfter_append_cons ha]
    exact List.cons_ne_nil _ _

theorem flatten_cutAfter (t : List α) : (cutAfter x t).flatten = t := by
  induction t with
  | nil => rfl
  | cons c t ih =>
    rw [cutAfter]
    split
    · rw [List.flatten_cons, ih, List.singleton_append]
    · cases hcut : cutAfter x t with
      | nil =>
        rw [hcut, List.flatten_nil] at ih
        rw [← ih]
        rfl
      | cons l ls =>
        rw [hcut, List.flatten_cons] at ih
        rw [List.flatten_cons, List.cons_append, ih]

theorem ne_nil_of_mem_cutAfter {l t : List α} (h : l ∈ cutAfter x t) : l ≠ [] := by
  induction t generalizing l with
  | nil => cases h
  | cons c t ih =>
    rw [cutAfter] at h
    split at h
    · rcases List.mem_cons.1 h with rfl | h
      · exact List.cons_ne_nil _ _
      · exact ih h
    · split at h
      next =>
        rw [List.mem_singleton.1 h]
        exact List.cons_ne_nil _ _
      next l' ls hcut =>
        rcases List.mem_cons.1 h with rfl | h
        · exact List.cons_ne_nil _ _
        · exact ih (hcut ▸ List.mem_cons_of_mem l' h)

/-- What comes after an `x` does not change the pieces before it. -/
theorem cutAfter_append (a b : List α) :
    cutAfter x (a ++ [x] ++ b) = cutAfter x (a ++ [x]) ++ cutAfter x b := by
  induction a with
  | nil => rw [List.nil_append, List.singleton_append, cutAfter, if_pos rfl, cutAfter, if_pos rfl]; rfl
  | cons c a ih =>
    rw [List.cons_append, List.cons_append, cutAfter, cutAfter, ih]
    split
    · rfl
    · cases hcut : cutAfter x (a ++ [x]) with
      | nil => exact absurd hcut (cutAfter_ne_nil (by simp))
      | cons l ls => rfl

/-- A concatenation of parts that end in `x` is cut part by part. -/
theorem cutAfter_flatMap {β : Type} (f : β → List α) (cs : List β) :
    cutAfter x (cs.flatMap fun c => f c ++ [x]) = cs.flatMap fun c => cutAfter x (f c ++ [x]) := by
  induction cs with
  | nil => rfl
  | cons c cs ih => rw [List.flatMap_cons, List.flatMap_cons, cutAfter_append, ih]

/-- A piece is a part of the list in which only the last item may be an `x`. -/
theorem eq_append_of_mem_cutAfter {l t : List α} (h : l ∈ cutAfter x t) :
    ∃ a y e b, t = a ++ (y ++ e) ++ b ∧ l = y ++ e ∧ x ∉ y ∧ (e = [] ∨ e = [x]) := by
  obtain ⟨n, hn⟩ : ∃ n, t.length = n := ⟨_, rfl⟩
  induction n using Nat.strongRecOn generalizing t with
  | ind n ih =>
    rcases notMem_or_eq_append x t with hx | ⟨y, b, rfl, hy⟩
    · by_cases hne : t = []
      · subst hne
        cases h
      · rw [cutAfter_of_notMem hx hne, List.mem_singleton] at h
        exact ⟨[], t, [], [], by simp, by simp [h], hx, Or.inl rfl⟩
    · rw [cutAfter_append_cons hy, List.mem_cons] at h
      rcases h with rfl | h
      · exact ⟨[], y, [x], b, by simp, rfl, hy, Or.inr rfl⟩
      · have hlt : b.length < n := by
          rw [List.length_append, List.length_cons] at hn
          omega
        obtain ⟨a, z, e, b', rfl, rfl, hz, he⟩ := ih b.length hlt h rfl
        exact ⟨y ++ x :: a, z, e, b', by simp, rfl, hz, he⟩

theorem isCut_cutAfter (x : α) (t : List α) : IsCut x t (cutAfter x t) where
  flatten_eq := flatten_cutAfter t
  ne_nil _ hl := ne_nil_of_mem_cutAfter hl
  notMem l hl := by
    obtain ⟨-, y, e, -, -, rfl, hy, rfl | rfl⟩ := eq_append_of_mem_cutAfter hl
    · rw [List.append_nil]
      exact fun hmem => hy ((List.dropLast_sublist y).subset hmem)
    · rwa [List.dropLast_concat]
  ended := by
    obtain ⟨n, hn⟩ : ∃ n, t.length = n := ⟨_, rfl⟩
    induction n using Nat.strongRecOn generalizing t with
    | ind n ih =>
      rcases notMem_or_eq_append x t with hx | ⟨a, b, rfl, ha⟩
      · by_cases hne : t = []
        · subst hne
          exact nofun
        · rw [cutAfter_of_notMem hx hne]
          exact nofun
      · have hlt : b.length < n := by
          rw [List.length_append, List.length_cons] at hn
          omega
        rw [cutAfter_append_cons ha]
        intro l hl
        cases hcut : cutAfter x b with
        | nil =>
          rw [hcut] at hl
          cases hl
        | cons m ms =>
          rw [hcut, List.dropLast_cons_cons, ← hcut] at hl
          rcases List.mem_cons.1 hl with rfl | hl
          · exact List.getLast?_concat
          · exact ih b.length hlt b rfl l hl

/-- A list is cut in one way only. -/
theorem isCut_iff {t : List α} {ls : List (List α)} : IsCut x t ls ↔ ls = cutAfter x t := by
  constructor
  · intro h
    induction ls generalizing t with
    | nil =>
      have ht : [] = t := h.flatten_eq
      rw [← ht]
      rfl
    | cons l ls ih =>
      have hl : l ≠ [] := h.ne_nil l List.mem_cons_self
      have hx : x ∉ l.dropLast := h.notMem l List.mem_cons_self
      have ht : l ++ ls.flatten = t := h.flatten_eq
      by_cases hls : ls = []
      · -- the last piece
        subst hls
        rw [List.flatten_nil, List.append_nil] at ht
        subst ht
        by_cases hlast : l.getLast hl = x
        · have hcut := cutAfter_append_cons hx []
          rw [← hlast, List.dropLast_append_getLast hl] at hcut
          rw [← hlast, hcut]
          rfl
        · rw [cutAfter_of_notMem _ hl]
          rw [← List.dropLast_append_getLast hl, List.mem_append, List.mem_singleton, not_or]
          exact ⟨hx, Ne.symm hlast⟩
      · obtain ⟨m, ms, rfl⟩ := List.exists_cons_of_ne_nil hls
        have hend : l.getLast? = some x := by
          apply h.ended
          rw [List.dropLast_cons_cons]
          exact List.mem_cons_self
        obtain ⟨a, rfl⟩ := List.getLast?_eq_some_iff.1 hend
        rw [List.dropLast_concat] at hx
        have hrest : IsCut x (m :: ms).flatten (m :: ms) :=
          { flatten_eq := rfl
            ne_nil := fun k hk => h.ne_nil k (List.mem_cons_of_mem _ hk)
            notMem := fun k hk => h.notMem k (List.mem_cons_of_mem _ hk)
            ended := fun k hk => h.ended k (List.mem_cons_of_mem _ hk) }
        rw [← ht, List.append_assoc, List.singleton_append, cutAfter_append_cons hx, ← ih hrest]
  · rintro rfl
    exact isCut_cutAfter x t

end cut

/-! ## Streams -/

theorem Stream.lines_eq_cutAfter (bs : Bytes) : Stream.lines bs = cutAfter 10 bs := by
  induction bs with
  | nil => rfl
  | cons b bs ih =>
    rw [Stream.lines, cutAfter, ih]
    by_cases hb : b = 10
    · rw [if_pos hb, if_pos hb]
    · rw [if_neg hb, if_neg hb]
      cases cutAfter 10 bs <;> rfl

theorem Stream.isCut_lines (bs : Bytes) : IsCut 10 bs (Stream.lines bs) := isCut_iff.2 (Stream.lines_eq_cutAfter bs)

/-- Decoding line by line and cutting the decoded text give the same lines. -/
theorem map_ofBytes_lines (bs : Bytes) :
    (Stream.lines bs).map Text.ofBytes = cutAfter 10 (Text.ofBytes bs) := by
  rw [Stream.lines_eq_cutAfter]
  obtain ⟨n, hn⟩ : ∃ n, bs.length = n := ⟨_, rfl⟩
  induction n using Nat.strongRecOn generalizing bs with
  | ind n ih =>
    have hten (a : Bytes) (ha : 10 ∉ a) : (10 : CodePoint) ∉ Text.ofBytes a := by
      rwa [Text.mem_ofBytes_iff (c := 10) (by decide)]
    rcases notMem_or_eq_append 10 bs with hx | ⟨a, b, rfl, ha⟩
    · by_cases hne : bs = []
      · subst hne
        simp [cutAfter, Text.ofBytes]
      · rw [cutAfter_of_notMem hx hne, cutAfter_of_notMem (hten bs hx) (Text.ofBytes_ne_nil hne),
          List.map_singleton]
    · have hlt : b.length < n := by
        rw [List.length_append, List.length_cons] at hn
        omega
      have hsplit (r : Bytes) : Text.ofBytes (a ++ 10 :: r) = Text.ofBytes a ++ 10 :: Text.ofBytes r := by
        rw [Text.ofBytes_append_cons (by decide), Text.ofBytes_cons_of_ascii (by decide)]
        rfl
      rw [cutAfter_append_cons ha, hsplit b, cutAfter_append_cons (hten a ha), List.map_cons,
        ih b.length hlt b rfl, hsplit []]
      simp [Text.ofBytes]

end ShellCoverage
