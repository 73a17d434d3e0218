import Mathlib.Data.List.Sort
import ShellCoverage.Proofs.Text.Occurrence

/-!
# What cutting at a delimiter gives

A text is cut at the leftmost delimiters that do not overlap. Both sides of this are said here without the cutting:
which pieces there are, and how many.

* `EndsFirst d p` : `d` stands in `p ++ d` at the end only;
* `cutFirst?_eq_some_iff_endsFirst`, `splitOn_eq_iff` : the pieces of a text are the only texts that it is the join of
  in such a way;
* `AreApart d is` : occurrences that do not overlap;
* `lt_length_splitOn_iff` : there is one more piece than occurrences that do not overlap, however these are chosen.
-/

namespace ShellCoverage.Text

variable {d t a b : Text}

/-! ## The leftmost delimiters -/

/-- `d` stands in `p ++ d` at the end only. -/
def EndsFirst (d p : Text) : Prop := ∀ i ∈ occurrences d (p ++ d), i = p.length

/-- An occurrence that starts before the end of `a` is one in `a ++ d`. -/
theorem occurrence_of_le {x y : Text} (e : a ++ d ++ b = x ++ d ++ y) (hle : x.length ≤ a.length) :
    x.length ∈ occurrences d (a ++ d) := by
  have hx : x ++ d <+: a ++ d := by
    refine List.prefix_of_prefix_length_le ⟨y, e.symm⟩ (List.prefix_append (a ++ d) b) ?_
    simp only [List.length_append]
    omega
  obtain ⟨z, hz⟩ := hx
  exact mem_occurrences.2 ⟨x, z, hz.symm, rfl⟩

theorem cutFirst?_eq_some_iff_endsFirst : cutFirst? d t = some (a, b) ↔ t = a ++ d ++ b ∧ EndsFirst d a := by
  rw [cutFirst?_eq_some_iff]
  constructor
  · rintro ⟨rfl, hfirst⟩
    refine ⟨rfl, fun i hi => ?_⟩
    obtain ⟨x, y, e, rfl⟩ := mem_occurrences.1 hi
    have hle := hfirst x (y ++ b) (by rw [e, List.append_assoc])
    have hlen := congrArg List.length e
    simp only [List.length_append] at hlen
    omega
  · rintro ⟨rfl, hfirst⟩
    refine ⟨rfl, fun x y e => ?_⟩
    by_contra hlt
    have hmem := occurrence_of_le e (by omega)
    have := hfirst _ hmem
    omega

theorem cutFirst?_eq_none_iff_occurrences : cutFirst? d t = none ↔ occurrences d t = [] := by
  rw [cutFirst?_eq_none_iff, List.eq_nil_iff_forall_not_mem]
  constructor
  · intro h i hi
    obtain ⟨x, y, e, -⟩ := mem_occurrences.1 hi
    exact h x y e
  · rintro h x y rfl
    exact h _ (length_mem_occurrences x d y)

theorem join_cons_concat (d p : Text) (ps : List Text) (last : Text) :
    join d (p :: (ps ++ [last])) = p ++ d ++ join d (ps ++ [last]) := by
  cases ps with
  | nil => exact join_cons_cons d p last []
  | cons q ps => exact join_cons_cons d p q (ps ++ [last])

/-- **The pieces of a text.** They are the texts that it is the join of such that each delimiter is the first after
the one before it, and none is left. -/
theorem splitOn_eq_iff (hd : d ≠ []) {ps : List Text} {last : Text} :
    splitOn d t = ps ++ [last] ↔
      t = join d (ps ++ [last]) ∧ (∀ p ∈ ps, EndsFirst d p) ∧ occurrences d last = [] := by
  induction ps generalizing t with
  | nil =>
    rw [List.nil_append, join_singleton]
    constructor
    · intro h
      cases hcut : cutFirst? d t with
      | none =>
        rw [splitOn_of_none hd hcut] at h
        cases h
        exact ⟨rfl, List.forall_mem_nil _, cutFirst?_eq_none_iff_occurrences.1 hcut⟩
      | some r =>
        rw [splitOn_of_cutFirst? hd hcut] at h
        exact absurd (List.cons.inj h).2 (splitOn_ne_nil d r.2)
    · rintro ⟨rfl, -, hlast⟩
      exact splitOn_of_none hd (cutFirst?_eq_none_iff_occurrences.2 hlast)
  | cons p ps ih =>
    rw [List.cons_append, join_cons_concat, List.forall_mem_cons]
    constructor
    · intro h
      cases hcut : cutFirst? d t with
      | none =>
        rw [splitOn_of_none hd hcut] at h
        exact absurd (List.cons.inj h).2.symm (by simp)
      | some r =>
        rw [splitOn_of_cutFirst? hd hcut] at h
        obtain ⟨hp, hrest⟩ := List.cons.inj h
        obtain ⟨ht, hfirst⟩ := cutFirst?_eq_some_iff_endsFirst.1 hcut
        obtain ⟨hjoin, hps, hlast⟩ := ih.1 hrest
        rw [hp] at ht hfirst
        exact ⟨ht.trans (congrArg _ hjoin), ⟨hfirst, hps⟩, hlast⟩
    · rintro ⟨rfl, ⟨hfirst, hps⟩, hlast⟩
      have hcut : cutFirst? d (p ++ d ++ join d (ps ++ [last])) = some (p, join d (ps ++ [last])) :=
        cutFirst?_eq_some_iff_endsFirst.2 ⟨rfl, hfirst⟩
      rw [splitOn_of_cutFirst? hd hcut, ih.2 ⟨rfl, hps, hlast⟩]

/-! ## Occurrences that do not overlap -/

/-- No two of the occurrences of `d` at these places overlap. -/
def AreApart (d : Text) (is : List Nat) : Prop :=
  is.Pairwise fun i j => i + d.length ≤ j ∨ j + d.length ≤ i

/-- An occurrence after another one that it does not overlap is one in what follows that one. -/
theorem sub_mem_occurrences {x y : Text} {j : Nat} (h : j ∈ occurrences d (x ++ d ++ y))
    (hj : x.length + d.length ≤ j) : j - (x.length + d.length) ∈ occurrences d y := by
  obtain ⟨u, v, e, rfl⟩ := mem_occurrences.1 h
  obtain ⟨w, rfl⟩ : x ++ d <+: u := by
    refine List.prefix_of_prefix_length_le (List.prefix_append (x ++ d) y) ⟨d ++ v, by rw [e, List.append_assoc]⟩ ?_
    rw [List.length_append]
    exact hj
  refine mem_occurrences.2 ⟨w, v, ?_, ?_⟩
  · simpa [List.append_assoc] using e
  · simp only [List.length_append]
    omega

/-- Occurrences that follow one another are fewer than the pieces; the places are counted from `k` on. -/
theorem length_lt_splitOn (hd : d ≠ []) {k : Nat} {is : List Nat}
    (hmem : ∀ i ∈ is, ∃ j ∈ occurrences d t, i = k + j) (hnext : is.Pairwise fun i j => i + d.length ≤ j) :
    is.length < (splitOn d t).length := by
  induction is generalizing t k with
  | nil => exact length_splitOn_pos d t
  | cons i is ih =>
    obtain ⟨hfirst, htail⟩ := List.forall_mem_cons.1 hmem
    obtain ⟨hle, hpairs⟩ := List.pairwise_cons.1 hnext
    obtain ⟨_, hi, rfl⟩ := hfirst
    obtain ⟨x, y, rfl, rfl⟩ := mem_occurrences.1 hi
    have hrest : is.length < (splitOn d y).length := by
      refine ih (k := k + (x.length + d.length)) (fun i' hi' => ?_) hpairs
      have hi'le := hle i' hi'
      obtain ⟨j, hj, rfl⟩ := htail i' hi'
      refine ⟨_, sub_mem_occurrences hj (by omega), ?_⟩
      omega
    have hsplit := length_splitOn_append hd x y
    have hpos := length_splitOn_pos d x
    rw [List.length_cons]
    omega

theorem join_splitOn (hd : d ≠ []) (t : Text) : join d (splitOn d t) = t := by
  have hlast := List.dropLast_append_getLast (splitOn_ne_nil d t)
  have hjoin := ((splitOn_eq_iff hd).1 hlast.symm).1
  rw [hlast] at hjoin
  exact hjoin.symm

theorem length_boundaries (d : Text) (k : Nat) (ps : List Text) : (boundaries d k ps).length = ps.length - 1 := by
  fun_induction boundaries d k ps with
  | case1 k p q ps ih =>
    simp only [List.length_cons] at ih ⊢
    omega
  | case2 ps k hps =>
    rcases ps with _ | ⟨p, _ | ⟨q, ps⟩⟩
    · rfl
    · rfl
    · exact absurd rfl (hps p q ps)

theorem mem_occurrences_of_boundaries {k i : Nat} {ps : List Text} (h : i ∈ boundaries d k ps) :
    ∃ j ∈ occurrences d (join d ps), i = k + j := by
  fun_induction boundaries d k ps with
  | case1 k p q ps ih =>
    rw [join_cons_cons]
    rcases List.mem_cons.1 h with rfl | h
    · exact ⟨p.length, length_mem_occurrences p d _, rfl⟩
    · obtain ⟨j, hj, rfl⟩ := ih h
      refine ⟨(p ++ d).length + j, add_mem_occurrences_append_left (p ++ d) hj, ?_⟩
      rw [List.length_append]
      omega
  | case2 => cases h

theorem pairwise_boundaries (d : Text) (k : Nat) (ps : List Text) :
    (boundaries d k ps).Pairwise fun i j => i + d.length ≤ j := by
  fun_induction boundaries d k ps with
  | case1 k p q ps ih => exact List.pairwise_cons.2 ⟨fun j hj => le_of_mem_boundaries hj, ih⟩
  | case2 => exact List.Pairwise.nil

/-- Occurrences that do not overlap follow one another if they are sorted. -/
theorem AreApart.follow (hd : d ≠ []) {is : List Nat} (h : AreApart d is) :
    (is.mergeSort (· ≤ ·)).Pairwise fun i j => i + d.length ≤ j := by
  have hperm : (is.mergeSort (· ≤ ·)).Perm is := List.mergeSort_perm is _
  have hsorted : (is.mergeSort (· ≤ ·)).Pairwise fun i j => decide (i ≤ j) = true := by
    refine List.pairwise_mergeSort (fun i j k hij hjk => ?_) (fun i j => ?_) is
    · exact decide_eq_true (Nat.le_trans (of_decide_eq_true hij) (of_decide_eq_true hjk))
    · rw [Bool.or_eq_true, decide_eq_true_iff, decide_eq_true_iff]
      exact Nat.le_total i j
  have happart : AreApart d (is.mergeSort (· ≤ ·)) := (hperm.pairwise_iff fun h => h.symm).2 h
  have hpos := List.length_pos_iff.2 hd
  refine (hsorted.and happart).imp fun {i j} hij => ?_
  have hle : i ≤ j := of_decide_eq_true hij.1
  have hapart := hij.2
  omega

/-- **The number of pieces.** There is one more than the largest number of occurrences that do not overlap: cutting at
the leftmost ones misses none. -/
theorem lt_length_splitOn_iff (hd : d ≠ []) {n : Nat} :
    n < (splitOn d t).length ↔ ∃ is, n ≤ is.length ∧ (∀ i ∈ is, i ∈ occurrences d t) ∧ AreApart d is := by
  constructor
  · intro hn
    refine ⟨boundaries d 0 (splitOn d t), ?_, fun i hi => ?_, ?_⟩
    · rw [length_boundaries]
      omega
    · obtain ⟨j, hj, rfl⟩ := mem_occurrences_of_boundaries hi
      rw [join_splitOn hd] at hj
      rwa [Nat.zero_add]
    · exact (pairwise_boundaries d 0 _).imp Or.inl
  · rintro ⟨is, hn, hmem, happart⟩
    have hperm : (is.mergeSort (· ≤ ·)).Perm is := List.mergeSort_perm is _
    have hlt := length_lt_splitOn (k := 0) hd
      (fun i hi => ⟨i, hmem i (hperm.mem_iff.1 hi), (Nat.zero_add i).symm⟩) (happart.follow hd)
    rw [hperm.length_eq] at hlt
    omega

end ShellCoverage.Text
