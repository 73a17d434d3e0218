import Mathlib
import ShellCoverage.Proofs.Text.Contents
import ShellCoverage.Proofs.Text.Lines
import ShellCoverage.Script.Relevance

/-!
# How the lines of a script are numbered

A shell numbers the lines of a script by line feeds. A script is read with other characters ending lines too: form
feeds, separators, and carriage returns that stand alone. `readLines_numbered_iff` says what becomes of a file that is
UTF-8: each of its lines is cut on its own, so that the lines before it decide how far its number is off, and the two
numberings agree just if no line of the file has another line end inside. A form feed inside a line puts off the
numbers of all lines after it (`readLines_formFeed`).

* `feedLines`, `IsNumberedAs` : the lines by line feeds, and lists of lines that agree with them;
* `Unbroken`, `IsWhole` : texts without line ends, and lines without another line end inside;
* `lines_unifyLineEnds` : the lines do not depend on how carriage returns are read;
* `lines_eq_flatMap` : each line is cut on its own;
* `map_bare_lines_iff` : where a line stays one line.
-/

namespace ShellCoverage

/-! ## Texts of well-formed bytes -/

theorem Text.ofBytesLossy_of_ofBytesFrom? {bs : Bytes} {position : Nat} {t : Text}
    (h : ofBytesFrom? position bs = .ok t) : ofBytesLossy bs = t := by
  fun_induction ofBytesFrom? position bs generalizing t with
  | case1 =>
    cases h
    rw [ofBytesLossy]
  | case2 position b rest c extra hread ih =>
    obtain ⟨u, hu, rfl⟩ := Except.map_eq_ok_iff.1 h
    rw [ofBytesLossy]
    simp only [hread, ih hu]
  | case3 => cases h

namespace Text
open lines (isLineEnd)

/-! ## Lines -/

/-- The lines of a text, each of which a line feed ends; a last line that is not ended counts if it is not empty. -/
def feedLines (t : Text) : List Text := (cutAfter 10 t).map fun l => l.filter (· ≠ 10)

/-- A line without the carriage returns at its end. -/
def bare (l : Text) : Text := l.trimRight (· = 13)

/-- The text has no line end. -/
def Unbroken (t : Text) : Prop := ∀ c ∈ t, isLineEnd c = false

/-- The line has no line end, a carriage return as its last character apart. -/
def IsWhole (l : Text) : Prop := ∀ (u : Text) (c : CodePoint) (r : Text), l = u ++ c :: r → isLineEnd c = true →
  c = 13 ∧ r = []

/-- The lines are those by line feeds, up to carriage returns at their ends. -/
def IsNumberedAs (ls : List Text) (t : Text) : Prop :=
  List.Forall₂ (fun l m => l.bare = m.bare) ls t.feedLines

theorem unbroken_nil : Unbroken [] := nofun

theorem unbroken_cons_iff {c : CodePoint} {t : Text} :
    Unbroken (c :: t) ↔ isLineEnd c = false ∧ t.Unbroken := List.forall_mem_cons

theorem Unbroken.notMem {t : Text} {c : CodePoint} (h : t.Unbroken) (hc : isLineEnd c = true) : c ∉ t := by
  intro hmem
  rw [h c hmem] at hc
  cases hc

/-- A text is unbroken, or it has a first line end. -/
theorem unbroken_or_eq_append (t : Text) :
    t.Unbroken ∨ ∃ (u : Text) (c : CodePoint) (r : Text), t = u ++ c :: r ∧ u.Unbroken ∧ isLineEnd c = true := by
  induction t with
  | nil => exact Or.inl unbroken_nil
  | cons c t ih =>
    cases hc : isLineEnd c with
    | true => exact Or.inr ⟨[], c, t, rfl, unbroken_nil, hc⟩
    | false =>
      rcases ih with ht | ⟨u, d, r, rfl, hu, hd⟩
      · exact Or.inl (unbroken_cons_iff.2 ⟨hc, ht⟩)
      · exact Or.inr ⟨c :: u, d, r, rfl, unbroken_cons_iff.2 ⟨hc, hu⟩, hd⟩

theorem lines_cons_of_end {c : CodePoint} {t : Text} (hc : isLineEnd c = true) (hfeed : c = 13 → t.head? ≠ some 10) :
    lines (c :: t) = [] :: lines t := by
  rw [lines.eq_def]
  split
  next heq => cases heq
  next heq =>
    cases heq
    exact absurd rfl (hfeed rfl)
  next heq =>
    cases heq
    rw [if_pos hc]

theorem lines_cons_of_not_end {c : CodePoint} {t : Text} (hc : isLineEnd c = false) :
    lines (c :: t) = match lines t with
      | [] => [[c]]
      | l :: ls => (c :: l) :: ls := by
  rw [lines.eq_def]
  split
  next heq => cases heq
  next heq =>
    cases heq
    cases hc
  next heq =>
    cases heq
    have hinside : ¬ isLineEnd c = true := by rw [hc]; exact Bool.false_ne_true
    exact if_neg hinside

/-- A carriage return and the line feed after it are one line end. -/
theorem lines_return_feed (t : Text) : lines (13 :: 10 :: t) = [] :: lines t := by
  rw [lines]

/-- How carriage returns are read makes no difference. -/
theorem lines_unifyLineEnds (t : Text) : lines t.unifyLineEnds = lines t := by
  fun_induction unifyLineEnds t with
  | case1 => rfl
  | case2 t ih =>
    rw [lines_return_feed, lines_cons_of_end rfl fun h => absurd h (by decide), ih]
  | case3 c t hpair ih =>
    by_cases hc : c = 13
    · subst hc
      have hhead : t.head? ≠ some 10 := by
        intro h
        obtain ⟨r, rfl⟩ := List.head?_eq_some_iff.1 h
        exact hpair r rfl rfl
      rw [if_pos rfl, lines_cons_of_end rfl fun h => absurd h (by decide), lines_cons_of_end rfl fun _ => hhead, ih]
    · rw [if_neg hc]
      cases hend : isLineEnd c with
      | true => rw [lines_cons_of_end hend fun h => absurd h hc, lines_cons_of_end hend fun h => absurd h hc, ih]
      | false => rw [lines_cons_of_not_end hend, lines_cons_of_not_end hend, ih]

section
variable {u : Text} (hu : u.Unbroken)
include hu

theorem lines_append_cons {c : CodePoint} {t : Text} (hc : isLineEnd c = true)
    (hfeed : c = 13 → t.head? ≠ some 10) : lines (u ++ c :: t) = u :: lines t := by
  induction u with
  | nil => exact lines_cons_of_end hc hfeed
  | cons d u ih =>
    obtain ⟨hd, hu⟩ := unbroken_cons_iff.1 hu
    rw [List.cons_append, lines_cons_of_not_end hd, ih hu]

theorem lines_append_return_feed (t : Text) : lines (u ++ 13 :: 10 :: t) = u :: lines t := by
  induction u with
  | nil => exact lines_return_feed t
  | cons d u ih =>
    obtain ⟨hd, hu⟩ := unbroken_cons_iff.1 hu
    rw [List.cons_append, lines_cons_of_not_end hd, ih hu]

theorem lines_of_unbroken (hne : u ≠ []) : lines u = [u] := by
  induction u with
  | nil => exact absurd rfl hne
  | cons d u ih =>
    obtain ⟨hd, hu⟩ := unbroken_cons_iff.1 hu
    rw [lines_cons_of_not_end hd]
    cases u with
    | nil => rfl
    | cons e u => rw [ih hu (List.cons_ne_nil e u)]

end

theorem lines_ne_nil {t : Text} (h : t ≠ []) : lines t ≠ [] := by
  rcases unbroken_or_eq_append t with ht | ⟨u, c, r, rfl, hu, hc⟩
  · rw [lines_of_unbroken ht h]
    exact List.cons_ne_nil _ _
  · by_cases hpair : c = 13 ∧ r.head? = some 10
    · obtain ⟨rfl, hhead⟩ := hpair
      obtain ⟨r, rfl⟩ := List.head?_eq_some_iff.1 hhead
      rw [lines_append_return_feed hu]
      exact List.cons_ne_nil _ _
    · rw [lines_append_cons hu hc fun h hhead => hpair ⟨h, hhead⟩]
      exact List.cons_ne_nil _ _

/-- What comes after a line feed does not change the lines before it. -/
theorem lines_append_feed (a b : Text) : lines (a ++ 10 :: b) = lines (a ++ [10]) ++ lines b := by
  obtain ⟨n, hn⟩ : ∃ n, a.length = n := ⟨_, rfl⟩
  induction n using Nat.strongRecOn generalizing a with
  | ind n ih =>
    rcases unbroken_or_eq_append a with ha | ⟨u, c, r, rfl, hu, hc⟩
    · rw [lines_append_cons ha rfl fun h => absurd h (by decide),
        lines_append_cons ha rfl fun h => absurd h (by decide)]
      rfl
    · rw [List.length_append, List.length_cons] at hn
      rw [List.append_assoc, List.append_assoc, List.cons_append, List.cons_append]
      by_cases hreturn : c = 13
      · subst hreturn
        cases r with
        | nil => rw [List.nil_append, List.nil_append, lines_append_return_feed hu, lines_append_return_feed hu]; rfl
        | cons d r =>
          rw [List.length_cons] at hn
          by_cases hfeed : d = 10
          · subst hfeed
            rw [List.cons_append, List.cons_append, lines_append_return_feed hu, lines_append_return_feed hu,
              ih r.length (by omega) r rfl, List.cons_append]
          · have hhead (w : Text) : (d :: r ++ w).head? ≠ some 10 := fun h => hfeed (Option.some.inj h)
            rw [lines_append_cons hu hc fun _ => hhead _, lines_append_cons hu hc fun _ => hhead _,
              ih (d :: r).length (by rw [List.length_cons]; omega) (d :: r) rfl]
            rfl
      · rw [lines_append_cons hu hc fun h => absurd h hreturn, lines_append_cons hu hc fun h => absurd h hreturn,
          ih r.length (by omega) r rfl, List.cons_append]

/-- Each line that a line feed ends is cut on its own. -/
theorem lines_eq_flatMap (t : Text) : lines t = (cutAfter 10 t).flatMap lines := by
  obtain ⟨n, hn⟩ : ∃ n, t.length = n := ⟨_, rfl⟩
  induction n using Nat.strongRecOn generalizing t with
  | ind n ih =>
    rcases notMem_or_eq_append 10 t with ht | ⟨a, b, rfl, ha⟩
    · by_cases hne : t = []
      · subst hne
        rfl
      · rw [cutAfter_of_notMem ht hne, List.flatMap_singleton]
    · rw [List.length_append, List.length_cons] at hn
      rw [cutAfter_append_cons ha, List.flatMap_cons, ← ih b.length (by omega) b rfl, lines_append_feed]

/-! ## Lines that stay whole -/

theorem bare_concat (l : Text) : bare (l ++ [13]) = bare l := by
  simp [bare, trimRight]

theorem bare_of_notMem {l : Text} (h : 13 ∉ l) : bare l = l := by
  induction l using List.reverseRecOn with
  | nil => rfl
  | append_singleton l c _ =>
    have hc : c ≠ 13 := fun hc => h (hc ▸ List.mem_append_right l (List.mem_singleton_self c))
    simp [bare, trimRight, hc]

theorem mem_bare {l : Text} {c : CodePoint} (hmem : c ∈ l) (hc : c ≠ 13) : c ∈ bare l := by
  induction l using List.reverseRecOn with
  | nil => cases hmem
  | append_singleton l d ih =>
    by_cases hd : d = 13
    · subst hd
      rw [bare_concat]
      refine ih ?_
      simpa [hc] using hmem
    · rw [bare, trimRight, List.reverse_append]
      simpa [hd] using hmem

theorem isWhole_iff {l : Text} : l.IsWhole ↔ ∃ u : Text, u.Unbroken ∧ (l = u ∨ l = u ++ [13]) := by
  constructor
  · intro h
    rcases unbroken_or_eq_append l with hl | ⟨u, c, r, hl, hu, hc⟩
    · exact ⟨l, hl, Or.inl rfl⟩
    · obtain ⟨rfl, rfl⟩ := h u c r hl hc
      exact ⟨u, hu, Or.inr hl⟩
  · rintro ⟨u, hu, rfl | rfl⟩ v c r heq hc
    · exact absurd (heq ▸ List.mem_append_right v List.mem_cons_self) (hu.notMem hc)
    · rcases List.eq_nil_or_concat r with rfl | ⟨r, d, rfl⟩
      · obtain ⟨-, heq⟩ := List.append_inj' heq rfl
        exact ⟨(List.cons.inj heq).1.symm, rfl⟩
      · rw [List.concat_eq_append, ← List.cons_append, ← List.append_assoc] at heq
        obtain ⟨rfl, -⟩ := List.append_inj' heq rfl
        exact absurd (List.mem_append_right v List.mem_cons_self) (hu.notMem hc)

/-- A line that is cut has a first part of its own. -/
theorem isWhole_of_map_bare_lines {y e : Text} (hy : 10 ∉ y) (h : (lines (y ++ e)).map bare = [bare y]) :
    y.IsWhole := by
  rw [isWhole_iff]
  rcases unbroken_or_eq_append y with hunbroken | ⟨u, c, r, rfl, hu, hc⟩
  · exact ⟨y, hunbroken, Or.inl rfl⟩
  have hcut (hfeed : c = 13 → (r ++ e).head? ≠ some 10) :
      bare u = bare (u ++ c :: r) ∧ lines (r ++ e) = [] := by
    rw [List.append_assoc, List.cons_append, lines_append_cons hu hc hfeed, List.map_cons, List.cons.injEq,
      List.map_eq_nil_iff] at h
    exact h
  by_cases hreturn : c = 13
  · cases r with
    | nil => exact ⟨u, hu, Or.inr (by rw [hreturn])⟩
    | cons d r =>
      have hd : d ≠ 10 := by
        rintro rfl
        exact hy (by simp)
      exact absurd (hcut fun _ h => hd (Option.some.inj h)).2 (lines_ne_nil (List.cons_ne_nil _ _))
  · have hsame := (hcut fun h => absurd h hreturn).1
    have hmem : c ∈ bare u := by
      rw [hsame]
      exact mem_bare (by simp) hreturn
    rw [bare_of_notMem (hu.notMem rfl)] at hmem
    exact absurd hmem (hu.notMem hc)

/-- A whole line is the one line of itself, without the carriage return at its end. -/
theorem lines_of_isWhole {y e : Text} (hy : y.IsWhole) (he : e = [] ∨ e = [10]) (hne : y ++ e ≠ []) :
    ∃ u, lines (y ++ e) = [u] ∧ bare u = bare y := by
  obtain ⟨u, hu, rfl | rfl⟩ := isWhole_iff.1 hy
  · refine ⟨y, ?_, rfl⟩
    rcases he with rfl | rfl
    · rw [List.append_nil] at hne ⊢
      exact lines_of_unbroken hu hne
    · exact lines_append_cons hu rfl fun h => absurd h (by decide)
  · refine ⟨u, ?_, (bare_concat u).symm⟩
    rcases he with rfl | rfl
    · rw [List.append_nil]
      exact lines_append_cons hu rfl fun _ => by simp
    · rw [List.append_assoc]
      exact lines_append_return_feed hu []

/-- A line, which a line feed ends or nothing, stays one line just if it is whole. -/
theorem map_bare_lines_iff {y e : Text} (hy : 10 ∉ y) (he : e = [] ∨ e = [10]) (hne : y ++ e ≠ []) :
    (lines (y ++ e)).map bare = [bare y] ↔ y.IsWhole := by
  refine ⟨isWhole_of_map_bare_lines hy, fun hwhole => ?_⟩
  obtain ⟨u, hlines, hbare⟩ := lines_of_isWhole hwhole he hne
  rw [hlines, List.map_singleton, hbare]

theorem filter_ne_append {y e : Text} (hy : 10 ∉ y) (he : e = [] ∨ e = [10]) :
    (y ++ e).filter (· ≠ 10) = y := by
  have hfilter : y.filter (· ≠ 10) = y := List.filter_eq_self.2 fun c hc => by
    rw [decide_eq_true_iff]
    rintro rfl
    exact hy hc
  rcases he with rfl | rfl
  · rw [List.append_nil, hfilter]
  · rw [List.filter_append, hfilter]
    exact List.append_nil y

theorem length_le_length_flatMap {α β : Type} {f : α → List β} {cs : List α} (hne : ∀ a ∈ cs, f a ≠ []) :
    cs.length ≤ (cs.flatMap f).length := by
  induction cs with
  | nil => exact Nat.le_refl _
  | cons a cs ih =>
    obtain ⟨ha, hcs⟩ := List.forall_mem_cons.1 hne
    have hpos := List.length_pos_iff.2 ha
    have hrest := ih hcs
    rw [List.flatMap_cons, List.length_append, List.length_cons]
    omega

/-- Parts that are not empty make up a list with one item for each of them just if each part is that item. -/
theorem flatMap_eq_map_iff {α β : Type} {f : α → List β} {g : α → β} {cs : List α} (hne : ∀ a ∈ cs, f a ≠ []) :
    cs.flatMap f = cs.map g ↔ ∀ a ∈ cs, f a = [g a] := by
  induction cs with
  | nil => simp
  | cons a cs ih =>
    obtain ⟨ha, hcs⟩ := List.forall_mem_cons.1 hne
    rw [List.flatMap_cons, List.map_cons, List.forall_mem_cons]
    constructor
    · intro h
      have hcount := congrArg List.length h
      rw [List.length_append, List.length_cons, List.length_map] at hcount
      have hone : (f a).length = 1 := by
        have hpos := List.length_pos_iff.2 ha
        have hrest := length_le_length_flatMap hcs
        omega
      obtain ⟨b, hb⟩ := List.length_eq_one_iff.1 hone
      rw [hb, List.singleton_append, List.cons.injEq] at h
      exact ⟨by rw [hb, h.1], (ih hcs).1 h.2⟩
    · rintro ⟨hfirst, hrest⟩
      rw [hfirst, (ih hcs).2 hrest, List.singleton_append]

/-- The lines of a text are numbered by its line feeds just if each of those lines is whole. -/
theorem isNumberedAs_lines_iff (t : Text) : IsNumberedAs (lines t) t ↔ ∀ l ∈ t.feedLines, l.IsWhole := by
  have hpiece (l : Text) (hl : l ∈ cutAfter 10 t) :
      (lines l).map bare = [bare (l.filter (· ≠ 10))] ↔ IsWhole (l.filter (· ≠ 10)) := by
    obtain ⟨a, y, e, b, -, rfl, hy, he⟩ := eq_append_of_mem_cutAfter hl
    rw [filter_ne_append hy he]
    exact map_bare_lines_iff hy he (ne_nil_of_mem_cutAfter hl)
  have hne (l : Text) (hl : l ∈ cutAfter 10 t) : (lines l).map bare ≠ [] := by
    rw [Ne, List.map_eq_nil_iff]
    exact lines_ne_nil (ne_nil_of_mem_cutAfter hl)
  calc IsNumberedAs (lines t) t
      ↔ (lines t).map bare = t.feedLines.map bare := by
        have hsame : List.Forall₂ (· = ·) ((lines t).map bare) (t.feedLines.map bare) ↔
            (lines t).map bare = t.feedLines.map bare := by rw [List.forall₂_eq_eq_eq]
        rw [← hsame, List.forall₂_map_left_iff, List.forall₂_map_right_iff]
        rfl
    _ ↔ (cutAfter 10 t).flatMap (fun l => (lines l).map bare) =
          (cutAfter 10 t).map fun l => bare (l.filter (· ≠ 10)) := by
        rw [lines_eq_flatMap, List.map_flatMap, feedLines, List.map_map]
        rfl
    _ ↔ ∀ l ∈ cutAfter 10 t, IsWhole (l.filter (· ≠ 10)) := by
        rw [flatMap_eq_map_iff hne]
        exact forall₂_congr hpiece
    _ ↔ ∀ l ∈ t.feedLines, l.IsWhole := by
        rw [feedLines, List.forall_mem_map]

end Text

namespace Script

/-! ## Lines of a script -/

/-- Each line of a file is cut on its own, and the lines are numbered as by line feeds just if none has another line
end inside. -/
theorem readLines_numbered_iff {fs : FileSystem} {path : Text} {bs : Bytes} {t : Text} (hread : fs.read path = .ok bs)
    (htext : Text.ofBytes? bs = .ok t) :
    ∃ ls, readLines fs path = .ok ls ∧ ls = (cutAfter 10 t).flatMap Text.lines ∧
      (Text.IsNumberedAs ls t ↔ ∀ l ∈ t.feedLines, l.IsWhole) := by
  have hlines : linesOf bs = Text.lines t := by
    rw [linesOf, Text.ofBytesLossy_of_ofBytesFrom? htext, Text.lines_unifyLineEnds]
  refine ⟨Text.lines t, ?_, Text.lines_eq_flatMap t, Text.isNumberedAs_lines_iff t⟩
  rw [readLines, hread, Except.map, hlines]

/-- A carriage return at the end of a line changes no number, and one inside a line puts off those after it. -/
theorem readLines_numbered_iff_returns :
    let fs : FileSystem := ⟨.directory 0o755 [("s.sh", .file 0o644 "ls\r\nps\rpwd\nfi\n")], []⟩
    let t : Text := "ls\r\nps\rpwd\nfi\n"
    fs.read "/s.sh" = .ok "ls\r\nps\rpwd\nfi\n" ∧ Text.ofBytes? "ls\r\nps\rpwd\nfi\n" = .ok t ∧
      t.feedLines = ["ls\r", "ps\rpwd", "fi"] ∧
      ∃ ls, readLines fs "/s.sh" = .ok ls ∧ ls = ["ls", "ps", "pwd", "fi"] ∧ ¬ Text.IsNumberedAs ls t := by
  intro fs t
  have hread : fs.read "/s.sh" = .ok "ls\r\nps\rpwd\nfi\n" := by cbv
  have htext : Text.ofBytes? "ls\r\nps\rpwd\nfi\n" = .ok t := by cbv
  have hfeed : t.feedLines = ["ls\r", "ps\rpwd", "fi"] := by decide +kernel
  obtain ⟨ls, hls, hcut, hiff⟩ := readLines_numbered_iff hread htext
  refine ⟨hread, htext, hfeed, ls, hls, hcut.trans (by decide +kernel), ?_⟩
  rw [hiff, hfeed]
  intro hwhole
  have hpart : ("pwd" : Text) = [] := (hwhole "ps\rpwd" (by simp) "ps" 13 "pwd" (by decide) rfl).2
  exact absurd hpart (by decide)

/-- A form feed inside a line puts off the numbers of the lines after it. -/
theorem readLines_formFeed :
    let fs : FileSystem := ⟨.directory 0o755 [("s.sh", .file 0o644 "ls\x0cps\nfi\n")], []⟩
    Text.ofBytes? "ls\x0cps\nfi\n" = .ok "ls\x0cps\nfi\n" ∧ Text.feedLines "ls\x0cps\nfi\n" = ["ls\x0cps", "fi"] ∧
      readLines fs "/s.sh" = .ok ["ls", "ps", "fi"] ∧
      ¬ Text.IsNumberedAs ["ls", "ps", "fi"] "ls\x0cps\nfi\n" := by
  intro fs
  refine ⟨by cbv, by decide +kernel, by cbv, ?_⟩
  intro h
  have hlength : (["ls", "ps", "fi"] : List Text).length = (Text.feedLines "ls\x0cps\nfi\n").length := h.length_eq
  exact absurd hlength (by decide +kernel)

/-! ## Numbers of lines -/

theorem length_relevanceFrom (s : Scan) (ls : List Text) : (relevanceFrom s ls).length = ls.length := by
  induction ls generalizing s with
  | nil => rfl
  | cons l ls ih => rw [relevanceFrom, List.length_cons, List.length_cons, ih]

/-- The lines with a flag, by their numbers from 1. -/
theorem mem_numbersWith {r : Bool} {ls : List Text} {n : Nat} :
    n ∈ numbersWith r ls ↔ 1 ≤ n ∧ (relevance ls)[n - 1]? = some r := by
  rw [numbersWith, List.mem_filterMap]
  constructor
  · rintro ⟨⟨flag, m⟩, hmem, hn⟩
    obtain ⟨hle, hflag⟩ := List.mk_mem_zipIdx_iff_le_and_getElem?_sub.1 hmem
    rw [Option.ite_none_right_eq_some] at hn
    obtain ⟨rfl, hn⟩ := hn
    cases hn
    exact ⟨hle, hflag⟩
  · rintro ⟨hle, hflag⟩
    exact ⟨(r, n), List.mk_mem_zipIdx_iff_le_and_getElem?_sub.2 ⟨hle, hflag⟩, if_pos rfl⟩

end Script

end ShellCoverage
