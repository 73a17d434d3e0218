import ShellCoverage.Proofs.Json.RoundTrip
import ShellCoverage.Proofs.Text.Contents

/-!
# The characters of what is written

All output is ASCII without carriage returns, so that the bytes of a file give back its text.

* `isPrinted_writeText`, `isPrinted_scalarText` : strings and other scalars;
* `ArePrinted`, `arePrinted_chunks` : pieces of output;
* `isPrinted_render` : all output.
-/

namespace ShellCoverage

namespace Json

open Value Text

/-! ## Characters -/

theorem isPrinted_lineBreak (level : Nat) : IsPrinted (lineBreak level) := by
  intro c hc
  rw [lineBreak, List.mem_cons, List.mem_replicate] at hc
  rcases hc with rfl | ⟨-, rfl⟩ <;> decide

theorem isPrinted_unicodeEscape {n : Nat} (h : n < 0x10000) : IsPrinted (unicodeEscape n) := by
  have hdigit : ∀ d : Fin 16, (hexDigit d.val).val < 0x80 ∧ hexDigit d.val ≠ 13 := by decide
  have hdigits : IsPrinted (Text.hex 4 n) := by
    rw [hex_four h]
    simp only [IsPrinted, List.forall_mem_cons]
    exact ⟨hdigit ⟨n / 4096, by omega⟩, hdigit ⟨n / 256 % 16, by omega⟩, hdigit ⟨n / 16 % 16, by omega⟩,
      hdigit ⟨n % 16, by omega⟩, nofun⟩
  have hopen : IsPrinted "\\u" := by
    intro c hc
    rcases List.mem_cons.1 hc with rfl | hc
    · decide
    · rw [List.mem_singleton.1 hc]
      decide
  exact hopen.append hdigits

theorem isPrinted_of_simpleEscape? {e c : CodePoint} (h : simpleEscape? e = some c) : IsPrinted [e] := by
  refine List.forall_mem_singleton.2 ?_
  by_contra hne
  rw [simpleEscape?, if_neg, if_neg, if_neg, if_neg, if_neg, if_neg] at h
  · cases h
  · rintro rfl
    exact hne (by decide)
  · rintro rfl
    exact hne (by decide)
  · rintro rfl
    exact hne (by decide)
  · rintro rfl
    exact hne (by decide)
  · rintro rfl
    exact hne (by decide)
  · simp only [Bool.or_eq_true, decide_eq_true_iff]
    rintro ((rfl | rfl) | rfl) <;> exact hne (by decide)

theorem isPrinted_writePoint (c : CodePoint) : IsPrinted (writePoint c) := by
  rcases writePoint_cases c with ⟨hw, -, -, hge, hle⟩ | ⟨e, hw, -, he⟩ | ⟨hw, hlt⟩ | ⟨hw, -⟩
  · rw [hw]
    refine List.forall_mem_singleton.2 ⟨by omega, ?_⟩
    rintro rfl
    exact absurd hge (by decide)
  · rw [hw]
    exact List.forall_mem_cons.2 ⟨by decide, isPrinted_of_simpleEscape? he⟩
  · rw [hw]
    exact isPrinted_unicodeEscape hlt
  · have := c.isLt
    rw [hw]
    exact (isPrinted_unicodeEscape (by omega)).append (isPrinted_unicodeEscape (by omega))

theorem isPrinted_writeText (t : Text) : IsPrinted (writeText t) := by
  have hquote : IsPrinted [CodePoint.ofChar '"'] := List.forall_mem_singleton.2 (by decide)
  refine List.forall_mem_cons.2 ⟨by decide, IsPrinted.append (fun c hc => ?_) hquote⟩
  obtain ⟨d, -, hd⟩ := List.mem_flatMap.1 hc
  exact isPrinted_writePoint d c hd

theorem isPrinted_ofNat (n : Nat) : IsPrinted (Text.ofNat n) := by
  intro c hc
  have hdigit := isAsciiDigit_of_mem_ofNat hc
  exact ⟨lt_of_isAsciiDigit hdigit, ne_of_isAsciiDigit hdigit (by decide)⟩

theorem isPrinted_ofInt (n : Int) : IsPrinted (Text.ofInt n) := by
  cases n with
  | ofNat n => exact isPrinted_ofNat n
  | negSucc n => exact List.forall_mem_cons.2 ⟨by decide, isPrinted_ofNat (n + 1)⟩

/-! ## Pieces -/

/-- All pieces are printed, apart from numbers that are too large. -/
def ArePrinted (cs : List Chunk) : Prop := ∀ t, .ok t ∈ cs → IsPrinted t

theorem ArePrinted.append {cs ds : List Chunk} (hcs : ArePrinted cs) (hds : ArePrinted ds) :
    ArePrinted (cs ++ ds) := fun t ht => (List.mem_append.1 ht).elim (hcs t) (hds t)

theorem arePrinted_ok {t : Text} (h : IsPrinted t) : ArePrinted [.ok t] := by
  intro u hu
  cases List.mem_singleton.1 hu
  exact h

theorem ArePrinted.cons {cs : List Chunk} (hcs : ArePrinted cs) {t : Text} (h : IsPrinted t) :
    ArePrinted (.ok t :: cs) := (arePrinted_ok h).append hcs

/-- Printed pieces make up a printed text, as far as they go. -/
theorem ArePrinted.assemble {cs : List Chunk} (h : ArePrinted cs) :
    (∀ t, assemble cs = .ok t → IsPrinted t) ∧ ∀ t e, assemble cs = .error (t, e) → IsPrinted t := by
  induction cs with
  | nil =>
    constructor
    · intro t ht
      cases ht
      exact isPrinted_nil
    · intro t e ht
      cases ht
  | cons c cs ih =>
    have hrest : ArePrinted cs := fun t ht => h t (List.mem_cons_of_mem c ht)
    cases c with
    | error e' =>
      constructor
      · intro t ht
        cases ht
      · intro t e ht
        cases ht
        exact isPrinted_nil
    | ok u =>
      have hu : IsPrinted u := h u List.mem_cons_self
      obtain ⟨hok, herror⟩ := ih hrest
      rw [assemble_ok_cons]
      cases hcs : Json.assemble cs with
      | ok t =>
        constructor
        · intro t' ht
          cases ht
          exact hu.append (hok t hcs)
        · intro t' e ht
          cases ht
      | error p =>
        constructor
        · intro t' ht
          cases ht
        · intro t' e ht
          cases ht
          exact hu.append (herror p.1 p.2 hcs)

theorem isPrinted_scalarText {v : Value} (h : v.IsExact) : IsPrinted (scalarText v) := by
  cases v with
  | int n => exact isPrinted_ofInt n
  | text t => exact isPrinted_writeText t
  | float x => exact h.elim
  | bool b => cases b <;> decide
  | null | list | object =>
    have hnull : IsPrinted "null" := by decide
    exact hnull

theorem arePrinted_scalar {v : Value} {lead : Text} (hlead : IsPrinted lead) (h : v.Every IsExact) :
    ArePrinted [after lead (scalarChunk v)] := by
  by_cases hfits : v.Fits
  · rw [scalarChunk_eq_ok hfits]
    exact arePrinted_ok (hlead.append (isPrinted_scalarText h.here))
  · cases v with
    | int n =>
      have hle : 10 ^ Numeral.digitLimit ≤ n.natAbs := Nat.not_lt.1 hfits
      rw [scalarChunk, Numeral.writeInt, if_pos hle]
      intro t ht
      cases List.mem_singleton.1 ht
    | null | bool | float | text | list | object => exact absurd trivial hfits

mutual

/-- The pieces of a value are printed. -/
theorem arePrinted_chunks : ∀ (v : Value) (lead : Text) (level : Nat), IsPrinted lead → v.Every IsExact →
    ArePrinted (chunks lead level v)
  | .list [], lead, level, hlead, _ => arePrinted_ok (hlead.append (by decide))
  | .list (v :: vs), lead, level, hlead, h => by
    rw [chunks]
    have hopen : IsPrinted (("[" : Text) ++ lineBreak (level + 1)) :=
      IsPrinted.append (by decide) (isPrinted_lineBreak _)
    have hclose : IsPrinted (lineBreak level ++ ("]" : Text)) :=
      (isPrinted_lineBreak level).append (by decide)
    exact (((arePrinted_chunks v _ _ hopen h.2.1).cons hlead).append (arePrinted_itemChunks vs _ h.2.2)).append
      (arePrinted_ok hclose)
  | .object [], lead, level, hlead, _ => arePrinted_ok (hlead.append (by decide))
  | .object ((name, v) :: ms), lead, level, hlead, h => by
    rw [chunks]
    have hopen : IsPrinted (lead ++ ("\x7b" : Text) ++ lineBreak (level + 1) ++ writeText name ++ (": " : Text)) :=
      (((hlead.append (by decide)).append (isPrinted_lineBreak _)).append
        (isPrinted_writeText name)).append (by decide)
    have hclose : IsPrinted (lineBreak level ++ ("\x7d" : Text)) :=
      (isPrinted_lineBreak level).append (by decide)
    exact (((arePrinted_chunks v _ _ isPrinted_nil h.2.1).cons hopen).append
      (arePrinted_memberChunks ms _ h.2.2)).append (arePrinted_ok hclose)
  | .null, _, _, hlead, h | .bool _, _, _, hlead, h | .int _, _, _, hlead, h | .float _, _, _, hlead, h
  | .text _, _, _, hlead, h => arePrinted_scalar hlead h

theorem arePrinted_itemChunks : ∀ (vs : List Value) (level : Nat), EveryItem IsExact vs →
    ArePrinted (itemChunks level vs)
  | [], _, _ => nofun
  | v :: vs, level, h => by
    have hopen : IsPrinted (("," : Text) ++ lineBreak level) :=
      IsPrinted.append (by decide) (isPrinted_lineBreak _)
    rw [itemChunks]
    exact (arePrinted_chunks v _ _ hopen h.1).append (arePrinted_itemChunks vs _ h.2)

theorem arePrinted_memberChunks : ∀ (ms : List (Text × Value)) (level : Nat), EveryMember IsExact ms →
    ArePrinted (memberChunks level ms)
  | [], _, _ => nofun
  | (name, v) :: ms, level, h => by
    have hopen : IsPrinted (("," : Text) ++ lineBreak level ++ writeText name ++ (": " : Text)) :=
      ((IsPrinted.append (by decide) (isPrinted_lineBreak _)).append
        (isPrinted_writeText name)).append (by decide)
    rw [memberChunks]
    exact ((arePrinted_chunks v _ _ isPrinted_nil h.1).cons hopen).append (arePrinted_memberChunks ms _ h.2)

end

/-- What is written of a value, in full or up to too large a number, is printed. -/
theorem isPrinted_render {v : Value} (h : v.Every IsExact) :
    (∀ t, render v = .ok t → IsPrinted t) ∧ ∀ t e, render v = .error (t, e) → IsPrinted t :=
  (arePrinted_chunks v [] 0 isPrinted_nil h).assemble

end Json

end ShellCoverage
