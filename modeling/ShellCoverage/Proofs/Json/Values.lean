import ShellCoverage.Proofs.Json.Scalars
import ShellCoverage.Proofs.Table

/-!
# Values and their texts

What holds of a value and of all values in it; and the text of a value. The writer makes that text piece by piece,
since a number that is too large ends the output. Where all integers are small enough, the pieces make up the text
that `layout` gives at once.

* `Value.Every` : a property of a value and of all values in it;
* `Value.Every.imp`, `Value.Every.and_imp` : properties that follow from others;
* `Value.IsSafe` : what makes a value readable once it is written;
* `layout` : the text of a value at some level;
* `assemble_append` : the text of pieces, part by part;
* `assemble_chunks`, `render_eq_ok` : the pieces of a value make up its text.
-/

namespace ShellCoverage.Json

namespace Value

mutual

/-- The value and all values in it have a property. -/
def Every (P : Value → Prop) : Value → Prop
  | .list vs => P (.list vs) ∧ EveryItem P vs
  | .object ms => P (.object ms) ∧ EveryMember P ms
  | v => P v

/-- The values of a list, and all values in them, have a property. -/
def EveryItem (P : Value → Prop) : List Value → Prop
  | [] => True
  | v :: vs => Every P v ∧ EveryItem P vs

/-- The values of some members, and all values in them, have a property. -/
def EveryMember (P : Value → Prop) : List (Text × Value) → Prop
  | [] => True
  | (_, v) :: ms => Every P v ∧ EveryMember P ms

end

variable {P Q R : Value → Prop}

theorem everyItem_iff {vs : List Value} : EveryItem P vs ↔ ∀ v ∈ vs, Every P v := by
  induction vs with
  | nil => simp [EveryItem]
  | cons v vs ih => simp [EveryItem, ih]

theorem everyMember_iff {ms : List (Text × Value)} : EveryMember P ms ↔ ∀ m ∈ ms, Every P m.2 := by
  induction ms with
  | nil => simp [EveryMember]
  | cons m ms ih =>
    obtain ⟨name, v⟩ := m
    simp [EveryMember, ih]

theorem Every.here {v : Value} (h : v.Every P) : P v := by
  cases v with
  | list vs => exact h.1
  | object ms => exact h.1
  | null | bool | int | float | text => exact h

mutual

/-- Properties that imply another one together. -/
theorem Every.and_imp (hPQ : ∀ v, P v → Q v → R v) : ∀ {v : Value}, v.Every P → v.Every Q → v.Every R
  | .list _, h, h' => ⟨hPQ _ h.1 h'.1, EveryItem.and_imp hPQ h.2 h'.2⟩
  | .object _, h, h' => ⟨hPQ _ h.1 h'.1, EveryMember.and_imp hPQ h.2 h'.2⟩
  | .null, h, h' | .bool _, h, h' | .int _, h, h' | .float _, h, h' | .text _, h, h' => hPQ _ h h'

theorem EveryItem.and_imp (hPQ : ∀ v, P v → Q v → R v) :
    ∀ {vs : List Value}, EveryItem P vs → EveryItem Q vs → EveryItem R vs
  | [], _, _ => trivial
  | _ :: _, h, h' => ⟨Every.and_imp hPQ h.1 h'.1, EveryItem.and_imp hPQ h.2 h'.2⟩

theorem EveryMember.and_imp (hPQ : ∀ v, P v → Q v → R v) :
    ∀ {ms : List (Text × Value)}, EveryMember P ms → EveryMember Q ms → EveryMember R ms
  | [], _, _ => trivial
  | _ :: _, h, h' => ⟨Every.and_imp hPQ h.1 h'.1, EveryMember.and_imp hPQ h.2 h'.2⟩

end

theorem Every.imp (hPQ : ∀ v, P v → Q v) {v : Value} (h : v.Every P) : v.Every Q :=
  h.and_imp (fun v hv _ => hPQ v hv) h

/-! ## Values that can be read back -/

/-- Texts and names have no pairs of surrogates, and no name stands twice. -/
def IsPlain : Value → Prop
  | .text t => t.IsUnpaired
  | .object ms => (Table.keys ms).Nodup ∧ ∀ name ∈ Table.keys ms, name.IsUnpaired
  | _ => True

/-- An integer is small enough to be written. -/
def Fits : Value → Prop
  | .int n => n.natAbs < 10 ^ Numeral.digitLimit
  | _ => True

/-- The value is no floating-point number. -/
def IsExact : Value → Prop
  | .float _ => False
  | _ => True

/-- What is asked of a value, integers apart. -/
structure IsRegular (v : Value) : Prop where
  isPlain : v.IsPlain
  isExact : v.IsExact

/-- What is asked of a value, and of all values in it, for its text to be read back. -/
structure IsSafe (v : Value) : Prop extends IsRegular v where
  fits : v.Fits

/-- All but integers are safe if they are regular. -/
theorem IsRegular.isSafe {v : Value} (h : v.IsRegular) (hint : ∀ n, v ≠ .int n) : v.IsSafe where
  toIsRegular := h
  fits := by
    cases v with
    | int n => exact absurd rfl (hint n)
    | null | bool | float | text | list | object => trivial

/-- Integers of up to ten digits are safe. -/
theorem isSafe_int {n : Int} (h : n.natAbs < 10 ^ 10) : IsSafe (.int n) :=
  ⟨⟨trivial, trivial⟩, Nat.lt_of_lt_of_le h (Nat.pow_le_pow_right (by decide) (by decide))⟩

theorem isSafe_object {ms : List (Text × Value)} (hnodup : (Table.keys ms).Nodup)
    (hnames : ∀ name ∈ Table.keys ms, name.IsUnpaired) : IsSafe (.object ms) :=
  ⟨⟨⟨hnodup, hnames⟩, trivial⟩, trivial⟩

theorem Every.isSafe {v : Value} (h : v.Every IsRegular) (hfits : v.Every Fits) : v.Every IsSafe :=
  h.and_imp (fun _ hv hfits => ⟨hv, hfits⟩) hfits

end Value

/-! ## Texts -/

open Value

/-- The text of a value that is neither a list nor an object; integers of any size are written. -/
def scalarText : Value → Text
  | .bool true => "true"
  | .bool false => "false"
  | .int n => Text.ofInt n
  | .float x => writeFloat x
  | .text t => writeText t
  | _ => "null"

mutual

/-- The text of a value at some level. -/
def layout (level : Nat) : Value → Text
  | .list [] => [91, 93]
  | .list (v :: vs) =>
    91 :: (lineBreak (level + 1) ++ (layout (level + 1) v ++ (layoutItems (level + 1) vs ++
      (lineBreak level ++ [93]))))
  | .object [] => [123, 125]
  | .object ((name, v) :: ms) =>
    123 :: (lineBreak (level + 1) ++ (writeText name ++ (58 :: 32 :: (layout (level + 1) v ++
      (layoutMembers (level + 1) ms ++ (lineBreak level ++ [125]))))))
  | v => scalarText v

/-- The text of the items after the first. -/
def layoutItems (level : Nat) : List Value → Text
  | [] => []
  | v :: vs => 44 :: (lineBreak level ++ (layout level v ++ layoutItems level vs))

/-- The text of the members after the first. -/
def layoutMembers (level : Nat) : List (Text × Value) → Text
  | [] => []
  | (name, v) :: ms =>
    44 :: (lineBreak level ++ (writeText name ++ (58 :: 32 :: (layout level v ++ layoutMembers level ms))))

end

/-! ## Pieces -/

/-- Some output, with a text before it. -/
def addHead (t : Text) : Except (Text × Numeral.Error) Text → Except (Text × Numeral.Error) Text
  | .ok u => .ok (t ++ u)
  | .error (u, e) => .error (t ++ u, e)

theorem addHead_nil (x : Except (Text × Numeral.Error) Text) : addHead [] x = x := by
  cases x <;> rfl

theorem addHead_append (s t : Text) (x : Except (Text × Numeral.Error) Text) :
    addHead (s ++ t) x = addHead s (addHead t x) := by
  cases x <;> simp [addHead]

theorem assemble_ok_cons (t : Text) (cs : List Chunk) : assemble (.ok t :: cs) = addHead t (assemble cs) := by
  rw [assemble]
  cases assemble cs <;> rfl

theorem scalarChunk_eq_ok {v : Value} (h : v.Fits) : scalarChunk v = .ok (scalarText v) := by
  cases v with
  | int n => rw [scalarChunk, Numeral.writeInt, if_neg (Nat.not_le.2 h), scalarText]
  | bool b => cases b <;> rfl
  | null | float | text | list | object => rfl

theorem assemble_scalar {v : Value} {level : Nat} {lead : Text} {cs' : List Chunk} (h : v.Every Fits)
    (hchunks : cs' = [after lead (scalarChunk v)]) (hlayout : layout level v = scalarText v) (cs : List Chunk) :
    assemble (cs' ++ cs) = addHead (lead ++ layout level v) (assemble cs) := by
  rw [hchunks, hlayout, scalarChunk_eq_ok h.here]
  exact assemble_ok_cons _ cs

mutual

/-- The pieces of a value make up its text. -/
theorem assemble_chunks : ∀ (v : Value) (lead : Text) (level : Nat) (cs : List Chunk), v.Every Fits →
    assemble (chunks lead level v ++ cs) = addHead (lead ++ layout level v) (assemble cs)
  | .list [], lead, level, cs, _ => by
    rw [chunks, layout]
    exact assemble_ok_cons _ cs
  | .list (v :: vs), lead, level, cs, h => by
    rw [chunks, layout]
    simp only [List.append_assoc, List.cons_append, List.nil_append]
    rw [assemble_ok_cons, assemble_chunks v _ _ _ h.2.1, assemble_itemChunks vs _ _ h.2.2, assemble_ok_cons]
    simp only [← addHead_append, List.append_assoc]
    rfl
  | .object [], lead, level, cs, _ => by
    rw [chunks, layout]
    exact assemble_ok_cons _ cs
  | .object ((name, v) :: ms), lead, level, cs, h => by
    rw [chunks, layout]
    simp only [List.append_assoc, List.cons_append, List.nil_append]
    rw [assemble_ok_cons, assemble_chunks v _ _ _ h.2.1, assemble_memberChunks ms _ _ h.2.2, assemble_ok_cons]
    simp only [← addHead_append, List.append_assoc]
    rfl
  | .null, lead, level, cs, h | .bool _, lead, level, cs, h | .int _, lead, level, cs, h
  | .float _, lead, level, cs, h | .text _, lead, level, cs, h => assemble_scalar h rfl rfl cs

/-- The pieces of the items after the first make up their text. -/
theorem assemble_itemChunks : ∀ (vs : List Value) (level : Nat) (cs : List Chunk), EveryItem Fits vs →
    assemble (itemChunks level vs ++ cs) = addHead (layoutItems level vs) (assemble cs)
  | [], level, cs, _ => (addHead_nil _).symm
  | v :: vs, level, cs, h => by
    rw [itemChunks, layoutItems, List.append_assoc, assemble_chunks v _ _ _ h.1, assemble_itemChunks vs _ _ h.2]
    simp only [← addHead_append, List.append_assoc]
    rfl

/-- The pieces of the members after the first make up their text. -/
theorem assemble_memberChunks : ∀ (ms : List (Text × Value)) (level : Nat) (cs : List Chunk),
    EveryMember Fits ms →
      assemble (memberChunks level ms ++ cs) = addHead (layoutMembers level ms) (assemble cs)
  | [], level, cs, _ => (addHead_nil _).symm
  | (name, v) :: ms, level, cs, h => by
    rw [memberChunks, layoutMembers]
    simp only [List.append_assoc, List.cons_append]
    rw [assemble_ok_cons, assemble_chunks v _ _ _ h.1, assemble_memberChunks ms _ _ h.2]
    simp only [← addHead_append, List.append_assoc]
    rfl

end

/-- A value the integers of which are small enough is written. -/
theorem render_eq_ok {v : Value} (h : v.Every Fits) : render v = .ok (layout 0 v) := by
  have hchunks := assemble_chunks v [] 0 [] h
  rw [List.append_nil, List.nil_append, assemble, addHead, List.append_nil] at hchunks
  exact hchunks

end ShellCoverage.Json
