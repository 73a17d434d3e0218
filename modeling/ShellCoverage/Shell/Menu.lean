import ShellCoverage.Shell.Octets

/-!
# Menus

The items of a menu are numbered and stand in columns, each of which is read from top to bottom. The space
between two columns is filled up with tabs as far as tab stops allow.

* `Menu.gap` : the space between two positions of a line;
* `Menu.text` : the lines of a menu.
-/

namespace ShellCoverage.Shell.Menu

/-- The distance of tab stops. -/
def tabWidth : Nat := 8

/-- The number of digits of a number. -/
def numberWidth (n : Nat) : Nat := (Octets.ofNat n).length

/-- The characters that lead from one position of a line to another one; at most `n` of them. -/
def gapWithin : Nat → Nat → Nat → List Char
  | 0, _, _ => []
  | n + 1, start, stop =>
    if stop ≤ start then []
    else if start / tabWidth < stop / tabWidth then
      '\t' :: gapWithin n (start + (tabWidth - start % tabWidth)) stop
    else ' ' :: gapWithin n (start + 1) stop

/-- The characters that lead from one position of a line to another one. -/
def gap (start stop : Nat) : List Char := gapWithin (stop - start) start stop

/-- A number in at least so many places, and an item. -/
def entry (width number : Nat) (item : Octets) : Octets :=
  let n := Octets.ofNat number
  String.ofList (List.replicate (width - n.length) ' ') ++ n ++ ") " ++ item

/-- The rest of a line that has an item in every `step`th place of those left, from some position on. -/
def line (step columnWidth firstWidth width : Nat) : Nat → Nat → List (Octets × Nat) → Octets
  | 0, _, _ => ""
  | _, _, [] => ""
  | n + 1, position, (item, number) :: rest =>
    let w := if position = 0 then firstWidth else width
    let text := entry w number item
    match rest.drop (step - 1) with
    | [] => text
    | next =>
      text ++ String.ofList (gap (position + w + 2 + item.length) (position + columnWidth)) ++
        line step columnWidth firstWidth width n (position + columnWidth) next

/-- The lines of a menu on a screen of some width. -/
def text (screenWidth : Nat) (items : List Octets) : Octets :=
  let size := items.length
  let width := numberWidth size
  let columnWidth := items.foldl (fun n s => max n s.length) 0 + width + 4
  let most := max 1 (screenWidth / columnWidth)
  let rows := (size + most - 1) / most
  let columns := (size + rows - 1) / rows
  let rows := if rows = 1 then columns else rows
  let numbered := items.zipIdx.map fun i => (i.1, i.2 + 1)
  String.join ((List.range rows).map fun row =>
    line rows columnWidth (numberWidth rows) width size 0 (numbered.drop row) ++ "\n")

end ShellCoverage.Shell.Menu
