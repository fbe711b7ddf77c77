import TelemetryBridge.Text.Units

/-!
# Suggestions

What an unknown word may have been meant for: the candidates at the least edit distance from it, if
they are close enough.
-/

namespace TelemetryBridge.Suggestion

/-- The distance beyond which nothing is suggested. -/
def maxDistance : Nat := 3

/-- The rest of a row of the distance table, behind an entry `left`. The row belongs to the unit
`a` of the first word; `above` is the row before it from the entry above `left` on. `swap` has the
unit before `a`, the entries of the row before that one, and the unit of the second word before
those that are left. -/
def rowRest (a left : Nat) (swap : Option (Nat × List Nat × Nat)) : List Nat → List Nat → List Nat
  | b :: bs, diagonal :: up :: above =>
    let edited := min (min (up + 1) (left + 1)) (diagonal + if a = b then 0 else 1)
    let entry := match swap with
      | some (before, entry :: _, last) =>
        if a = last ∧ before = b then min edited (entry + 1) else edited
      | _ => edited
    let swap := swap.map fun (before, entries, _) => (before, entries.drop 1, b)
    entry :: rowRest a entry swap bs (up :: above)
  | _, _ => []

/-- The row of a unit: `index` is its place, `above` the row before it, and `before` the unit
before it with the row before that one. -/
def row (a index : Nat) (before : Option (Nat × List Nat)) (target above : List Nat) : List Nat :=
  match target, above with
  | b :: bs, diagonal :: up :: rest =>
    let entry := min (min (up + 1) (index + 1)) (diagonal + if a = b then 0 else 1)
    let swap := before.map fun (c, entries) => (c, entries, b)
    index :: entry :: rowRest a entry swap bs (up :: rest)
  | _, _ => [index]

def rows (target : List Nat) : Nat → Option (Nat × List Nat) → List Nat → List Nat → List Nat
  | _, _, above, [] => above
  | index, before, above, a :: as =>
    rows target (index + 1) (some (a, above)) (row a index before target above) as

/-- The number of insertions, deletions, replacements and swaps of neighbours that make one word the
other, where no part is edited twice. Words whose lengths differ by too much count as entirely
different. -/
def distance (word target : List Nat) : Nat :=
  if maxDistance < word.length - target.length ∨ maxDistance < target.length - word.length then
    max word.length target.length
  else (rows target 1 none (List.range (target.length + 1)) word).getLast?.getD 0

/-- Whether more than two fifths of the longer word are kept. -/
def isSimilar (word target : List Nat) : Bool :=
  let length := max word.length target.length
  2 * length < 5 * (length - distance word target)

/-- Candidates found so far, with their distance. -/
structure Best where
  distance : Nat := maxDistance
  found : List String := []

def consider (word : List Nat) (best : Best) (candidate : String) : Best :=
  let target := Text.units candidate
  let d := distance word target
  if target.length ≤ 1 ∨ !isSimilar word target then best
  else if d < best.distance then ⟨d, [candidate]⟩
  else if d = best.distance then { best with found := best.found ++ [candidate] }
  else best

/-- The candidates that an unknown word may have been meant for, in order. -/
def similar (word : String) (candidates : List String) : List String :=
  (candidates.foldl (consider (Text.units word)) {}).found.mergeSort Text.textLe

end TelemetryBridge.Suggestion
