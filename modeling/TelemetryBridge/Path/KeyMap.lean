/-!
# Key maps

The keys of a path element: names with values, each name once. A name that is a canonical array
index stands before all other names, indices ascending; other names keep the order in which they
were first assigned.
-/

namespace TelemetryBridge

/-- The number a canonical array index denotes: decimal digits without a leading zero, below
`2 ^ 32 - 1`. -/
def arrayIndex? (name : String) : Option Nat :=
  let cs := name.toList
  let value := cs.foldl (fun n c => 10 * n + (c.toNat - '0'.toNat)) 0
  if cs ≠ [] ∧ cs.all Char.isDigit ∧ (cs.head? = some '0' → cs.length = 1) ∧ value < 4294967295 then
    some value
  else none

/-- Names with values, each name once. -/
structure KeyMap (α : Type) where
  entries : List (String × α)
  nodup : (entries.map Prod.fst).Nodup
deriving DecidableEq

namespace KeyMap

variable {α : Type}

def empty : KeyMap α := ⟨[], List.nodup_nil⟩

instance : EmptyCollection (KeyMap α) := ⟨empty⟩
instance : Inhabited (KeyMap α) := ⟨empty⟩

@[simp] theorem entries_empty : (∅ : KeyMap α).entries = [] := rfl

def names (m : KeyMap α) : List String :=
  m.entries.map Prod.fst

def get? (m : KeyMap α) (name : String) : Option α :=
  m.entries.lookup name

/-- Whether an entry named `other` stands before a new entry named `name`. -/
def precedes (name other : String) : Bool :=
  match arrayIndex? name, arrayIndex? other with
  | some i, some j => decide (j < i)
  | some _, none => false
  | none, _ => true

/-- Replaces the value of `name` where it stands, or else puts the entry behind all those that
precede it. -/
def assignTo (name : String) (value : α) (entries : List (String × α)) : List (String × α) :=
  if (entries.map Prod.fst).contains name then
    entries.map fun e => if e.1 = name then (name, value) else e
  else
    entries.takeWhile (fun e => precedes name e.1) ++
      (name, value) :: entries.dropWhile (fun e => precedes name e.1)

theorem map_fst_replace (name : String) (value : α) (entries : List (String × α)) :
    (entries.map fun e => if e.1 = name then (name, value) else e).map Prod.fst =
      entries.map Prod.fst := by
  rw [List.map_map]
  apply List.map_congr_left
  intro e _
  by_cases h : e.1 = name <;> simp [h]

theorem assignTo_perm {name : String} (value : α) {entries : List (String × α)}
    (h : name ∉ entries.map Prod.fst) :
    (assignTo name value entries).Perm ((name, value) :: entries) := by
  have hc : ¬(entries.map Prod.fst).contains name = true := by simpa using h
  rw [assignTo, if_neg hc]
  have hmid : (entries.takeWhile (fun e => precedes name e.1) ++
      (name, value) :: entries.dropWhile (fun e => precedes name e.1)).Perm
      ((name, value) :: (entries.takeWhile (fun e => precedes name e.1) ++
        entries.dropWhile (fun e => precedes name e.1))) := List.perm_middle
  rwa [List.takeWhile_append_dropWhile] at hmid

theorem nodup_assignTo (name : String) (value : α) {entries : List (String × α)}
    (h : (entries.map Prod.fst).Nodup) : ((assignTo name value entries).map Prod.fst).Nodup := by
  by_cases hn : name ∈ entries.map Prod.fst
  · rwa [assignTo, if_pos (by simpa using hn), map_fst_replace]
  · rw [((assignTo_perm value hn).map Prod.fst).nodup_iff, List.map_cons, List.nodup_cons]
    exact ⟨hn, h⟩

/-- Sets a name to a value; the name `__proto__` cannot be set. -/
def assign (m : KeyMap α) (name : String) (value : α) : KeyMap α :=
  if name = "__proto__" then m
  else ⟨assignTo name value m.entries, nodup_assignTo name value m.nodup⟩

def ofList (pairs : List (String × α)) : KeyMap α :=
  pairs.foldl (fun m p => m.assign p.1 p.2) ∅

/-- Same names with the same values, in whatever order. -/
def same [DecidableEq α] (a b : KeyMap α) : Bool :=
  a.entries.length == b.entries.length && a.entries.all fun e => b.get? e.1 == some e.2

end KeyMap

end TelemetryBridge
