/-
The values that placeholders stand for.

A set of bindings gives at most one value to a name, and binding a name again replaces its value.

* `get?_insert` — a binding is found under its own name and hides nothing else.
* `size_insert` — the number of bound names grows exactly when the name is new.
-/

namespace ServiceScaffold

/-- Names with their values, each name once. -/
structure Bindings where
  entries : List (String × String)
deriving Repr, Inhabited

namespace Bindings

/-- No bindings. -/
def empty : Bindings := ⟨[]⟩

/-- Gives `key` the value `value` in a list of entries. -/
def put (key value : String) : List (String × String) → List (String × String)
  | [] => [(key, value)]
  | (k, v) :: rest => if k = key then (k, value) :: rest else (k, v) :: put key value rest

/-- Binds `key` to `value`. -/
def insert (b : Bindings) (key value : String) : Bindings :=
  ⟨put key value b.entries⟩

/-- The value of `key`. -/
def get? (b : Bindings) (key : String) : Option String :=
  b.entries.lookup key

/-- The number of bound names. -/
def size (b : Bindings) : Nat :=
  b.entries.length

/-- Binds each pair in turn. -/
def ofList (pairs : List (String × String)) : Bindings :=
  pairs.foldl (fun b p => b.insert p.1 p.2) empty

/-- Whether two sets bind the same names to the same values. -/
def agrees (a b : Bindings) : Bool :=
  a.size == b.size && a.entries.all fun e => b.get? e.1 == some e.2

theorem get?_insert (b : Bindings) (key value name : String) :
    (b.insert key value).get? name = if name = key then some value else b.get? name := by
  obtain ⟨entries⟩ := b
  simp only [insert, get?]
  induction entries with
  | nil => by_cases hn : name = key <;> simp [put, List.lookup_cons, hn, beq_eq_false_iff_ne.2]
  | cons e rest ih =>
    obtain ⟨k, v⟩ := e
    by_cases hk : k = key
    · subst hk
      by_cases hn : name = k
      · simp [put, hn]
      · simp [put, List.lookup_cons, hn, beq_eq_false_iff_ne.2 hn]
    · by_cases hn : name = k
      · subst hn
        simp [put, hk]
      · simp [put, hk, List.lookup_cons, beq_eq_false_iff_ne.2 hn, ih]

theorem size_insert (b : Bindings) (key value : String) :
    (b.insert key value).size = if (b.get? key).isSome then b.size else b.size + 1 := by
  obtain ⟨entries⟩ := b
  simp only [insert, get?, size]
  induction entries with
  | nil => simp [put]
  | cons e rest ih =>
    obtain ⟨k, v⟩ := e
    by_cases hk : k = key
    · subst hk
      simp [put]
    · have hk' : key ≠ k := fun h => hk h.symm
      simp only [put, hk, if_false, List.length_cons, List.lookup_cons,
        beq_eq_false_iff_ne.2 hk', ih]
      split <;> simp_all

end Bindings

end ServiceScaffold
