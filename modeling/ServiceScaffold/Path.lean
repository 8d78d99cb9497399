/-
Slash-separated paths.

A `Path` keeps the text it was spelled with, and what it denotes is read off as a list of
`Component`s: repeated slashes, a trailing slash and inner dots vanish, while a leading dot and
every pair of dots stay.  Two spellings of the same components name the same place.

* `components` — the meaning of a path; equality, prefixes and the order of paths are those of
  their component lists.
* `join` — one slash between the two texts, unless the left one is empty or ends in a slash; an
  absolute right path replaces the left one.
* `parent?`, `ancestors`, `stripBase?` — parts of a path, which keep its spelling.
-/

namespace ServiceScaffold

/-- One step of a path. -/
inductive Component where
  /-- The slash at the start of an absolute path. -/
  | root
  /-- The dot at the start of a relative path. -/
  | current
  /-- Two dots: one step up. -/
  | parent
  /-- A step to the entry of that name. -/
  | normal (name : String)
deriving DecidableEq, Repr, Inhabited

/-- A path, with the text it was spelled with. -/
structure Path where
  text : String
deriving DecidableEq, Repr, Inhabited

namespace Path

/-- The stretches of a text between its slashes; always at least one. -/
def pieces : List Char → List (List Char)
  | [] => [[]]
  | c :: r =>
    if c = '/' then
      [] :: pieces r
    else
      match pieces r with
      | [] => [[c]]
      | p :: ps => (c :: p) :: ps

/-- Writes pieces back, with a slash between each two. -/
def unpieces : List (List Char) → List Char
  | [] => []
  | [p] => p
  | p :: ps => p ++ '/' :: unpieces ps

/-- An empty piece or a lone dot, which is no step. -/
def isIdle (piece : List Char) : Bool :=
  piece == [] || piece == ['.']

/-- The step that a piece stands for away from the start of a path. -/
def step? (piece : List Char) : Option Component :=
  if isIdle piece then none
  else if piece = ['.', '.'] then some .parent
  else some (.normal (String.ofList piece))

/-- A path whose first character is a slash. -/
def isAbsolute (p : Path) : Bool :=
  p.text.toList.head? == some '/'

/-- The components of a text. -/
def componentsOf (text : List Char) : List Component :=
  match pieces text with
  | [] :: rest@(_ :: _) => .root :: rest.filterMap step?
  | ['.'] :: rest => .current :: rest.filterMap step?
  | all => all.filterMap step?

/-- What a path denotes. -/
def components (p : Path) : List Component :=
  componentsOf p.text.toList

/-- Two paths name the same place when their components agree. -/
def same (p q : Path) : Bool :=
  p.components == q.components

/-- Whether `p` is `base` or lies below it, component by component. -/
def isUnder (p base : Path) : Bool :=
  base.components.isPrefixOf p.components

/-- The place of a component in the order of components: the root, a leading dot, two dots, and
then the names by their characters. -/
def rank : Component → List Nat
  | .root => [0]
  | .current => [1]
  | .parent => [2]
  | .normal name => 3 :: name.toList.map Char.toNat

/-- Paths are sorted by the ranks of their components. -/
def sortKey (p : Path) : List (List Nat) :=
  p.components.map rank

/-- The order of dictionaries: lists are compared at the first place where they differ, and a list
stands before its extensions.  `le` is the order of the elements. -/
def dictionaryOrder {α : Type} (le : α → α → Bool) : List α → List α → Bool
  | [], _ => true
  | _ :: _, [] => false
  | a :: as, b :: bs => le a b && (!le b a || dictionaryOrder le as bs)

/-- Whether `p` may stand before `q` in a sorted list. -/
def sortsBefore (p q : Path) : Bool :=
  dictionaryOrder (dictionaryOrder Nat.ble) p.sortKey q.sortKey

/-- Appends `q` to `p`. -/
def join (p q : Path) : Path :=
  if q.isAbsolute then q
  else if p.text.toList = [] || p.text.toList.getLast? = some '/' then ⟨p.text ++ q.text⟩
  else ⟨p.text ++ "/" ++ q.text⟩

/-- Appends a relative text to `p`. -/
def child (p : Path) (name : String) : Path :=
  p.join ⟨name⟩

/-- Drops the idle pieces at the end. -/
def dropIdleEnd (ps : List (List Char)) : List (List Char) :=
  (ps.reverse.dropWhile isIdle).reverse

/-- Drops the last step, and the idle pieces on either side of it. -/
def dropLastStep (ps : List (List Char)) : List (List Char) :=
  dropIdleEnd (((ps.reverse.dropWhile isIdle).drop 1).reverse)

/-- The path without its last component; a bare root and the empty path have none. -/
def parent? (p : Path) : Option Path :=
  match pieces p.text.toList with
  | [] :: rest@(_ :: _) =>
    if rest.all isIdle then none
    else some ⟨String.ofList ('/' :: unpieces (dropLastStep rest))⟩
  | ['.'] :: rest =>
    if rest.all isIdle then some ⟨""⟩
    else some ⟨String.ofList (unpieces (['.'] :: dropLastStep rest))⟩
  | all =>
    if all.all isIdle then none
    else some ⟨String.ofList (unpieces (dropLastStep all))⟩

/-- The path and its successive parents, at most `count` of them. -/
def ancestorsUpTo : Nat → Path → List Path
  | 0, _ => []
  | count + 1, p =>
    p :: match p.parent? with
      | some q => ancestorsUpTo count q
      | none => []

/-- The path, its parent, the parent of that, and so on. -/
def ancestors (p : Path) : List Path :=
  ancestorsUpTo (p.components.length + 1) p

/-- Drops the pieces up to and including the `n`th step. -/
def dropSteps : Nat → List (List Char) → List (List Char)
  | 0, ps => ps
  | _ + 1, [] => []
  | n + 1, p :: ps => if isIdle p then dropSteps (n + 1) ps else dropSteps n ps

/-- The pieces after the first `n` components, without idle pieces at either end. -/
def restAfter (n : Nat) (ps : List (List Char)) : List (List Char) :=
  dropIdleEnd ((dropSteps n ps).dropWhile isIdle)

/-- What remains of `p` below `base`, in the spelling of `p`. -/
def stripBase? (p base : Path) : Option Path :=
  if !p.isUnder base then none
  else
    match base.components.length, pieces p.text.toList with
    | 0, _ => some p
    | n + 1, [] :: rest@(_ :: _) => some ⟨String.ofList (unpieces (restAfter n rest))⟩
    | n + 1, ['.'] :: rest => some ⟨String.ofList (unpieces (restAfter n rest))⟩
    | n + 1, all => some ⟨String.ofList (unpieces (restAfter (n + 1) all))⟩

/-- A text has at least one piece. -/
theorem pieces_ne_nil (text : List Char) : pieces text ≠ [] := by
  cases text with
  | nil => simp [pieces]
  | cons c r =>
    unfold pieces
    split
    · simp
    · split <;> simp

/-- Cutting a text at its slashes loses nothing. -/
theorem unpieces_pieces (text : List Char) : unpieces (pieces text) = text := by
  induction text with
  | nil => rfl
  | cons c r ih =>
    obtain ⟨p, ps, hr⟩ := List.exists_cons_of_ne_nil (pieces_ne_nil r)
    rw [hr] at ih
    unfold pieces
    split
    · rename_i h
      subst h
      simp [hr, unpieces, ih]
    · rw [hr]
      cases ps with
      | nil => simpa [unpieces] using ih
      | cons q qs => simpa [unpieces] using ih

end Path

end ServiceScaffold
