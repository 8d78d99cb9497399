/-
Name patterns: templates filled with one converted name.

`parameterize` converts a name and binds it to both `Name` and `name`, so a pattern such as
`register{Name}.ts` says where it goes and the convention says how it looks.
-/
import ServiceScaffold.Naming
import ServiceScaffold.Template

namespace ServiceScaffold

/-- The two bindings of a name pattern. -/
def nameBindings (converted : String) : Bindings :=
  (Bindings.empty.insert "Name" converted).insert "name" converted

theorem nameBindings_get? (converted name : String) :
    (nameBindings converted).get? name =
      if name = "Name" ∨ name = "name" then some converted else none := by
  rw [nameBindings, Bindings.get?_insert, Bindings.get?_insert]
  by_cases hsmall : name = "name"
  · rw [if_pos hsmall, if_pos (.inr hsmall)]
  · simp only [hsmall, or_false, if_false]
    rfl

/-- Fills `pattern` with `name` in the convention `convention`. -/
def parameterize (pattern name : String) (convention : NamingCase) : Except Error String :=
  Template.fill pattern (nameBindings (convention.convert name))

/-- Names in a row, with `separator` between each two. -/
def joinNames (names : List String) (separator : String) : String :=
  Template.join separator names

end ServiceScaffold
