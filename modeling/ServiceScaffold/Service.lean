/-
Services.

A service has a name, which is never empty, and the name of the interface it implements.  On a
command line it is written as a specification, `name` or `name:Interface`; without an interface
the name decides one, `I` followed by the name in Pascal case.

* `ofSpec` — reads a specification; blanks around either name do not count.
* `spec` — writes a service back, always with its interface.
-/
import ServiceScaffold.Blank
import ServiceScaffold.Error
import ServiceScaffold.Naming

namespace ServiceScaffold

/-- A service to scaffold files for. -/
structure Service where
  name : String
  interface : String
  name_ne_empty : name ≠ ""
deriving DecidableEq, Repr

namespace Service

/-- A service with a given interface. -/
def new (name interface : String) : Except Error Service :=
  if h : name = "" then .error .emptyServiceName else .ok ⟨name, interface, h⟩

/-- The interface of a service that names none. -/
def inferInterface (name : String) : String :=
  "I" ++ Naming.pascal name

/-- A service with the interface that its name decides. -/
def inferred (name : String) : Except Error Service :=
  new name (inferInterface name)

/-- Why a specification with a colon is refused. -/
inductive SpecFault where
  | emptyName
  | emptyInterface
  | tooManySeparators
deriving DecidableEq, Repr

/-- The wording of a fault. -/
def SpecFault.reason : SpecFault → String
  | .emptyName => "service name is empty"
  | .emptyInterface => "interface name after ':' is empty"
  | .tooManySeparators => "more than one ':' separator"

/-- The text before the first colon and the text after it. -/
def splitAtColon : List Char → Option (List Char × List Char)
  | [] => none
  | c :: rest =>
    if c = ':' then some ([], rest)
    else (splitAtColon rest).map fun (before, after) => (c :: before, after)

/-- Reads a specification. -/
def ofSpec (spec : String) : Except Error Service :=
  match splitAtColon spec.toList with
  | none => inferred (trim spec)
  | some (before, after) =>
    let name := trim (String.ofList before)
    let interface := trim (String.ofList after)
    let refuse (fault : SpecFault) : Except Error Service :=
      .error (.invalidServiceSpec spec fault.reason)
    if name = "" then refuse .emptyName
    else if interface = "" then refuse .emptyInterface
    else if ':' ∈ interface.toList then refuse .tooManySeparators
    else new name interface

/-- Reads specifications up to the first that is refused. -/
def ofSpecs : List String → Except Error (List Service)
  | [] => .ok []
  | spec :: rest =>
    match ofSpec spec with
    | .error e => .error e
    | .ok service =>
      match ofSpecs rest with
      | .error e => .error e
      | .ok services => .ok (service :: services)

/-- The specification of a service. -/
def spec (s : Service) : String :=
  s.name ++ ":" ++ s.interface

/-- A service is built from every name but the empty one. -/
theorem new_eq_ok_iff {name interface : String} {s : Service} :
    new name interface = .ok s ↔ s.name = name ∧ s.interface = interface := by
  obtain ⟨n, i, hn⟩ := s
  unfold new
  split
  · rename_i h
    simp only [reduceCtorEq, false_iff]
    rintro ⟨rfl, -⟩
    exact hn h
  · simp [eq_comm]

end Service

end ServiceScaffold
