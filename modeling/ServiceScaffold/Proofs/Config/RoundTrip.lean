/-
Config documents read back from their text.

A document is written as a value that stands for it, and so it is what is read from that value.
The value holds no number and is three containers deep, so it is read back from its text in turn.

* `describes_toJson` — a document is what its value stands for.
* `isPlain_toJson` — the value is read back from its text.
* `parse_text` — a document as text.
-/
import ServiceScaffold.Proofs.Config.Validation
import ServiceScaffold.Proofs.Json.RoundTrip

namespace ServiceScaffold

open Json

/-! ### As values -/

theorem TypesOptions.describes_toJson (o : TypesOptions) :
    ConfigDocument.DescribesOptions TypesOptions.known {} (some o.toJson) o where
  object json hjson := ⟨_, (Option.some.inj hjson).symm⟩
  text option hoption := by
    simp only [known, List.mem_cons, List.not_mem_nil, or_false] at hoption
    rcases hoption with rfl | rfl | rfl <;> rfl

theorem RegisterOptions.describes_toJson (o : RegisterOptions) :
    ConfigDocument.DescribesOptions RegisterOptions.known {} (some o.toJson) o where
  object json hjson := ⟨_, (Option.some.inj hjson).symm⟩
  text option hoption := by
    simp only [known, List.mem_cons, List.not_mem_nil, or_false] at hoption
    rcases hoption with rfl | rfl | rfl | rfl <;> rfl

namespace ConfigDocument

theorem describesService_toJson (s : Service) : DescribesService s.toJson s where
  name := rfl
  interface := rfl

theorem forall₂_describesService (services : List Service) :
    List.Forall₂ DescribesService (services.map Service.toJson) services := by
  rw [List.forall₂_map_left_iff, List.forall₂_same]
  intro s _
  exact describesService_toJson s

theorem describes_toJson (d : ConfigDocument) : Describes d.toJson d where
  output := rfl
  services := ⟨_, rfl, forall₂_describesService d.services⟩
  types := d.types.describes_toJson
  register := d.register.describes_toJson

/-! ### As texts -/

theorem arePlain_map_toJson (depth : Nat) (services : List Service) :
    arePlain (depth + 1) (services.map Service.toJson) = true := by
  induction services with
  | nil => rfl
  | cons s rest ih =>
    rw [List.map_cons, arePlain, Bool.and_eq_true]
    exact ⟨rfl, ih⟩

theorem isPlain_toJson (d : ConfigDocument) : d.toJson.isPlain maxDepth = true := by
  have hservices := arePlain_map_toJson 124 d.services
  have htypes : d.types.toJson.isPlain 126 = true := rfl
  have hregister : d.register.toJson.isPlain 126 = true := rfl
  simp [toJson, maxDepth, isPlain, hasPlainMembers, hservices, htypes, hregister]

/-- A document is read back from its text, whatever its strings hold. -/
theorem parse_text (origin : Path) (d : ConfigDocument) : parse origin d.text = .ok d := by
  rw [parse, text, parse?_pretty d.isPlain_toJson]
  exact (reads_ofJson origin d.toJson).eq_ok d.describes_toJson

end ConfigDocument

end ServiceScaffold
