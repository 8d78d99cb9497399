/-
A record of the calls on a filesystem.

Any filesystem whose calls change a state can be asked to write down, in a second state beside its
own, which calls were made and how each of them was answered.  The record changes no answer.

* `Call` — a call with its answer.
* `Filesystem.recorded` — a filesystem that keeps the record.
-/
import ServiceScaffold.Filesystem

namespace ServiceScaffold

/-- A call on a filesystem, with its answer. -/
inductive Call where
  | createDirectories (path : Path) (answer : Except Error Unit)
  | writeFile (path : Path) (content : String) (answer : Except Error Unit)
  | pathExists (path : Path) (answer : Bool)

namespace Filesystem

variable {σ : Type}

/-- `fs`, with each call added at the end of the record. -/
def recorded (fs : Filesystem (StateM σ)) : Filesystem (StateM (σ × List Call)) where
  createDirectories p := fun (state, calls) =>
    let (answer, state') := fs.createDirectories p state
    (answer, state', calls ++ [.createDirectories p answer])
  writeFile p content := fun (state, calls) =>
    let (answer, state') := fs.writeFile p content state
    (answer, state', calls ++ [.writeFile p content answer])
  pathExists p := fun (state, calls) =>
    let (answer, state') := fs.pathExists p state
    (answer, state', calls ++ [.pathExists p answer])

theorem bind_apply {α β : Type} {x : StateM σ α} {f : α → StateM σ β} {s s' : σ} {a : α}
    (h : x s = (a, s')) : (x >>= f) s = f a s' := by
  show (let (a, s') := x s; f a s') = _
  rw [h]

/-- What `x` does from `s` on a filesystem, `y` does on the recorded one, adding `calls` to the
record. -/
structure Mirrors {α : Type} (x : StateM σ α) (y : StateM (σ × List Call) α) (s : σ) (a : α)
    (s' : σ) (calls : List Call) : Prop where
  plain : x s = (a, s')
  recorded : ∀ before, y (s, before) = (a, s', before ++ calls)

theorem Mirrors.pure {α : Type} (s : σ) (a : α) :
    Mirrors (Pure.pure a : StateM σ α) (Pure.pure a) s a s [] where
  plain := rfl
  recorded before := by rw [List.append_nil]; rfl

theorem Mirrors.bind {α β : Type} {x : StateM σ α} {y : StateM (σ × List Call) α}
    {f : α → StateM σ β} {g : α → StateM (σ × List Call) β} {s s₁ s₂ : σ} {a : α} {b : β}
    {first second : List Call} (hx : Mirrors x y s a s₁ first)
    (hf : Mirrors (f a) (g a) s₁ b s₂ second) :
    Mirrors (x >>= f) (y >>= g) s b s₂ (first ++ second) where
  plain := by rw [bind_apply hx.plain, hf.plain]
  recorded before := by
    rw [bind_apply (hx.recorded before), hf.recorded, List.append_assoc]

theorem createDirectories_mirrors (fs : Filesystem (StateM σ)) (p : Path) (s : σ) :
    ∃ answer s', Mirrors (fs.createDirectories p) (fs.recorded.createDirectories p) s answer s'
      [.createDirectories p answer] :=
  ⟨(fs.createDirectories p s).1, (fs.createDirectories p s).2, ⟨rfl, fun _ => rfl⟩⟩

theorem writeFile_mirrors (fs : Filesystem (StateM σ)) (p : Path) (content : String) (s : σ) :
    ∃ answer s', Mirrors (fs.writeFile p content) (fs.recorded.writeFile p content) s answer s'
      [.writeFile p content answer] :=
  ⟨(fs.writeFile p content s).1, (fs.writeFile p content s).2, ⟨rfl, fun _ => rfl⟩⟩

end Filesystem

end ServiceScaffold
