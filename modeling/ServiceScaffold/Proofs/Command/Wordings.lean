/-
The wordings of errors.

The report of an error is made of its message, its causes and its suggestions.  They repeat the
texts that the error carries, such as paths, names and reasons of the system, and put fixed words
and numbers around them.  None of these has an escape character, so that the report has one only
where a text that the error carries does.

* `Error.texts`, `ConfigError.texts`, `CommandError.texts` — the texts that an error carries.
* `CommandError.shown` — the texts that its report is made of.
* `CommandError.escapeFree_shown` — these against those.
-/
import ServiceScaffold.Command.Failure
import ServiceScaffold.Proofs.Command.Sequences

namespace ServiceScaffold

open Style
open List (forall_mem_nil forall_mem_cons forall_mem_singleton)

/-! ### Errors of the generator -/

namespace Error

/-- The texts that an error carries. -/
def texts : Error → List String
  | .unclosedParameter _ | .emptyServiceName | .generationIncomplete _ _ | .lockPoisoned => []
  | .missingParameter name => [name]
  | .invalidServiceSpec spec reason => [spec, reason]
  | .filesystem path reason => [path.text, reason]
  | .workerPool reason => [reason]

variable {e : Error}

theorem escapeFree_message (h : ∀ text ∈ e.texts, EscapeFree text) : EscapeFree e.message := by
  cases e with
  | unclosedParameter position => exact (EscapeFree.number position).within (by decide)
  | missingParameter name => exact (forall_mem_singleton.mp h).within (by decide)
  | emptyServiceName => exact .literal (by decide)
  | invalidServiceSpec spec reason =>
    rw [texts, forall_mem_cons, forall_mem_singleton] at h
    obtain ⟨hspec, hreason⟩ := h
    exact (hspec.within (by decide)).append hreason
  | filesystem path reason =>
    rw [texts, forall_mem_cons, forall_mem_singleton] at h
    obtain ⟨hpath, hreason⟩ := h
    exact (hpath.within (by decide)).append hreason
  | workerPool reason => exact (forall_mem_singleton.mp h).behind (by decide)
  | generationIncomplete failed total =>
    have hfailed := EscapeFree.number failed
    exact ((hfailed.within (by decide)).append (.number total)).append (.literal (by decide))
  | lockPoisoned => exact .literal (by decide)

theorem escapeFree_suggestions (h : ∀ text ∈ e.texts, EscapeFree text) :
    ∀ text ∈ e.suggestions, EscapeFree text := by
  cases e with
  | unclosedParameter position =>
    rw [suggestions, forall_mem_cons, forall_mem_singleton]
    exact ⟨(EscapeFree.number position).within (by decide), .literal (by decide)⟩
  | missingParameter name =>
    have hname := forall_mem_singleton.mp h
    rw [suggestions, forall_mem_cons, forall_mem_singleton]
    exact ⟨hname.within (by decide), .literal (by decide)⟩
  | filesystem path reason =>
    have hpath := (forall_mem_cons.mp h).1
    rw [suggestions, forall_mem_cons, forall_mem_cons, forall_mem_singleton]
    exact ⟨hpath.behind (by decide), .literal (by decide), .literal (by decide)⟩
  | lockPoisoned => exact forall_mem_singleton.mpr (.literal (by decide))
  | emptyServiceName | invalidServiceSpec | workerPool | generationIncomplete =>
    rw [suggestions, forall_mem_cons, forall_mem_singleton]
    exact ⟨.literal (by decide), .literal (by decide)⟩

end Error

/-! ### Errors of config documents -/

theorem ConfigField.escapeFree_text (field : ConfigField) : EscapeFree field.text := by
  cases field with
  | service index | serviceName index | serviceInterface index =>
    exact (EscapeFree.number index).within (by decide)
  | root | output | services | types | register => exact .literal (by decide)

theorem Expected.escapeFree_text (expected : Expected) : EscapeFree expected.text := by
  cases expected <;> exact .literal (by decide)

namespace ConfigError

/-- The texts that an error carries. -/
def texts : ConfigError → List String
  | .read path failure => [path.text, failure.text]
  | .malformed fault => [fault.path.text, fault.reason]
  | .missingField path _ | .invalidField path _ _ => [path.text]
  | .invalidService path _ error => path.text :: error.texts

variable {e : ConfigError}

theorem escapeFree_message (h : ∀ text ∈ e.texts, EscapeFree text) : EscapeFree e.message := by
  cases e with
  | read path failure =>
    rw [texts, forall_mem_cons, forall_mem_singleton] at h
    obtain ⟨hpath, hfailure⟩ := h
    exact (hpath.within (by decide)).append hfailure
  | malformed fault =>
    rw [texts, forall_mem_cons, forall_mem_singleton] at h
    obtain ⟨hpath, hreason⟩ := h
    exact (hpath.within (by decide)).append hreason
  | missingField path field =>
    have hpath := forall_mem_singleton.mp h
    exact ((hpath.within (by decide)).append field.escapeFree_text).append (.literal (by decide))
  | invalidField path field expected =>
    have hpath := forall_mem_singleton.mp h
    exact (((hpath.within (by decide)).append field.escapeFree_text).append
      (.literal (by decide))).append expected.escapeFree_text
  | invalidService path field error =>
    obtain ⟨hpath, herror⟩ := forall_mem_cons.mp h
    exact (((hpath.within (by decide)).append field.escapeFree_text).append
      (.literal (by decide))).append (Error.escapeFree_message herror)

theorem escapeFree_cause (h : ∀ text ∈ e.texts, EscapeFree text) :
    ∀ text ∈ e.cause?.toList, EscapeFree text := by
  cases e with
  | read path failure => exact (forall_mem_cons.mp h).2
  | malformed fault => exact (forall_mem_cons.mp h).2
  | missingField path field => exact forall_mem_nil _
  | invalidField path field expected => exact forall_mem_nil _
  | invalidService path field error =>
    have herror := (forall_mem_cons.mp h).2
    exact forall_mem_singleton.mpr (Error.escapeFree_message herror)

theorem escapeFree_suggestions (h : ∀ text ∈ e.texts, EscapeFree text) :
    ∀ text ∈ e.suggestions, EscapeFree text := by
  cases e with
  | read path failure =>
    have hpath := (forall_mem_cons.mp h).1
    rw [suggestions, forall_mem_cons, forall_mem_singleton]
    exact ⟨hpath.within (by decide), .literal (by decide)⟩
  | malformed fault =>
    have hpath := (forall_mem_cons.mp h).1
    rw [suggestions, forall_mem_cons, forall_mem_singleton]
    exact ⟨hpath.within (by decide), .literal (by decide)⟩
  | missingField path field =>
    have hpath := forall_mem_singleton.mp h
    have hfield := field.escapeFree_text
    rw [suggestions, forall_mem_cons, forall_mem_singleton]
    exact ⟨((hfield.within (by decide)).append hpath).append (.literal (by decide)),
      .literal (by decide)⟩
  | invalidField path field expected =>
    have hpath := forall_mem_singleton.mp h
    have hfield := field.escapeFree_text
    exact forall_mem_singleton.mpr
      ((((hfield.within (by decide)).append hpath).append (.literal (by decide))).append
        expected.escapeFree_text)
  | invalidService path field error =>
    exact Error.escapeFree_suggestions (forall_mem_cons.mp h).2

end ConfigError

/-! ### Errors of commands -/

namespace CommandError

/-- The texts that an error carries. -/
def texts : CommandError → List String
  | .configExists path => [path.text]
  | .config error => error.texts
  | .serialize text => [text]
  | .core error => error.texts
  | .io context failure => [context, failure.text]

/-- The texts that the report of an error is made of. -/
def shown (e : CommandError) (verbose : Bool) : List String :=
  e.message :: (if verbose then e.causes else []) ++ e.suggestions

variable {e : CommandError}

theorem escapeFree_message (h : ∀ text ∈ e.texts, EscapeFree text) : EscapeFree e.message := by
  cases e with
  | configExists path => exact (forall_mem_singleton.mp h).behind (by decide)
  | config error => exact ConfigError.escapeFree_message h
  | serialize text => exact (forall_mem_singleton.mp h).behind (by decide)
  | core error => exact (Error.escapeFree_message h).behind (by decide)
  | io context failure => exact (forall_mem_cons.mp h).1.behind (by decide)

theorem escapeFree_causes (h : ∀ text ∈ e.texts, EscapeFree text) :
    ∀ text ∈ e.causes, EscapeFree text := by
  cases e with
  | configExists path => exact forall_mem_nil _
  | config error => exact ConfigError.escapeFree_cause h
  | serialize text => exact h
  | core error =>
    have hmessage := Error.escapeFree_message h
    exact forall_mem_cons.mpr ⟨hmessage, forall_mem_singleton.mpr hmessage⟩
  | io context failure => exact (forall_mem_cons.mp h).2

theorem escapeFree_suggestions (h : ∀ text ∈ e.texts, EscapeFree text) :
    ∀ text ∈ e.suggestions, EscapeFree text := by
  cases e with
  | configExists path =>
    have hpath := forall_mem_singleton.mp h
    rw [suggestions, forall_mem_cons, forall_mem_cons, forall_mem_singleton]
    exact ⟨hpath.within (by decide), .literal (by decide), .literal (by decide)⟩
  | config error => exact ConfigError.escapeFree_suggestions h
  | serialize text => exact forall_mem_singleton.mpr (.literal (by decide))
  | core error => exact Error.escapeFree_suggestions h
  | io context failure =>
    have hcontext := (forall_mem_cons.mp h).1
    rw [suggestions, forall_mem_cons, forall_mem_cons, forall_mem_singleton]
    exact ⟨hcontext.behind (by decide), .literal (by decide), .literal (by decide)⟩

/-- A report has an escape character only where a text that the error carries has one. -/
theorem escapeFree_shown (h : ∀ text ∈ e.texts, EscapeFree text) (verbose : Bool) :
    ∀ text ∈ e.shown verbose, EscapeFree text := by
  have hcauses : ∀ text ∈ (if verbose then e.causes else []), EscapeFree text := by
    cases verbose with
    | true => exact escapeFree_causes h
    | false => exact forall_mem_nil _
  rw [shown, List.cons_append, forall_mem_cons, List.forall_mem_append]
  exact ⟨escapeFree_message h, hcauses, escapeFree_suggestions h⟩

end CommandError

end ServiceScaffold
