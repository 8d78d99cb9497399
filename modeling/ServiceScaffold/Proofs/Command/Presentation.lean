/-
Colours and quiet are presentation only.

A coloured text is the plain one with control sequences in it, so that taking these out gives the
plain text back, in the report of an error as well as in the messages of a console.  The texts that
are shown must not hold the escape character themselves.  A quiet console leaves its output stream
empty and its error stream as it is.

* `CommandError.isMarked_render` — a coloured report against the plain one.
* `Message.isMarked_line` — a coloured message against the plain one.
* `Console.textOn_writeAll` — what messages leave on a stream of a console.
* `presentation_only` — reports and consoles, coloured and quiet.
-/
import ServiceScaffold.Command.Console
import ServiceScaffold.Proofs.Command.Wordings

namespace ServiceScaffold

open Style

/-! ### Reports -/

namespace CommandError

variable {e : CommandError}

theorem isMarked_head (h : EscapeFree e.message) :
    IsMarked
      ("\n" ++ bold (paint .red "✗ Error:") ++ " " ++ paint .red e.message ++ "\n")
      ("\n" ++ "✗ Error:" ++ " " ++ e.message ++ "\n") := by
  have htitle : IsMarked (bold (paint .red "✗ Error:")) "✗ Error:" :=
    (IsMarked.paint (.literal (by decide)) .red).bold
  have hmessage : IsMarked (paint .red e.message) e.message := (IsMarked.of_escapeFree h).paint .red
  exact ((htitle.within (by decide)).append hmessage).append (.literal (by decide))

theorem isMarked_causes (h : ∀ cause ∈ e.causes, EscapeFree cause) :
    IsMarked
      (String.join (e.causes.map fun cause =>
        "  " ++ dimmed "caused by:" ++ " " ++ cause ++ "\n"))
      (String.join (e.causes.map fun cause => "  " ++ "caused by:" ++ " " ++ cause ++ "\n")) := by
  refine IsMarked.join_map fun cause hcause => ?_
  have htitle : IsMarked (dimmed "caused by:") "caused by:" :=
    IsMarked.dimmed (.literal (by decide))
  have hshown : IsMarked cause cause := .of_escapeFree (h cause hcause)
  exact ((htitle.within (by decide)).append hshown).append (.literal (by decide))

theorem isMarked_suggestions (h : ∀ suggestion ∈ e.suggestions, EscapeFree suggestion) :
    IsMarked
      (String.join (("\n" ++ bold (paint .yellow "Suggestions:") ++ "\n") ::
        e.suggestions.map fun suggestion => "  - " ++ suggestion ++ "\n"))
      (String.join (("\n" ++ "Suggestions:" ++ "\n") ::
        e.suggestions.map fun suggestion => "  - " ++ suggestion ++ "\n")) := by
  have htitle : IsMarked (bold (paint .yellow "Suggestions:")) "Suggestions:" :=
    (IsMarked.paint (.literal (by decide)) .yellow).bold
  rw [String.join_cons, String.join_cons]
  refine (htitle.within (by decide)).append ?_
  refine IsMarked.join_map fun suggestion hsuggestion => ?_
  exact (IsMarked.of_escapeFree (h suggestion hsuggestion)).within (by decide)

theorem isMarked_hint :
    IsMarked
      ("\n" ++ dimmed "Use -v / --verbose for more details." ++ "\n")
      ("\n" ++ "Use -v / --verbose for more details." ++ "\n") :=
  (IsMarked.dimmed (.literal (by decide))).within (by decide)

/-- A coloured report is the plain one with control sequences in it. -/
theorem isMarked_render {verbose : Bool} (h : ∀ text ∈ e.shown verbose, EscapeFree text) :
    IsMarked (e.render verbose true) (e.render verbose false) := by
  rw [shown, List.cons_append, List.forall_mem_cons, List.forall_mem_append] at h
  obtain ⟨hmessage, hcauses, hsuggestions⟩ := h
  have hhead := isMarked_head hmessage
  have hlist := isMarked_suggestions hsuggestions
  cases verbose with
  | true =>
    exact ((hhead.append (isMarked_causes hcauses)).append hlist).append (.literal (by decide))
  | false => exact ((hhead.append (.literal (by decide))).append hlist).append isMarked_hint

end CommandError

/-! ### Messages -/

namespace Message

/-- The text that a message shows. -/
def text : Message → String
  | .plain text | .toned _ text | .header text => text

/-- A coloured message is the plain one with control sequences in it. -/
theorem isMarked_line {message : Message} (h : EscapeFree message.text) :
    IsMarked (message.line true) (message.line false) := by
  cases message with
  | plain text => exact .of_escapeFree h
  | toned tone text =>
    have hsymbol : EscapeFree tone.symbol := by cases tone <;> exact .literal (by decide)
    exact ((((IsMarked.of_escapeFree hsymbol).paint tone.color).bold).append
      (.literal (by decide))).append ((IsMarked.of_escapeFree h).paint tone.color)
  | header text => exact ((IsMarked.of_escapeFree h).paint .cyan).bold

end Message

namespace Console

/-- Whether a console shows a message on a stream. -/
def shows (console : Console) (stream : Stream) (message : Message) : Bool :=
  message.stream == stream && !(console.quiet && message.stream == .output)

theorem textOn_append (stream : Stream) (chunks more : List Chunk) :
    Chunk.textOn stream (chunks ++ more) =
      Chunk.textOn stream chunks ++ Chunk.textOn stream more := by
  rw [Chunk.textOn, List.filter_append, List.map_append, String.join_append]
  rfl

theorem textOn_write (console : Console) (stream : Stream) (message : Message) :
    Chunk.textOn stream (console.write message) =
      if console.shows stream message then message.line console.color ++ "\n" else "" := by
  rw [write, shows]
  by_cases hhidden : (console.quiet && message.stream == .output) = true
  · rw [if_pos hhidden, hhidden]
    simp [Chunk.textOn]
  · rw [if_neg hhidden, Bool.eq_false_iff.mpr hhidden]
    by_cases hstream : message.stream = stream <;> simp [Chunk.textOn, hstream]

/-- The lines that messages leave on a stream. -/
theorem textOn_writeAll (console : Console) (stream : Stream) (messages : List Message) :
    Chunk.textOn stream (console.writeAll messages) =
      String.join ((messages.filter (console.shows stream)).map fun message =>
        message.line console.color ++ "\n") := by
  induction messages with
  | nil => rfl
  | cons message messages ih =>
    rw [writeAll, List.flatMap_cons, textOn_append, textOn_write, ← writeAll, ih, List.filter_cons]
    by_cases hshows : console.shows stream message = true
    · rw [if_pos hshows, if_pos hshows, List.map_cons, String.join_cons]
    · rw [if_neg hshows, if_neg hshows, String.empty_append]

/-- The streams of a coloured console are those of a plain one with control sequences in them. -/
theorem isMarked_writeAll {messages : List Message}
    (h : ∀ message ∈ messages, EscapeFree message.text) (quiet : Bool) (stream : Stream) :
    IsMarked (Chunk.textOn stream (writeAll ⟨quiet, true⟩ messages))
      (Chunk.textOn stream (writeAll ⟨quiet, false⟩ messages)) := by
  rw [textOn_writeAll, textOn_writeAll]
  refine IsMarked.join_map fun message hmessage => ?_
  have hline := Message.isMarked_line (h message (List.mem_filter.mp hmessage).1)
  exact hline.append (.literal (by decide))

theorem textOn_output_quiet (color : Bool) (messages : List Message) :
    Chunk.textOn .output (writeAll ⟨true, color⟩ messages) = "" := by
  have hnone : messages.filter (shows ⟨true, color⟩ .output) = [] := by
    rw [List.filter_eq_nil_iff]
    intro message _
    simp [shows]
  rw [textOn_writeAll, hnone]
  rfl

theorem textOn_error_quiet (color : Bool) (messages : List Message) :
    Chunk.textOn .error (writeAll ⟨true, color⟩ messages) =
      Chunk.textOn .error (writeAll ⟨false, color⟩ messages) := by
  have hshows : shows ⟨true, color⟩ .error = shows ⟨false, color⟩ .error := by
    funext message
    cases hstream : message.stream <;> simp [shows, hstream]
  rw [textOn_writeAll, textOn_writeAll, hshows]

end Console

/-! ### Presentation -/

/-- Where the texts that are shown have no escape character, taking the control sequences out of a
coloured report gives the plain one, and the same holds of both streams of a console; the texts
that an error shows have none where those that it carries have none.  A quiet console writes nothing
to the output stream, and to the error stream what one that is not quiet writes. -/
theorem presentation_only :
    (∀ (e : CommandError) (verbose : Bool),
      ((∀ text ∈ e.texts, EscapeFree text) → ∀ text ∈ e.shown verbose, EscapeFree text) ∧
      ((∀ text ∈ e.shown verbose, EscapeFree text) →
        withoutSequences (e.render verbose true) = e.render verbose false)) ∧
    (∀ messages : List Message, (∀ message ∈ messages, EscapeFree message.text) →
      ∀ quiet stream,
        withoutSequences (Chunk.textOn stream (Console.writeAll ⟨quiet, true⟩ messages)) =
          Chunk.textOn stream (Console.writeAll ⟨quiet, false⟩ messages)) ∧
    ∀ (messages : List Message) (color : Bool),
      Chunk.textOn .output (Console.writeAll ⟨true, color⟩ messages) = "" ∧
      Chunk.textOn .error (Console.writeAll ⟨true, color⟩ messages) =
        Chunk.textOn .error (Console.writeAll ⟨false, color⟩ messages) := by
  refine ⟨fun e verbose => ⟨?_, ?_⟩, fun messages h quiet stream => ?_,
    fun messages color => ⟨?_, ?_⟩⟩
  · intro h
    exact CommandError.escapeFree_shown h verbose
  · intro h
    exact (CommandError.isMarked_render h).withoutSequences_eq
  · exact (Console.isMarked_writeAll h quiet stream).withoutSequences_eq
  · exact Console.textOn_output_quiet color messages
  · exact Console.textOn_error_quiet color messages

/-- An error with a cause, and messages on both streams. -/
theorem presentation_only_absent :
    let absent : CommandError := .config (.read ⟨"digen.json"⟩ .notFound)
    let messages : List Message :=
      [.header "Generating", .toned .error "cache: refused", .plain "Done"]
    absent.texts = ["digen.json", "No such file or directory (os error 2)"] ∧
    withoutSequences (absent.render true true) = absent.render true false ∧
    (messages.map Message.text = ["Generating", "cache: refused", "Done"] ∧
      ∀ stream, withoutSequences (Chunk.textOn stream (Console.writeAll ⟨false, true⟩ messages)) =
        Chunk.textOn stream (Console.writeAll ⟨false, false⟩ messages)) := by
  intro absent messages
  have htexts : ∀ text ∈ absent.texts, EscapeFree text := by
    simp only [absent, CommandError.texts, ConfigError.texts, List.forall_mem_cons]
    exact ⟨.literal (by decide), .literal (by decide), List.forall_mem_nil _⟩
  have hmessages : ∀ message ∈ messages, EscapeFree message.text := by
    simp only [messages, List.forall_mem_cons]
    exact ⟨.literal (by decide), .literal (by decide), .literal (by decide), List.forall_mem_nil _⟩
  obtain ⟨herrors, hconsoles, -⟩ := presentation_only
  obtain ⟨hshown, hrender⟩ := herrors absent true
  exact ⟨rfl, hrender (hshown htexts), rfl, hconsoles messages hmessages false⟩

end ServiceScaffold
