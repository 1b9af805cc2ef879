import MockQueue.Proofs.Juxtaposition
import MockQueue.Proofs.Padding
import MockQueue.Proofs.Visits

/-!
# Texts that are reported as they stand

A ready text can be reported in many ways: whole, in pieces, as the argument of a template or as a template with
its percent signs doubled, on a session or on the session of a thread (`Command.Quotes`). The writers differ, the
message does not: it is one cut of the text (`format_text`, `format_doubled`), and what is told of it is the same
(`verbatim_alike`).
-/

namespace MockQueue

open Message (Argument Truncates doubled)

namespace Message

/-- A text conversion without flags, width and precision writes its argument whole. -/
theorem write_text (text : String) : Conversion.text.write {} (.text text) = .ok text.toList := by
  rw [write_eq, refusal?_text]
  simp [Conversion.field, Argument.toText, Field.bare]

theorem render_text (limit : Nat) (text : String) (others : List Argument) :
    (render limit "%s".toList (.text text :: others)).text = text.toList ∧
      (render limit "%s".toList (.text text :: others)).refused = none := by
  have read : segments "%s".toList = [.directive ⟨[], [], none, [], some 's'⟩] := by decide +kernel
  have plain : (DirectiveText.mk [] [] none [] (some 's')).layout.clamp limit = {} := by rfl
  have asked : (DirectiveText.mk [] [] none [] (some 's')).conversion? = some .text := rfl
  have rendered := render_directive read asked limit (.text text) others
  rwa [plain, write_text] at rendered

theorem render_doubled (limit : Nat) (text : List Char) (args : List Argument) :
    (render limit (doubled text) args).text = text ∧ (render limit (doubled text) args).refused = none := by
  rw [render, renderSegments_eq, passages_doubled]
  exact renderPassages_copied limit text

namespace Formatter

variable (f : Formatter) (text : String)

theorem format_text (others : List Argument) :
    f.format "%s" (.text text :: others) = .ok (f.clip text.toList false) := by
  obtain ⟨written, unrefused⟩ := render_text f.precisionLimit text others
  rw [format_eq_clip, unrefused, written]

theorem format_doubled (args : List Argument) :
    f.format (String.ofList (doubled text.toList)) args = .ok (f.clip text.toList false) := by
  obtain ⟨written, unrefused⟩ := render_doubled f.precisionLimit text.toList args
  rw [format_eq_clip, String.toList_ofList, unrefused, written]

theorem compose_joined (pieces : List String) (keepGoing : Bool) :
    f.compose pieces keepGoing = f.clip (String.join pieces).toList false := by
  rw [compose_eq_clip, String.toList_join]

end Formatter

end Message

namespace Session

/-- The commands that report a text as it stands. -/
inductive Command.Quotes (text : String) : Command → Prop
  | fail : Quotes text (.fail text)
  | preformatted : Quotes text (.failPreformatted text false)
  | pieces {pieces : List String} (joined : String.join pieces = text) (keepGoing : Bool) :
    Quotes text (.assertPieces true pieces keepGoing)
  | argument (others : List Argument) : Quotes text (.assertWith true "%s" (.text text :: others))
  | template (args : List Argument) : Quotes text (.assertWith true (String.ofList (doubled text.toList)) args)

/-- Reports a text as it stands. -/
def quote (text : String) : Run Session Unit := do
  let s ← Run.get
  deliver (s.formatter.clip text.toList false)

theorem quote_run (text : String) (s : Session) :
    quote text s =
      ⟨s.binding.fate (s.formatter.clip text.toList false).text, s,
        s.told s.binding (s.formatter.clip text.toList false)⟩ := by
  simp [quote, Run.run_bind, deliver_run]

variable (s : Session)

theorem fail_eq_quote (text : String) : fail text s = quote text s := by
  rw [fail_run, quote_run, Message.Formatter.compose_joined]
  simp

theorem failPreformatted_eq_quote (text : String) : failPreformatted text false s = quote text s := by
  rw [failPreformatted_run, deliver_run, quote_run, Message.Formatter.bound_eq_clip]

theorem assertPieces_eq_quote (pieces : List String) (keepGoing : Bool) :
    assertPieces true pieces keepGoing s = quote (String.join pieces) s := by
  simp [assertPieces, quote, Run.run_bind, Message.Formatter.compose_joined]

/-- A template whose message is the text reports the text. -/
theorem assertWith_eq_quote {template text : String} {args : List Argument}
    (formatted : ∀ f : Message.Formatter, f.format template args = .ok (f.clip text.toList false)) :
    assertWith true template args s = quote text s := by
  have reported := report_run_ok (formatted s.formatter) s.binding
  simp [assertWith, Run.run_bind, reported, quote_run]

theorem perform_of_quotes {text : String} {c : Command} (quotes : c.Quotes text) :
    perform c s = (do quote text; return Answer.nothing : Run Session Answer) s := by
  cases quotes with
  | fail => simp only [perform, Run.run_bind_pure, fail_eq_quote]
  | preformatted => simp only [perform, Run.run_bind_pure, failPreformatted_eq_quote]
  | pieces joined keepGoing => simp only [perform, Run.run_bind_pure, assertPieces_eq_quote, joined]
  | argument others =>
    have same := assertWith_eq_quote s fun f => f.format_text text others
    simp only [perform, Run.run_bind_pure, same]
  | template args =>
    have same := assertWith_eq_quote s fun f => f.format_doubled text args
    simp only [perform, Run.run_bind_pure, same]

end Session

namespace Slot

open Session (Answer)

/-- The commands that report a text as it stands on the session of a thread. -/
inductive Command.Quotes (text : String) : Command → Prop
  | message : Quotes text (.assertMessage true text)
  | within {c : Session.Command} (quotes : c.Quotes text) : Quotes text (.within c)

theorem attempt_of_quotes {text : String} {c : Command} (quotes : c.Quotes text) (s : Session) :
    attempt (.command c) (.idle s) = enter (do Session.quote text; return Answer.nothing) (.idle s) := by
  cases quotes with
  | message =>
    simp only [attempt, assertMessage, if_true, Run.run_bind_pure, enter_idle, Session.fail_eq_quote]
  | within quotes => rw [attempt, enter_idle, enter_idle, Session.perform_of_quotes s quotes]

end Slot

namespace Session

/-- However a text is reported as it stands, the message is the same, with the same mark of being cut: one cut of
the text at the bound, whatever the settings. It is told to the reporter that is bound, and the telling ends and
leaves its trace in the same way too. On the session of a thread it is told as on a session by itself, whatever
reporters ask of the thread in between. -/
theorem verbatim_alike (settings : Settings) (queue : Queue) (binding : Binding) (text : String) :
    let s : Session := { settings, queue, binding }
    let message := s.formatter.clip text.toList false
    let told : Step Session Answer :=
      ⟨(s.binding.fate message.text).map fun _ => .nothing, s, s.told s.binding message⟩
    Truncates s.settings.capacity s.settings.marker text.toList false message ∧
      reports told.trace = s.binding.reporter.toList.map (fun r => (r, message.text)) ∧
      (∀ c : Command, c.Quotes text → perform c s = told) ∧
      ∀ (asks : String → List Slot.Inquiry) (c : Slot.Command), c.Quotes text →
        Slot.operate asks (.command c) (.idle s) =
          ⟨told.outcome, .idle told.state, told.trace.flatMap (Entry.spelled (Slot.spell asks))⟩ := by
  intro s message told
  have ran : (do quote text; return Answer.nothing : Run Session Answer) s = told := by
    rw [Run.run_bind_pure, quote_run]
  refine ⟨Message.Formatter.clip_truncates .., reports_told .., fun c quotes => ?_, fun asks c quotes => ?_⟩
  · rw [perform_of_quotes s quotes, ran]
  · simp only [Slot.operate_eq, Slot.attempt_of_quotes quotes, Slot.enter_idle, ran]

/-- A text with a percent sign that is cut within its third character: as an argument, with the sign doubled, and in
pieces through the session of a thread. -/
theorem verbatim_alike_percent :
    let s : Session := { settings := { capacity := 6, marker := "…" }, binding := ⟨some (.collector "A")⟩ }
    let pieces : Command := .assertPieces true ["5", "%€", "€"] true
    Command.Quotes "5%€€" (.assertWith true "%s" [.text "5%€€"]) ∧
      Command.Quotes "5%€€" (.assertWith true "5%%€€" [.int 7]) ∧
      Slot.Command.Quotes "5%€€" (.within pieces) ∧
      perform (.assertWith true "%s" [.text "5%€€"]) s = perform (.assertWith true "5%%€€" [.int 7]) s ∧
      (Slot.operate Slot.usual (.command (.within pieces)) (.idle s)).trace =
        [.logged (.messageTruncated 6) none, .logged (.reporting "5%…") none,
          .reported (.collector "A") "5%…"] := by
  intro s pieces
  have argument : Command.Quotes "5%€€" (.assertWith true "%s" [.text "5%€€"]) := .argument []
  have template : Command.Quotes "5%€€" (.assertWith true "5%%€€" [.int 7]) := .template [.int 7]
  have inPieces : Slot.Command.Quotes "5%€€" (.within pieces) := .within (.pieces (by decide) true)
  have cut : s.formatter.clip "5%€€".toList false = ⟨"5%…", true⟩ := by decide +kernel
  obtain ⟨-, -, alike, within⟩ := verbatim_alike s.settings s.queue s.binding "5%€€"
  refine ⟨argument, template, inPieces, (alike _ argument).trans (alike _ template).symm, ?_⟩
  rw [within Slot.usual _ inPieces, cut]
  rfl

end Session

end MockQueue
