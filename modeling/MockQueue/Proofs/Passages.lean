import MockQueue.Message.Template

/-!
# Passages of a rendered template

A template and its arguments are walked once: `passages` says which stretches are copied as they are and
which directives are served with which argument. What a renderer writes is then a matter of the served
directives alone (`filled`). Rendering within a limit is related to that by two equations: the first
served directive that is refused ends it (`refused_eq`), and up to there it writes what `filled` has
(`text_isPrefix`, `text_eq`).
-/

namespace MockQueue.Message

/-- A directive with the conversion it asks for and the argument it takes. -/
structure Serving where
  directive : DirectiveText
  conversion : Conversion
  argument : Argument

namespace Serving

/-- What the directive asks for, precisions being kept within `limit`. -/
def layout (limit : Nat) (s : Serving) : Layout :=
  s.directive.layout.clamp limit

/-- The refusal of the directive, if it has more places to write than can be written. -/
def refusal? (limit : Nat) (s : Serving) : Option PlacesRefused :=
  s.conversion.refusal? (s.layout limit) s.argument

/-- What the directive makes of its argument under a layout, its width included. -/
def padded (layout : Layout) (s : Serving) : List Char :=
  symbolsOf ((s.conversion.field layout s.argument).pieces layout)

end Serving

/-- A stretch of the output of a template. -/
inductive Passage where
  | copied (text : List Char)
  | served (s : Serving)

/-- What becomes of the parts of a template with given arguments, in order. -/
def passages : List Segment → List Argument → List Passage
  | [], _ => []
  | .literal c :: rest, args => .copied [c] :: passages rest args
  | .directive d :: rest, args =>
    if d.conversion = some '%' then .copied ['%'] :: passages rest args
    else
      match d.conversion?, args with
      | some conversion, arg :: others => .served ⟨d, conversion, arg⟩ :: passages rest others
      | _, _ => .copied d.print :: passages rest args

/-- The directive, if the passage serves one. -/
def Passage.serving? : Passage → Option Serving
  | copied _ => none
  | served s => some s

/-- The directives of a template that are served, in order. -/
def servings (parts : List Segment) (args : List Argument) : List Serving :=
  (passages parts args).filterMap Passage.serving?

/-- The whole output when `write` says what is written for a served directive. -/
def filled (write : Serving → List Char) (stretches : List Passage) : List Char :=
  stretches.flatMap fun
    | .copied text => text
    | .served s => write s

section

variable {write : Serving → List Char} {stretches : List Passage}

@[simp] theorem filled_nil : filled write [] = [] := rfl

@[simp] theorem filled_copied (text : List Char) :
    filled write (.copied text :: stretches) = text ++ filled write stretches := rfl

@[simp] theorem filled_served (s : Serving) :
    filled write (.served s :: stretches) = write s ++ filled write stretches := rfl

end

/-- The rendering of passages: the first directive that is refused ends it. -/
def renderPassages (limit : Nat) : List Passage → Rendering
  | [] => {}
  | .copied text :: rest => (renderPassages limit rest).after [.run text]
  | .served s :: rest =>
    match s.refusal? limit with
    | some refusal => { refused := some refusal }
    | none =>
      (renderPassages limit rest).after
        ((s.conversion.field (s.layout limit) s.argument).pieces (s.layout limit))

theorem renderSegments_eq (limit : Nat) (parts : List Segment) (args : List Argument) :
    renderSegments limit parts args = renderPassages limit (passages parts args) := by
  induction parts generalizing args with
  | nil => rfl
  | cons part rest ih =>
    cases part with
    | literal c => exact congrArg (Rendering.after _) (ih args)
    | directive d =>
      unfold renderSegments passages
      by_cases percent : d.conversion = some '%'
      · rw [if_pos percent, if_pos percent, ih]
        rfl
      · rw [if_neg percent, if_neg percent]
        cases asked : d.conversion? with
        | none => exact congrArg (Rendering.after _) (ih args)
        | some conversion =>
          cases args with
          | nil => exact congrArg (Rendering.after _) (ih [])
          | cons arg others =>
            simp only [renderPassages, Serving.refusal?, Serving.layout]
            cases conversion.refusal? (d.layout.clamp limit) arg with
            | none => exact congrArg (Rendering.after _) (ih others)
            | some refusal => rfl

section

variable (limit : Nat) (stretches : List Passage)

@[simp] theorem text_after (pieces : List TextPiece) (r : Rendering) :
    (r.after pieces).text = symbolsOf pieces ++ r.text :=
  List.flatMap_append

/-- What ends a rendering is the first refusal among its served directives. -/
theorem refused_eq :
    (renderPassages limit stretches).refused =
      (stretches.filterMap Passage.serving?).findSome? (Serving.refusal? limit) := by
  induction stretches with
  | nil => rfl
  | cons stretch rest ih =>
    cases stretch with
    | copied text => exact ih
    | served s =>
      cases served : s.refusal? limit with
      | none => simpa [renderPassages, Passage.serving?, served, Rendering.after] using ih
      | some refusal => simp [renderPassages, Passage.serving?, served]

/-- Whatever a rendering writes stands at the front of what it would write without refusals. -/
theorem text_isPrefix :
    (renderPassages limit stretches).text <+: filled (fun s => s.padded (s.layout limit)) stretches := by
  induction stretches with
  | nil => exact List.nil_prefix
  | cons stretch rest ih =>
    cases stretch with
    | copied text =>
      rw [renderPassages, text_after, filled_copied]
      simpa [symbolsOf, Piece.symbols] using ih
    | served s =>
      rw [renderPassages, filled_served]
      cases s.refusal? limit with
      | none => simpa [Serving.padded] using ih
      | some refusal => exact List.nil_prefix

/-- A rendering that is not ended before writes all of it. -/
theorem text_eq (unrefused : (renderPassages limit stretches).refused = none) :
    (renderPassages limit stretches).text = filled (fun s => s.padded (s.layout limit)) stretches := by
  induction stretches with
  | nil => rfl
  | cons stretch rest ih =>
    cases stretch with
    | copied text =>
      rw [renderPassages, text_after, filled_copied, ih unrefused]
      simp [symbolsOf, Piece.symbols]
    | served s =>
      cases served : s.refusal? limit with
      | none =>
        simp only [renderPassages, served] at unrefused ⊢
        rw [text_after, filled_served, ih unrefused]
        rfl
      | some refusal => simp [renderPassages, served] at unrefused

end

end MockQueue.Message
