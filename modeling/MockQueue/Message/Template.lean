import MockQueue.Message.Conversion

/-!
# Templates

A template is a row of literal characters and directives. Rendering walks the row with the arguments:
a supported conversion takes the next argument, a doubled percent sign gives one, and whatever cannot
be served is copied as written. A refused request ends the rendering after the pieces before it.
-/

namespace MockQueue.Message

inductive Segment where
  | literal (c : Char)
  | directive (text : DirectiveText)
  deriving DecidableEq, Repr

/-- The parts of a template, in order. After a directive it goes on behind the bytes that the directive takes. -/
def segments : List Char → List Segment
  | [] => []
  | c :: rest =>
    if _percent : c = '%' then
      .directive (DirectiveText.parse (c :: rest)).1 ::
        segments (Text.behind (DirectiveText.parse (c :: rest)).2 (c :: rest))
    else .literal c :: segments rest
termination_by template => template.length
decreasing_by
  · subst c
    exact DirectiveText.length_behind_parse_lt rest
  · simp

@[simp] theorem segments_nil : segments [] = [] := by
  rw [segments]

theorem segments_literal {c : Char} (plain : c ≠ '%') (rest : List Char) :
    segments (c :: rest) = .literal c :: segments rest := by
  rw [segments, dif_neg plain]

theorem segments_directive (rest : List Char) :
    segments ('%' :: rest) =
      .directive (DirectiveText.scan rest).1 :: segments (DirectiveText.scan rest).2 := by
  obtain ⟨parts, stands⟩ := DirectiveText.parse_percent rest
  rw [segments, dif_pos rfl, parts, stands.behind_eq]

/-- Induction along the parts of a template. -/
theorem segments_induction {motive : List Char → Prop} (nil : motive [])
    (directive : ∀ rest, motive (DirectiveText.scan rest).2 → motive ('%' :: rest))
    (literal : ∀ c rest, c ≠ '%' → motive rest → motive (c :: rest)) (template : List Char) : motive template := by
  induction template using segments.induct with
  | case1 => exact nil
  | case2 rest ih =>
    rw [(DirectiveText.parse_percent rest).2.behind_eq] at ih
    exact directive rest ih
  | case3 c rest plain ih => exact literal c rest plain ih

/-- What a renderer writes: pieces, and the refusal after them if there was one. -/
structure Rendering where
  pieces : List TextPiece := []
  refused : Option PlacesRefused := none
  deriving Repr

namespace Rendering

/-- The pieces before everything that the rendering writes. -/
def after (pieces : List TextPiece) (r : Rendering) : Rendering :=
  { r with pieces := pieces ++ r.pieces }

/-- What the rendering writes for a reader without a bound. -/
def text (r : Rendering) : List Char :=
  symbolsOf r.pieces

end Rendering

/-- The layout with its precision brought down to `limit`. -/
def Layout.clamp (layout : Layout) (limit : Nat) : Layout :=
  { layout with precision := layout.precision.map (min · limit) }

/-- The conversion that a directive asks for, if it is a supported one. -/
def DirectiveText.conversion? (d : DirectiveText) : Option Conversion :=
  d.conversion.bind Conversion.ofChar?

/-- Renders the parts of a template with their arguments, precisions being kept within `limit`. -/
def renderSegments (limit : Nat) : List Segment → List Argument → Rendering
  | [], _ => {}
  | .literal c :: rest, args => (renderSegments limit rest args).after [.run [c]]
  | .directive d :: rest, args =>
    if d.conversion = some '%' then (renderSegments limit rest args).after [.run ['%']]
    else
      match d.conversion?, args with
      | some conversion, arg :: others =>
        let layout := d.layout.clamp limit
        match conversion.refusal? layout arg with
        | some refusal => { refused := some refusal }
        | none =>
          (renderSegments limit rest others).after ((conversion.field layout arg).pieces layout)
      | _, _ => (renderSegments limit rest args).after [.run d.print]

def render (limit : Nat) (template : List Char) (args : List Argument) : Rendering :=
  renderSegments limit (segments template) args

end MockQueue.Message
