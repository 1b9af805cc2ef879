import MockQueue.Proofs.Passages

/-!
# Templates one after another

A directive ends at its conversion character, whatever follows (`scan_append`). So a template that does not
end inside a directive is read on its own (`segments_append`), and what comes after it depends on it only
through the arguments that it has taken (`templates_compose`).

Which part has which argument is also said without walking along: the turn of a part is the argument with as
many before it as parts before the part take one (`passages_eq_mapIdx`).
-/

namespace MockQueue.Message

/-! ## Reading -/

section

variable {p : Char → Bool} {text : List Char}

/-- A row that ends before the text does is the same whatever follows the text. -/
theorem takeWhile_append_of_stops (stops : text.dropWhile p ≠ []) (more : List Char) :
    (text ++ more).takeWhile p = text.takeWhile p := by
  have parts := congrArg List.length (List.takeWhile_append_dropWhile (p := p) (l := text))
  have rest := List.length_pos_iff.mpr stops
  rw [List.length_append] at parts
  rw [List.takeWhile_append, if_neg (by omega)]

theorem dropWhile_append_of_stops (stops : text.dropWhile p ≠ []) (more : List Char) :
    (text ++ more).dropWhile p = text.dropWhile p ++ more := by
  rw [List.dropWhile_append, if_neg (by simpa using stops)]

end

namespace DirectiveText

theorem scanPrecision_append_right {text : List Char} (stops : (scanPrecision text).2 ≠ []) (more : List Char) :
    scanPrecision (text ++ more) = ((scanPrecision text).1, (scanPrecision text).2 ++ more) := by
  cases text with
  | nil => exact absurd rfl stops
  | cons c rest =>
    by_cases point : c = '.'
    · subst point
      have digits : rest.dropWhile Char.isDigit ≠ [] := stops
      simp only [List.cons_append, scanPrecision, takeWhile_append_of_stops digits,
        dropWhile_append_of_stops digits]
    · rw [List.cons_append, scanPrecision_of_ne point, scanPrecision_of_ne point, List.cons_append]

/-- A directive that has its conversion character is read the same whatever follows it. -/
theorem scan_append {text : List Char} (complete : (scan text).1.conversion.isSome) (more : List Char) :
    scan (text ++ more) = ((scan text).1, (scan text).2 ++ more) := by
  -- None of the parts before the conversion character reaches the end of the text.
  have lengths : (scanPrecision ((text.dropWhile isFlag).dropWhile Char.isDigit)).2.dropWhile isLengthLetter ≠ [] := by
    intro ended
    simp [scan, scanConversion, ended] at complete
  have precision : (scanPrecision ((text.dropWhile isFlag).dropWhile Char.isDigit)).2 ≠ [] := by
    intro ended
    simp [ended] at lengths
  have width : (text.dropWhile isFlag).dropWhile Char.isDigit ≠ [] := by
    intro ended
    simp [ended, scanPrecision] at precision
  have flags : text.dropWhile isFlag ≠ [] := by
    intro ended
    simp [ended] at width
  simp only [scan, scanConversion, takeWhile_append_of_stops flags, dropWhile_append_of_stops flags,
    takeWhile_append_of_stops width, dropWhile_append_of_stops width, scanPrecision_append_right precision,
    takeWhile_append_of_stops lengths, dropWhile_append_of_stops lengths, List.head?_append,
    List.head?_eq_some_head lengths, Option.some_or, List.tail_append_of_ne_nil lengths]

end DirectiveText

/-- Whether the part is not cut short by the end of the text. -/
def Segment.isFinished : Segment → Bool
  | literal _ => true
  | directive d => d.conversion.isSome

/-- Reading the template from the left never reaches its end inside a directive. -/
def IsComplete (template : List Char) : Prop :=
  ∀ part ∈ segments template, part.isFinished = true

theorem segments_append {front : List Char} (complete : IsComplete front) (back : List Char) :
    segments (front ++ back) = segments front ++ segments back := by
  induction front using segments_induction with
  | nil => rw [List.nil_append, segments_nil, List.nil_append]
  | directive rest ih =>
    rw [IsComplete, segments_directive, List.forall_mem_cons] at complete
    rw [List.cons_append, segments_directive, segments_directive, DirectiveText.scan_append complete.1,
      ih complete.2, List.cons_append]
  | literal c rest plain ih =>
    rw [IsComplete, segments_literal plain, List.forall_mem_cons] at complete
    rw [List.cons_append, segments_literal plain, segments_literal plain, ih complete.2, List.cons_append]

/-- The part of the template as it is written. -/
def Segment.source : Segment → List Char
  | literal c => [c]
  | directive d => d.print

/-- Nothing of a template is lost when it is read. -/
theorem source_segments (template : List Char) : (segments template).flatMap Segment.source = template := by
  induction template using segments_induction with
  | nil => simp
  | directive rest ih =>
    rw [segments_directive, List.flatMap_cons, ih]
    exact DirectiveText.print_scan_append rest
  | literal c rest plain ih =>
    rw [segments_literal plain, List.flatMap_cons, ih]
    rfl

/-! ## Taking arguments -/

/-- The letters of the supported conversions. -/
def conversionLetters : List Char :=
  ['d', 'i', 'u', 'x', 'X', 'o', 'c', 's', 'f', 'F', 'e', 'E', 'g', 'G', 'p']

/-- Whether the part takes an argument if there is one left. -/
def Segment.takes : Segment → Bool
  | literal _ => false
  | directive d => d.conversion.any conversionLetters.contains

/-- How many arguments the parts take if there are enough of them. -/
def demand (parts : List Segment) : Nat :=
  parts.countP Segment.takes

theorem isSome_ofChar? (c : Char) : (Conversion.ofChar? c).isSome = conversionLetters.contains c := by
  unfold Conversion.ofChar?
  split <;> simp_all [conversionLetters]

theorem takes_directive (d : DirectiveText) : (Segment.directive d).takes = d.conversion?.isSome := by
  cases asked : d.conversion with
  | none => simp only [Segment.takes, DirectiveText.conversion?, asked, Option.any_none, Option.bind_none,
      Option.isSome_none]
  | some c => simp only [Segment.takes, DirectiveText.conversion?, asked, Option.any_some, Option.bind_some,
      isSome_ofChar?]

theorem conversion?_percent {d : DirectiveText} (percent : d.conversion = some '%') : d.conversion? = none := by
  rw [DirectiveText.conversion?, percent]
  rfl

/-- What is written for a part without an argument: the part itself, or one percent sign where the directive
asks for that. -/
def Segment.copy : Segment → List Char
  | literal c => [c]
  | directive d => if d.conversion = some '%' then ['%'] else (directive d).source

/-- What becomes of a part whose turn it is to take `turn`. -/
def Segment.passage (turn : Option Argument) : Segment → Passage
  | literal c => .copied (literal c).copy
  | directive d =>
    match d.conversion?, turn with
    | some conversion, some arg => .served ⟨d, conversion, arg⟩
    | _, _ => .copied (directive d).copy

/-- A part that takes no argument does not mind whose turn it is, and one that finds none is copied too. -/
theorem passage_eq_copied {part : Segment} {turn : Option Argument} (unserved : part.takes = false ∨ turn = none) :
    part.passage turn = .copied part.copy := by
  cases part with
  | literal c => rfl
  | directive d =>
    rw [takes_directive, Option.isSome_eq_false_iff, Option.isNone_iff_eq_none] at unserved
    unfold Segment.passage
    dsimp only
    rcases unserved with unknown | missing
    · rw [unknown]
    · rw [missing]
      cases d.conversion? with
      | none => rfl
      | some conversion => rfl

theorem passages_cons (part : Segment) (rest : List Segment) (args : List Argument) :
    passages (part :: rest) args =
      part.passage args[0]? :: passages rest (if part.takes then args.tail else args) := by
  cases part with
  | literal c => rfl
  | directive d =>
    by_cases percent : d.conversion = some '%'
    · have asked := conversion?_percent percent
      rw [passage_eq_copied (.inl (by rw [takes_directive, asked]; rfl)), takes_directive, asked]
      simp [passages, percent, Segment.copy]
    · rw [takes_directive]
      conv => lhs; unfold passages
      unfold Segment.passage
      rw [if_neg percent]
      dsimp only
      rw [Segment.copy, if_neg percent]
      cases d.conversion? with
      | none => rfl
      | some conversion =>
        cases args with
        | nil => rfl
        | cons arg others => rfl

theorem demand_cons (part : Segment) (rest : List Segment) :
    demand (part :: rest) = (if part.takes then 1 else 0) + demand rest := by
  rw [demand, demand, List.countP_cons, Nat.add_comm]

theorem passages_append (front back : List Segment) (args : List Argument) :
    passages (front ++ back) args = passages front args ++ passages back (args.drop (demand front)) := by
  induction front generalizing args with
  | nil => rfl
  | cons part rest ih =>
    rw [List.cons_append, passages_cons, passages_cons, ih, demand_cons, List.cons_append]
    cases part.takes with
    | true => simp [Nat.add_comm]
    | false => simp

theorem passages_eq_mapIdx (parts : List Segment) (args : List Argument) :
    passages parts args = parts.mapIdx fun k part => part.passage args[demand (parts.take k)]? := by
  induction parts generalizing args with
  | nil => rfl
  | cons part rest ih =>
    have turn (k : Nat) :
        (if part.takes then args.tail else args)[demand (rest.take k)]? = args[demand (part :: rest.take k)]? := by
      rw [demand_cons]
      cases part.takes with
      | true => simp [Nat.add_comm]
      | false => simp
    rw [passages_cons, ih, List.mapIdx_cons]
    simp only [turn, List.take_succ_cons, List.take_zero]
    rfl

/-- Arguments beyond those that can be taken are not looked at. -/
theorem passages_take (parts : List Segment) (args : List Argument) :
    passages parts (args.take (demand parts)) = passages parts args := by
  induction parts generalizing args with
  | nil => rfl
  | cons part rest ih =>
    rw [passages_cons, passages_cons, demand_cons]
    cases takes : part.takes with
    | true =>
      cases args with
      | nil => simp
      | cons arg others => simp [Nat.add_comm 1, ih others]
    | false =>
      rw [passage_eq_copied (.inl takes), passage_eq_copied (.inl takes)]
      simp [ih args]

/-! ## Rendering -/

/-- One rendering after another; a refusal in the first is the end. -/
def Rendering.followedBy (first second : Rendering) : Rendering :=
  match first.refused with
  | some _ => first
  | none => second.after first.pieces

theorem followedBy_after (pieces : List TextPiece) (first second : Rendering) :
    (first.after pieces).followedBy second = (first.followedBy second).after pieces := by
  obtain ⟨written, refused⟩ := first
  cases refused with
  | none => simp [Rendering.followedBy, Rendering.after]
  | some refusal => rfl

theorem renderPassages_append (limit : Nat) (front back : List Passage) :
    renderPassages limit (front ++ back) = (renderPassages limit front).followedBy (renderPassages limit back) := by
  induction front with
  | nil => rfl
  | cons stretch rest ih =>
    cases stretch with
    | copied text => rw [List.cons_append, renderPassages, renderPassages, ih, followedBy_after]
    | served s =>
      rw [List.cons_append, renderPassages, renderPassages]
      cases s.refusal? limit with
      | none => rw [ih, followedBy_after]
      | some refusal => rfl

/-- The text with every percent sign written twice. -/
def doubled (text : List Char) : List Char :=
  text.flatMap fun c => if c = '%' then ['%', '%'] else [c]

theorem passages_doubled (text : List Char) (args : List Argument) :
    passages (segments (doubled text)) args = text.map fun c => .copied [c] := by
  induction text with
  | nil => simp [doubled, passages]
  | cons c rest ih =>
    rw [doubled, List.flatMap_cons, ← doubled, List.map_cons, ← ih]
    by_cases percent : c = '%'
    · subst percent
      rw [if_pos rfl, List.cons_append, List.cons_append, List.nil_append, segments_directive]
      rfl
    · rw [if_neg percent, List.cons_append, List.nil_append, segments_literal percent]
      rfl

theorem renderPassages_copied (limit : Nat) (text : List Char) :
    (renderPassages limit (text.map fun c => .copied [c])).text = text ∧
      (renderPassages limit (text.map fun c => .copied [c])).refused = none := by
  induction text with
  | nil => exact ⟨rfl, rfl⟩
  | cons c rest ih =>
    rw [List.map_cons, renderPassages, text_after, ih.1]
    exact ⟨rfl, ih.2⟩

/-- A complete template is rendered the same whatever is put after it, and what is put after it as if it stood
alone, with the arguments that are left. So each part of a template has the argument whose turn it is, the
parts together are the template, and arguments beyond those are not looked at; a part that takes none or
finds none is copied as it is written. With its percent signs doubled, a text is rendered as itself. -/
theorem templates_compose (limit : Nat) (args : List Argument) :
    (∀ front back, IsComplete front →
      render limit (front ++ back) args =
        (render limit front args).followedBy (render limit back (args.drop (demand (segments front))))) ∧
    (∀ template,
      (segments template).flatMap Segment.source = template ∧
      render limit template args =
        renderPassages limit ((segments template).mapIdx fun k part =>
          part.passage args[demand ((segments template).take k)]?) ∧
      render limit template (args.take (demand (segments template))) = render limit template args) ∧
    (∀ (part : Segment) (turn : Option Argument), part.takes = false ∨ turn = none →
      part.passage turn = .copied part.copy) ∧
    ∀ text, (render limit (doubled text) args).text = text ∧ (render limit (doubled text) args).refused = none := by
  refine ⟨?_, ?_, ?_, ?_⟩
  · intro front back complete
    simp only [render, renderSegments_eq]
    rw [segments_append complete, passages_append, renderPassages_append]
  · intro template
    simp only [render, renderSegments_eq]
    refine ⟨source_segments template, ?_, ?_⟩
    · rw [passages_eq_mapIdx]
    · rw [passages_take]
  · intro part turn unserved
    exact passage_eq_copied unserved
  · intro text
    rw [render, renderSegments_eq, passages_doubled]
    exact renderPassages_copied limit text

/-- The directives of both templates are served, with an escaped percent sign between them. -/
theorem templates_compose_around_percent :
    let front := "%-3d%5%".toList
    let back := "%s%d".toList
    let args : List Argument := [.int 7, .text "%"]
    IsComplete front ∧
      render 100 (front ++ back) args = (render 100 front args).followedBy (render 100 back [.text "%"]) ∧
      (render 100 (front ++ back) args).text = "7  %%%d".toList ∧
      (Segment.passage none (.directive (DirectiveText.scan "d".toList).1)) = .copied "%d".toList := by
  intro front back args
  have complete : IsComplete front := by unfold IsComplete; decide +kernel
  have left : args.drop (demand (segments front)) = [.text "%"] := by decide +kernel
  obtain ⟨composed, -, copied, -⟩ := templates_compose 100 args
  exact ⟨complete, left ▸ composed front back complete, by decide +kernel, copied _ none (.inr rfl)⟩

end MockQueue.Message
