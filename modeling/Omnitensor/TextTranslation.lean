/-
This file models the translation of a document span by span.

Every span is translated, and progress is reported after each; a span that comes back without text stops
the document. So a document is translated whole exactly if no span is blank, which white space at its
beginning or end can be.
-/

import Omnitensor.TextBlanks

namespace Omnitensor

namespace Spans

/-- Why a document is not translated: a refusal, a value that is none, or what someone else raised. -/
inductive TranslationFailure where
  | refused (code detail : String)
  | value (detail : String)
  | raised (error : String)
  deriving DecidableEq

variable (ratios : TokenRatios)

/-- How large a span may be, given what one generation may produce. -/
def spanBudgetTokens (outputTokens : Nat) : Except TranslationFailure Nat :=
  if ratios.spanTokens outputTokens < 1 then
    .error (.refused "budget-too-small" "the task's output budget cannot hold any span")
  else .ok (ratios.spanTokens outputTokens)

/-- The spans a document will be translated in. -/
def plan (text : PyString) (outputTokens : Nat) : Except TranslationFailure (List Span) := do
  let budget ← spanBudgetTokens ratios outputTokens
  match split ratios text budget with
  | .error detail => .error (.value detail)
  | .ok spans =>
    if covers text spans then .ok spans
    else .error (.refused "split-incomplete" "the document did not split cleanly")

/-- One span's answer. -/
structure SpanTranslation where
  span : Span
  text : PyString
  deriving DecidableEq

/-- A whole document, translated. -/
structure Translation where
  text : PyString
  spans : List SpanTranslation
  deriving DecidableEq

/-- What a translator makes of a span: it raises, or answers with a text or something else. -/
abbrev SpanTranslator : Type := Span → Except String (Option PyString)

/-- Translate spans one after another, with what progress is reported: how many are done of how many. -/
def translateSpans (translateSpan : SpanTranslator) (raiseIfCancelled : Nat → Option String) (count : Nat) :
    List Span → List SpanTranslation →
      Except TranslationFailure (List SpanTranslation) × List (Nat × Nat)
  | [], translated => (.ok translated, [])
  | span :: spans, translated =>
    match raiseIfCancelled translated.length with
    | some error => (.error (.raised error), [])
    | none =>
      match translateSpan span with
      | .error error => (.error (.raised error), [])
      | .ok answer =>
        match answer.filter fun text => decide (PyString.strip text ≠ []) with
        | none =>
          (.error (.refused "span-untranslated" ("span " ++ toString (span.index + 1) ++ " of " ++
            toString count ++ " came back empty")), [])
        | some text =>
          let translated := translated ++ [⟨span, text⟩]
          let later := translateSpans translateSpan raiseIfCancelled count spans translated
          (later.1, (translated.length, count) :: later.2)

/-- Translate a text span by span and reassemble it. -/
def translateDocument (text : PyString) (outputTokens : Nat) (translateSpan : SpanTranslator)
    (raiseIfCancelled : Nat → Option String) :
    Except TranslationFailure Translation × List (Nat × Nat) :=
  match plan ratios text outputTokens with
  | .error failure => (.error failure, [])
  | .ok spans =>
    if spans = [] then (.ok ⟨[], []⟩, [])
    else
      let outcome := translateSpans translateSpan raiseIfCancelled spans.length spans []
      (outcome.1.map fun translated => ⟨reassemble (translated.map SpanTranslation.text), translated⟩,
        outcome.2)

/-! ### Planning -/

variable {ratios} {text : PyString} {outputTokens : Nat}

/-- The characters that a span may have. -/
def spanCharacters (ratios : TokenRatios) (outputTokens : Nat) : Nat :=
  ratios.characters (ratios.spanTokens outputTokens)

/-- A budget that is accepted gives the pieces of the text. -/
theorem plan_eq_ok {spans : List Span} (planned : plan ratios text outputTokens = .ok spans) :
    spans = placed 0 0 (piecesOf text (spanCharacters ratios outputTokens)) := by
  rw [plan, spanBudgetTokens] at planned
  split at planned
  · cases planned
  · rw [ok_bind, split_eq (by omega)] at planned
    dsimp only at planned
    split at planned
    · exact (Except.ok.inj planned).symm
    · cases planned

/-! ### Translating -/

/-- A translator answers with text exactly for the spans in which there is something. -/
def Answers (translateSpan : SpanTranslator) : Prop :=
  ∀ span, (∃ answer, translateSpan span = .ok (some answer) ∧ ¬ Blank answer) ↔ ¬ Blank span.text

/-- The answers of a translator to spans, in their order. -/
structure Answered (translateSpan : SpanTranslator) (spans : List Span)
    (translated : List SpanTranslation) : Prop where
  order : translated.map SpanTranslation.span = spans
  answers : ∀ item ∈ translated, translateSpan item.span = .ok (some item.text)

/-- Progress from one number of spans that are done to the number of all. -/
def reports (done count : Nat) : List (Nat × Nat) :=
  (List.range' (done + 1) (count - done)).map fun finished => (finished, count)

theorem reports_of_lt {done count : Nat} (more : done < count) :
    reports done count = (done + 1, count) :: reports (done + 1) count := by
  have left : count - done = count - (done + 1) + 1 := by omega
  rw [reports, left, List.range'_succ, List.map_cons, reports]

/-- A document is translated: the text is the answers to its spans in order, and every number of spans is
reported once. -/
def Translated (ratios : TokenRatios) (text : PyString) (outputTokens : Nat) (translateSpan : SpanTranslator)
    (outcome : Except TranslationFailure Translation × List (Nat × Nat)) : Prop :=
  ∃ spans translated, plan ratios text outputTokens = .ok spans ∧ Answered translateSpan spans translated ∧
    outcome = (.ok ⟨reassemble (translated.map SpanTranslation.text), translated⟩, reports 0 spans.length)

variable {translateSpan : SpanTranslator}

/-- Spans in which there is something are all translated. -/
theorem translateSpans_of_something (answers : Answers translateSpan) {count : Nat} {spans : List Span}
    {translated : List SpanTranslation} (something : ∀ span ∈ spans, ¬ Blank span.text)
    (counted : translated.length + spans.length = count) :
    ∃ later, Answered translateSpan spans later ∧
      translateSpans translateSpan (fun _ => none) count spans translated =
        (.ok (translated ++ later), reports translated.length count) := by
  induction spans generalizing translated with
  | nil =>
    refine ⟨[], ⟨rfl, fun _ member => absurd member List.not_mem_nil⟩, ?_⟩
    have all : count - translated.length = 0 := by simpa using Nat.sub_eq_zero_of_le counted.ge
    rw [translateSpans, List.append_nil, reports, all]
    rfl
  | cons span spans inductionHypothesis =>
    obtain ⟨first, others⟩ := List.forall_mem_cons.mp something
    obtain ⟨answer, answered, filled⟩ := (answers span).mpr first
    have kept : (some answer).filter (fun text => decide (PyString.strip text ≠ [])) = some answer := by
      rw [Option.filter_some, if_pos]
      exact decide_eq_true fun none => filled (strip_eq_nil_iff.mp none)
    rw [List.length_cons] at counted
    obtain ⟨later, rest, same⟩ := @inductionHypothesis (translated ++ [⟨span, answer⟩]) others
      (by rw [List.length_append, List.length_singleton]; omega)
    refine ⟨⟨span, answer⟩ :: later, ⟨?_, List.forall_mem_cons.mpr ⟨answered, rest.answers⟩⟩, ?_⟩
    · rw [List.map_cons, rest.order]
    · rw [translateSpans]
      dsimp only
      rw [answered]
      dsimp only
      rw [kept]
      dsimp only
      rw [same, List.length_append, List.length_singleton, List.append_assoc, List.singleton_append]
      rw [@reports_of_lt translated.length _ (by omega)]

/-- A blank span is not translated. -/
theorem something_of_translateSpans (answers : Answers translateSpan) {count : Nat} {spans : List Span}
    {translated all : List SpanTranslation} {progress : List (Nat × Nat)}
    (ran : translateSpans translateSpan (fun _ => none) count spans translated = (.ok all, progress)) :
    ∀ span ∈ spans, ¬ Blank span.text := by
  induction spans generalizing translated progress with
  | nil => exact fun _ member => absurd member List.not_mem_nil
  | cons span spans inductionHypothesis =>
    rw [translateSpans] at ran
    dsimp only at ran
    split at ran
    · cases ran
    · rename_i answer answered
      split at ran
      · cases ran
      · rename_i text kept
        obtain ⟨rfl, filled⟩ := Option.filter_eq_some_iff.mp kept
        obtain ⟨same, _⟩ := Prod.mk.inj ran
        refine List.forall_mem_cons.mpr ⟨(answers span).mp ⟨text, answered, fun blank => ?_⟩,
          inductionHypothesis (Prod.ext same rfl)⟩
        exact of_decide_eq_true filled (strip_eq_nil_iff.mpr blank)

/-- A document in which there is something is translated, exactly unless white space at its beginning or at
its end stands alone. -/
theorem translated_iff (something : ¬ Blank text) (answers : Answers translateSpan)
    (accepted : ∃ spans, plan ratios text outputTokens = .ok spans) :
    Translated ratios text outputTokens translateSpan
        (translateDocument ratios text outputTokens translateSpan fun _ => none) ↔
      ¬ (spanCharacters ratios outputTokens < text.length ∧
        ∃ boundary, coarsest text (spanCharacters ratios outputTokens) = some boundary ∧
          (LeadsAlone (spanCharacters ratios outputTokens) (parts boundary text) ∨
            TrailsAlone (spanCharacters ratios outputTokens) (parts boundary text))) := by
  obtain ⟨spans, planned⟩ := accepted
  have texts : spans.map Span.text = piecesOf text (spanCharacters ratios outputTokens) := by
    rw [plan_eq_ok planned, map_text_placed]
  have several : spans ≠ [] := by
    rintro rfl
    have filled : text ≠ [] := by
      rintro rfl
      exact something fun _ member => absurd member List.not_mem_nil
    rw [piecesOf, if_neg filled] at texts
    have whole := (@pieces_splitToLimit _ (spanCharacters ratios outputTokens) filled).whole
    rw [← texts] at whole
    exact filled whole.symm
  have outcome : translateDocument ratios text outputTokens translateSpan (fun _ => none) =
      ((translateSpans translateSpan (fun _ => none) spans.length spans []).1.map fun translated =>
        ⟨reassemble (translated.map SpanTranslation.text), translated⟩,
      (translateSpans translateSpan (fun _ => none) spans.length spans []).2) := by
    rw [translateDocument, planned]
    exact if_neg several
  have blanks : (∃ piece ∈ spans.map Span.text, Blank piece) ↔ ∃ span ∈ spans, Blank span.text := by
    simp only [List.mem_map, exists_exists_and_eq_and]
  rw [← exists_blank_iff something, ← texts, blanks, outcome]
  constructor
  · rintro ⟨_, translated, _, _, same⟩ ⟨span, member, blank⟩
    obtain ⟨ran, _⟩ := Prod.mk.inj same
    obtain ⟨all, returned, _⟩ := map_eq_ok.mp ran
    exact something_of_translateSpans answers (Prod.ext returned rfl) span member blank
  · intro none
    have filled : ∀ span ∈ spans, ¬ Blank span.text := fun span member blank =>
      none ⟨span, member, blank⟩
    obtain ⟨later, answered, same⟩ := @translateSpans_of_something _ answers _ _ [] filled
      (Nat.zero_add _)
    refine ⟨spans, later, planned, answered, ?_⟩
    rw [same]
    rfl

/-- A translator that gives back what it is given. -/
def echo : SpanTranslator := fun span => .ok (some span.text)

theorem answers_echo : Answers echo := by
  intro span
  constructor
  · rintro ⟨answer, same, filled⟩
    cases same
    exact filled
  · exact fun filled => ⟨span.text, rfl, filled⟩

theorem translated_iff_words :
    Translated .exact (.ofString "one two") 5 echo
        (translateDocument .exact (.ofString "one two") 5 echo fun _ => none) ↔
      ¬ (spanCharacters .exact 5 < (PyString.ofString "one two").length ∧
        ∃ boundary, coarsest (.ofString "one two") (spanCharacters .exact 5) = some boundary ∧
          (LeadsAlone (spanCharacters .exact 5) (parts boundary (.ofString "one two")) ∨
            TrailsAlone (spanCharacters .exact 5) (parts boundary (.ofString "one two")))) :=
  translated_iff (by decide) answers_echo
    ⟨[⟨0, 0, 4, .ofString "one "⟩, ⟨1, 4, 7, .ofString "two"⟩], by decide +kernel⟩

/-- Blank lines before the first word are a span of their own, and the document fails. -/
theorem not_translated : ¬ Translated .exact (.ofString "\n\nab") 3 echo
    (translateDocument .exact (.ofString "\n\nab") 3 echo fun _ => none) := by
  rintro ⟨spans, translated, _, _, same⟩
  have fails : translateDocument .exact (.ofString "\n\nab") 3 echo (fun _ => none) =
      (.error (.refused "span-untranslated" "span 1 of 2 came back empty"), []) := by
    decide +kernel
  rw [fails] at same
  cases same

end Spans

end Omnitensor
