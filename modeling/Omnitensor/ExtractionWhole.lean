/-
This file proves what a document is read as in as many passes as it takes.

Every pass of the extractor fills its ceilings, and merging its result into what was read before
joins the passages. So whatever the ceilings are, the passes come to an end and give the passages
of the whole document, each page once. The losses of the passes add up to those of the document,
but the outcome is that of the last pass alone: it speaks for the whole document only when there
are losses that the last pass counts, or none at all.
-/

import Omnitensor.ExtractionPasses

namespace Omnitensor

namespace Collector

/-- What a collector dropped. -/
def dropped (collector : Collector) : Loss :=
  (collector.droppedPages, collector.droppedCharacters, collector.droppedRegions)

/-- The passages a collector holds. -/
def read (collector : Collector) : List Passage := collector.pages.map NormalisedPage.passage

variable (unicode : UnicodeData) (collector : Collector) (page : PageContent) (index start : Nat)
  (text : PyString)

theorem read_add : (collector.add unicode page index text start).read =
    collector.read ++ [(pageNumber page.pageNumber index, text)] := by
  simp only [read, add, List.map_append, List.map_cons, List.map_nil, NormalisedPage.passage]

theorem dropped_add : (collector.add unicode page index text start).dropped =
    collector.dropped + Item.loss unicode collector.limits start (.page page) := by
  simp only [dropped, add, Item.loss]
  split <;> rfl

end Collector

namespace ExtractionResult

/-- What was dropped in the passes of a result. -/
def dropped (result : ExtractionResult) : Loss :=
  (result.droppedPages, result.droppedCharacters, result.droppedRegions)

/-- The passages of a result. -/
def read (result : ExtractionResult) : List Passage := result.pages.map NormalisedPage.passage

end ExtractionResult

/-- The text of pages is that of their passages. -/
theorem Collector.joinedText_eq (pages : List NormalisedPage) :
    Collector.joinedText pages =
      PyString.joinLines (((pages.map NormalisedPage.passage).map Prod.snd).filter
        fun text => !text.isEmpty) := by
  rw [Collector.joinedText, List.map_map]
  rfl

namespace DocumentExtractor

variable (unicode : UnicodeData)

/-! ### A pass of the extractor -/

/-- From a page on, a pass fills its ceilings. -/
theorem exists_fills (items : List Item) (collector : Collector) {start : Nat}
    (here : collector.offsetFor collector.sourceIndex = some start)
    (later : ∀ index, collector.sourceIndex < index → collector.offsetFor index = some 0)
    (room : collector.characters < collector.limits.maxCharacters)
    (running : collector.resume = none) :
    ∃ final read lost, drain unicode .finished .finished collector items = (final, .finished) ∧
      Fills unicode collector.limits collector.sourceIndex start collector.pages.length
        collector.characters items read lost final.resume ∧
      final.read = collector.read ++ read ∧ final.dropped = collector.dropped + lost := by
  induction items generalizing collector start with
  | nil =>
    refine ⟨collector, [], 0, rfl, ?_, (List.append_nil _).symm, (add_zero _).symm⟩
    rw [running]
    exact .finished _ _ _ _
  | cons item items inductionHypothesis =>
    have offset : Collector.offsetFor
        { collector with sourceIndex := collector.sourceIndex + 1 } collector.sourceIndex =
        some start := here
    have next : collector.offsetFor (collector.sourceIndex + 1) = some 0 :=
      later _ (Nat.lt_succ_self _)
    have after : ∀ index, collector.sourceIndex + 1 < index →
        collector.offsetFor index = some 0 := fun index beyond => later index (by omega)
    simp only [drain, Collector.accept, offset]
    cases item with
    | other =>
      obtain ⟨final, read, lost, drains, fills, reads, drops⟩ := inductionHypothesis
        { collector with
          sourceIndex := collector.sourceIndex + 1
          droppedPages := collector.droppedPages + 1 } next after room running
      refine ⟨final, read, (1, 0, 0) + lost, drains, .other fills, reads, ?_⟩
      rw [drops, ← add_assoc]
      rfl
    | page page =>
      simp only [Collector.acceptFrom]
      by_cases many : collector.limits.maxPages ≤ collector.pages.length
      · rw [if_pos many]
        exact ⟨_, [], 0, rfl, .full many, (List.append_nil _).symm, (add_zero _).symm⟩
      · rw [if_neg many]
        replace many := Nat.lt_of_not_le many
        by_cases long : collector.limits.maxCharacters - collector.characters <
            ((normalisedText unicode page.text).drop start).length
        · rw [if_pos long]
          have taken : (((normalisedText unicode page.text).drop start).take
              (collector.limits.maxCharacters - collector.characters)).length =
              collector.limits.maxCharacters - collector.characters :=
            List.length_take_of_le (Nat.le_of_lt long)
          have some : (((normalisedText unicode page.text).drop start).take
              (collector.limits.maxCharacters - collector.characters)).isEmpty = false := by
            rw [← Bool.not_eq_true, List.isEmpty_iff_length_eq_zero]
            omega
          rw [List.length_drop] at long
          simp only [some, Bool.false_eq_true, if_false, taken]
          exact ⟨_, _, _, rfl, .cut many (by omega), Collector.read_add .., Collector.dropped_add ..⟩
        · rw [if_neg long]
          rw [List.length_drop] at long
          by_cases short : collector.characters +
              ((normalisedText unicode page.text).length - start) < collector.limits.maxCharacters
          · have fits : ¬ collector.limits.maxCharacters ≤ collector.characters +
                ((normalisedText unicode page.text).drop start).length := by
              rw [List.length_drop]
              exact Nat.not_le_of_lt short
            simp only [Collector.add, if_neg fits]
            obtain ⟨final, read, lost, drains, fills, reads, drops⟩ := inductionHypothesis
              (Collector.add unicode
                { collector with sourceIndex := collector.sourceIndex + 1 } page
                collector.sourceIndex ((normalisedText unicode page.text).drop start) start)
              next after (Nat.lt_of_not_le fits) running
            refine ⟨final, _ :: read, _ + lost, drains, .fitted many short ?_, ?_, ?_⟩
            · simpa only [Collector.add, List.length_append, List.length_singleton,
                List.length_drop] using fills
            · rw [reads, Collector.read_add, List.append_assoc]
              rfl
            · rw [drops, Collector.dropped_add, add_assoc]
              rfl
          · have exact : collector.characters +
                ((normalisedText unicode page.text).length - start) =
                collector.limits.maxCharacters := by omega
            have full : collector.limits.maxCharacters ≤ collector.characters +
                ((normalisedText unicode page.text).drop start).length := by
              rw [List.length_drop, exact]
            simp only [Collector.add, if_pos full]
            exact ⟨_, _, _, rfl, .filled many exact, Collector.read_add ..,
              Collector.dropped_add unicode collector page collector.sourceIndex start []⟩

/-- A pass skips the pages before the point it starts at, and fills its ceilings from there. -/
theorem exists_fills_from (items : List Item) (collector : Collector) {point : ResumePoint}
    (starts : collector.resumeFrom = some point) (before : collector.sourceIndex ≤ point.pageIndex)
    (room : collector.characters < collector.limits.maxCharacters)
    (running : collector.resume = none) :
    ∃ final read lost, drain unicode .finished .finished collector items = (final, .finished) ∧
      Fills unicode collector.limits point.pageIndex point.characterOffset collector.pages.length
        collector.characters (items.drop (point.pageIndex - collector.sourceIndex)) read lost
        final.resume ∧
      final.read = collector.read ++ read ∧ final.dropped = collector.dropped + lost := by
  induction items generalizing collector with
  | nil =>
    refine ⟨collector, [], 0, rfl, ?_, (List.append_nil _).symm, (add_zero _).symm⟩
    rw [running, List.drop_nil]
    exact .finished _ _ _ _
  | cons item items inductionHypothesis =>
    rcases Nat.lt_or_eq_of_le before with early | here
    · have skipped : Collector.offsetFor
          { collector with sourceIndex := collector.sourceIndex + 1 } collector.sourceIndex =
          none := by
        simp only [Collector.offsetFor, starts, if_pos early]
      simp only [drain, Collector.accept, skipped]
      rw [show point.pageIndex - collector.sourceIndex =
        point.pageIndex - (collector.sourceIndex + 1) + 1 by omega, List.drop_succ_cons]
      exact inductionHypothesis
        { collector with sourceIndex := collector.sourceIndex + 1 } starts early room running
    · rw [← here, Nat.sub_self, List.drop_zero]
      refine exists_fills unicode (item :: items) collector ?_ (fun index beyond => ?_) room running
      · simp only [Collector.offsetFor, starts, here, Nat.lt_irrefl, if_false, if_true]
      · simp only [Collector.offsetFor, starts]
        rw [if_neg (by omega), if_neg (by omega)]

/-- Where a pass starts. -/
def origin (resume : Option ResumePoint) : ResumePoint := resume.getD ⟨0, 0⟩

theorem resume_concluded (collector : Collector) :
    (concluded collector).resume = collector.resume := by
  unfold concluded
  split
  · rfl
  · rename_i whole
    simp only [ne_eq, not_or, not_not] at whole
    exact whole.1.symm

theorem pages_concluded (collector : Collector) :
    (concluded collector).pages = collector.pages := by
  unfold concluded
  split <;> rfl

theorem text_concluded (collector : Collector) :
    (concluded collector).text = Collector.joinedText collector.pages := by
  unfold concluded
  split <;> rfl

theorem dropped_concluded (collector : Collector) :
    (concluded collector).dropped = collector.dropped := by
  unfold concluded
  split <;> rfl

theorem outcome_concluded (collector : Collector) :
    (concluded collector).outcome = .succeeded ↔
      collector.resume = none ∧ collector.dropped = 0 := by
  unfold concluded
  split
  · rename_i part
    refine iff_of_false (fun same => by cases same) ?_
    rintro ⟨ends, nothing⟩
    obtain ⟨pages, rest⟩ := Prod.mk.inj nothing
    obtain ⟨characters, regions⟩ := Prod.mk.inj rest
    simp [ends, pages, characters, regions] at part
  · rename_i whole
    simp only [ne_eq, not_or, not_not] at whole
    exact iff_of_true rfl ⟨whole.1, Prod.ext whole.2.1 (Prod.ext whole.2.2.1 whole.2.2.2)⟩

variable (limits : ExtractionLimits) (sizeBytes : Option Int) (items : List Item)

/-- What a pass over a document that does not fail gives: it fills its ceilings, and succeeds when
it reads everything and loses nothing. -/
theorem extract_steady (resume : Option ResumePoint) :
    let result := extract unicode limits sizeBytes none (.steady items) resume
    Fills unicode (limits.forFile sizeBytes) (origin resume).pageIndex
        (origin resume).characterOffset 0 0 (items.drop (origin resume).pageIndex)
        result.read result.dropped result.resume ∧
      result.text = Collector.joinedText result.pages ∧
      (result.outcome = .succeeded ↔ result.resume = none ∧ result.dropped = 0) := by
  have room := (limits.forFile sizeBytes).someCharacters
  have fills : ∃ final, drain unicode .finished .finished
        (Collector.new (limits.forFile sizeBytes) resume) items = (final, .finished) ∧
      Fills unicode (limits.forFile sizeBytes) (origin resume).pageIndex
        (origin resume).characterOffset 0 0 (items.drop (origin resume).pageIndex)
        final.read final.dropped final.resume := by
    cases resume with
    | none =>
      obtain ⟨final, read, lost, drains, fills, reads, drops⟩ := exists_fills unicode items
        (Collector.new (limits.forFile sizeBytes) none) rfl (fun _ _ => rfl) room rfl
      refine ⟨final, drains, ?_⟩
      rw [reads, drops, show (Collector.new (limits.forFile sizeBytes) none).dropped = 0 from rfl,
        zero_add]
      exact fills
    | some point =>
      obtain ⟨final, read, lost, drains, fills, reads, drops⟩ := exists_fills_from unicode items
        (Collector.new (limits.forFile sizeBytes) (some point)) rfl (Nat.zero_le _) room rfl
      refine ⟨final, drains, ?_⟩
      rw [reads, drops,
        show (Collector.new (limits.forFile sizeBytes) (some point)).dropped = 0 from rfl, zero_add]
      exact fills
  obtain ⟨final, drains, fills⟩ := fills
  intro result
  have same : result = concluded final := by
    simp only [result, extract, Reading.steady, drains]
  rw [same]
  refine ⟨?_, ?_, ?_⟩
  · rw [ExtractionResult.read, pages_concluded, dropped_concluded, resume_concluded]
    exact fills
  · rw [text_concluded, pages_concluded]
  · rw [outcome_concluded, resume_concluded, dropped_concluded]

/-! ### Merging -/

/-- Merging the result of a pass into an earlier one joins the passages, when the pass starts in the
page that the earlier one ends in. -/
theorem read_mergePages {first second : List NormalisedPage} {point : ResumePoint}
    (continues : point.characterOffset ≠ 0 → ∃ number,
      (first.map NormalisedPage.passage).getLast?.map Prod.fst = some number ∧
        (second.map NormalisedPage.passage).head?.map Prod.fst = some number) :
    (mergePages first second (some point)).map NormalisedPage.passage =
      joined (first.map NormalisedPage.passage) point.characterOffset
        (second.map NormalisedPage.passage) := by
  by_cases start : point.characterOffset = 0
  · rw [start, joined_zero, ← List.map_append]
    unfold mergePages
    split
    · rename_i same
      cases same
      rw [if_neg fun both => both.1 start]
    · rfl
  · obtain ⟨number, last, head⟩ := continues start
    rcases List.eq_nil_or_concat first with rfl | ⟨before, final, rfl⟩
    · cases last
    · cases second with
      | nil => cases head
      | cons tail incoming =>
        simp only [List.concat_eq_append, List.map_append, List.map_cons, List.map_nil,
          List.getLast?_concat, List.head?_cons, Option.map_some, Option.some.injEq,
          NormalisedPage.passage] at last head
        unfold mergePages
        simp only [List.concat_eq_append, List.getLast?_concat, List.dropLast_concat]
        rw [if_pos ⟨start, last.trans head.symm⟩]
        simp only [List.map_append, List.map_cons, List.map_nil]
        rw [joined_concat start]
        rfl

/-! ### All passes -/

/-- From a point inside an item, a pass loses what is lost of the items it is the first to read. -/
theorem losses_fresh {point : ResumePoint}
    (within : Inside unicode point.characterOffset (items.drop point.pageIndex)) :
    losses unicode limits point.characterOffset (items.drop point.pageIndex) =
      losses unicode limits 0 (items.drop (fresh point)) := by
  rw [fresh]
  split
  · rename_i start
    rw [start]
  · rename_i advanced
    rw [← List.drop_drop]
    cases left : items.drop point.pageIndex with
    | nil => rfl
    | cons item rest =>
      rw [left] at within
      cases item with
      | other => exact absurd (Nat.le_zero.mp within) advanced
      | page page =>
        rw [losses, Item.loss, if_neg advanced, zero_add]
        rfl

/-- What a result says of a whole document of which it is known what was read and lost up to a
point: the rest is read and lost, and the outcome is that of the last pass. -/
structure Completes (read : List Passage) (lost : Loss) (point : ResumePoint)
    (result : ExtractionResult) : Prop where
  read_eq : result.read = joined read point.characterOffset
    (passages unicode point.pageIndex point.characterOffset (items.drop point.pageIndex))
  text_eq : result.text = Collector.joinedText result.pages
  dropped_eq : result.dropped =
    lost + losses unicode limits point.characterOffset (items.drop point.pageIndex)
  outcome_iff : result.outcome = .succeeded ↔
    losses unicode limits 0 (items.drop (fill unicode limits ⟨0, 0, fresh point⟩ point.pageIndex
      point.characterOffset (items.drop point.pageIndex)).fresh) = 0

namespace Completes

variable {unicode limits sizeBytes items} {read continued : List Passage} {lost more : Loss}
  {point next : ResumePoint} {result : ExtractionResult}

/-- A pass that stops nowhere is the last. -/
theorem of_last
    (fills : Fills unicode limits point.pageIndex point.characterOffset 0 0
      (items.drop point.pageIndex) continued more none)
    (within : Inside unicode point.characterOffset (items.drop point.pageIndex))
    (reads : result.read = joined read point.characterOffset continued)
    (texts : result.text = Collector.joinedText result.pages)
    (drops : result.dropped = lost + more)
    (outcome : result.outcome = .succeeded ↔ more = 0) :
    Completes unicode limits items read lost point result := by
  obtain ⟨all, total⟩ := fills.read_all rfl
  refine ⟨by rw [reads, all], texts, by rw [drops, total], ?_⟩
  rw [outcome, fills.fresh_eq rfl, ← losses_fresh unicode limits items within, total]

/-- What a pass reads before the point that it stops at belongs to the whole. -/
theorem before
    (fills : Fills unicode limits point.pageIndex point.characterOffset 0 0
      (items.drop point.pageIndex) continued more (some next))
    (rest : Completes unicode limits items (joined read point.characterOffset continued)
      (lost + more) next result) :
    Completes unicode limits items read lost point result := by
  have few := limits.somePages
  have room := limits.someCharacters
  have absolute : (items.drop point.pageIndex).drop (next.pageIndex - point.pageIndex) =
      items.drop next.pageIndex := by
    rw [List.drop_drop, Nat.add_sub_cancel' (fills.index_le rfl)]
  have passed := fills.passages_eq rfl (Or.inr few) room
  have lose := fills.losses_eq rfl (Or.inr few) room
  have filled := fills.fill_eq rfl (Or.inr few) room (fresh point)
  rw [absolute] at passed lose filled
  refine ⟨?_, rest.text_eq, ?_, ?_⟩
  · rw [rest.read_eq, joined_joined (fills.read_ne_nil rfl few), ← passed]
  · rw [rest.dropped_eq, lose, add_assoc]
  · rw [rest.outcome_iff, filled]

end Completes

/-- The passes from a point on come to an end and complete what was read before. -/
theorem extractPasses_completes (bound : Nat) :
    ∀ (point : ResumePoint) (pass : Nat) (first : ExtractionResult),
      weight unicode point.characterOffset (items.drop point.pageIndex) < bound →
      Inside unicode point.characterOffset (items.drop point.pageIndex) →
      (point.characterOffset ≠ 0 → ∃ number, first.read.getLast?.map Prod.fst = some number ∧
        firstNumber point.pageIndex (items.drop point.pageIndex) = some number) →
      ∃ result, (∀ fuel, bound ≤ fuel → extractPasses unicode limits sizeBytes none
          (fun _ => .steady items) fuel pass (some first) (some point) = some result) ∧
        Completes unicode (limits.forFile sizeBytes) items first.read first.dropped point result := by
  induction bound with
  | zero => exact fun _ _ _ less => absurd less (Nat.not_lt_zero _)
  | succ bound inductionHypothesis =>
    intro point pass first less within continues
    have few := (limits.forFile sizeBytes).somePages
    have room := (limits.forFile sizeBytes).someCharacters
    obtain ⟨fills, texts, outcome⟩ :=
      extract_steady unicode limits sizeBytes items (some point)
    generalize same : extract unicode limits sizeBytes none (.steady items) (some point) = second
      at fills texts outcome
    simp only [origin, Option.getD_some] at fills
    have joins : point.characterOffset ≠ 0 → ∃ number,
        first.read.getLast?.map Prod.fst = some number ∧
          second.read.head?.map Prod.fst = some number := by
      intro inside
      obtain ⟨number, last, head⟩ := continues inside
      exact ⟨number, last, fills.first_number few head⟩
    have reads : (mergePasses first second (some point)).read =
        joined first.read point.characterOffset second.read := read_mergePages joins
    cases ends : second.resume with
    | none =>
      rw [ends] at fills outcome
      refine ⟨mergePasses first second (some point), fun fuel enough => ?_,
        .of_last fills within reads rfl rfl (outcome.trans (and_iff_right rfl))⟩
      obtain ⟨fuel, rfl⟩ := Nat.exists_eq_succ_of_ne_zero (Nat.ne_zero_of_lt enough)
      simp only [extractPasses, same, ends]
    | some next =>
      rw [ends] at fills
      have absolute : (items.drop point.pageIndex).drop (next.pageIndex - point.pageIndex) =
          items.drop next.pageIndex := by
        rw [List.drop_drop, Nat.add_sub_cancel' (fills.index_le rfl)]
      have lighter := fills.weight_lt rfl within few room
      have inside := fills.inside rfl (Or.inr few) room
      rw [absolute] at lighter inside
      have advanced : next ≠ point := by
        rintro rfl
        exact Nat.lt_irrefl _ lighter
      have goes : next.characterOffset ≠ 0 → ∃ number,
          (mergePasses first second (some point)).read.getLast?.map Prod.fst = some number ∧
            firstNumber next.pageIndex (items.drop next.pageIndex) = some number := by
        intro cut
        obtain ⟨number, last, head⟩ := fills.last_number rfl (Or.inr few) cut
        rw [absolute] at head
        exact ⟨number, by rw [reads, last_joined (fills.read_ne_nil rfl few) joins, last], head⟩
      obtain ⟨result, passes, completes⟩ := inductionHypothesis next (pass + 1)
        (mergePasses first second (some point)) (by omega) inside goes
      refine ⟨result, fun fuel enough => ?_, .before fills (reads ▸ completes)⟩
      obtain ⟨fuel, rfl⟩ := Nat.exists_eq_succ_of_ne_zero (Nat.ne_zero_of_lt enough)
      simp only [extractPasses, same, ends, Option.some.injEq, if_neg advanced]
      exact passes fuel (Nat.le_of_succ_le_succ enough)

/-- Reading a document in passes comes to an end and reads the whole document. -/
theorem extractAll_completes :
    ∃ result, (∀ fuel, weight unicode 0 items < fuel → extractAll unicode limits sizeBytes none
        (fun _ => .steady items) fuel = some result) ∧
      Completes unicode (limits.forFile sizeBytes) items [] 0 ⟨0, 0⟩ result := by
  have few := (limits.forFile sizeBytes).somePages
  have room := (limits.forFile sizeBytes).someCharacters
  obtain ⟨fills, texts, outcome⟩ := extract_steady unicode limits sizeBytes items none
  generalize same : extract unicode limits sizeBytes none (.steady items) none = first
    at fills texts outcome
  simp only [origin, Option.getD_none] at fills
  cases ends : first.resume with
  | none =>
    rw [ends] at fills outcome
    refine ⟨first, fun fuel enough => ?_, .of_last fills (inside_zero unicode _) rfl texts
      (zero_add _).symm (outcome.trans (and_iff_right rfl))⟩
    obtain ⟨fuel, rfl⟩ := Nat.exists_eq_succ_of_ne_zero (Nat.ne_zero_of_lt enough)
    simp only [extractAll, extractPasses, same, ends]
  | some next =>
    rw [ends] at fills
    have lighter := fills.weight_lt rfl (inside_zero unicode _) few room
    have inside := fills.inside rfl (Or.inr few) room
    have continues := fills.last_number rfl (Or.inr few)
    simp only [Nat.sub_zero, List.drop_zero] at lighter inside continues
    obtain ⟨result, passes, completes⟩ := extractPasses_completes unicode limits sizeBytes items
      (weight unicode 0 items) next 1 first lighter inside continues
    refine ⟨result, fun fuel enough => ?_, .before fills ?_⟩
    · obtain ⟨fuel, rfl⟩ := Nat.exists_eq_succ_of_ne_zero (Nat.ne_zero_of_lt enough)
      simp only [extractAll, extractPasses, same, ends, reduceCtorEq, if_false]
      exact passes fuel (Nat.le_of_lt_succ enough)
    · rw [joined_zero, List.nil_append, zero_add]
      exact completes

/-! ### Reading the whole document -/

/-- Nothing is lost of a part of a document of which nothing is lost. -/
theorem losses_drop (whole : losses unicode limits 0 items = 0) (count : Nat) :
    losses unicode limits 0 (items.drop count) = 0 := by
  induction count generalizing items with
  | zero => exact whole
  | succ count inductionHypothesis =>
    cases items with
    | nil => rfl
    | cons item items =>
      refine inductionHypothesis items ?_
      simp only [losses, Prod.ext_iff, Prod.fst_add, Prod.snd_add, Prod.fst_zero, Prod.snd_zero,
        Nat.add_eq_zero_iff] at whole ⊢
      exact ⟨whole.1.2, whole.2.1.2, whole.2.2.2⟩

/-- The first item whose losses the last of the passes counts that the ceilings split a document
into. -/
def lastFresh : Nat := (fill unicode limits ⟨0, 0, 0⟩ 0 0 items).fresh

/-- Nothing is lost of a document of which the last pass loses nothing. -/
def LossesLate : Prop :=
  losses unicode limits 0 (items.drop (lastFresh unicode limits items)) = 0 →
    losses unicode limits 0 items = 0

/-- A document is reported whole when nothing of it was dropped in any pass, and only then, exactly
if the last pass drops something whenever a pass does. -/
theorem extractAll_succeeded_iff :
    ∃ result, (∀ fuel, weight unicode 0 items < fuel → extractAll unicode limits sizeBytes none
        (fun _ => .steady items) fuel = some result) ∧
      result.dropped = losses unicode (limits.forFile sizeBytes) 0 items ∧
      ((result.outcome = .succeeded ↔
          result.droppedPages = 0 ∧ result.droppedCharacters = 0 ∧ result.droppedRegions = 0) ↔
        LossesLate unicode (limits.forFile sizeBytes) items) := by
  obtain ⟨result, passes, completes⟩ := extractAll_completes unicode limits sizeBytes items
  have drops : result.dropped = losses unicode (limits.forFile sizeBytes) 0 items :=
    completes.dropped_eq.trans (zero_add _)
  have nothing : result.droppedPages = 0 ∧ result.droppedCharacters = 0 ∧
      result.droppedRegions = 0 ↔ losses unicode (limits.forFile sizeBytes) 0 items = 0 := by
    rw [← drops]
    simp only [ExtractionResult.dropped, Prod.ext_iff, Prod.fst_zero, Prod.snd_zero]
  refine ⟨result, passes, drops, ?_⟩
  rw [nothing, completes.outcome_iff]
  exact ⟨Iff.mp, fun late => ⟨late, fun whole => losses_drop _ _ _ whole _⟩⟩

/-- A document of a page with a region that is none, and of a page that is read whole. -/
def lossyItems : List Item :=
  [.page ⟨some 1, some [.scalar 'a'], some [none], some []⟩,
    .page ⟨some 2, some [.scalar 'b'], some [], some []⟩]

/-- The first page is a pass of its own: the region is dropped, and the document reported whole and
handed out. -/
theorem not_extractAll_succeeded_iff :
    let unicode : UnicodeData := ⟨id, fun _ => "Ll"⟩
    let limits : ExtractionLimits :=
      ⟨1, 1000, 10, 1000, by decide, by decide, by decide, by decide⟩
    (extractAll unicode limits none none (fun _ => .steady lossyItems) 3).map (fun result =>
        (result.outcome, result.droppedPages, result.droppedCharacters, result.droppedRegions)) =
      some (.succeeded, 0, 0, 1) ∧
    (SelectedDocumentReader.read unicode limits (fun _ => some fun _ => .steady lossyItems) ".pdf"
        none 3).map (fun read => read.toOption.map ExtractionResult.droppedRegions) =
      some (some 1) := by
  decide +kernel

/-! ### Passes and one pass -/

theorem maxPages_le_forFile : limits.maxPages ≤ (limits.forFile sizeBytes).maxPages := by
  unfold ExtractionLimits.forFile
  split
  · exact Nat.le_refl _
  · split
    · exact Nat.le_refl _
    · simp only
      split
      · exact Nat.le_max_left _ _
      · exact Nat.le_refl _

theorem maxCharacters_le_forFile :
    limits.maxCharacters ≤ (limits.forFile sizeBytes).maxCharacters := by
  unfold ExtractionLimits.forFile
  split
  · exact Nat.le_refl _
  · split
    · exact Nat.le_refl _
    · simp only
      split
      · exact Nat.le_max_left _ _
      · exact Nat.le_refl _

variable {unicode limits items} in
/-- A pass with room for all pages and characters does not stop. -/
theorem Fills.stop_eq_none {index start pages characters : Nat} {read : List Passage} {lost : Loss}
    {stop : Option ResumePoint}
    (fills : Fills unicode limits index start pages characters items read lost stop)
    (few : pages + items.length ≤ limits.maxPages)
    (short : characters + (items.map (Item.length unicode)).sum < limits.maxCharacters) :
    stop = none := by
  induction fills with
  | finished => rfl
  | other rest inductionHypothesis =>
    simp only [List.map_cons, List.sum_cons, List.length_cons, Item.length] at few short
    exact inductionHypothesis (by omega) (by omega)
  | full many =>
    rw [List.length_cons] at few
    omega
  | cut _ long =>
    simp only [List.map_cons, List.sum_cons, Item.length] at short
    omega
  | filled _ exact =>
    simp only [List.map_cons, List.sum_cons, Item.length] at short
    omega
  | fitted _ _ rest inductionHypothesis =>
    simp only [List.map_cons, List.sum_cons, List.length_cons, Item.length] at few short
    exact inductionHypothesis (by omega) (by omega)

/-- The passages of pages are the pages in order, each once and with its whole text. -/
theorem passages_pages (contents : List PageContent) (index : Nat) :
    passages unicode index 0 (contents.map .page) = contents.mapIdx fun place page =>
      (pageNumber page.pageNumber (place + index), normalisedText unicode page.text) := by
  induction contents generalizing index with
  | nil => rfl
  | cons page contents inductionHypothesis =>
    simp only [List.map_cons, passages, inductionHypothesis, List.mapIdx_cons, List.drop_zero,
      Nat.zero_add, Nat.add_assoc, Nat.add_comm 1]

/-- Reading the pages of a document in passes comes to an end and gives what one pass gives that has
room for them all: every page once, with its whole text. -/
theorem extractAll_eq_extract (contents : List PageContent) (wide : ExtractionLimits)
    (few : contents.length ≤ wide.maxPages)
    (short : (contents.map fun page => (normalisedText unicode page.text).length).sum <
      wide.maxCharacters) :
    ∃ result, (∀ fuel, weight unicode 0 (contents.map .page) < fuel →
        extractAll unicode limits sizeBytes none (fun _ => .steady (contents.map .page)) fuel =
          some result) ∧
      let single := extract unicode wide sizeBytes none (.steady (contents.map .page)) none
      single.resume = none ∧ result.read = single.read ∧ result.text = single.text ∧
      result.read = contents.mapIdx fun place page =>
        (pageNumber page.pageNumber place, normalisedText unicode page.text) := by
  obtain ⟨result, passes, completes⟩ :=
    extractAll_completes unicode limits sizeBytes (contents.map .page)
  obtain ⟨fills, texts, _⟩ :=
    extract_steady unicode wide sizeBytes (contents.map .page) none
  have ends := fills.stop_eq_none
    (by
      simp only [origin, Option.getD_none, List.drop_zero, List.length_map, Nat.zero_add]
      exact Nat.le_trans few (maxPages_le_forFile wide sizeBytes))
    (by
      simp only [origin, Option.getD_none, List.drop_zero, List.map_map, Nat.zero_add]
      exact Nat.lt_of_lt_of_le short (maxCharacters_le_forFile wide sizeBytes))
  have once : (extract unicode wide sizeBytes none (.steady (contents.map .page)) none).read =
      passages unicode 0 0 (contents.map .page) := (fills.read_all ends).1
  have whole : result.read = passages unicode 0 0 (contents.map .page) := completes.read_eq
  refine ⟨result, passes, ends, whole.trans once.symm, ?_,
    whole.trans (passages_pages unicode contents 0)⟩
  rw [completes.text_eq, texts, Collector.joinedText_eq, Collector.joinedText_eq]
  exact congrArg (fun read : List Passage => PyString.joinLines ((read.map Prod.snd).filter
    fun text => !text.isEmpty)) (whole.trans once.symm)

/-- Two pages in passes of one page and two characters. -/
theorem extractAll_eq_extract_cut :
    let unicode : UnicodeData := ⟨id, fun _ => "Ll"⟩
    let limits : ExtractionLimits := ⟨1, 2, 10, 1000, by decide, by decide, by decide, by decide⟩
    let contents : List PageContent :=
      [⟨some 1, some [.scalar 'a', .scalar 'b', .scalar 'c'], some [], some []⟩,
        ⟨some 2, some [.scalar 'd'], some [], some []⟩]
    ∃ result, extractAll unicode limits none none (fun _ => .steady (contents.map .page)) 9 =
        some result ∧
      result.read = [(1, [.scalar 'a', .scalar 'b', .scalar 'c']), (2, [.scalar 'd'])] := by
  intro unicode limits contents
  obtain ⟨result, passes, -, -, -, whole⟩ := extractAll_eq_extract unicode limits none contents
    ⟨2, 10, 10, 1000, by decide, by decide, by decide, by decide⟩ (by decide) (by decide)
  exact ⟨result, passes 9 (by decide), whole.trans (by decide)⟩

end DocumentExtractor

end Omnitensor
