/-
This file says what one extraction pass reads.

A pass fills its ceilings with the items it is given: an item that is no page takes no room, a page
takes as many characters as its text has, and the pass ends when it is full, with a point at which
the rest of the document begins. The relation `Fills` says this without a collector; a pass of the
extractor is one. What a pass reads and what is left after it come together to what there was,
page by page and loss by loss, and what is left is less.
-/

import Omnitensor.DocumentExtraction

namespace Omnitensor

/-! ### Passages -/

/-- A page as far as it is text: its number and the text. -/
abbrev Passage : Type := Nat × PyString

namespace NormalisedPage

def passage (page : NormalisedPage) : Passage := (page.pageNumber, page.text)

end NormalisedPage

/-- Passages one after another, of which the last and the first are one page unless the second part
starts at the beginning of a page. -/
def joined (first : List Passage) (offset : Nat) (second : List Passage) : List Passage :=
  if offset = 0 then first ++ second
  else
    match first.getLast?, second with
    | some head, tail :: incoming => first.dropLast ++ (head.1, head.2 ++ tail.2) :: incoming
    | _, _ => first ++ second

@[simp] theorem joined_zero (first second : List Passage) :
    joined first 0 second = first ++ second := if_pos rfl

variable {offset : Nat} {first second : List Passage}

theorem joined_concat (inside : offset ≠ 0) (first : List Passage) (head tail : Passage)
    (incoming : List Passage) :
    joined (first ++ [head]) offset (tail :: incoming) =
      first ++ (head.1, head.2 ++ tail.2) :: incoming := by
  unfold joined
  rw [if_neg inside, List.getLast?_concat, List.dropLast_concat]

theorem joined_singleton (inside : offset ≠ 0) (head tail : Passage) (incoming : List Passage) :
    joined [head] offset (tail :: incoming) = (head.1, head.2 ++ tail.2) :: incoming :=
  joined_concat inside [] head tail incoming

/-- Joining leaves what comes before the last passage alone. -/
theorem joined_cons (some : first ≠ []) (passage : Passage) (offset : Nat) (second : List Passage) :
    joined (passage :: first) offset second = passage :: joined first offset second := by
  obtain ⟨most, last, rfl⟩ := (List.eq_nil_or_concat first).resolve_left some
  rw [List.concat_eq_append]
  by_cases start : offset = 0
  · rw [start, joined_zero, joined_zero, List.cons_append]
  · cases second with
    | nil => simp [joined, start]
    | cons tail incoming =>
      rw [← List.cons_append, joined_concat start, joined_concat start, List.cons_append]

/-- Joining a part is joining the parts after it first, when it is not empty. -/
theorem joined_joined (some : second ≠ []) (offset later : Nat) (third : List Passage) :
    joined (joined first offset second) later third =
      joined first offset (joined second later third) := by
  obtain ⟨tail, incoming, rfl⟩ := List.exists_cons_of_ne_nil some
  by_cases start : offset = 0
  · subst start
    rw [joined_zero, joined_zero]
    by_cases next : later = 0
    · rw [next, joined_zero, joined_zero, List.append_assoc]
    · cases third with
      | nil => simp [joined, next]
      | cons other rest =>
        obtain ⟨most, last, same⟩ := (List.eq_nil_or_concat (tail :: incoming)).resolve_left some
        rw [List.concat_eq_append] at same
        rw [same, ← List.append_assoc, joined_concat next, joined_concat next, List.append_assoc]
  · rcases List.eq_nil_or_concat first with rfl | ⟨before, head, rfl⟩
    · simp only [joined, if_neg start, List.getLast?_nil, List.nil_append]
    · rw [List.concat_eq_append, joined_concat start]
      by_cases next : later = 0
      · rw [next, joined_zero, joined_zero, List.cons_append, joined_concat start,
          List.append_assoc, List.cons_append]
      · cases third with
        | nil => simp [joined, next, start]
        | cons other rest =>
          rcases List.eq_nil_or_concat incoming with rfl | ⟨most, last, rfl⟩
          · rw [joined_concat next, show [tail] = [] ++ [tail] from rfl, joined_concat next,
              List.nil_append, joined_concat start, List.append_assoc]
          · rw [List.concat_eq_append, ← List.cons_append, ← List.append_assoc,
              joined_concat next, ← List.cons_append, joined_concat next, List.cons_append,
              joined_concat start, List.append_assoc, List.cons_append]

/-- The last page of joined passages is that of the second part. -/
theorem last_joined (some : second ≠ [])
    (continues : offset ≠ 0 → ∃ number, first.getLast?.map Prod.fst = .some number ∧
      second.head?.map Prod.fst = .some number) :
    (joined first offset second).getLast?.map Prod.fst = second.getLast?.map Prod.fst := by
  obtain ⟨tail, incoming, rfl⟩ := List.exists_cons_of_ne_nil some
  by_cases start : offset = 0
  · rw [start, joined_zero, List.getLast?_append_of_ne_nil _ some]
  · obtain ⟨number, last, head⟩ := continues start
    rcases List.eq_nil_or_concat first with rfl | ⟨before, final, rfl⟩
    · cases last
    · simp only [List.concat_eq_append, List.getLast?_concat, Option.map_some, Option.some.injEq,
        List.head?_cons] at last head
      rw [List.concat_eq_append, joined_concat start,
        List.getLast?_append_of_ne_nil _ (List.cons_ne_nil _ _), List.getLast?_cons,
        List.getLast?_cons]
      cases incoming.getLast? with
      | none => exact congrArg Option.some (last.trans head.symm)
      | some passage => rfl

/-! ### Items -/

/-- How much is lost: pages, characters and regions. -/
abbrev Loss : Type := Nat × Nat × Nat

namespace Item

variable (unicode : UnicodeData) (limits : ExtractionLimits)

/-- How many characters the text of an item has. -/
def length : Item → Nat
  | .page content => (normalisedText unicode content.text).length
  | .other => 0

/-- What a pass loses of an item that it starts at a place. -/
def loss (start : Nat) : Item → Loss
  | .page content =>
    if start = 0 then
      (0, (pageRegions unicode limits content).droppedCharacters,
        (pageRegions unicode limits content).droppedRegions)
    else 0
  | .other => (1, 0, 0)

end Item

namespace DocumentExtractor

variable (unicode : UnicodeData) (limits : ExtractionLimits)

/-- The passages of items of which the first has a number and is begun at a place. -/
def passages : Nat → Nat → List Item → List Passage
  | _, _, [] => []
  | index, _, .other :: items => passages (index + 1) 0 items
  | index, start, .page page :: items =>
    (pageNumber page.pageNumber index, (normalisedText unicode page.text).drop start) ::
      passages (index + 1) 0 items

/-- What is lost of items of which the first is begun at a place. -/
def losses (start : Nat) : List Item → Loss
  | [] => 0
  | item :: items => item.loss unicode limits start + losses 0 items

/-- The number of the first item, if it is a page. -/
def firstNumber (index : Nat) : List Item → Option Nat
  | .page page :: _ => some (pageNumber page.pageNumber index)
  | _ => none

/-- What is left to read: the items and their characters, but those before a place. -/
def weight (start : Nat) (items : List Item) : Nat :=
  (items.map fun item => item.length unicode + 1).sum - start

/-- A place is in the first item. -/
def Inside (start : Nat) : List Item → Prop
  | [] => start = 0
  | item :: _ => start ≤ item.length unicode

theorem inside_zero (items : List Item) : Inside unicode 0 items := by
  cases items with
  | nil => rfl
  | cons item items => exact Nat.zero_le _

/-! ### Filling the ceilings -/

/-- What a pass reads of items of which the first has a number and is begun at a place, when it has
read some pages and characters already: the passages, what is lost, and where it stops. -/
inductive Fills : Nat → Nat → Nat → Nat → List Item → List Passage → Loss →
    Option ResumePoint → Prop where
  | finished (index start pages characters : Nat) :
      Fills index start pages characters [] [] 0 none
  | other {index start pages characters : Nat} {items : List Item} {read : List Passage}
      {lost : Loss} {stop : Option ResumePoint}
      (rest : Fills (index + 1) 0 pages characters items read lost stop) :
      Fills index start pages characters (.other :: items) read
        (Item.loss unicode limits start .other + lost) stop
  /-- There are as many pages as there may be. -/
  | full {index start pages characters : Nat} {page : PageContent} {items : List Item}
      (many : limits.maxPages ≤ pages) :
      Fills index start pages characters (.page page :: items) [] 0 (some ⟨index, start⟩)
  /-- The page has more characters than there is room for. -/
  | cut {index start pages characters : Nat} {page : PageContent} {items : List Item}
      (few : pages < limits.maxPages)
      (long : limits.maxCharacters <
        characters + ((normalisedText unicode page.text).length - start)) :
      Fills index start pages characters (.page page :: items)
        [(pageNumber page.pageNumber index, ((normalisedText unicode page.text).drop start).take
          (limits.maxCharacters - characters))]
        (Item.loss unicode limits start (.page page))
        (some ⟨index, start + (limits.maxCharacters - characters)⟩)
  /-- The page fits exactly. -/
  | filled {index start pages characters : Nat} {page : PageContent} {items : List Item}
      (few : pages < limits.maxPages)
      (exact : characters + ((normalisedText unicode page.text).length - start) =
        limits.maxCharacters) :
      Fills index start pages characters (.page page :: items)
        [(pageNumber page.pageNumber index, (normalisedText unicode page.text).drop start)]
        (Item.loss unicode limits start (.page page)) (some ⟨index + 1, 0⟩)
  | fitted {index start pages characters : Nat} {page : PageContent} {items : List Item}
      {read : List Passage} {lost : Loss} {stop : Option ResumePoint}
      (few : pages < limits.maxPages)
      (short : characters + ((normalisedText unicode page.text).length - start) <
        limits.maxCharacters)
      (rest : Fills (index + 1) 0 (pages + 1)
        (characters + ((normalisedText unicode page.text).length - start)) items read lost stop) :
      Fills index start pages characters (.page page :: items)
        ((pageNumber page.pageNumber index, (normalisedText unicode page.text).drop start) :: read)
        (Item.loss unicode limits start (.page page) + lost) stop

namespace Fills

variable {unicode limits} {index start pages characters : Nat} {items : List Item}
  {read : List Passage} {lost : Loss} {stop : Option ResumePoint} {point : ResumePoint}

/-- A pass does not go back. -/
theorem index_le (fills : Fills unicode limits index start pages characters items read lost stop)
    (stops : stop = some point) : index ≤ point.pageIndex := by
  induction fills with
  | finished => cases stops
  | other rest inductionHypothesis => exact Nat.le_of_succ_le (inductionHypothesis stops)
  | full many => cases stops; exact Nat.le_refl _
  | cut few long => cases stops; exact Nat.le_refl _
  | filled few exact => cases stops; exact Nat.le_succ _
  | fitted few short rest inductionHypothesis =>
    exact Nat.le_of_succ_le (inductionHypothesis stops)

/-- What is left after a pass that read the first item is left of the other items. -/
theorem drop_cons {next : Nat} (later : index + 1 ≤ next) (item : Item) (items : List Item) :
    (item :: items).drop (next - index) = items.drop (next - (index + 1)) := by
  rw [show next - index = next - (index + 1) + 1 by omega, List.drop_succ_cons]

/-- A pass without a stop reads everything. -/
theorem read_all (fills : Fills unicode limits index start pages characters items read lost stop)
    (ends : stop = none) :
    read = passages unicode index start items ∧ lost = losses unicode limits start items := by
  induction fills with
  | finished => exact ⟨rfl, rfl⟩
  | other rest inductionHypothesis =>
    obtain ⟨rfl, rfl⟩ := inductionHypothesis ends
    exact ⟨rfl, rfl⟩
  | full many => cases ends
  | cut few long => cases ends
  | filled few exact => cases ends
  | fitted few short rest inductionHypothesis =>
    obtain ⟨rfl, rfl⟩ := inductionHypothesis ends
    exact ⟨rfl, rfl⟩

/-- When a pass stops inside a page, the last passage is of that page. -/
theorem last_number
    (fills : Fills unicode limits index start pages characters items read lost stop)
    (stops : stop = some point) (begun : start = 0 ∨ pages < limits.maxPages)
    (inside : point.characterOffset ≠ 0) :
    ∃ number, read.getLast?.map Prod.fst = some number ∧
      firstNumber point.pageIndex (items.drop (point.pageIndex - index)) = some number := by
  induction fills with
  | finished => cases stops
  | other rest inductionHypothesis =>
    rw [drop_cons (rest.index_le stops)]
    exact inductionHypothesis stops (Or.inl rfl)
  | full many =>
    cases stops
    exact absurd begun (by simp only at inside; omega)
  | cut few long =>
    cases stops
    simp only [Nat.sub_self, List.drop_zero, firstNumber]
    exact ⟨_, rfl, rfl⟩
  | filled few exact =>
    cases stops
    exact absurd rfl inside
  | fitted few short rest inductionHypothesis =>
    rw [drop_cons (rest.index_le stops)]
    obtain ⟨number, last, same⟩ := inductionHypothesis stops (Or.inl rfl)
    refine ⟨number, ?_, same⟩
    rw [Option.map_eq_some_iff] at last ⊢
    obtain ⟨passage, final, rfl⟩ := last
    exact ⟨passage, by rw [List.getLast?_cons, final]; rfl, rfl⟩

/-- A pass that has room reads something before it stops. -/
theorem read_ne_nil
    (fills : Fills unicode limits index start pages characters items read lost stop)
    (stops : stop = some point) (few : pages < limits.maxPages) : read ≠ [] := by
  induction fills with
  | finished => cases stops
  | other rest inductionHypothesis => exact inductionHypothesis stops few
  | full many => omega
  | cut few long => exact List.cons_ne_nil _ _
  | filled few exact => exact List.cons_ne_nil _ _
  | fitted few short rest => exact List.cons_ne_nil _ _

/-- A pass that has room reads something of a page it is begun in. -/
theorem first_number
    (fills : Fills unicode limits index start pages characters items read lost stop)
    (few : pages < limits.maxPages) {number : Nat}
    (first : firstNumber index items = some number) :
    read.head?.map Prod.fst = some number := by
  cases fills with
  | finished => cases first
  | other rest => cases first
  | full many => omega
  | cut few long => exact first
  | filled few exact => exact first
  | fitted few short rest => exact first

/-- What a pass reads and what is left after it come together to what there was. -/
theorem passages_eq
    (fills : Fills unicode limits index start pages characters items read lost stop)
    (stops : stop = some point) (begun : start = 0 ∨ pages < limits.maxPages)
    (room : characters < limits.maxCharacters) :
    passages unicode index start items = joined read point.characterOffset
      (passages unicode point.pageIndex point.characterOffset
        (items.drop (point.pageIndex - index))) := by
  induction fills with
  | finished => cases stops
  | other rest inductionHypothesis =>
    rw [drop_cons (rest.index_le stops), passages]
    exact inductionHypothesis stops (Or.inl rfl) room
  | full many =>
    cases stops
    obtain rfl := begun.resolve_right (Nat.not_lt_of_le many)
    rw [joined_zero, Nat.sub_self, List.drop_zero, List.nil_append]
  | @cut index start pages characters page items few long =>
    cases stops
    have advanced : start + (limits.maxCharacters - characters) ≠ 0 := by omega
    simp only [Nat.sub_self, List.drop_zero, passages]
    rw [joined_singleton advanced, ← List.drop_drop, List.take_append_drop]
  | filled few exact =>
    cases stops
    simp only [Nat.add_sub_cancel_left, List.drop_succ_cons, List.drop_zero, passages, joined_zero]
    rfl
  | fitted few short rest inductionHypothesis =>
    rw [drop_cons (rest.index_le stops), passages,
      inductionHypothesis stops (Or.inl rfl) short]
    by_cases inside : point.characterOffset = 0
    · rw [inside, joined_zero, joined_zero, List.cons_append]
    · obtain ⟨number, last, _⟩ := rest.last_number stops (Or.inl rfl) inside
      refine (joined_cons ?_ _ _ _).symm
      rintro rfl
      cases last

/-- What a pass loses and what is lost after it come together to what is lost. -/
theorem losses_eq
    (fills : Fills unicode limits index start pages characters items read lost stop)
    (stops : stop = some point) (begun : start = 0 ∨ pages < limits.maxPages)
    (room : characters < limits.maxCharacters) :
    losses unicode limits start items = lost + losses unicode limits point.characterOffset
      (items.drop (point.pageIndex - index)) := by
  induction fills with
  | finished => cases stops
  | other rest inductionHypothesis =>
    rw [drop_cons (rest.index_le stops), losses, inductionHypothesis stops (Or.inl rfl) room,
      add_assoc]
  | full many =>
    cases stops
    rw [Nat.sub_self, List.drop_zero, zero_add]
  | @cut index start pages characters page items few long =>
    cases stops
    have advanced : start + (limits.maxCharacters - characters) ≠ 0 := by omega
    have continued : Item.loss unicode limits (start + (limits.maxCharacters - characters))
        (.page page) = 0 := if_neg advanced
    rw [Nat.sub_self, List.drop_zero, losses, losses, continued, zero_add]
  | filled few exact =>
    cases stops
    simp only [Nat.add_sub_cancel_left, List.drop_succ_cons, List.drop_zero, losses]
  | fitted few short rest inductionHypothesis =>
    rw [drop_cons (rest.index_le stops), losses, inductionHypothesis stops (Or.inl rfl) short,
      add_assoc]

/-- A pass stops inside an item. -/
theorem inside (fills : Fills unicode limits index start pages characters items read lost stop)
    (stops : stop = some point) (begun : start = 0 ∨ pages < limits.maxPages)
    (room : characters < limits.maxCharacters) :
    Inside unicode point.characterOffset (items.drop (point.pageIndex - index)) := by
  induction fills with
  | finished => cases stops
  | other rest inductionHypothesis =>
    rw [drop_cons (rest.index_le stops)]
    exact inductionHypothesis stops (Or.inl rfl) room
  | full many =>
    cases stops
    obtain rfl := begun.resolve_right (Nat.not_lt_of_le many)
    rw [Nat.sub_self]
    exact Nat.zero_le _
  | cut few long =>
    cases stops
    rw [Nat.sub_self]
    simp only [List.drop_zero, Inside, Item.length]
    omega
  | filled few exact =>
    cases stops
    exact inside_zero unicode _
  | fitted few short rest inductionHypothesis =>
    rw [drop_cons (rest.index_le stops)]
    exact inductionHypothesis stops (Or.inl rfl) short

theorem weight_cons {item : Item} (within : start ≤ item.length unicode) (items : List Item) :
    weight unicode start (item :: items) =
      weight unicode 0 items + (item.length unicode - start) + 1 := by
  simp only [weight, List.map_cons, List.sum_cons]
  omega

/-- A pass leaves no more than there was. -/
theorem weight_le (fills : Fills unicode limits index start pages characters items read lost stop)
    (stops : stop = some point) (within : Inside unicode start items) :
    weight unicode point.characterOffset (items.drop (point.pageIndex - index)) ≤
      weight unicode start items := by
  induction fills with
  | finished => cases stops
  | other rest inductionHypothesis =>
    rw [drop_cons (rest.index_le stops), weight_cons within]
    have less := inductionHypothesis stops (inside_zero unicode _)
    omega
  | full many =>
    cases stops
    rw [Nat.sub_self, List.drop_zero]
  | cut few long =>
    cases stops
    rw [Nat.sub_self, List.drop_zero, weight, weight, Nat.sub_add_eq]
    exact Nat.sub_le _ _
  | filled few exact =>
    cases stops
    rw [weight_cons within]
    simp only [Nat.add_sub_cancel_left, List.drop_succ_cons, List.drop_zero]
    omega
  | fitted few short rest inductionHypothesis =>
    rw [drop_cons (rest.index_le stops), weight_cons within]
    have less := inductionHypothesis stops (inside_zero unicode _)
    omega

/-- A pass that has room leaves less than there was. -/
theorem weight_lt (fills : Fills unicode limits index start pages characters items read lost stop)
    (stops : stop = some point) (within : Inside unicode start items)
    (few : pages < limits.maxPages) (room : characters < limits.maxCharacters) :
    weight unicode point.characterOffset (items.drop (point.pageIndex - index)) <
      weight unicode start items := by
  cases fills with
  | finished => cases stops
  | other rest =>
    rw [drop_cons (rest.index_le stops), weight_cons within]
    have less := rest.weight_le stops (inside_zero unicode _)
    omega
  | full many => omega
  | cut few long =>
    cases stops
    have begun : _ ≤ _ := within
    simp only [Item.length] at begun
    rw [Nat.sub_self, List.drop_zero, weight_cons within,
      weight_cons (by simp only [Item.length]; omega)]
    simp only [Item.length]
    omega
  | filled few exact =>
    cases stops
    rw [weight_cons within]
    simp only [Nat.add_sub_cancel_left, List.drop_succ_cons, List.drop_zero]
    omega
  | fitted few short rest =>
    rw [drop_cons (rest.index_le stops), weight_cons within]
    have less := rest.weight_le stops (inside_zero unicode _)
    omega

end Fills

/-! ### Where the last pass begins -/

/-- How far a pass is filled, and the first item whose losses it counts. -/
structure Filling where
  pages : Nat
  characters : Nat
  fresh : Nat
  deriving DecidableEq

/-- A page of a length fills the pass, or the passes that it takes. -/
def fillPage (filling : Filling) (index length : Nat) : Filling :=
  let begun := if limits.maxPages ≤ filling.pages then ⟨0, 0, index⟩ else filling
  let total := begun.characters + length
  if total < limits.maxCharacters then ⟨begun.pages + 1, total, begun.fresh⟩
  else
    ⟨if total % limits.maxCharacters = 0 then 0 else 1, total % limits.maxCharacters, index + 1⟩

/-- A page that is cut fills the next pass with what is left of it. -/
theorem fillPage_cut {pages characters length : Nat} (few : pages < limits.maxPages)
    (long : limits.maxCharacters < characters + length) (first index : Nat) :
    fillPage limits ⟨pages, characters, first⟩ index length =
      fillPage limits ⟨0, 0, index + 1⟩ index (characters + length - limits.maxCharacters) := by
  obtain ⟨left, total⟩ := Nat.exists_eq_add_of_lt long
  have some := limits.somePages
  simp only [fillPage, if_neg (Nat.not_le_of_lt few), if_neg (Nat.not_le_of_lt some), total,
    Nat.zero_add]
  rw [if_neg (by omega), show limits.maxCharacters + left + 1 - limits.maxCharacters = left + 1 by
    omega, Nat.add_assoc, Nat.add_mod_left]
  by_cases short : left + 1 < limits.maxCharacters
  · rw [if_pos short, Nat.mod_eq_of_lt short, if_neg (Nat.succ_ne_zero left)]
  · rw [if_neg short]

/-- How far the last pass is filled by items of which the first has a number and is begun at a
place. -/
def fill : Filling → Nat → Nat → List Item → Filling
  | filling, _, _, [] => filling
  | filling, index, _, .other :: items => fill filling (index + 1) 0 items
  | filling, index, start, .page page :: items =>
    fill (fillPage limits filling index ((normalisedText unicode page.text).length - start))
      (index + 1) 0 items

/-- The first item whose losses a pass counts that starts at a point. -/
def fresh (point : ResumePoint) : Nat :=
  if point.characterOffset = 0 then point.pageIndex else point.pageIndex + 1

namespace Fills

variable {unicode limits} {index start pages characters : Nat} {items : List Item}
  {read : List Passage} {lost : Loss} {stop : Option ResumePoint} {point : ResumePoint}

/-- A pass that reads everything is the last. -/
theorem fresh_eq (fills : Fills unicode limits index start pages characters items read lost stop)
    (ends : stop = none) (first : Nat) :
    (fill unicode limits ⟨pages, characters, first⟩ index start items).fresh = first := by
  induction fills with
  | finished => rfl
  | other rest inductionHypothesis => exact inductionHypothesis ends
  | full many => cases ends
  | cut few long => cases ends
  | filled few exact => cases ends
  | fitted few short rest inductionHypothesis =>
    rw [fill, fillPage]
    simp only [if_neg (Nat.not_le_of_lt few), if_pos short]
    exact inductionHypothesis ends

/-- The pass after one that stops begins empty. -/
theorem fill_eq (fills : Fills unicode limits index start pages characters items read lost stop)
    (stops : stop = some point) (begun : start = 0 ∨ pages < limits.maxPages)
    (room : characters < limits.maxCharacters) (first : Nat) :
    fill unicode limits ⟨pages, characters, first⟩ index start items =
      fill unicode limits ⟨0, 0, fresh point⟩ point.pageIndex point.characterOffset
        (items.drop (point.pageIndex - index)) := by
  have some := limits.somePages
  induction fills with
  | finished => cases stops
  | other rest inductionHypothesis =>
    rw [drop_cons (rest.index_le stops), fill]
    exact inductionHypothesis stops (Or.inl rfl) room
  | full many =>
    cases stops
    obtain rfl := begun.resolve_right (Nat.not_lt_of_le many)
    simp only [Nat.sub_self, List.drop_zero, fill, fillPage, if_pos many, fresh, if_true,
      if_neg (Nat.not_le_of_lt some)]
  | @cut index start pages characters page items few long =>
    cases stops
    have advanced : start + (limits.maxCharacters - characters) ≠ 0 := by omega
    rw [Nat.sub_self, List.drop_zero, fill, fill, fresh, if_neg advanced]
    congr 1
    have left : (normalisedText unicode page.text).length -
        (start + (limits.maxCharacters - characters)) =
        characters + ((normalisedText unicode page.text).length - start) - limits.maxCharacters := by
      omega
    rw [left]
    exact fillPage_cut limits few long first index
  | filled few exact =>
    cases stops
    rw [fill, fillPage]
    simp only [if_neg (Nat.not_le_of_lt few), exact, Nat.lt_irrefl, if_false, Nat.mod_self, if_true,
      Nat.add_sub_cancel_left, List.drop_succ_cons, List.drop_zero, fresh]
  | fitted few short rest inductionHypothesis =>
    rw [drop_cons (rest.index_le stops), fill, fillPage]
    simp only [if_neg (Nat.not_le_of_lt few), if_pos short]
    exact inductionHypothesis stops (Or.inl rfl) short

end Fills

end DocumentExtractor

end Omnitensor
