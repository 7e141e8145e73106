/-
This file says which pieces of a document hold nothing but white space.

A match takes the white space at it as far as its pattern does, so every part between two matches has
something in it. Only the first part and the last one may be blank; and a piece is blank if such a part
finds no room beside its neighbour.
-/

import Omnitensor.TextSpanLimits

namespace Omnitensor

namespace Spans

/-- A text of white space. -/
def Blank (text : PyString) : Prop := ∀ point ∈ text, PyString.space point = true

instance (text : PyString) : Decidable (Blank text) := inferInstanceAs (Decidable (∀ _ ∈ _, _))

variable {boundary : Boundary} {text : PyString} {limit : Nat}

variable {group : List PyString} {first second : PyString} {Settled : PyString → Prop}

theorem blank_append : Blank (first ++ second) ↔ Blank first ∧ Blank second :=
  List.forall_mem_append

theorem blank_flatten : Blank group.flatten ↔ ∀ part ∈ group, Blank part := by
  simp only [Blank, List.mem_flatten]
  exact ⟨fun blank part member point inside => blank point ⟨part, member, inside⟩,
    fun blank point ⟨part, member, inside⟩ => blank part member point inside⟩

theorem strip_eq_nil_iff : PyString.strip text = [] ↔ Blank text := by
  rw [PyString.strip, List.reverse_eq_nil_iff, List.dropWhile_eq_nil_iff]
  constructor
  · intro blank
    have rest : text.dropWhile PyString.space = [] := by
      cases same : text.dropWhile PyString.space with
      | nil => rfl
      | cons point points =>
        have head := List.head_dropWhile_not PyString.space (by rw [same]; exact List.cons_ne_nil _ _)
        simp only [same, List.head_cons] at head
        rw [same] at blank
        exact absurd (blank point (List.mem_reverse.mpr List.mem_cons_self)) (by rw [head]; decide)
    exact List.dropWhile_eq_nil_iff.mp rest
  · intro blank point member
    exact blank point ((List.dropWhile_sublist _).subset (List.mem_reverse.mp member))

/-! ### Parts -/

/-- Between two matches of a pattern there is something: what follows of a match is settled, and no match
begins before something in it. -/
structure Parting (boundary : Boundary) (Settled : PyString → Prop) : Prop where
  settles : ∀ {before after : PyString} {length : Nat}, boundary.matchAt before after = some length →
    Settled (after.drop length)
  apart : ∀ {before gap after : PyString} {length : Nat}, Settled (gap ++ after) →
    boundary.matchAt (before ++ gap) after = some length → ¬ Blank gap

theorem not_blank_of_settled (parting : Parting boundary Settled) {attempts start position : Nat}
    (reached : start ≤ position) (settled : Settled (text.drop start)) :
    ∀ part ∈ (partsFrom text start (finditer boundary text attempts position)).dropLast, ¬ Blank part := by
  induction attempts generalizing start position with
  | zero =>
    rw [finditer, partsFrom]
    split <;> exact fun part member => absurd member List.not_mem_nil
  | succ attempts inductionHypothesis =>
    rw [finditer]
    split
    · rename_i length found
      intro part member
      rw [partsFrom] at member
      have cut := @slice_append_drop text _ _ reached
      obtain ⟨_, within⟩ := bounded_matchAt found
      rw [← take_append_slice reached] at found
      have gap : ¬ Blank (slice text start position) := parting.apart (cut ▸ settled) found
      have rest := inductionHypothesis (Nat.le_refl _) (by
        have follows := parting.settles found
        rwa [List.drop_drop] at follows)
      cases others : partsFrom text (position + length)
          (finditer boundary text attempts (position + length)) with
      | nil =>
        rw [others] at member
        exact absurd member List.not_mem_nil
      | cons next others' =>
        rw [others, List.dropLast_cons_of_ne_nil (List.cons_ne_nil _ _)] at member
        rcases List.mem_cons.mp member with rfl | member
        · rw [← slice_append_slice reached (Nat.le_add_right _ _) (by omega), blank_append]
          exact fun blank => gap blank.1
        · exact rest part (others ▸ member)
    · exact inductionHypothesis (reached.trans (Nat.le_succ _)) settled

/-- Of the parts of a text, only the first and the last may be blank. -/
theorem not_blank_of_inner (parting : Parting boundary Settled) {attempts position : Nat} :
    ∀ part ∈ (partsFrom text 0 (finditer boundary text attempts position)).tail.dropLast,
      ¬ Blank part := by
  induction attempts generalizing position with
  | zero =>
    rw [finditer, partsFrom]
    split <;> exact fun part member => absurd member List.not_mem_nil
  | succ attempts inductionHypothesis =>
    rw [finditer]
    split
    · rename_i length found
      have follows := parting.settles found
      rw [List.drop_drop] at follows
      exact not_blank_of_settled parting (Nat.le_refl _) follows
    · exact inductionHypothesis

/-! ### The patterns -/

theorem run_cons (point : CodePoint) (text : PyString) :
    run (point :: text) = if PyString.space point then point :: run text else [] := by
  exact List.takeWhile_cons ..

theorem run_append_of_blank (blank : Blank first) :
    run (first ++ second) = first ++ run second := List.takeWhile_append_of_pos blank

theorem blank_run (text : PyString) : Blank (run text) := fun _ member => List.mem_takeWhile_imp member

/-- The rest of a text after the white space that begins it. -/
theorem run_append_drop (text : PyString) : run text ++ text.drop (run text).length = text := by
  have whole : run text ++ text.dropWhile PyString.space = text := List.takeWhile_append_dropWhile
  have rest : (run text ++ text.dropWhile PyString.space).drop (run text).length =
      text.dropWhile PyString.space := List.drop_left
  rw [whole] at rest
  rw [rest, whole]

theorem run_drop_run (text : PyString) : run (text.drop (run text).length) = [] := by
  have whole := congrArg run (run_append_drop text)
  rw [run_append_of_blank (blank_run text)] at whole
  exact List.append_right_eq_self.mp whole

/-- What begins with something. -/
def Begun (text : PyString) : Prop := run text = []

theorem parting_whitespaceAt {matchAt : PyString → PyString → Option Nat}
    {bounded : ∀ before after length, matchAt before after = some length → 0 < length ∧ length ≤ after.length}
    (finds : ∀ {before after length}, matchAt before after = some length → whitespaceAt after = some length) :
    Parting ⟨matchAt, bounded⟩ Begun where
  settles found := by
    have runs := finds found
    rw [whitespaceAt] at runs
    split at runs
    · cases runs
    · cases runs
      exact run_drop_run _
  apart begun found blank := by
    have runs := finds found
    rw [whitespaceAt] at runs
    split at runs
    · cases runs
    · rename_i filled
      rw [Begun, run_append_of_blank blank] at begun
      exact filled (List.append_eq_nil_iff.mp begun).2

theorem parting_whitespace : Parting whitespace Begun := parting_whitespaceAt fun found => found

theorem parting_sentence : Parting sentence Begun := by
  refine parting_whitespaceAt fun found => ?_
  rw [sentenceAt] at found
  split at found
  · exact found
  · cases found

/-- What follows without a line feed in the white space that begins it. -/
def Continued (text : PyString) : Prop := CodePoint.scalar '\n' ∉ run text

/-- After its last line feed a text has none. -/
theorem lineFeed_notMem_drop (text : PyString) :
    CodePoint.scalar '\n' ∉ text.drop (upToLineFeed text).length := by
  have whole : upToLineFeed text ++
      (text.reverse.takeWhile fun point => decide (point ≠ .scalar '\n')).reverse = text := by
    rw [upToLineFeed, ← List.reverse_append, List.takeWhile_append_dropWhile, List.reverse_reverse]
  have rest := @List.drop_left _ (upToLineFeed text)
    (text.reverse.takeWhile fun point => decide (point ≠ .scalar '\n')).reverse
  rw [whole] at rest
  rw [rest, List.mem_reverse]
  intro member
  have other := List.mem_takeWhile_imp member
  exact absurd rfl (of_decide_eq_true other)

theorem parting_paragraph : Parting paragraph Continued where
  settles found := by
    change paragraphAt _ = _ at found
    unfold paragraphAt at found
    split at found
    · rename_i rest
      split at found
      · cases found
      · cases found
        rw [List.drop_succ_cons, Continued]
        have split : rest.drop (upToLineFeed (run rest)).length =
            (run rest).drop (upToLineFeed (run rest)).length ++ rest.drop (run rest).length := by
          rw [← List.drop_append_of_le_length (length_upToLineFeed_le _), run_append_drop]
        have blank : Blank ((run rest).drop (upToLineFeed (run rest)).length) :=
          fun point member => blank_run rest point (List.mem_of_mem_drop member)
        rw [split, run_append_of_blank blank, run_drop_run, List.append_nil]
        exact lineFeed_notMem_drop (run rest)
    · cases found
  apart continued found blank := by
    change paragraphAt _ = _ at found
    unfold paragraphAt at found
    split at found
    · rename_i rest
      refine continued ?_
      rw [run_append_of_blank blank, run_cons, if_pos (by decide)]
      exact List.mem_append_right _ List.mem_cons_self
    · cases found

/-- Of the parts of a text by any of the patterns, only the first and the last may be blank. -/
theorem not_blank_parts (member : boundary ∈ boundaries) :
    ∀ part ∈ (parts boundary text).tail.dropLast, ¬ Blank part := by
  simp only [boundaries, List.mem_cons, List.not_mem_nil, or_false] at member
  rcases member with rfl | rfl | rfl
  · exact not_blank_of_inner parting_paragraph
  · exact not_blank_of_inner parting_sentence
  · exact not_blank_of_inner parting_whitespace

/-! ### Pieces -/

/-- Blank text at the beginning is a part that has no room beside the next one. -/
def LeadsAlone (limit : Nat) (items : List PyString) : Prop :=
  ∃ first second rest, items = first :: second :: rest ∧ Blank first ∧
    limit < first.length + second.length

/-- Blank text at the end is a part that has no room beside the parts put together before it. -/
def TrailsAlone (limit : Nat) (items : List PyString) : Prop :=
  ∃ others last filled group, items = others ++ [last] ∧ Blank last ∧
    Grouping.Groups (under limit) others (filled ++ [group]) ∧
    Grouping.Full (under limit) (filled ++ [group]) ∧ limit < group.flatten.length + last.length

theorem under_concat_eq_false {part : PyString} :
    under limit (group ++ [part]) = false ↔ limit < group.flatten.length + part.length := by
  rw [under, decide_eq_false_iff_not, not_le, List.flatten_append, List.flatten_singleton,
    List.length_append]

variable {items : List PyString} {groups : List (List PyString)}

/-- Of groups of which the first and the last part only may be blank, a blank one is such a part. -/
theorem alone_of_blank (something : ¬ Blank items.flatten)
    (inner : ∀ part ∈ items.tail.dropLast, ¬ Blank part)
    (grouping : Grouping.Groups (under limit) items groups)
    (full : Grouping.Full (under limit) groups) (member : group ∈ groups)
    (blank : Blank group.flatten) : LeadsAlone limit items ∨ TrailsAlone limit items := by
  obtain ⟨before, after, rfl⟩ := List.append_of_mem member
  have whole := grouping.whole
  have blanks := blank_flatten.mp blank
  cases group with
  | nil => exact absurd rfl (grouping.filled [] member)
  | cons first more =>
    rw [List.flatten_append, List.flatten_cons] at whole
    cases before with
    | nil =>
      left
      rw [List.flatten_nil, List.nil_append, List.cons_append] at whole
      rw [← whole, List.tail_cons] at inner
      cases more with
      | nil =>
        cases after with
        | nil =>
          rw [← whole] at something
          exact absurd blank something
        | cons next others =>
          obtain ⟨chain, _⟩ := List.isChain_cons_cons.mp full
          cases next with
          | nil => exact absurd rfl (grouping.filled [] (by simp))
          | cons second rest =>
            refine ⟨first, second, rest ++ others.flatten, by rw [← whole]; rfl,
              blanks first List.mem_cons_self, ?_⟩
            have refused := under_concat_eq_false.mp (chain second rfl)
            rwa [List.flatten_singleton] at refused
      | cons second more =>
        have rest : more ++ after.flatten = [] := by
          by_contra others
          refine inner second ?_ (blanks second (by simp))
          rw [List.cons_append, List.dropLast_cons_of_ne_nil others]
          exact List.mem_cons_self
        rw [← whole, List.cons_append, rest] at something
        refine absurd (blank_flatten.mpr fun part inside => blanks part ?_) something
        rw [(List.append_eq_nil_iff.mp rest).1]
        exact inside
    | cons earlier before =>
      right
      have begun : earlier ≠ [] := grouping.filled earlier (by simp)
      obtain ⟨start, tail, rfl⟩ := List.exists_cons_of_ne_nil begun
      have rest : more ++ after.flatten = [] := by
        by_contra others
        refine inner first ?_ (blanks first List.mem_cons_self)
        rw [← whole, List.flatten_cons, List.cons_append, List.cons_append, List.tail_cons,
          List.cons_append, List.dropLast_append_of_ne_nil (List.cons_ne_nil _ _),
          List.dropLast_cons_of_ne_nil others]
        exact List.mem_append_right _ List.mem_cons_self
      obtain ⟨rfl, none⟩ := List.append_eq_nil_iff.mp rest
      have ends : after = [] := List.eq_nil_iff_forall_not_mem.mpr fun other inside =>
        grouping.filled other (by simp [inside]) (List.flatten_eq_nil_iff.mp none other inside)
      subst ends
      obtain ⟨filled, group, same⟩ : ∃ filled group, (start :: tail) :: before = filled ++ [group] :=
        (List.eq_nil_or_concat' _).resolve_left (List.cons_ne_nil _ _)
      rw [same] at grouping full whole
      obtain ⟨fullBefore, _, chain⟩ := List.isChain_append.mp full
      have refused := under_concat_eq_false.mp (chain group (by simp) [first] rfl first rfl)
      refine ⟨(filled ++ [group]).flatten, first, filled, group, by rw [← whole]; simp,
        blanks first List.mem_cons_self, ⟨rfl, ?_, ?_⟩, fullBefore, refused⟩
      · exact fun other inside => grouping.filled other (List.mem_append_left _ inside)
      · exact fun other inside => grouping.admitted other (List.mem_append_left _ inside)

theorem blank_of_leadsAlone (leads : LeadsAlone limit items)
    (grouping : Grouping.Groups (under limit) items groups) :
    ∃ group ∈ groups, Blank group.flatten := by
  obtain ⟨first, second, rest, rfl, blank, exceeds⟩ := leads
  have whole := grouping.whole
  cases groups with
  | nil => cases whole
  | cons group groups =>
    refine ⟨group, List.mem_cons_self, ?_⟩
    cases group with
    | nil => exact absurd rfl (grouping.filled [] List.mem_cons_self)
    | cons part more =>
      rw [List.flatten_cons, List.cons_append] at whole
      obtain ⟨rfl, tail⟩ := List.cons.inj whole
      cases more with
      | nil => rwa [List.flatten_singleton]
      | cons next more =>
        obtain ⟨rfl, _⟩ := List.cons.inj tail
        rcases grouping.admitted _ List.mem_cons_self with fit | ⟨single, alone⟩
        · have room := of_decide_eq_true fit
          rw [List.flatten_cons, List.flatten_cons, List.length_append, List.length_append] at room
          omega
        · cases alone

theorem blank_of_trailsAlone (trails : TrailsAlone limit items)
    (grouping : Grouping.Groups (under limit) items groups) (full : Grouping.Full (under limit) groups) :
    ∃ group ∈ groups, Blank group.flatten := by
  obtain ⟨others, last, filled, group, rfl, blank, before, fullBefore, exceeds⟩ := trails
  have whole : Grouping.Groups (under limit) (others ++ [last]) ((filled ++ [group]) ++ [[last]]) := by
    refine ⟨by rw [List.flatten_append, before.whole, List.flatten_singleton], ?_, ?_⟩
    · exact List.forall_mem_append.mpr
        ⟨before.filled, List.forall_mem_singleton.mpr (List.cons_ne_nil _ _)⟩
    · exact List.forall_mem_append.mpr
        ⟨before.admitted, List.forall_mem_singleton.mpr (Or.inr ⟨last, rfl⟩)⟩
  have fullWhole : Grouping.Full (under limit) ((filled ++ [group]) ++ [[last]]) := by
    refine List.isChain_append.mpr ⟨fullBefore, List.isChain_singleton _, ?_⟩
    intro earlier isLast next isNext item isHead
    rw [List.getLast?_concat, Option.mem_some_iff] at isLast
    cases isNext
    cases isHead
    exact isLast ▸ under_concat_eq_false.mpr exceeds
  have same := (Grouping.eq_gather_of_full hereditary_under whole fullWhole).trans
    (Grouping.eq_gather_of_full hereditary_under grouping full).symm
  refine ⟨[last], ?_, by rwa [List.flatten_singleton]⟩
  rw [← same]
  exact List.mem_append_right _ (List.mem_singleton_self _)

/-- The pieces of a text in which there is something are blank exactly where white space at the beginning
or at the end stands alone. -/
theorem exists_blank_iff (something : ¬ Blank text) :
    (∃ piece ∈ piecesOf text limit, Blank piece) ↔
      limit < text.length ∧ ∃ boundary, coarsest text limit = some boundary ∧
        (LeadsAlone limit (parts boundary text) ∨ TrailsAlone limit (parts boundary text)) := by
  have filled : text ≠ [] := by
    rintro rfl
    exact something fun _ member => absurd member List.not_mem_nil
  rw [piecesOf, if_neg filled, splitToLimit_eq]
  by_cases short : text.length ≤ limit
  · simp only [if_pos short, List.mem_singleton, exists_eq_left, not_lt.mpr short, false_and, iff_false]
    exact something
  rw [if_neg short, and_iff_right (not_le.mp short)]
  cases found : coarsest text limit with
  | none =>
    simp only [Option.map_none, Option.getD_none, List.mem_singleton, exists_eq_left, reduceCtorEq,
      false_and, exists_false, iff_false]
    exact something
  | some boundary =>
    have grouping := @Grouping.groups_gather_nil _ (under limit) (parts boundary text)
    have full := @Grouping.full_gather _ (under limit) (parts boundary text) []
    simp only [Option.map_some, Option.getD_some, Option.some.injEq, exists_eq_left', List.mem_map,
      exists_exists_and_eq_and]
    constructor
    · rintro ⟨group, member, blank⟩
      exact alone_of_blank (by rwa [flatten_parts])
        (not_blank_parts (List.mem_of_find?_eq_some found)) grouping full member blank
    · rintro (leads | trails)
      · exact blank_of_leadsAlone leads grouping
      · exact blank_of_trailsAlone trails grouping full

end Spans

end Omnitensor
