/-
This file proves when a rendered calendar is well formed, so that no text of a source adds, ends or alters
a line of it.

Property values are escaped, which takes every line break from them. What is not escaped is checked
elsewhere or not at all: an e-mail address may hold a line break, the quoting of a parameter value is
missing, an organiser is written with its address as a parameter that has no value, and dates, times and
weekdays are taken from texts that a newline may end.
-/

import Omnitensor.ContentLine
import Omnitensor.EventMoments

namespace Omnitensor

namespace Events

/-! ### Heads -/

/-- A property without parameters. -/
def plainHead (name : String) : LineHead := ⟨name, []⟩

def momentHead (name : String) (time : Option PyString) (timezone : Option EventTimezone) : LineHead :=
  match time with
  | none => ⟨name, [("VALUE", .ofString "DATE")]⟩
  | some _ => match zoneForm timezone with
    | .named zone => ⟨name, [("TZID", zone)]⟩
    | _ => plainHead name

def personHead (name : String) (person : Person) : LineHead := ⟨name, [("CN", icsText person.name)]⟩

/-- What is said of where a place is. -/
def EventPlace.stated (place : EventPlace) : Option PyString :=
  match place.address with
  | some address => some address.full
  | none => place.venue

def placeHeads (place : EventPlace) : List LineHead :=
  place.stated.toList.map (fun _ => plainHead "LOCATION") ++
    place.url.toList.map fun _ => plainHead "URL"

def peopleHeads (people : EventPeople) : List LineHead :=
  people.organiser.toList.map (personHead "ORGANIZER") ++
    people.participants.map (personHead "ATTENDEE")

def commonHeads (event : EventCandidate) : List LineHead :=
  (event.what.toList.map fun _ => plainHead "DESCRIPTION") ++
    event.place.toList.flatMap placeHeads ++ event.people.toList.flatMap peopleHeads ++
    ((icsStatus event.status).getD []).map fun _ => plainHead "STATUS"

def recurrenceHeads (repeats : Recurrence) : List LineHead :=
  plainHead "RRULE" :: repeats.exceptions.map fun _ => ⟨"EXDATE", [("VALUE", .ofString "DATE")]⟩

/-- The names and parameters that the lines of a component are meant to have. -/
def componentHeads (event : EventCandidate) : List LineHead :=
  match event.when.date with
  | none => ["BEGIN", "UID", "SUMMARY"].map plainHead ++ commonHeads event ++ [plainHead "END"]
  | some _ =>
    ["BEGIN", "UID"].map plainHead ++
      [momentHead "DTSTART" event.when.time event.when.timezone] ++
      ((endDay event.when).toList.map fun _ =>
        momentHead "DTEND" event.when.endTime event.when.timezone) ++
      [plainHead "SUMMARY"] ++
      event.repeats.toList.flatMap recurrenceHeads ++ commonHeads event ++ [plainHead "END"]

/-- The names and parameters that the lines of a calendar are meant to have. -/
def calendarHeads (events : List EventCandidate) : List LineHead :=
  ["BEGIN", "VERSION", "PRODID"].map plainHead ++ events.flatMap componentHeads ++ [plainHead "END"]

/-! ### Escaped texts -/

/-- A text that can be escaped: no control characters but tabs and line breaks. -/
def EscapableText (text : PyString) : Prop :=
  ∀ point ∈ text, point = .scalar '\r' ∨ point = .scalar '\n' ∨ Printable point

instance (text : PyString) : Decidable (EscapableText text) :=
  inferInstanceAs (Decidable (∀ point ∈ text, point = .scalar '\r' ∨ point = .scalar '\n' ∨ Printable point))

theorem replaceChar_append (old : Char) (new first second : PyString) :
    replaceChar old new (first ++ second) = replaceChar old new first ++ replaceChar old new second :=
  List.flatMap_append

theorem icsText_append (first second : PyString) :
    icsText (first ++ second) = icsText first ++ icsText second := by
  simp only [icsText, replaceChar_append]

/-- What one character is escaped as. -/
theorem icsText_point (point : CodePoint) : icsText [point] =
    if point = .scalar '\r' then [] else if point = .scalar '\n' then PyString.ofString "\\n"
    else if point ∈ PyString.ofString "\\;," then [.scalar '\\', point] else [point] := by
  by_cases special : point ∈ PyString.ofString "\r\n\\;,"
  · simp only [PyString.ofString, PyString.ofChars, List.mem_map] at special
    obtain ⟨char, member, rfl⟩ := special
    fin_cases member <;> decide
  · have other : ∀ char ∈ "\r\n\\;,".toList, point ≠ .scalar char := by
      intro char member same
      exact special (same ▸ List.mem_map_of_mem member)
    have kept : ∀ char ∈ "\r\n\\;,".toList, ∀ new, replaceChar char new [point] = [point] := by
      intro char member new
      rw [replaceChar, List.flatMap_singleton, if_neg (other char member)]
    rw [if_neg (other '\r' (by decide)), if_neg (other '\n' (by decide)), if_neg]
    · simp only [icsText, kept '\\' (by decide), kept ';' (by decide), kept ',' (by decide),
        kept '\r' (by decide), kept '\n' (by decide)]
    · exact fun member => special (List.mem_append_right (PyString.ofString "\r\n") member)

theorem icsText_cons (point : CodePoint) (text : PyString) :
    icsText (point :: text) = icsText [point] ++ icsText text := icsText_append [point] text

theorem printable_icsText_point (point : CodePoint) : PrintableText (icsText [point]) ↔
    point = .scalar '\r' ∨ point = .scalar '\n' ∨ Printable point := by
  rw [icsText_point]
  split_ifs with broken newline special
  · exact ⟨fun _ => .inl broken, fun _ => List.forall_mem_nil _⟩
  · exact ⟨fun _ => .inr (.inl newline), fun _ => by decide⟩
  · refine ⟨fun printable => .inr (.inr (printable point (by simp))), fun printable => ?_⟩
    refine List.forall_mem_cons.mpr ⟨by decide, List.forall_mem_singleton.mpr ?_⟩
    exact (printable.resolve_left broken).resolve_left newline
  · refine ⟨fun printable => .inr (.inr (printable point (by simp))), fun printable => ?_⟩
    exact List.forall_mem_singleton.mpr ((printable.resolve_left broken).resolve_left newline)

variable {text : PyString} {point : CodePoint} {repeats : Recurrence} {host : EventHost}
  {matched : List Char → Bool} {event : EventCandidate}

/-- Escaping leaves exactly the control characters that are no line breaks. -/
theorem printable_icsText : PrintableText (icsText text) ↔ EscapableText text := by
  induction text with
  | nil => exact ⟨fun _ => List.forall_mem_nil _, fun _ => List.forall_mem_nil _⟩
  | cons point text inductionHypothesis =>
    rw [icsText_cons, printableText_append, inductionHypothesis, printable_icsText_point, EscapableText,
      EscapableText, List.forall_mem_cons]

/-! ### Names -/

/-- A name that can be a parameter value: a text without delimiters, or one in quotes. -/
structure CommonName (name : PyString) : Prop where
  escapable : EscapableText name
  undelimited : (∀ point ∈ name, point ∉ parameterDelimiters) ∨
    ∃ inner, (name.filter fun point => decide (point ≠ .scalar '\r')) =
      .scalar '"' :: inner ++ [.scalar '"'] ∧ CodePoint.scalar '"' ∉ inner

theorem mem_icsText_point (unbroken : point ≠ .scalar '\r') (inline : point ≠ .scalar '\n') :
    point ∈ icsText [point] := by
  rw [icsText_point, if_neg unbroken, if_neg inline]
  split_ifs
  · exact List.mem_cons_of_mem _ List.mem_cons_self
  · exact List.mem_cons_self

/-- Escaping adds backslashes and letters, and no delimiter. -/
theorem mem_of_mem_icsText (member : point ∈ icsText text) :
    point ∈ text ∨ point = .scalar '\\' ∨ point = .scalar 'n' := by
  induction text with
  | nil => exact absurd member List.not_mem_nil
  | cons first text inductionHypothesis =>
    rw [icsText_cons, List.mem_append] at member
    rcases member with member | member
    · rw [icsText_point] at member
      split_ifs at member
      · exact absurd member List.not_mem_nil
      · have either : point = .scalar '\\' ∨ point = .scalar 'n' := by simpa [PyString.ofString] using member
        exact .inr either
      · simp only [List.mem_cons, List.not_mem_nil, or_false] at member
        exact member.elim (fun same => .inr (.inl same)) fun same => .inl (same ▸ List.mem_cons_self)
      · rw [List.mem_singleton.mp member]
        exact .inl List.mem_cons_self
    · exact (inductionHypothesis member).imp_left (List.mem_cons_of_mem _)

theorem mem_icsText (member : point ∈ text) (unbroken : point ≠ .scalar '\r')
    (inline : point ≠ .scalar '\n') : point ∈ icsText text := by
  obtain ⟨before, after, rfl⟩ := List.append_of_mem member
  rw [icsText_append, icsText_cons]
  exact List.mem_append_right _ (List.mem_append_left _ (mem_icsText_point unbroken inline))

/-- A delimiter is in an escaped text exactly if it was in the text. -/
theorem undelimited_icsText :
    (∀ point ∈ icsText text, point ∉ parameterDelimiters) ↔ ∀ point ∈ text, point ∉ parameterDelimiters := by
  constructor
  · intro free point member delimiter
    refine free point (mem_icsText member ?_ ?_) delimiter
    · rintro rfl
      exact absurd delimiter (by decide)
    · rintro rfl
      exact absurd delimiter (by decide)
  · intro free point member
    rcases mem_of_mem_icsText member with inside | rfl | rfl
    · exact free point inside
    · decide
    · decide

theorem icsText_filter_return (text : PyString) :
    icsText (text.filter fun point => decide (point ≠ .scalar '\r')) = icsText text := by
  induction text with
  | nil => rfl
  | cons point text inductionHypothesis =>
    rw [icsText_cons, List.filter_cons]
    split_ifs with other
    · rw [icsText_cons, inductionHypothesis]
    · have broken : point = .scalar '\r' := by simpa using other
      rw [inductionHypothesis, icsText_point, if_pos broken, List.nil_append]

/-- A character that is not dropped and is escaped with a quote at one end is a quote. -/
theorem eq_quote_of_icsText (unbroken : point ≠ .scalar '\r')
    (quoted : (icsText [point]).head? = some (.scalar '"') ∨
      (icsText [point]).getLast? = some (.scalar '"')) : point = .scalar '"' := by
  rw [icsText_point, if_neg unbroken] at quoted
  split_ifs at quoted with newline special
  · exact absurd quoted (by decide)
  · rcases quoted with first | last
    · cases first
    · exact Option.some.inj last
  · exact quoted.elim Option.some.inj Option.some.inj

theorem icsText_point_ne_nil (unbroken : point ≠ .scalar '\r') : icsText [point] ≠ [] := by
  rw [icsText_point, if_neg unbroken]
  split_ifs
  · decide
  · exact List.cons_ne_nil _ _
  · exact List.cons_ne_nil _ _

/-- A text without carriage returns is quoted exactly if it is when escaped. -/
theorem quoted_icsText (unbroken : CodePoint.scalar '\r' ∉ text) :
    (∃ inner, icsText text = .scalar '"' :: inner ++ [.scalar '"'] ∧ CodePoint.scalar '"' ∉ inner) ↔
      ∃ inner, text = .scalar '"' :: inner ++ [.scalar '"'] ∧ CodePoint.scalar '"' ∉ inner := by
  have quote : icsText [.scalar '"'] = [.scalar '"'] := by decide
  constructor
  · rintro ⟨inner, same, free⟩
    cases text with
    | nil => cases same
    | cons first rest =>
      rw [List.mem_cons, not_or] at unbroken
      have firstUnbroken := Ne.symm unbroken.1
      have starts : (icsText [first]).head? = some (.scalar '"') := by
        rw [← List.head?_append_of_ne_nil _ (icsText_point_ne_nil firstUnbroken), ← icsText_cons, same]
        rfl
      obtain rfl := eq_quote_of_icsText firstUnbroken (.inl starts)
      rw [icsText_cons, quote, List.cons_append, List.cons_append] at same
      have tail : icsText rest = inner ++ [.scalar '"'] := List.tail_eq_of_cons_eq same
      rcases List.eq_nil_or_concat rest with rfl | ⟨middle, last, rfl⟩
      · exact absurd (congrArg List.length tail) (by simp [icsText, replaceChar])
      · have lastUnbroken : last ≠ .scalar '\r' := fun broken =>
          unbroken.2 (by rw [broken]; simp)
        rw [List.concat_eq_append, icsText_append] at tail
        have ends : (icsText [last]).getLast? = some (.scalar '"') := by
          rw [← List.getLast?_append_of_ne_nil _ (icsText_point_ne_nil lastUnbroken), tail,
            List.getLast?_concat]
        obtain rfl := eq_quote_of_icsText lastUnbroken (.inr ends)
        rw [quote] at tail
        refine ⟨middle, by rw [List.concat_eq_append]; rfl, fun inside => free ?_⟩
        rw [← List.append_cancel_right tail]
        exact mem_icsText inside (by decide) (by decide)
  · rintro ⟨inner, rfl, free⟩
    refine ⟨icsText inner, ?_, fun inside => ?_⟩
    · rw [icsText_append, icsText_cons, quote]
      rfl
    · rcases mem_of_mem_icsText inside with member | same | same
      · exact free member
      · cases same
      · cases same

/-- An escaped name is a parameter value exactly if the name can be one. -/
theorem parameterValue_icsText {name : PyString} : ParameterValue (icsText name) ↔ CommonName name := by
  have unbroken : CodePoint.scalar '\r' ∉ name.filter fun point => decide (point ≠ .scalar '\r') := by
    simp
  rw [ParameterValue, printable_icsText, undelimited_icsText, ← icsText_filter_return name,
    quoted_icsText unbroken]
  exact ⟨fun ⟨escapable, free⟩ => ⟨escapable, free⟩, fun common => ⟨common.escapable, common.undelimited⟩⟩

/-! ### What the contract ensures -/

/-- The texts of a recurrence match the patterns of the contract. -/
structure RepeatsRead (repeats : Recurrence) : Prop where
  freq : Schema.isWord ["SECONDLY", "MINUTELY", "HOURLY", "DAILY", "WEEKLY", "MONTHLY", "YEARLY"]
    repeats.freq = true
  byDay : ∀ text ∈ repeats.byDay, EventPattern.found EventPattern.weekday text = true
  «until» : ∀ text ∈ repeats.until, EventPattern.found EventPattern.date text = true
  exceptions : ∀ text ∈ repeats.exceptions, EventPattern.found EventPattern.date text = true

/-- What is known of an event that was accepted, whatever was decided since. -/
structure Contractual (host : EventHost) (event : EventCandidate) : Prop where
  plain : Plain event
  moments : WhenRead host event.when
  status : ∃ lines, icsStatus event.status = some lines ∧
    lines ⊆ [.ofString "STATUS:CANCELLED", .ofString "STATUS:TENTATIVE"]
  repeats : ∀ repeats ∈ event.repeats, RepeatsRead repeats

/-- Listed texts match the pattern of their items. -/
theorem found_of_listed {texts : List PyString}
    (valid : Schema.validMember false (.array 0 (.pattern (EventPattern.found matched)))
      (listed (texts.map .str)) = true) :
    ∀ text ∈ texts, EventPattern.found matched text = true := by
  intro text member
  rw [listed] at valid
  split_ifs at valid with empty
  · rw [List.isEmpty_iff, List.map_eq_nil_iff] at empty
    rw [empty] at member
    cases member
  · obtain ⟨items, same, _, each⟩ := Schema.valid_array_iff.mp valid
    cases same
    exact each _ (List.mem_map_of_mem member)

theorem repeatsRead_of_valid (valid : EventSchema.repeats.valid (recurrenceDocument repeats) = true) :
    RepeatsRead repeats := by
  have members := members_of_valid_record valid
  simp only [List.forall_mem_cons, Document.field_present_cons, Document.field_present_nil, reduceIte,
    String.reduceEq, Option.or_none, Option.some_or] at members
  obtain ⟨freq, _, byDay, _, _, _, _, last, exceptions, _⟩ := members
  exact ⟨freq, found_of_listed byDay, valid_of_validMember rfl str_ne_null last, found_of_listed exceptions⟩

theorem contractual_of_admitted {raw : Document} (valid : (EventSchema.event host).valid raw = true)
    (admitted : Admitted host raw event) : Contractual host event := by
  refine ⟨plain_of_admitted valid admitted, whenRead_of_admitted valid admitted,
    icsStatus_of_admitted valid admitted, fun repeats stated => repeatsRead_of_valid ?_⟩
  have members := members_of_valid_record (valid_eventDocument_of_admitted valid admitted)
    ("repeats", false, Schema.nullable EventSchema.repeats) (by simp)
  simp only [Document.field_present_cons, Document.field_present_nil, reduceIte, String.reduceEq,
    Option.or_none] at members
  exact valid_of_validMember (Schema.object_rejects _) (fun _ => record_ne_null _) members repeats stated

/-! ### Lines -/

/-- A property without parameters is a content line if its value is printable. -/
theorem content_plain_iff {name : String} {start value : PyString}
    (starts : start = .ofString name ++ .ofString ":") (token : isToken name = true) :
    IsContentLine (plainHead name) (start ++ value) ↔ PrintableText value := by
  have head : (plainHead name).text = .ofString name := List.append_nil _
  rw [starts, ← head, isContentLine_iff]
  exact and_iff_right ⟨token, List.forall_mem_nil _⟩

/-- A property with one parameter is a content line if its value is, and the parameter has one. -/
theorem content_parameter_iff {name parameter : String} {line content value : PyString}
    (written : line = .ofString name ++ .ofString ";" ++ .ofString parameter ++ .ofString "=" ++ content ++
      .ofString ":" ++ value) (token : isToken name = true) (parameterToken : isToken parameter = true) :
    IsContentLine ⟨name, [(parameter, content)]⟩ line ↔ ParameterValue content ∧ PrintableText value := by
  have head : (LineHead.mk name [(parameter, content)]).text =
      .ofString name ++ .ofString ";" ++ .ofString parameter ++ .ofString "=" ++ content := by
    simp only [LineHead.text, List.flatMap_singleton, List.append_assoc]
  rw [written, ← head, isContentLine_iff]
  refine and_congr_left fun _ => ⟨fun wellFormed => (wellFormed.parameters _ List.mem_cons_self).2,
    fun content => ⟨token, List.forall_mem_singleton.mpr ⟨parameterToken, content⟩⟩⟩

theorem parameterValue_date : ParameterValue (.ofString "DATE") := ⟨by decide, .inl (by decide)⟩

/-- Digits are printable unless a newline follows them. -/
theorem Numeric.printable_iff (numeric : Numeric text) :
    PrintableText text ↔ CodePoint.scalar '\n' ∉ text := by
  refine ⟨fun printable member => not_printable_newline (printable _ member), fun inline point member => ?_⟩
  obtain ⟨char, rfl, digit | rfl⟩ := numeric point member
  · have bounds := of_decide_eq_true digit
    refine .inr ⟨?_, ?_⟩
    · exact le_trans (by decide) (show '0'.toNat ≤ char.toNat from bounds.1)
    · exact ((show char.toNat ≤ '9'.toNat from bounds.2).trans_lt (by decide)).ne
  · exact absurd member inline

theorem printable_icsStamp (admitted : EventPattern.found EventPattern.date text = true) :
    PrintableText (icsStamp text) ↔ CodePoint.scalar '\n' ∉ text := by
  rw [(numeric_icsStamp admitted).printable_iff, icsStamp, replaceChar_nil, List.mem_filter]
  exact not_congr (and_iff_left (by decide))

theorem printable_icsClock (admitted : EventPattern.found EventPattern.time text = true) :
    PrintableText (icsClock text) ↔ CodePoint.scalar '\n' ∉ text := by
  have kept : CodePoint.scalar '\n' ∈ icsClock text ↔ CodePoint.scalar '\n' ∈ text := by
    simp only [icsClock, replaceChar_nil]
    split_ifs
    · simp only [List.mem_append, List.mem_filter]
      exact (or_iff_left (by decide)).trans (and_iff_left (by decide))
    · rw [List.mem_filter]
      exact and_iff_left (by decide)
  rw [(numeric_icsClock admitted).printable_iff, kept]

/-- The start or the end of an event is a content line if no newline ends what it is rendered from, and its
zone, if it has one, is a parameter value. -/
theorem content_moment_iff {name : String} {date : PyString} {time : Option PyString}
    {timezone : Option EventTimezone} (token : isToken name = true)
    (dateAdmitted : EventPattern.found EventPattern.date date = true)
    (timeAdmitted : ∀ text ∈ time, EventPattern.found EventPattern.time text = true) :
    IsContentLine (momentHead name time timezone) (icsMoment name date time timezone) ↔
      CodePoint.scalar '\n' ∉ date ∧ (∀ text ∈ time, CodePoint.scalar '\n' ∉ text) ∧
        ∀ zone, time.isSome → zoneForm timezone = .named zone → ParameterValue zone := by
  cases time with
  | none =>
    have written : icsMoment name date none timezone = .ofString name ++ .ofString ";" ++
        .ofString "VALUE" ++ .ofString "=" ++ .ofString "DATE" ++ .ofString ":" ++ icsStamp date := by
      simp only [icsMoment, List.append_assoc]
      rfl
    rw [momentHead, content_parameter_iff written token (by decide), printable_icsStamp dateAdmitted]
    constructor
    · rintro ⟨-, inline⟩
      refine ⟨inline, ?_, ?_⟩
      · rintro text ⟨⟩
      · rintro zone ⟨⟩
    · rintro ⟨inline, -, -⟩
      exact ⟨parameterValue_date, inline⟩
  | some time =>
    have value : ∀ zone : ZoneForm, PrintableText (icsStamp date ++ .ofString "T" ++ icsClock time ++
        zone.suffix) ↔ CodePoint.scalar '\n' ∉ date ∧ CodePoint.scalar '\n' ∉ time := by
      intro zone
      have suffix : PrintableText zone.suffix := by
        rcases zone.suffix_cases with same | same <;> rw [same] <;> decide
      have middle : PrintableText (.ofString "T") := by decide
      simp only [printableText_append, printable_icsStamp dateAdmitted,
        printable_icsClock (timeAdmitted time rfl), suffix, middle, and_true]
    rw [icsMoment_of_timed, momentHead]
    simp only [Option.mem_some_iff, forall_eq', Option.isSome_some, forall_const]
    generalize zoneForm timezone = form
    cases form with
    | floating | utc =>
      rw [ZoneForm.parameter, List.append_nil, content_plain_iff rfl token, value]
      constructor
      · rintro ⟨day, clock⟩
        refine ⟨day, clock, ?_⟩
        rintro zone ⟨⟩
      · rintro ⟨day, clock, -⟩
        exact ⟨day, clock⟩
    | named zone =>
      have written : .ofString name ++ (ZoneForm.named zone).parameter ++ .ofString ":" ++
          (icsStamp date ++ .ofString "T" ++ icsClock time ++ (ZoneForm.named zone).suffix) =
          .ofString name ++ .ofString ";" ++ .ofString "TZID" ++ .ofString "=" ++ zone ++ .ofString ":" ++
          (icsStamp date ++ .ofString "T" ++ icsClock time ++ (ZoneForm.named zone).suffix) := by
        rw [ZoneForm.parameter]
        simp only [List.append_assoc]
        rfl
      rw [content_parameter_iff written token (by decide), value]
      constructor
      · rintro ⟨content, day, clock⟩
        exact ⟨day, clock, fun _ same => ZoneForm.named.inj same ▸ content⟩
      · rintro ⟨day, clock, content⟩
        exact ⟨content zone rfl, day, clock⟩

/-! ### Recurrence -/

theorem printable_joined {separator : String} (plain : PrintableText (.ofString separator))
    {texts : List PyString} :
    PrintableText (joined separator texts) ↔ ∀ text ∈ texts, PrintableText text := by
  rw [joined, List.intercalate]
  induction texts with
  | nil => exact ⟨fun _ => List.forall_mem_nil _, fun _ => List.forall_mem_nil _⟩
  | cons text texts inductionHypothesis =>
    cases texts with
    | nil => simp
    | cons next rest =>
      rw [List.intersperse_cons_cons, List.flatten_cons, List.flatten_cons, printableText_append,
        printableText_append, inductionHypothesis]
      simp only [List.forall_mem_cons]
      exact and_congr_right fun _ => and_iff_right plain

/-- A text in which a pattern of printable characters is found is printable without a newline. -/
theorem printable_found_iff (plain : ∀ chars, matched chars = true → PrintableText (.ofChars chars))
    (admitted : EventPattern.found matched text = true) :
    PrintableText text ↔ CodePoint.scalar '\n' ∉ text := by
  refine ⟨fun printable member => not_printable_newline (printable _ member), fun inline => ?_⟩
  obtain ⟨chars, fits, rfl | rfl⟩ := EventPattern.found_iff.mp admitted
  · exact plain chars fits
  · exact absurd (List.mem_map_of_mem (List.mem_append_right _ (List.mem_singleton_self _))) inline

theorem printable_between {least most char : Char} (low : 32 ≤ least.toNat) (high : most.toNat < 127)
    (bounds : least ≤ char ∧ char ≤ most) : Printable (.scalar char) :=
  .inr ⟨low.trans (show least.toNat ≤ char.toNat from bounds.1),
    ((show char.toNat ≤ most.toNat from bounds.2).trans_lt high).ne⟩

theorem printable_weekday {chars : List Char} (fits : EventPattern.weekday chars = true) :
    PrintableText (.ofChars chars) := by
  have digit : ∀ {least most char : Char}, 32 ≤ least.toNat → most.toNat < 127 →
      decide (least ≤ char ∧ char ≤ most) = true → Printable (.scalar char) :=
    fun low high bounds => printable_between low high (of_decide_eq_true bounds)
  have day : ∀ {chars : List Char}, chars ∈ [['M', 'O'], ['T', 'U'], ['W', 'E'], ['T', 'H'],
      ['F', 'R'], ['S', 'A'], ['S', 'U']] → PrintableText (.ofChars chars) := by
    intro chars member
    fin_cases member <;> decide
  unfold EventPattern.weekday at fits
  extract_lets ordinal days at fits
  -- What follows the sign is printable: a day, with one or two digits before it.
  have printable : PrintableText (.ofChars ordinal) := by
    generalize ordinal = ordinal at fits
    rcases Bool.or_eq_true_iff.mp fits with plain | numbered
    · exact day (of_decide_eq_true plain)
    · split at numbered
      · rename_i tens units first second
        obtain ⟨number, named⟩ := Bool.and_eq_true_iff.mp numbered
        refine List.forall_mem_cons.mpr ⟨?_, List.forall_mem_cons.mpr ⟨?_, day (of_decide_eq_true named)⟩⟩
        · rcases Bool.or_eq_true_iff.mp number with low | high
          · exact digit (by decide) (by decide) (Bool.and_eq_true_iff.mp low).1
          · rw [eq_of_beq (Bool.and_eq_true_iff.mp high).1]
            decide
        · rcases Bool.or_eq_true_iff.mp number with low | high
          · exact digit (by decide) (by decide) (Bool.and_eq_true_iff.mp low).2
          · exact digit (by decide) (by decide) (Bool.and_eq_true_iff.mp high).2
      · obtain ⟨number, named⟩ := Bool.and_eq_true_iff.mp numbered
        exact List.forall_mem_cons.mpr ⟨digit (by decide) (by decide) number, day (of_decide_eq_true named)⟩
      · cases numbered
  clear fits
  revert printable
  show PrintableText (.ofChars ordinal) → _
  unfold ordinal
  split
  · exact fun printable => List.forall_mem_cons.mpr ⟨by decide, printable⟩
  · exact fun printable => List.forall_mem_cons.mpr ⟨by decide, printable⟩
  · exact id

theorem printable_intText (value : Int) : PrintableText (intText value) := by
  intro point member
  obtain ⟨char, inside, rfl⟩ := List.mem_map.mp member
  rcases List.mem_append.mp inside with sign | digits
  · split_ifs at sign
    · rw [List.mem_singleton.mp sign]
      decide
    · cases sign
  · rw [Numeral.ofInt, Numeral.fractionText, Numeral.exponentText, List.append_nil, List.append_nil] at digits
    have digit := Numeral.digit_of_mem_toDigits digits
    rw [Numeral.digit, Bool.and_eq_true, decide_eq_true_eq, decide_eq_true_eq] at digit
    exact printable_between (by decide) (by decide) digit

theorem printable_rrulePart {name : String} (plain : PrintableText (.ofString name))
    {values : List PyString} :
    (∀ text ∈ rrulePart name values, PrintableText text) ↔ ∀ value ∈ values, PrintableText value := by
  rw [rrulePart]
  split_ifs with empty
  · rw [List.isEmpty_iff.mp empty]
  · rw [List.forall_mem_singleton, printableText_append, printableText_append,
      printable_joined (by decide)]
    exact and_iff_right ⟨plain, by decide⟩

/-- The texts of a recurrence that a newline may end. -/
def recurrenceTexts (repeats : Recurrence) : List PyString := repeats.byDay ++ repeats.until.toList

theorem printable_icsRrule (read : RepeatsRead repeats) :
    PrintableText (icsRrule repeats) ↔ ∀ text ∈ recurrenceTexts repeats, CodePoint.scalar '\n' ∉ text := by
  have freq : PrintableText repeats.freq := by
    have known := of_decide_eq_true read.freq
    simp only [List.map_cons, List.map_nil, List.mem_cons, List.not_mem_nil, or_false] at known
    rcases known with same | same | same | same | same | same | same <;> rw [same] <;> decide
  have integers : ∀ {name : String} {values : List Int}, PrintableText (.ofString name) →
      ∀ text ∈ rrulePart name (values.map intText), PrintableText text := by
    intro name values plain
    refine (printable_rrulePart plain).mpr fun text member => ?_
    obtain ⟨value, _, rfl⟩ := List.mem_map.mp member
    exact printable_intText value
  have interval : ∀ text ∈ (if repeats.interval ≠ 1 then
      [PyString.ofString "INTERVAL=" ++ intText repeats.interval] else []), PrintableText text := by
    split_ifs
    · exact List.forall_mem_singleton.mpr (printableText_append.mpr ⟨by decide, printable_intText _⟩)
    · exact List.forall_mem_nil _
  have count : ∀ text ∈ repeats.count.elim [] (fun count => [PyString.ofString "COUNT=" ++ intText count]),
      PrintableText text := by
    cases repeats.count with
    | none => exact List.forall_mem_nil _
    | some count =>
      exact List.forall_mem_singleton.mpr (printableText_append.mpr ⟨by decide, printable_intText _⟩)
  have days : (∀ text ∈ rrulePart "BYDAY" repeats.byDay, PrintableText text) ↔
      ∀ text ∈ repeats.byDay, CodePoint.scalar '\n' ∉ text := by
    rw [printable_rrulePart (by decide)]
    exact forall₂_congr fun text member =>
      printable_found_iff (fun _ => printable_weekday) (read.byDay text member)
  have last : (∀ text ∈ repeats.until.elim [] (fun last => [PyString.ofString "UNTIL=" ++ icsStamp last]),
      PrintableText text) ↔ ∀ text ∈ repeats.until.toList, CodePoint.scalar '\n' ∉ text := by
    cases stated : repeats.until with
    | none => exact ⟨fun _ => List.forall_mem_nil _, fun _ => List.forall_mem_nil _⟩
    | some «until» =>
      simp only [Option.elim_some, Option.toList_some, List.forall_mem_singleton, printableText_append]
      rw [printable_icsStamp (read.until _ stated)]
      exact and_iff_right (by decide)
  have front : PrintableText (.ofString "FREQ=" ++ repeats.freq) :=
    printableText_append.mpr ⟨by decide, freq⟩
  rw [icsRrule, printable_joined (by decide), recurrenceTexts]
  simp only [List.forall_mem_append, List.forall_mem_singleton, days]
  constructor
  · rintro ⟨⟨⟨⟨⟨⟨⟨-, -⟩, first⟩, -⟩, -⟩, -⟩, -⟩, second⟩
    refine ⟨first, last.mp ?_⟩
    revert second
    cases repeats.until <;> exact id
  · rintro ⟨first, second⟩
    refine ⟨⟨⟨⟨⟨⟨⟨front, interval⟩, first⟩, integers (by decide)⟩, integers (by decide)⟩,
      integers (by decide)⟩, ?_⟩, ?_⟩
    · revert count
      cases repeats.count <;> exact id
    · have plain := last.mpr second
      revert plain
      cases repeats.until <;> exact id

/-! ### Descriptions -/

/-- People of whom nothing reaches beyond its value. -/
structure InertPeople (people : EventPeople) : Prop where
  organiser : people.organiser = none
  names : ∀ participant ∈ people.participants, CommonName participant.name
  emails : ∀ participant ∈ people.participants, ∀ email ∈ participant.email, PrintableText email

/-- An organiser is never written as a content line. -/
theorem not_content_organiser (organiser : Person) :
    ¬ IsContentLine (personHead "ORGANIZER" organiser) (organiserLine organiser) := by
  rintro ⟨_, value, _, same⟩
  have head : (personHead "ORGANIZER" organiser).text =
      .ofString "ORGANIZER;CN=" ++ icsText organiser.name := by
    simp only [LineHead.text, personHead, List.flatMap_singleton, List.append_assoc]
    rfl
  rw [organiserLine, head] at same
  simp only [List.append_assoc] at same
  have rest := List.append_cancel_left (List.append_cancel_left same)
  split_ifs at rest <;> cases rest

theorem content_attendee_iff {participant : Person} :
    IsContentLine (personHead "ATTENDEE" participant) (attendeeLine participant) ↔
      CommonName participant.name ∧ ∀ email ∈ participant.email, PrintableText email := by
  have written : attendeeLine participant = .ofString "ATTENDEE" ++ .ofString ";" ++ .ofString "CN" ++
      .ofString "=" ++ icsText participant.name ++ .ofString ":" ++
      (if truthy participant.email then .ofString "MAILTO:" ++ participant.email.getD [] else []) := by
    rw [attendeeLine]
    split_ifs
    · simp only [List.append_assoc]
      rfl
    · simp only [List.append_assoc, List.append_nil]
      rfl
  rw [personHead, content_parameter_iff written (by decide) (by decide), parameterValue_icsText]
  refine and_congr_right fun _ => ?_
  cases stated : participant.email with
  | none => exact ⟨fun _ => nofun, fun _ => List.forall_mem_nil _⟩
  | some email =>
    simp only [Option.mem_some_iff, forall_eq']
    cases email with
    | nil => exact ⟨fun _ => List.forall_mem_nil _, fun _ => List.forall_mem_nil _⟩
    | cons point rest =>
      rw [if_pos (by rfl), printableText_append]
      exact and_iff_right (by decide)

/-- Lists of the same length are related part by part. -/
theorem forall₂_append_iff {First Second : Type} {R : First → Second → Prop} {one two : List First}
    {three four : List Second} (length : one.length = three.length) :
    List.Forall₂ R (one ++ two) (three ++ four) ↔ List.Forall₂ R one three ∧ List.Forall₂ R two four := by
  refine ⟨fun all => ⟨?_, ?_⟩, fun ⟨front, back⟩ => List.rel_append front back⟩
  · have front := List.forall₂_take one.length all
    rwa [List.take_left' rfl, List.take_left' length.symm] at front
  · have back := List.forall₂_drop one.length all
    rwa [List.drop_left' rfl, List.drop_left' length.symm] at back

/-- Images of one list are related if the images of its items are. -/
theorem forall₂_map_map_iff {Item First Second : Type} {R : First → Second → Prop} {first : Item → First}
    {second : Item → Second} {items : List Item} :
    List.Forall₂ R (items.map first) (items.map second) ↔ ∀ item ∈ items, R (first item) (second item) := by
  rw [List.forall₂_map_left_iff, List.forall₂_map_right_iff, List.forall₂_same]

theorem placeLines_eq (place : EventPlace) : placeLines place =
    place.stated.toList.map (fun text => .ofString "LOCATION:" ++ icsText text) ++
      place.url.toList.map fun url => .ofString "URL:" ++ icsText url := by
  obtain ⟨kind, source, venue, address, url, joining⟩ := place
  cases address <;> cases venue <;> cases url <;> rfl

/-- A property with an escaped text as its value. -/
theorem content_text_iff {name : String} {start text : PyString}
    (starts : start = .ofString name ++ .ofString ":") (token : isToken name = true) :
    IsContentLine (plainHead name) (start ++ icsText text) ↔ EscapableText text :=
  (content_plain_iff starts token).trans printable_icsText

theorem content_place_iff {place : EventPlace} :
    List.Forall₂ IsContentLine (placeHeads place) (placeLines place) ↔
      (∀ text ∈ place.stated, EscapableText text) ∧ ∀ url ∈ place.url, EscapableText url := by
  rw [placeLines_eq, placeHeads, forall₂_append_iff (by simp), forall₂_map_map_iff, forall₂_map_map_iff]
  simp only [Option.mem_toList]
  exact and_congr (forall₂_congr fun text _ => content_text_iff rfl (by decide))
    (forall₂_congr fun url _ => content_text_iff rfl (by decide))

theorem content_people_iff {people : EventPeople} :
    List.Forall₂ IsContentLine (peopleHeads people) (peopleLines people) ↔ InertPeople people := by
  rw [peopleHeads, peopleLines, forall₂_append_iff (by simp), forall₂_map_map_iff, forall₂_map_map_iff]
  simp only [content_attendee_iff, Option.mem_toList]
  constructor
  · rintro ⟨organiser, participants⟩
    refine ⟨Option.eq_none_iff_forall_not_mem.mpr fun person stated => ?_,
      fun participant member => (participants participant member).1,
      fun participant member => (participants participant member).2⟩
    exact not_content_organiser person (organiser person stated)
  · intro inert
    refine ⟨fun organiser stated => ?_,
      fun participant member => ⟨inert.names participant member, inert.emails participant member⟩⟩
    rw [inert.organiser] at stated
    cases stated

/-- A description that stays in its lines. -/
structure InertDescription (event : EventCandidate) : Prop where
  label : EscapableText event.label.text
  what : ∀ what ∈ event.what, EscapableText what.text
  stated : ∀ place ∈ event.place, ∀ text ∈ place.stated, EscapableText text
  url : ∀ place ∈ event.place, ∀ url ∈ place.url, EscapableText url
  people : ∀ people ∈ event.people, InertPeople people

theorem forall₂_flatMap_option {Item First Second : Type} {R : First → Second → Prop}
    {first : Item → List First} {second : Item → List Second} {item : Option Item} :
    List.Forall₂ R (item.toList.flatMap first) (item.toList.flatMap second) ↔
      ∀ value ∈ item, List.Forall₂ R (first value) (second value) := by
  cases item with
  | none => simp
  | some value => simp

theorem length_placeHeads (place : EventPlace) : (placeHeads place).length = (placeLines place).length := by
  rw [placeLines_eq, placeHeads, List.length_append, List.length_append, List.length_map, List.length_map,
    List.length_map, List.length_map]

theorem length_peopleHeads (people : EventPeople) :
    (peopleHeads people).length = (peopleLines people).length := by
  rw [peopleHeads, peopleLines, List.length_append, List.length_append, List.length_map, List.length_map,
    List.length_map, List.length_map]

/-- What a task and an event describe the same way stays in its lines. -/
theorem content_common_iff (known : Contractual host event) :
    ∃ common, icsCommon event = some common ∧ (commonHeads event).length = common.length ∧
      (EscapableText event.label.text ∧ List.Forall₂ IsContentLine (commonHeads event) common ↔
        InertDescription event) := by
  obtain ⟨status, named, within⟩ := known.status
  have statusContent : ∀ line ∈ status, IsContentLine (plainHead "STATUS") line := by
    intro line member
    have line_iff := fun value => @content_plain_iff "STATUS" (.ofString "STATUS:") value rfl (by decide)
    rcases List.mem_cons.mp (within member) with rfl | last
    · exact (line_iff (.ofString "CANCELLED")).mpr (by decide)
    · rw [List.mem_singleton.mp last]
      exact (line_iff (.ofString "TENTATIVE")).mpr (by decide)
  have rendered : icsCommon event = some
      (event.what.toList.map (fun what => .ofString "DESCRIPTION:" ++ icsText what.text) ++
        event.place.toList.flatMap placeLines ++ event.people.toList.flatMap peopleLines ++
        status.map id) := by
    rw [icsCommon, named, List.map_id]
    cases event.what <;> rfl
  have places : (event.place.toList.flatMap placeHeads).length =
      (event.place.toList.flatMap placeLines).length := by
    cases event.place with
    | none => rfl
    | some place => simp [length_placeHeads]
  have people : (event.people.toList.flatMap peopleHeads).length =
      (event.people.toList.flatMap peopleLines).length := by
    cases event.people with
    | none => rfl
    | some people => simp [length_peopleHeads]
  refine ⟨_, rendered, ?_, ?_⟩
  · simp only [commonHeads, named, Option.getD_some, List.length_append, List.length_map, places, people]
  · rw [commonHeads, named, Option.getD_some, forall₂_append_iff (by simp [places, people]),
      forall₂_append_iff (by simp [places]), forall₂_append_iff (by simp), forall₂_map_map_iff,
      forall₂_map_map_iff, forall₂_flatMap_option, forall₂_flatMap_option]
    simp only [content_place_iff, content_people_iff, Option.mem_toList]
    have described := fun (what : Stated) (_ : what ∈ event.what) =>
      @content_text_iff "DESCRIPTION" (.ofString "DESCRIPTION:") what.text rfl (by decide)
    constructor
    · rintro ⟨label, ⟨⟨what, place⟩, people⟩, _⟩
      exact ⟨label, fun said stated => (described said stated).mp (what said stated),
        fun said stated => (place said stated).1, fun said stated => (place said stated).2, people⟩
    · rintro ⟨label, what, stated, url, people⟩
      exact ⟨label, ⟨⟨fun said there => (described said there).mpr (what said there),
        fun said there => ⟨stated said there, url said there⟩⟩, people⟩, statusContent⟩

/-! ### Components -/

/-- The texts of the moments of an event. -/
def whenTexts («when» : EventWhen) : List PyString :=
  «when».date.toList ++ «when».time.toList ++ «when».endDate.toList ++ «when».endTime.toList

/-- Moments and a recurrence that stay in their lines: no newline ends a text of them, and the zone, if it
is written, is a parameter value. -/
structure InertMoments (event : EventCandidate) : Prop where
  moments : ∀ text ∈ whenTexts event.when, CodePoint.scalar '\n' ∉ text
  zone : event.when.time.isSome ∨ event.when.endTime.isSome →
    ∀ zone, zoneForm event.when.timezone = .named zone → ParameterValue zone
  repeats : ∀ repeats ∈ event.repeats, ∀ text ∈ recurrenceTexts repeats ++ repeats.exceptions,
    CodePoint.scalar '\n' ∉ text

/-- An event of which every text stays in the line it is written to. -/
structure Inert (event : EventCandidate) : Prop where
  description : InertDescription event
  moments : event.when.placeable = true → InertMoments event

/-- The lines of a recurrence. -/
def recurrenceLines (repeats : Recurrence) : List PyString :=
  (.ofString "RRULE:" ++ icsRrule repeats) :: repeats.exceptions.map fun excluded =>
    .ofString "EXDATE;VALUE=DATE:" ++ icsStamp excluded

theorem content_repeats_iff (read : RepeatsRead repeats) :
    List.Forall₂ IsContentLine (recurrenceHeads repeats) (recurrenceLines repeats) ↔
      ∀ text ∈ recurrenceTexts repeats ++ repeats.exceptions, CodePoint.scalar '\n' ∉ text := by
  have excluded : ∀ text ∈ repeats.exceptions, (IsContentLine ⟨"EXDATE", [("VALUE", .ofString "DATE")]⟩
      (.ofString "EXDATE;VALUE=DATE:" ++ icsStamp text) ↔ CodePoint.scalar '\n' ∉ text) := by
    intro text member
    have written : .ofString "EXDATE;VALUE=DATE:" ++ icsStamp text = .ofString "EXDATE" ++ .ofString ";" ++
        .ofString "VALUE" ++ .ofString "=" ++ .ofString "DATE" ++ .ofString ":" ++ icsStamp text := rfl
    rw [content_parameter_iff written (by decide) (by decide),
      printable_icsStamp (read.exceptions text member)]
    exact and_iff_right parameterValue_date
  have rule := @content_plain_iff "RRULE" (.ofString "RRULE:") (icsRrule repeats) rfl (by decide)
  rw [recurrenceHeads, recurrenceLines, List.forall₂_cons, forall₂_map_map_iff, rule,
    printable_icsRrule read, List.forall_mem_append]
  exact and_congr_right fun _ => forall₂_congr excluded

/-- Start and end stay in their lines if the texts of the moments do. -/
theorem content_when_iff {«when» : EventWhen} (read : WhenRead host «when») {date : PyString}
    (placed : «when».date = some date) :
    IsContentLine (momentHead "DTSTART" «when».time «when».timezone)
        (icsMoment "DTSTART" date «when».time «when».timezone) ∧
      (∀ day ∈ endDay «when», IsContentLine (momentHead "DTEND" «when».endTime «when».timezone)
        (icsMoment "DTEND" day «when».endTime «when».timezone)) ↔
      (∀ text ∈ whenTexts «when», CodePoint.scalar '\n' ∉ text) ∧
        («when».time.isSome ∨ «when».endTime.isSome → ∀ zone, zoneForm «when».timezone = .named zone →
          ParameterValue zone) := by
  have last := fun day stated => @content_moment_iff "DTEND" day «when».endTime «when».timezone (by decide)
    (read.found_endDay day stated) read.endTime
  rw [content_moment_iff (by decide) (read.date date placed) read.time, forall₂_congr last]
  simp only [whenTexts, List.forall_mem_append, Option.mem_toList]
  constructor
  · rintro ⟨⟨day, clock, zone⟩, ends⟩
    have ending := fun stated => read.exists_endDay placed stated
    refine ⟨⟨⟨⟨fun text stated => ?_, clock⟩, fun text stated => ?_⟩, fun text stated => ?_⟩,
      fun stated form named => ?_⟩
    · rw [placed] at stated
      cases stated
      exact day
    · obtain ⟨finish, there, place⟩ := ending (.inl (Option.isSome_of_mem stated))
      rw [Option.mem_def.mp stated] at place
      obtain rfl := Option.some.inj (place.resolve_right fun none => nomatch none.1)
      exact (ends text there).1
    · obtain ⟨finish, there, _⟩ := ending (.inr (Option.isSome_of_mem stated))
      exact (ends finish there).2.1 text stated
    · rcases stated with timed | timed
      · exact zone form timed named
      · obtain ⟨finish, there, _⟩ := ending (.inr timed)
        exact (ends finish there).2.2 form timed named
  · rintro ⟨⟨⟨⟨day, clock⟩, endDay⟩, endClock⟩, zone⟩
    refine ⟨⟨day date placed, clock, fun form timed => zone (.inl timed) form⟩, fun finish rendered =>
      ⟨?_, endClock, fun form timed => zone (.inr timed) form⟩⟩
    rcases (read.stated_of_endDay placed rendered).2 with same | ⟨_, rfl⟩
    · exact endDay finish same
    · exact day finish placed

section

variable {host : EventHost} {digest : List UInt8 → PyString}

variable {event : EventCandidate} {events : List EventCandidate}
  {result decided : GroundedEventResult} {confirmedIds rejectedIds : List PyString}

theorem exists_uid
    (hexadecimal : ∀ bytes, EventPattern.full EventPattern.digest (digest bytes) = true)
    (plain : Plain event) : ∃ uid, calendarUid digest event = some uid ∧ PrintableText uid := by
  obtain ⟨bytes, encoded, _⟩ := PyString.encodeUtf8_of_encodable (encodable_identityText plain)
  refine ⟨digest bytes ++ .ofString "@omnitensor", by rw [calendarUid, encoded]; rfl, ?_⟩
  refine printableText_append.mpr ⟨?_, by decide⟩
  have fits := hexadecimal bytes
  rw [EventPattern.full] at fits
  cases chars : PyString.chars? (digest bytes) with
  | none =>
    rw [chars] at fits
    cases fits
  | some text =>
    rw [chars, Option.any_some, EventPattern.digest, EventPattern.repeated, Bool.and_eq_true,
      List.all_eq_true] at fits
    rw [PyString.eq_ofChars_of_chars? chars]
    intro point member
    obtain ⟨char, inside, rfl⟩ := List.mem_map.mp member
    rcases Bool.or_eq_true_iff.mp (fits.2 char inside) with digit | letter
    · exact printable_between (by decide) (by decide) (of_decide_eq_true digit)
    · exact printable_between (by decide) (by decide) (of_decide_eq_true letter)

/-- An event that the contract admits is rendered, and stays in its lines exactly if its texts do. -/
theorem content_component_iff
    (hexadecimal : ∀ bytes, EventPattern.full EventPattern.digest (digest bytes) = true)
    (known : Contractual host event) :
    ∃ lines, calendarComponent digest event = some lines ∧
      (componentHeads event).length = lines.length ∧
      (List.Forall₂ IsContentLine (componentHeads event) lines ↔ Inert event) := by
  obtain ⟨uid, identified, printable⟩ := exists_uid hexadecimal known.plain
  obtain ⟨common, described, length, common_iff⟩ := content_common_iff known
  have identity := (@content_plain_iff "UID" (.ofString "UID:") uid rfl (by decide)).mpr printable
  have summary := @content_text_iff "SUMMARY" (.ofString "SUMMARY:") event.label.text rfl (by decide)
  cases placed : event.when.date with
  | none =>
    have first : IsContentLine (plainHead "BEGIN") (.ofString "BEGIN:VTODO") :=
      (@content_plain_iff "BEGIN" (.ofString "BEGIN:") (.ofString "VTODO") rfl (by decide)).mpr (by decide)
    have last : IsContentLine (plainHead "END") (.ofString "END:VTODO") :=
      (@content_plain_iff "END" (.ofString "END:") (.ofString "VTODO") rfl (by decide)).mpr (by decide)
    refine ⟨_, by rw [calendarComponent, identified, described, placed]; rfl, ?_, ?_⟩
    · simp [componentHeads, placed, length]
    · rw [componentHeads, placed]
      dsimp only
      rw [forall₂_append_iff (by simp [length]), forall₂_append_iff (by simp)]
      simp only [List.map_cons, List.map_nil, List.forall₂_cons, List.Forall₂.nil, first, last, identity,
        summary, true_and, and_true]
      rw [common_iff]
      refine ⟨fun description => ⟨description, fun placeable => ?_⟩, Inert.description⟩
      rw [EventWhen.placeable, placed] at placeable
      cases placeable
  | some date =>
    have first : IsContentLine (plainHead "BEGIN") (.ofString "BEGIN:VEVENT") :=
      (@content_plain_iff "BEGIN" (.ofString "BEGIN:") (.ofString "VEVENT") rfl (by decide)).mpr (by decide)
    have last : IsContentLine (plainHead "END") (.ofString "END:VEVENT") :=
      (@content_plain_iff "END" (.ofString "END:") (.ofString "VEVENT") rfl (by decide)).mpr (by decide)
    have recurrence : (event.repeats.toList.flatMap recurrenceHeads).length =
        (event.repeats.toList.flatMap recurrenceLines).length := by
      cases event.repeats with
      | none => rfl
      | some repeats => simp [recurrenceHeads, recurrenceLines]
    have «when» := content_when_iff known.moments placed
    have repeats := forall₂_congr fun repeats (stated : repeats ∈ event.repeats) =>
      content_repeats_iff (known.repeats repeats stated)
    refine ⟨[.ofString "BEGIN:VEVENT", .ofString "UID:" ++ uid] ++
        [icsMoment "DTSTART" date event.when.time event.when.timezone] ++
        ((endDay event.when).toList.map fun day =>
          icsMoment "DTEND" day event.when.endTime event.when.timezone) ++
        [.ofString "SUMMARY:" ++ icsText event.label.text] ++
        event.repeats.toList.flatMap recurrenceLines ++ common ++ [.ofString "END:VEVENT"], ?_, ?_, ?_⟩
    · rw [calendarComponent, identified, described, placed]
      rfl
    · simp only [componentHeads, placed, List.length_append, length, recurrence, List.length_map,
        List.length_cons, List.length_nil]
    · rw [componentHeads, placed]
      dsimp only
      rw [forall₂_append_iff (by simp [length, recurrence]), forall₂_append_iff (by simp [recurrence]),
        forall₂_append_iff (by simp), forall₂_append_iff (by simp), forall₂_append_iff (by simp),
        forall₂_append_iff (by simp), forall₂_map_map_iff, forall₂_flatMap_option, repeats]
      simp only [List.map_cons, List.map_nil, List.forall₂_cons, List.Forall₂.nil, first, last, identity,
        summary, true_and, and_true, Option.mem_toList]
      constructor
      · rintro ⟨⟨⟨moments, label⟩, recurring⟩, common⟩
        obtain ⟨texts, zone⟩ := «when».mp moments
        exact ⟨common_iff.mp ⟨label, common⟩, fun _ => ⟨texts, zone, recurring⟩⟩
      · rintro ⟨description, moments⟩
        obtain ⟨texts, zone, recurring⟩ := moments (by rw [EventWhen.placeable, placed]; rfl)
        obtain ⟨label, common⟩ := common_iff.mpr description
        exact ⟨⟨⟨«when».mpr ⟨texts, zone⟩, label⟩, recurring⟩, common⟩

/-! ### Calendars -/

/-- Events that the contract admits are rendered as a calendar, and stay in their lines exactly if their
texts do. -/
theorem content_calendar_iff
    (hexadecimal : ∀ bytes, EventPattern.full EventPattern.digest (digest bytes) = true)
    (known : ∀ event ∈ events, Contractual host event) :
    ∃ lines, calendarLines digest events = some lines ∧ lines ≠ [] ∧
      (List.Forall₂ IsContentLine (calendarHeads events) lines ↔ ∀ event ∈ events, Inert event) := by
  have rendered : ∃ components, events.mapM (calendarComponent digest) = some components ∧
      (events.flatMap componentHeads).length = components.flatten.length ∧
      (List.Forall₂ IsContentLine (events.flatMap componentHeads) components.flatten ↔
        ∀ event ∈ events, Inert event) := by
    induction events with
    | nil => exact ⟨[], rfl, rfl, iff_of_true .nil (List.forall_mem_nil _)⟩
    | cons event events inductionHypothesis =>
      obtain ⟨first, others⟩ := List.forall_mem_cons.mp known
      obtain ⟨lines, one, length, content⟩ := content_component_iff hexadecimal first
      obtain ⟨components, all, lengths, contents⟩ := inductionHypothesis others
      refine ⟨lines :: components, by rw [List.mapM_cons, one, all]; rfl, ?_, ?_⟩
      · rw [List.flatMap_cons, List.flatten_cons, List.length_append, List.length_append, length, lengths]
      · rw [List.flatMap_cons, List.flatten_cons, forall₂_append_iff length, content, contents,
          List.forall_mem_cons]
  obtain ⟨components, all, length, contents⟩ := rendered
  have front : List.Forall₂ IsContentLine (["BEGIN", "VERSION", "PRODID"].map plainHead)
      (["BEGIN:VCALENDAR", "VERSION:2.0", "PRODID:-//OmniTensor//Events 1//EN"].map
        PyString.ofString) := by
    refine .cons ?_ (.cons ?_ (.cons ?_ .nil))
    · exact (@content_plain_iff "BEGIN" (.ofString "BEGIN:") (.ofString "VCALENDAR") rfl (by decide)).mpr
        (by decide)
    · exact (@content_plain_iff "VERSION" (.ofString "VERSION:") (.ofString "2.0") rfl (by decide)).mpr
        (by decide)
    · exact (@content_plain_iff "PRODID" (.ofString "PRODID:") (.ofString "-//OmniTensor//Events 1//EN") rfl
        (by decide)).mpr (by decide)
  have last : List.Forall₂ IsContentLine [plainHead "END"] [.ofString "END:VCALENDAR"] :=
    .cons ((@content_plain_iff "END" (.ofString "END:") (.ofString "VCALENDAR") rfl (by decide)).mpr
      (by decide)) .nil
  refine ⟨["BEGIN:VCALENDAR", "VERSION:2.0", "PRODID:-//OmniTensor//Events 1//EN"].map
    PyString.ofString ++ components.flatten ++ [.ofString "END:VCALENDAR"], ?_, by simp, ?_⟩
  · rw [calendarLines, all]
    rfl
  · rw [calendarHeads, forall₂_append_iff (by simp [length]), forall₂_append_iff (by simp), contents]
    exact (and_iff_left last).trans (and_iff_right front)

/-- Lines between which a line ends, and after the last of which one does, all end. -/
theorem joined_crlf {lines : List PyString} (some : lines ≠ []) :
    joined "\r\n" lines ++ .ofString "\r\n" =
      lines.flatMap fun line => line ++ PyString.ofString "\r\n" := by
  rw [joined, List.intercalate]
  induction lines with
  | nil => exact absurd rfl some
  | cons line lines inductionHypothesis =>
    cases lines with
    | nil => simp
    | cons next rest =>
      rw [List.intersperse_cons_cons, List.flatten_cons, List.flatten_cons, List.flatMap_cons,
        List.append_assoc, List.append_assoc, inductionHypothesis (List.cons_ne_nil _ _), List.append_assoc]

/-- What a person confirmed of an accepted reply is rendered. -/
theorem confirmedEvents_of_decided
    (decision : confirmEventCandidates result confirmedIds rejectedIds = .ok decided)
    (some : ∃ event ∈ decided.events, event.confirmation = .confirmed) :
    confirmedEvents decided =
      .ok (decided.events.filter fun event => decide (event.confirmation = .confirmed)) := by
  have complete : ¬ ∃ event ∈ decided.events, event.confirmation = .pending := by
    rintro ⟨event, member, pending⟩
    obtain ⟨_, rfl⟩ := confirmEventCandidates_eq_ok decision
    obtain ⟨origin, _, rfl⟩ := List.mem_map.mp member
    dsimp only at pending
    split_ifs at pending
  have filled : (decided.events.filter fun event => decide (event.confirmation = .confirmed)) ≠ [] := by
    obtain ⟨event, member, confirmed⟩ := some
    exact List.ne_nil_of_mem (List.mem_filter.mpr ⟨member, decide_eq_true confirmed⟩)
  rw [confirmedEvents, if_neg complete]
  dsimp only
  rw [if_neg (by simpa using filled)]
  rfl

theorem Contractual.confirmed (known : Contractual host event) (confirmation : Confirmation) :
    Contractual host { event with confirmation } :=
  ⟨⟨known.plain.candidateId, known.plain.date, known.plain.time⟩, known.moments, known.status,
    known.repeats⟩

theorem contractual_of_confirmed {document : Document}
    (accepted : parseGroundedEventResult host document = .ok result)
    (decision : confirmEventCandidates result confirmedIds rejectedIds = .ok decided)
    (ran : confirmedEvents decided = .ok events) : ∀ event ∈ events, Contractual host event := by
  intro event member
  obtain ⟨inside, state⟩ := mem_of_confirmedEvents ran event member
  obtain ⟨_, _, origin, there, _, made⟩ := named_of_confirmed decision inside state
  obtain ⟨raw, _, valid, admitted⟩ := admitted_of_accepted accepted there
  rw [made]
  exact (contractual_of_admitted valid admitted).confirmed _

/-- A calendar of confirmed events is rendered, and it is well formed and nothing is injected into it if and
only if every text of these events stays in the line it is written to. -/
theorem uninjected_iff_inert
    (hexadecimal : ∀ bytes, EventPattern.full EventPattern.digest (digest bytes) = true)
    {document : Document} {result decided : GroundedEventResult}
    (accepted : parseGroundedEventResult host document = .ok result)
    {confirmedIds rejectedIds : List PyString}
    (decision : confirmEventCandidates result confirmedIds rejectedIds = .ok decided)
    (some : ∃ event ∈ decided.events, event.confirmation = .confirmed) :
    ∃ events lines text, confirmedEvents decided = .ok events ∧
      calendarLines digest events = .some lines ∧ renderConfirmedIcs digest decided = .ok text ∧
      (Uninjected (calendarHeads events) lines text ↔
        ∀ event ∈ decided.events, event.confirmation = .confirmed → Inert event) := by
  have ran := confirmedEvents_of_decided decision some
  obtain ⟨lines, rendered, filled, content⟩ :=
    content_calendar_iff hexadecimal (contractual_of_confirmed accepted decision ran)
  refine ⟨_, lines, _, ran, rendered, by rw [renderConfirmedIcs, ran]; dsimp only; rw [rendered]; rfl, ?_⟩
  rw [joined_crlf filled, uninjected_iff, content]
  simp only [List.mem_filter, decide_eq_true_eq, and_imp]

end

/-! ### Invitations -/

/-- A digest in hexadecimal, which is the SHA-256 of the identity that is used here. -/
def hexDigest (bytes : List UInt8) : PyString :=
  if bytes = "event-1\x002026-03-01\x0010:00".toUTF8.toList then
    .ofString "7f4d30270960111e92101f2fd487073a2f69b59b05b57a51ce712f02aed031c9"
  else List.replicate 64 (.scalar '0')

theorem hexDigest_hexadecimal (bytes : List UInt8) :
    EventPattern.full EventPattern.digest (hexDigest bytes) = true := by
  rw [hexDigest]
  split_ifs
  · decide
  · decide

/-- A reply with one event, to which one participant is invited under this address. -/
def invitationReply (email : String) : Document := replyOf [
  statedEvent "event-1" "Lunch; bring cake, and\nplates" "text"
    [("date", textDocument "2026-03-01"), ("time", textDocument "10:00")]
    [("people", some (record [("participants", some (.list [record [
      ("name", textDocument "Ann"), ("source", textDocument "stated"),
      ("email", textDocument email)]]))]))]]

theorem uninjected_iff_inert_invitation :
    let decided := Desk.decidedReply (invitationReply "ann@example.org") [.ofString "event-1"]
    ∃ events lines text, confirmedEvents decided = .ok events ∧
      calendarLines hexDigest events = some lines ∧ renderConfirmedIcs hexDigest decided = .ok text ∧
      Uninjected (calendarHeads events) lines text := by
  intro decided
  let reply := invitationReply "ann@example.org"
  have accepted := (rfl : parseGroundedEventResult plainHost reply = .ok (Desk.parsedReply reply))
  have decision := (rfl : confirmEventCandidates (Desk.parsedReply reply) [.ofString "event-1"] [] =
    .ok decided)
  obtain ⟨events, lines, text, ran, rendered, written, inert⟩ := uninjected_iff_inert hexDigest_hexadecimal
    accepted decision ⟨_, List.mem_cons_self, rfl⟩
  refine ⟨events, lines, text, ran, rendered, written, inert.mpr (List.forall_mem_singleton.mpr fun _ =>
    ⟨⟨?_, ?_, ?_, ?_, ?_⟩, fun _ => ⟨?_, ?_, ?_⟩⟩)⟩
  · decide +kernel
  · rintro _ ⟨⟩
  · rintro _ ⟨⟩
  · rintro _ ⟨⟩
  · rintro _ ⟨⟩
    refine ⟨rfl, List.forall_mem_singleton.mpr ⟨by decide, .inl (by decide)⟩,
      List.forall_mem_singleton.mpr ?_⟩
    rintro _ ⟨⟩
    decide
  · decide +kernel
  · rintro - zone ⟨⟩
  · rintro _ ⟨⟩

/-- An address ends its line, and what follows it is a line of its own. -/
theorem not_uninjected_address : ¬ ∀ (host : EventHost) (digest : List UInt8 → PyString),
    (∀ bytes, EventPattern.full EventPattern.digest (digest bytes) = true) →
    ∀ (document : Document) (result decided : GroundedEventResult) (confirmedIds rejectedIds : List PyString),
      parseGroundedEventResult host document = .ok result →
      confirmEventCandidates result confirmedIds rejectedIds = .ok decided →
      (∃ event ∈ decided.events, event.confirmation = .confirmed) →
      ∃ events lines text, confirmedEvents decided = .ok events ∧
        calendarLines digest events = some lines ∧ renderConfirmedIcs digest decided = .ok text ∧
        Uninjected (calendarHeads events) lines text := by
  intro claim
  let reply := invitationReply "a@b\r\nURL:x"
  have accepted := (rfl : parseGroundedEventResult plainHost reply = .ok (Desk.parsedReply reply))
  have decision := (rfl : confirmEventCandidates (Desk.parsedReply reply) [.ofString "event-1"] [] =
    .ok (Desk.decidedReply reply [.ofString "event-1"]))
  obtain ⟨events, lines, text, ran, rendered, _, uninjected⟩ := claim plainHost hexDigest hexDigest_hexadecimal
    _ _ _ _ _ accepted decision ⟨_, List.mem_cons_self, rfl⟩
  obtain ⟨lines', same, _, content⟩ :=
    content_calendar_iff hexDigest_hexadecimal (contractual_of_confirmed accepted decision ran)
  obtain rfl := Option.some.inj (rendered.symm.trans same)
  have inert := content.mp uninjected.content
  cases ran
  have emails := ((inert _ List.mem_cons_self).description.people _ rfl).emails _ List.mem_cons_self _ rfl
  exact absurd emails (by decide)

end Events

end Omnitensor
