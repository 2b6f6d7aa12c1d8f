/-
**Places of errors.**

An error that stands in a text has a span. However it came about, the span is that of a part of the
text (`Span.Covers`): a number beyond all finite ones, a pattern literal that does not compile, or
nothing at the place where something else should stand (`pointsAt_of_parse`). Such a span has its ends
between characters, and the line and the column of its start do not depend on how they are computed:

* `after_eq`: walking forward through the characters before a place, or counting the line feeds there
  and the characters behind the last one;
* `walk_eq`: a walk that takes a carriage return with a line feed as one end of a line.

Each further character leads to a later place (`lt_advance`), so places grow with the offset.
-/

import Mathlib.Data.Prod.Lex
import Mathlib.Order.Monotone.Defs
import WhenClause.Proofs.Offset
import WhenClause.Proofs.Position
import WhenClause.Regex.Engine

namespace WhenClause

open Expression Grammar

variable {facts : Facts} {limits : Limits} {limit : Nat} {source : String} {error : ParseError}
  {span : Span} {text front part rest : List Char}

/-! ### Lines and columns -/

namespace LineColumn

/-- Places are compared by the line, and within a line by the column. -/
def key (place : LineColumn) : Nat ×ₗ Nat := toLex (place.line, place.column)

theorem lt_advance (place : LineColumn) (c : Char) : place.key < (place.advance c).key := by
  rw [key, key, Prod.Lex.toLex_lt_toLex, advance]
  split
  · exact .inl (Nat.lt_succ_self _)
  · exact .inr ⟨rfl, Nat.lt_succ_self _⟩

theorem foldl_advance_lt (place : LineColumn) (c : Char) (text : List Char) :
    place.key < ((c :: text).foldl advance place).key := by
  induction text generalizing place c with
  | nil => exact place.lt_advance c
  | cons d text ih => exact (place.lt_advance c).trans (ih (place.advance c) d)

/-- A longer beginning of a text leads to a later place. -/
theorem after_lt (front : List Char) (some' : part ≠ []) :
    (after front).key < (after (front ++ part)).key := by
  obtain ⟨c, part, rfl⟩ := List.exists_cons_of_ne_nil some'
  rw [after, after, List.foldl_append]
  exact foldl_advance_lt _ c part

/-- **A walk and a count give the same place.** -/
theorem after_eq (text : List Char) : after text =
    ⟨text.count '\n' + 1, (text.reverse.takeWhile (· != '\n')).length + 1⟩ := by
  induction text using List.reverseRecOn with
  | nil => rfl
  | append_singleton text c ih =>
    rw [after, List.foldl_concat, ← after, ih, advance, List.count_append, List.reverse_concat]
    by_cases ends : c = '\n'
    · subst ends
      rfl
    · simp [ends]

/-- The place behind a text, by a walk for which a carriage return with a line feed behind it is one
end of a line. -/
def walk (place : LineColumn) : List Char → LineColumn
  | '\r' :: '\n' :: rest => walk ⟨place.line + 1, 1⟩ rest
  | c :: rest => walk (place.advance c) rest
  | [] => place

/-- **Such a walk leads to the same place**, and also one that stops between the two characters. -/
theorem walk_eq (place : LineColumn) (text : List Char) :
    place.walk text = text.foldl advance place := by
  fun_induction walk place text with
  | case1 place rest ih => exact ih
  | case2 place c rest _ ih => exact ih
  | case3 place => rfl

end LineColumn

/-! ### Spans -/

namespace Span

/-- The line and the column of a span. -/
def place (span : Span) : LineColumn := ⟨span.line, span.column⟩

/-- A span covers a part of a text. -/
def Covers (span : Span) (text part : List Char) : Prop :=
  ∃ front rest, text = front ++ part ++ rest ∧ span.start = byteLength front ∧
    span.stop = byteLength (front ++ part) ∧ span.place = LineColumn.after front

/-- A span that lies in a text, between characters of it, with the line and the column of the offset at
which it starts. The walk through what stands before it leads there, too. -/
structure Placed (span : Span) (source : String) : Prop where
  ordered : span.start ≤ span.stop
  within : span.stop ≤ source.utf8ByteSize
  starts : String.Pos.Raw.IsValid source ⟨span.start⟩
  stops : String.Pos.Raw.IsValid source ⟨span.stop⟩
  line : span.line = (atOffset source.toList span.start).line
  column : span.column = (atOffset source.toList span.start).column
  walked : span.place = LineColumn.start.walk (takeBytes source.toList span.start)

theorem place_atOffset (front rest : List Char) :
    (atOffset (front ++ rest) (byteLength front)).place = LineColumn.after front := by
  rw [LineColumn.after_eq, place, atOffset, takeBytes_append]

theorem atOffset_zero_covers (text : List Char) : (atOffset text 0).Covers text [] :=
  ⟨[], text, rfl, Nat.zero_min _, Nat.zero_min _, place_atOffset [] text⟩

/-- The span between the two ends of an extent covers what the extent covers. -/
theorem covers_between {extent : Extent} (covers : extent.Covers text part) :
    (between text extent.first extent.last).Covers text part := by
  obtain ⟨front, rest, rfl, first, last⟩ := covers
  refine ⟨front, rest, rfl, ?_, ?_, ?_⟩
  · rw [between, ← first, List.append_assoc, List.take_left]
  · rw [between, ← last, List.take_left]
  · rw [place, between, ← first, List.append_assoc, List.take_left]

end Span

/-- The offsets between the characters of a text are the lengths of its beginnings. -/
theorem isValid_iff {offset : Nat} : String.Pos.Raw.IsValid source ⟨offset⟩ ↔
    ∃ front rest, source.toList = front ++ rest ∧ byteLength front = offset := by
  rw [String.Pos.Raw.isValid_iff_exists_append]
  constructor
  · rintro ⟨front, rest, rfl, same⟩
    refine ⟨front.toList, rest.toList, String.toList_append, ?_⟩
    rw [byteLength_toList]
    exact (congrArg String.Pos.Raw.byteIdx same).symm
  · rintro ⟨front, rest, parts, rfl⟩
    refine ⟨String.ofList front, String.ofList rest, ?_, ?_⟩
    · rw [← String.ofList_append, ← parts, String.ofList_toList]
    · rw [← utf8ByteSize_ofList]
      rfl

/-- **A span that covers a part of a text lies in the text.** -/
theorem Span.Covers.placed (covers : span.Covers source.toList part) : span.Placed source := by
  obtain ⟨front, rest, parts, starts, stops, place⟩ := covers
  have behind : source.toList = front ++ (part ++ rest) := by rw [parts, List.append_assoc]
  have same : span.place = (Span.atOffset source.toList span.start).place := by
    rw [place, starts, behind, Span.place_atOffset]
  exact {
    ordered := by
      rw [starts, stops, byteLength_append]
      exact Nat.le_add_right _ _
    within := by
      rw [stops, ← byteLength_toList, parts, byteLength_append _ rest]
      exact Nat.le_add_right _ _
    starts := isValid_iff.mpr ⟨front, part ++ rest, behind, starts.symm⟩
    stops := isValid_iff.mpr ⟨front ++ part, rest, parts, stops.symm⟩
    line := congrArg LineColumn.line same
    column := congrArg LineColumn.column same
    walked := by rw [LineColumn.walk_eq, starts, behind, takeBytes_append, place, LineColumn.after] }

/-- **Places grow with the offset.** Of two offsets between characters the greater one has a longer
beginning of the text before it. -/
theorem strictMonoOn_atOffset (source : String) :
    StrictMonoOn (fun offset => (Span.atOffset source.toList offset).place.key)
      {offset | String.Pos.Raw.IsValid source ⟨offset⟩} := by
  intro first isFirst last isLast less
  obtain ⟨front, rest, parts, rfl⟩ := isValid_iff.mp isFirst
  obtain ⟨front', rest', parts', rfl⟩ := isValid_iff.mp isLast
  have place := Span.place_atOffset front rest
  have place' := Span.place_atOffset front' rest'
  rw [← parts] at place
  rw [← parts'] at place'
  simp only [place, place']
  rcases List.prefix_or_prefix_of_prefix ⟨rest, parts.symm⟩ ⟨rest', parts'.symm⟩ with
    ⟨part, rfl⟩ | ⟨part, rfl⟩
  · refine LineColumn.after_lt front fun none' => ?_
    rw [none', List.append_nil] at less
    exact absurd less (Nat.lt_irrefl _)
  · rw [byteLength_append] at less
    omega

/-! ### What errors point at -/

namespace ParseError

/-- The span of an error. -/
def span? : ParseError → Option Span
  | .malformed _ span => some span
  | .invalidPattern _ _ _ span => some span
  | .limitExceeded _ _ _ => none

/-- An error points at what it is about: at the number, at the pattern literal with its slashes and
flags, or at a place. -/
def PointsAt (text : List Char) : ParseError → Prop
  | .malformed (.numberOutOfRange digits) span => span.Covers text digits.toList
  | .malformed _ span => span.Covers text []
  | .invalidPattern source flags _ span =>
    span.Covers text ('/' :: source.toList ++ '/' :: flags.toList)
  | .limitExceeded _ _ _ => True

theorem PointsAt.covers (points : error.PointsAt text) (located : error.span? = some span) :
    ∃ part, span.Covers text part := by
  match error, points with
  | .malformed (.numberOutOfRange _) _, points => cases located; exact ⟨_, points⟩
  | .malformed .empty _, points => cases located; exact ⟨_, points⟩
  | .malformed (.unexpected _ _) _, points => cases located; exact ⟨_, points⟩
  | .invalidPattern _ _ _ _, points => cases located; exact ⟨_, points⟩

end ParseError

namespace Grammar

theorem WrittenValue.pointsAt_of_build {written : WrittenValue} (covered : written.Covered text)
    (run : written.build text = .error error) : error.PointsAt text := by
  cases written with
  | boolean value => cases run
  | string value => cases run
  | number digits extent =>
    rw [build] at run
    split at run
    · cases run
    · cases run
      have covers := Span.covers_between covered
      rwa [← String.toList_ofList (l := digits)] at covers

end Grammar

/-! ### Where parsing fails -/

section Engine

variable [PatternEngine]

namespace Grammar

theorem pointsAt_withinClauses {outcome : Except TooManyClauses Expression}
    (run : withinClauses outcome = .error error) : error.PointsAt text := by
  cases outcome with
  | ok result => cases run
  | error reached => cases run; trivial

theorem WrittenTest.pointsAt_of_build {written : WrittenTest} (covered : written.Covered text)
    (run : written.build facts text = .error error) : error.PointsAt text := by
  cases written with
  | constant value => cases run
  | has key => cases run
  | member key container => cases run
  | notMember key container => cases run
  | matching key pattern flags extent =>
    rw [build] at run
    split at run
    · cases run
    · cases run
      have covers := Span.covers_between covered
      rwa [← String.toList_ofList (l := pattern), ← String.toList_ofList (l := flags)] at covers
  | compare key operator value =>
    cases read : value.build text with
    | error cause =>
      simp only [build, read] at run
      cases run
      exact value.pointsAt_of_build covered read
    | ok value =>
      simp only [build, read] at run
      cases run

mutual

/-- **Where a formula is not built, the error points at a number or a pattern literal of it**, if not
at the limit. -/
theorem Formula.pointsAt_of_build : ∀ formula : Formula, formula.Each (WrittenTest.Covered text) →
    formula.build facts limit text = .error error → error.PointsAt text
  | .test written, covered, run => by
    rw [Formula.build] at run
    exact written.pointsAt_of_build covered run
  | .negation body, covered, run => by
    rw [Formula.build] at run
    rcases bind_eq_error.mp run with run | ⟨expression, -, run⟩
    · exact body.pointsAt_of_build covered run
    · exact pointsAt_withinClauses run
  | .all parts, covered, run => by
    rw [Formula.build] at run
    rcases bind_eq_error.mp run with run | ⟨expressions, -, run⟩
    · exact Formula.pointsAt_of_buildAll parts covered run
    · exact pointsAt_withinClauses run
  | .any parts, covered, run => by
    rw [Formula.build] at run
    rcases bind_eq_error.mp run with run | ⟨expressions, -, run⟩
    · exact Formula.pointsAt_of_buildAll parts covered run
    · exact pointsAt_withinClauses run

theorem Formula.pointsAt_of_buildAll : ∀ parts : List Formula,
    Formula.EachOf (WrittenTest.Covered text) parts →
      Formula.buildAll facts limit text parts = .error error → error.PointsAt text
  | [], _, run => by
    rw [Formula.buildAll] at run
    cases run
  | part :: parts, covered, run => by
    rw [Formula.buildAll] at run
    rcases bind_eq_error.mp run with run | ⟨expression, -, run⟩
    · exact part.pointsAt_of_build covered.1 run
    · rcases bind_eq_error.mp run with run | ⟨expressions, -, run⟩
      · exact Formula.pointsAt_of_buildAll parts covered.2 run
      · cases run

end

end Grammar

/-- **An error of a text points at what it is about.** -/
theorem pointsAt_of_parse (run : parse facts limits source = .error error) :
    error.PointsAt source.toList := by
  unfold parse at run
  dsimp only at run
  split at run
  · cases run; trivial
  split at run
  · cases run; trivial
  split at run
  · cases run
    exact Span.atOffset_zero_covers source.toList
  split at run
  · rename_i attempts failed
    cases run
    have within := position_le_of_read failed
    have nothing : (⟨attempts.position, attempts.position⟩ : Extent).Covers source.toList [] :=
      ⟨source.toList.take attempts.position, source.toList.drop attempts.position,
        by rw [List.append_nil, List.take_append_drop], List.length_take_of_le within,
        by rw [List.append_nil, List.length_take_of_le within]⟩
    exact Span.covers_between nothing
  · rename_i formula read
    exact formula.pointsAt_of_build (covered_of_read read) run

/-- **Errors are placed.** Whatever is wrong in a text, its span lies between characters of the text,
with the line and the column that the offset of its start has. Of two such offsets the greater one
has the later place. -/
theorem errors_placed (facts : Facts) (limits : Limits) (source : String) :
    (∀ error span, parse facts limits source = .error error → error.span? = some span →
        span.Placed source) ∧
      StrictMonoOn (fun offset => (Span.atOffset source.toList offset).place.key)
        {offset | String.Pos.Raw.IsValid source ⟨offset⟩} := by
  refine ⟨fun error span run located => ?_, strictMonoOn_atOffset source⟩
  obtain ⟨part, covers⟩ := (pointsAt_of_parse run).covers located
  exact covers.placed

end Engine

/-- Behind `é ==` and a line end of two characters the number `1e999` is too great. It starts at the
offset 7, in the first column of the second line. The place within the line end comes before that. -/
theorem errors_placed_second_line :
    parse none {} "\u00e9 ==\r\n1e999" =
        .error (.malformed (.numberOutOfRange "1e999") ⟨7, 12, 2, 1⟩) ∧
      Span.Placed ⟨7, 12, 2, 1⟩ "\u00e9 ==\r\n1e999" ∧
      (Span.atOffset "\u00e9 ==\r\n1e999".toList 6).place.key <
        (Span.atOffset "\u00e9 ==\r\n1e999".toList 7).place.key := by
  have run : parse none {} "\u00e9 ==\r\n1e999" =
      .error (.malformed (.numberOutOfRange "1e999") ⟨7, 12, 2, 1⟩) := by rfl
  have within : String.Pos.Raw.IsValid "\u00e9 ==\r\n1e999" ⟨6⟩ :=
    isValid_iff.mpr ⟨"\u00e9 ==\r".toList, "\n1e999".toList, rfl, rfl⟩
  have behind : String.Pos.Raw.IsValid "\u00e9 ==\r\n1e999" ⟨7⟩ :=
    isValid_iff.mpr ⟨"\u00e9 ==\r\n".toList, "1e999".toList, rfl, rfl⟩
  obtain ⟨placed, grows⟩ := errors_placed none {} "\u00e9 ==\r\n1e999"
  exact ⟨run, placed _ _ run rfl, grows within behind (by decide)⟩

end WhenClause
