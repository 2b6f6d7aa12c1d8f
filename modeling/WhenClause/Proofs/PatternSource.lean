/-
**Where a pattern source ends.**

The grammar takes an opening bracket in a pattern source for the beginning of a class only if a
closing one stands somewhere behind it, be it behind the whole literal. So whether a source ends at
the slash behind it depends on the rest of the text, but only on one thing: whether a bracket there
closes a class.

* `SourceEnds`: the sources that end at the slash behind them, given that one thing;
* `SourceEnds.congr`: it bears on sources with an open class only;
* `SourceEnds.scan`: the scan of the outline leaves such a source as the grammar does, or it stays
  within an open class up to the end of the text.
-/

import WhenClause.Proofs.Outline

namespace WhenClause.Grammar

variable {source text more before : List Char} {inClass closing closing' : Bool}

/-! ### Closing brackets -/

/-- In front of a character that is neither a bracket nor a backslash a text closes a class by
itself or not at all. -/
theorem closesClass_append_cons {c : Char} (noEscape : c ≠ '\\') (noClose : c ≠ ']')
    (text more : List Char) :
    closesClass (text ++ c :: more) = (closesClass text || closesClass more) := by
  have other : (c == ']') = false := beq_false_of_ne noClose
  induction text using source_cases with
  | nil => rw [List.nil_append, closesClass_cons noEscape, other]; rfl
  | open' => rfl
  | escape escaped text ih =>
    rw [List.cons_append, List.cons_append, closesClass, ih, closesClass]
  | other d text noEscape ih =>
    rw [List.cons_append, closesClass_cons noEscape, ih, closesClass_cons noEscape, Bool.or_assoc]

/-- Where a class is never closed the scan stays within it, and finds no parenthesis. -/
theorem depth_of_open (open' : closesClass text = false) (depth : Depth) :
    (text.foldl depthStep (.pattern true, depth)).2 = depth := by
  induction text using source_cases with
  | nil => rfl
  | open' => rfl
  | escape escaped text ih =>
    rw [closesClass] at open'
    exact ih open'
  | other c text noEscape ih =>
    rw [closesClass_cons noEscape, Bool.or_eq_false_iff] at open'
    have stays : (c != ']') = true := by rw [bne, open'.1]; rfl
    rw [List.foldl_cons, depthStep_pattern noEscape true (absurd · (by decide)), if_pos rfl, stays]
    exact ih open'.2

/-! ### Sources and the slash behind them -/

/-- The sources, seen from within a class or not, that end at the slash behind them, if what stands
behind that slash closes a class or not. -/
inductive SourceEnds (closing : Bool) : Bool → List Char → Prop where
  | done : SourceEnds closing false []
  | escape {inClass : Bool} {escaped : Char} {rest : List Char}
      (ends : SourceEnds closing inClass rest) : SourceEnds closing inClass ('\\' :: escaped :: rest)
  | inside {c : Char} {rest : List Char} (noEscape : c ≠ '\\')
      (ends : SourceEnds closing (c != ']') rest) : SourceEnds closing true (c :: rest)
  | outside {c : Char} {rest : List Char} (noEscape : c ≠ '\\')
      (noEnd : ¬(c = '/' ∨ c = '\n' ∨ c = '\r'))
      (ends : SourceEnds closing (c == '[' && (closesClass rest || closing)) rest) :
      SourceEnds closing false (c :: rest)

/-- Whether the grammar enters a class in a source, told by the source and the text behind it. -/
theorem entersClass_append (c : Char) (source more : List Char) :
    (c == '[' && closesClass (source ++ '/' :: more)) =
      (c == '[' && (closesClass source || closesClass more)) := by
  rw [closesClass_append_cons (by decide) (by decide)]

/-- What is left behind a source is not longer than the text. -/
theorem length_splitSourceFrom_le (before : List Char) (inClass : Bool) (text : List Char) :
    (splitSourceFrom before inClass text).2.length ≤ text.length := by
  obtain ⟨source, -, parts, -⟩ := splitSourceFrom_eq text before inClass
  have length := congrArg List.length parts
  rw [List.length_append] at length
  omega

/-- **The grammar ends a source at a slash only if it is such a source.** -/
theorem sourceEnds_of_splitSourceFrom
    (split : (splitSourceFrom before inClass (source ++ '/' :: more)).2 = '/' :: more) :
    SourceEnds (closesClass more) inClass source := by
  -- a slash that was taken is not left
  have taken : ∀ {before inClass}, (splitSourceFrom before inClass more).2 ≠ '/' :: more := by
    intro before inClass same
    have short := length_splitSourceFrom_le before inClass more
    rw [same, List.length_cons] at short
    omega
  induction source using source_cases generalizing before inClass with
  | nil =>
    cases inClass with
    | false => exact .done
    | true =>
      rw [List.nil_append, splitSourceFrom_cons (by decide), if_pos rfl] at split
      exact absurd split taken
  | open' =>
    rw [List.cons_append, List.nil_append, splitSourceFrom] at split
    exact absurd split taken
  | escape escaped source ih =>
    rw [List.cons_append, List.cons_append, splitSourceFrom] at split
    exact .escape (ih split)
  | other c source noEscape ih =>
    rw [List.cons_append, splitSourceFrom_cons noEscape] at split
    cases inClass with
    | true =>
      rw [if_pos rfl] at split
      exact .inside noEscape (ih split)
    | false =>
      rw [if_neg Bool.false_ne_true] at split
      by_cases ending : c = '/' ∨ c = '\n' ∨ c = '\r'
      · rw [if_pos ending] at split
        have same := congrArg List.length split
        simp only [List.length_cons, List.length_append] at same
        omega
      · rw [if_neg ending, entersClass_append] at split
        exact .outside noEscape ending (ih split)

/-- A source that is taken in front of a slash ends there. -/
theorem sourceEnds_of_takeSource {length : Nat} (taken : takeSource text = some (source, length))
    (slash : text.drop length = '/' :: more) :
    text = source ++ '/' :: more ∧ SourceEnds (closesClass more) false source := by
  obtain ⟨rfl, rfl⟩ := Prod.mk.inj (eq_of_takeSource taken).1
  obtain ⟨source, front, parts, -⟩ := splitSourceFrom_eq text [] false
  rw [List.reverse_nil, List.nil_append] at front
  rw [splitSource, front] at slash ⊢
  have behind : text.drop source.length = (splitSourceFrom [] false text).2 := by
    rw [parts, List.drop_left, ← parts]
  have whole : text = source ++ '/' :: more := by rw [← slash, behind, ← parts]
  refine ⟨whole, @sourceEnds_of_splitSourceFrom _ more [] _ ?_⟩
  rw [← whole, ← behind, slash]

/-- **Such a source is taken up to the slash behind it.** -/
theorem SourceEnds.splitSourceFrom (ends : SourceEnds (closesClass more) inClass source)
    (before : List Char) :
    Grammar.splitSourceFrom before inClass (source ++ '/' :: more) =
      (before.reverse ++ source, '/' :: more) := by
  induction ends generalizing before with
  | done => simp [splitSourceFrom_cons]
  | escape _ ih =>
    rw [List.cons_append, List.cons_append, Grammar.splitSourceFrom, ih]
    simp
  | inside noEscape _ ih =>
    rw [List.cons_append, splitSourceFrom_cons noEscape, if_pos rfl, ih]
    simp
  | outside noEscape noEnd _ ih =>
    rw [List.cons_append, splitSourceFrom_cons noEscape, if_neg Bool.false_ne_true, if_neg noEnd,
      entersClass_append, ih]
    simp

theorem SourceEnds.takeSource (ends : SourceEnds (closesClass more) false source)
    (some' : source.isEmpty = false) :
    Grammar.takeSource (source ++ '/' :: more) = some (source, source.length) := by
  have split : splitSource (source ++ '/' :: more) = (source, '/' :: more) := ends.splitSourceFrom []
  unfold Grammar.takeSource
  rw [split]
  simp only [some', Bool.false_eq_true, if_false]

/-! ### Open classes -/

/-- From within a class a source closes it. -/
theorem SourceEnds.closesClass (ends : SourceEnds closing inClass source) (within : inClass = true) :
    Grammar.closesClass source = true := by
  induction ends with
  | done => cases within
  | escape _ ih =>
    rw [Grammar.closesClass]
    exact ih within
  | @inside c rest noEscape _ ih =>
    rw [closesClass_cons noEscape, Bool.or_eq_true]
    exact (em (c = ']')).imp beq_iff_eq.mpr fun other => ih (bne_iff_ne.mpr other)
  | outside => cases within

/-- **What stands behind the slash bears on open classes only.** If all classes of a source are
closed, or nothing behind it closes one, the source ends there as it did elsewhere. -/
theorem SourceEnds.congr (ends : SourceEnds closing inClass source)
    (closed : closesClasses inClass source = true ∨ closing' = false) :
    SourceEnds closing' inClass source := by
  induction ends with
  | done => exact .done
  | escape _ ih =>
    rw [closesClasses] at closed
    exact .escape (ih closed)
  | inside noEscape _ ih =>
    rw [closesClasses_cons noEscape, if_pos rfl] at closed
    exact .inside noEscape (ih closed)
  | @outside c rest noEscape noEnd ends ih =>
    rw [closesClasses_cons noEscape, if_neg Bool.false_ne_true] at closed
    refine .outside noEscape noEnd ?_
    cases opens : c == '[' with
    | false =>
      rw [opens] at closed ih
      exact ih closed
    | true =>
      rw [opens] at closed ends ih
      rw [Bool.true_and] at ends ih ⊢
      cases shut : Grammar.closesClass rest with
      | true =>
        rw [shut] at ih
        exact ih closed
      | false =>
        rw [shut, Bool.false_or] at ends ih
        rw [Bool.false_or]
        -- a class that was entered is closed within the source
        have plain : closing = false := by
          cases closing with
          | false => rfl
          | true => rw [ends.closesClass rfl] at shut; cases shut
        have behind : closing' = false := closed.resolve_left fun all' => by
          rw [closesClass_of_closesClasses all'] at shut
          cases shut
        rw [plain] at ih
        rw [behind] at ih ⊢
        exact ih (.inr rfl)

/-- **The scan leaves a source where the grammar does**, or it stays within an open class and finds
no parenthesis up to the end of the text. -/
theorem SourceEnds.scan (ends : SourceEnds (Grammar.closesClass more) inClass source) :
    (∀ depth, source.foldl depthStep (.pattern inClass, depth) = (.pattern false, depth)) ∨
      ∀ depth,
        ((source ++ '/' :: more).foldl depthStep (.pattern inClass, depth)).2 = depth := by
  have step : ∀ {mode mode' : Mode} (text : List Char) {rest : List Char},
      (∀ depth, text.foldl depthStep (mode, depth) = (mode', depth)) →
        (∀ depth, rest.foldl depthStep (mode', depth) = (.pattern false, depth)) ∨
          (∀ depth, ((rest ++ '/' :: more).foldl depthStep (mode', depth)).2 = depth) →
        (∀ depth, (text ++ rest).foldl depthStep (mode, depth) = (.pattern false, depth)) ∨
          ∀ depth, ((text ++ rest ++ '/' :: more).foldl depthStep (mode, depth)).2 = depth := by
    intro mode mode' text rest front
    refine Or.imp (fun scan depth => ?_) fun scan depth => ?_
    · rw [List.foldl_append, front, scan]
    · rw [List.append_assoc, List.foldl_append, front, scan]
  induction ends with
  | done => exact .inl fun _ => rfl
  | @escape inClass escaped rest _ ih => exact step ['\\', escaped] (fun _ => rfl) ih
  | @inside c rest noEscape _ ih =>
    exact step [c] (depthStep_pattern noEscape true (absurd · (by decide))) ih
  | @outside c rest noEscape noEnd ends ih =>
    have single : ∀ depth, [c].foldl depthStep (.pattern false, depth) =
        (.pattern (c == '['), depth) :=
      depthStep_pattern noEscape false fun _ slash => noEnd (.inl slash)
    by_cases shut : Grammar.closesClass (rest ++ '/' :: more) = true ∨ (c == '[') = false
    · have enters : (c == '[' && (Grammar.closesClass rest || Grammar.closesClass more)) =
          (c == '[') := by
        rw [← entersClass_append]
        rcases shut with shut | other
        · rw [shut, Bool.and_true]
        · rw [other, Bool.false_and]
      rw [enters] at ih
      exact step [c] single ih
    · obtain ⟨open', opens⟩ := not_or.mp shut
      rw [Bool.not_eq_false] at opens
      rw [opens] at single
      refine step [c] single (.inr fun depth => ?_)
      exact depth_of_open (Bool.eq_false_iff.mpr open') depth

end WhenClause.Grammar
