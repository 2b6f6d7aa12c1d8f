/-
**The outline bounds the nesting of groups.**

`expressionUpTo size deeper depth` is the grammar with one change: inside a group nested more than
`depth` deep it goes on with the reader `deeper`. If the depth that the outline of a text has is at
most `depth`, that makes no difference, whatever `deeper` is (`expressionUpTo_eq`), so no such group
is ever entered.

The proof follows the scan of the outline along with the grammar. `Plain limit level text` says that
the scan stands in front of `text` in plain text with `level` parentheses open, and that from there
on it finds none nested more than `limit` deep. Every test keeps this (`staysPlain_test`), a parenthesis
that opens a group makes the level one greater, and the level never exceeds the limit.

The scan takes every bracket within a pattern literal for the beginning of a class, the grammar only
those that are closed. So the scan must not end within a class, and `hidden_group` shows a text that
it does end so for, with a group that it does not see.
-/

import WhenClause.Proofs.Passage

namespace WhenClause.Grammar

open Reader

variable {limit level size depth : Nat} {mode mode' : Mode} {text rest : List Char}
  {left right : Reader Formula} {α : Type}

/-! ### The grammar up to a depth -/

/-- Expressions, with another reader inside groups that are nested more than `depth` deep. -/
def disjunctionUpTo (size : Nat) (deeper : Reader Formula) : Nat → Reader Formula
  | 0 => disjunctionOf size deeper
  | depth + 1 => disjunctionOf size (disjunctionUpTo size deeper depth)

/-- A whole text, with another reader inside groups that are nested more than `depth` deep. -/
def expressionUpTo (size : Nat) (deeper : Reader Formula) (depth : Nat) : Reader Formula :=
  named .expression do
    gap
    let formula ← disjunctionUpTo size deeper depth
    gap
    endOfInput
    return formula

theorem exists_disjunctionUpTo (size : Nat) (deeper : Reader Formula) :
    ∀ {depth fewer : Nat}, fewer ≤ depth →
      ∃ deeper', disjunctionUpTo size deeper depth = disjunctionUpTo size deeper' fewer
  | 0, 0, _ => ⟨deeper, rfl⟩
  | depth + 1, 0, _ => ⟨disjunctionUpTo size deeper depth, rfl⟩
  | depth + 1, fewer + 1, le => by
    obtain ⟨deeper', same⟩ := exists_disjunctionUpTo size deeper (Nat.le_of_succ_le_succ le)
    exact ⟨deeper', congrArg (disjunctionOf size) same⟩

/-- The grammar of expressions is one of these. -/
theorem exists_disjunctionUpTo_of_lt (size : Nat) :
    ∀ {depth fewer : Nat}, fewer < depth →
      ∃ deeper, disjunction size depth = disjunctionUpTo size deeper fewer
  | depth + 1, 0, _ => ⟨disjunction size depth, rfl⟩
  | depth + 1, fewer + 1, lt => by
    obtain ⟨deeper, same⟩ := exists_disjunctionUpTo_of_lt size (Nat.lt_of_succ_lt_succ lt)
    exact ⟨deeper, congrArg (disjunctionOf size) same⟩

/-! ### Where the scan stands -/

/-- The scan stands in front of a text, in a mode and with so many parentheses open. From there on
it finds none nested more than `limit` deep, and it ends outside the classes of pattern literals. -/
def Within (limit : Nat) (mode : Mode) (level : Nat) (rest : List Char) : Prop :=
  ∃ greatest, level ≤ greatest ∧
    (rest.foldl depthStep (mode, ⟨level, greatest⟩)).2.greatest ≤ limit ∧ EndsOutside mode rest

/-- The scan stands in plain text, not behind a `=~`. -/
def Plain (limit level : Nat) (rest : List Char) : Prop :=
  ∃ behindEqual, Within limit (.plain behindEqual false) level rest

theorem le_greatest_depthStep (mode : Mode) (depth : Depth) (c : Char) :
    depth.greatest ≤ (depthStep (mode, depth) c).2.greatest := by
  unfold depthStep Depth.step
  dsimp only
  split_ifs
  · exact Nat.le_max_left _ _
  all_goals exact Nat.le_refl _

theorem greatest_le_foldl (text : List Char) (mode : Mode) (depth : Depth) :
    depth.greatest ≤ (text.foldl depthStep (mode, depth)).2.greatest := by
  induction text generalizing mode depth with
  | nil => exact Nat.le_refl _
  | cons c text ih => exact (le_greatest_depthStep mode depth c).trans (ih _ _)

theorem Within.level_le (within : Within limit mode level rest) : level ≤ limit := by
  obtain ⟨greatest, above, found, -⟩ := within
  exact above.trans ((greatest_le_foldl rest mode ⟨level, greatest⟩).trans found)

/-- The scan of a text moves on to what follows. -/
theorem Within.scan {level' : Nat} (within : Within limit mode level (text ++ rest))
    (scans : ∀ greatest, level ≤ greatest → ∃ greatest', level' ≤ greatest' ∧
      text.foldl depthStep (mode, ⟨level, greatest⟩) = (mode', ⟨level', greatest'⟩)) :
    Within limit mode' level' rest := by
  obtain ⟨greatest, above, found, outside⟩ := within
  obtain ⟨greatest', above', same⟩ := scans greatest above
  rw [List.foldl_append, same] at found
  refine ⟨greatest', above', found, ?_⟩
  have mode := congrArg Prod.fst same
  rw [foldl_depthStep_fst] at mode
  unfold EndsOutside at outside ⊢
  rwa [List.foldl_append, mode] at outside

/-- Where the depth stays the same. -/
theorem Within.scan_of_same (within : Within limit mode level (text ++ rest))
    (scans : ∀ depth, text.foldl depthStep (mode, depth) = (mode', depth)) :
    Within limit mode' level rest :=
  within.scan fun greatest above => ⟨greatest, above, scans _⟩

theorem Plain.passes (passes : Passes text) (plain : Plain limit level (text ++ rest)) :
    Plain limit level rest := by
  obtain ⟨behindEqual, greatest, above, found, outside⟩ := plain
  obtain ⟨behindEqual', same⟩ := passes behindEqual ⟨level, greatest⟩
  refine ⟨behindEqual', greatest, above, by rwa [List.foldl_append, same] at found, ?_⟩
  have mode := congrArg Prod.fst same
  rw [foldl_depthStep_fst] at mode
  unfold EndsOutside at outside ⊢
  rwa [List.foldl_append, mode] at outside

theorem Plain.opens (plain : Plain limit level ('(' :: rest)) : Plain limit (level + 1) rest := by
  obtain ⟨behindEqual, within⟩ := plain
  refine ⟨false, @Within.scan _ _ _ _ ['('] _ _ within fun greatest _ => ?_⟩
  exact ⟨max greatest (level + 1), Nat.le_max_right _ _,
    depthStep_plain (c := '(') (by decide) (by decide) behindEqual ⟨level, greatest⟩⟩

theorem Plain.closes (plain : Plain limit (level + 1) (')' :: rest)) : Plain limit level rest := by
  obtain ⟨behindEqual, within⟩ := plain
  refine ⟨false, @Within.scan _ _ _ _ [')'] _ _ within fun greatest above => ?_⟩
  exact ⟨greatest, Nat.le_of_succ_le above,
    depthStep_plain (c := ')') (by decide) (by decide) behindEqual ⟨level + 1, greatest⟩⟩

/-! ### Tokens and tests -/

theorem carried_plain (limit level : Nat) : Carried (Plain limit level) :=
  fun _ _ passes plain => plain.passes passes

/-- A reader that leaves the scan in plain text, with as many parentheses open. -/
abbrev StaysPlain (reader : Reader α) : Prop :=
  ∀ limit level, Alike (Plain limit level) reader reader (Plain limit level)

theorem staysPlain_mark {text : List Char} (passes : Passes text) : StaysPlain (mark text) :=
  fun limit level => steady_mark passes _ (carried_plain limit level)

theorem staysPlain_gap : StaysPlain gap :=
  fun limit level => steady_gap _ (carried_plain limit level)

/-- Behind a `=~` a gap leaves the scan where it is. -/
theorem Within.gap (only : Gap text) (within : Within limit (.plain false true) level (text ++ rest)) :
    Within limit (.plain false true) level rest :=
  within.scan_of_same fun depth => foldl_depthStep_gap only depth

/-- A source that is not the rest of the text leaves the scan outside of classes. -/
theorem Within.source {source : List Char} {length : Nat}
    (within : Within limit (.pattern false) level text)
    (taken : takeSource text = some (source, length)) (some' : text.drop length ≠ []) :
    Within limit (.pattern false) level (text.drop length) := by
  obtain ⟨rfl, rfl⟩ := Prod.mk.inj (eq_of_takeSource taken).1
  obtain ⟨source, first, parts, scans⟩ := splitSourceFrom_eq text [] false
  rw [splitSource] at some' ⊢
  generalize splitSourceFrom [] false text = split at first parts scans some' ⊢
  obtain rfl : split.1 = source := by simpa using first
  subst parts
  rw [List.drop_left] at some' ⊢
  obtain ⟨-, -, -, outside⟩ := id within
  exact within.scan_of_same (scans some' outside)

/-- **A test leaves the scan in plain text.** -/
theorem staysPlain_test : StaysPlain test := by
  intro limit level
  have carried := carried_plain limit level
  -- a source that goes up to the end of the text is not followed by a slash
  refine alike_test carried (@alike_patternTest _ (Within limit (.plain false true) level)
    (Within limit (.pattern false) level)
    (fun rest => rest ≠ [] → Within limit (.pattern false) level rest) carried ?_ ?_ ?_ ?_ ?_)
  · exact fun rest ⟨_, within⟩ => @Within.scan_of_same _ _ _ _ ['=', '~'] _ within fun _ => rfl
  · exact fun text rest only within => within.gap only
  · exact fun rest within => @Within.scan_of_same _ _ _ _ ['/'] _ within fun _ => rfl
  · exact fun text source length within taken some' => within.source taken some'
  · exact fun rest within => ⟨false, @Within.scan_of_same _ _ _ _ ['/'] _
      (within (List.cons_ne_nil _ _)) fun _ => rfl⟩

/-! ### Joins and groups -/

/-- Within a group one more parenthesis is open. -/
theorem alike_group
    (inner : Alike (Plain limit (level + 1)) left right (Plain limit (level + 1))) :
    Alike (Plain limit level) (group left) (group right) (Plain limit level) := by
  have opens : Alike (Plain limit level) (mark ['(']) (mark ['(']) (Plain limit (level + 1)) :=
    alike_mark fun _ plain => plain.opens
  have closes : Alike (Plain limit (level + 1)) (mark [')']) (mark [')']) (Plain limit level) :=
    alike_mark fun _ plain => plain.closes
  have gaps := staysPlain_gap limit (level + 1)
  exact .named .group (.bind opens fun _ => .bind gaps fun _ => .bind inner fun _ =>
    .bind gaps fun _ => .bind closes fun _ => alike_pure _)

theorem Alike.joined {separator : List Char} (passes : Passes separator)
    (alike : Alike (Plain limit level) left right (Plain limit level)) :
    Alike (Plain limit level) (Grammar.joined size separator left)
      (Grammar.joined size separator right) (Plain limit level) := by
  have gaps := staysPlain_gap limit level
  have item := (staysPlain_mark passes limit level).bind fun _ => gaps.bind fun _ => alike
  exact .bind alike fun _ => .bind gaps fun _ => .bind (item.repeatedly gaps size) fun _ =>
    alike_pure _

/-- Expressions are read in the same way if they are one level deeper. -/
theorem alike_disjunctionOf
    (inner : Alike (Plain limit (level + 1)) left right (Plain limit (level + 1))) :
    Alike (Plain limit level) (disjunctionOf size left) (disjunctionOf size right)
      (Plain limit level) := by
  have gaps := staysPlain_gap limit level
  have primaries : Alike (Plain limit level) (primary left) (primary right) (Plain limit level) :=
    .named .primary (.orElse (alike_group inner)
      (.bind (staysPlain_test limit level) fun _ => alike_pure _))
  have marks : Alike (Plain limit level) negationMark negationMark (Plain limit level) :=
    .named .negationMark (staysPlain_mark (passes_of_forall (by decide)) limit level)
  have unaries : Alike (Plain limit level) (unary size left) (unary size right)
      (Plain limit level) :=
    .named .unary (.bind (marks.repeatedly gaps size) fun _ => .bind gaps fun _ =>
      .bind primaries fun _ => alike_pure _)
  have conjunctions : Alike (Plain limit level) (conjunction size left) (conjunction size right)
      (Plain limit level) :=
    .named .conjunction
      (.bind (unaries.joined (passes_of_forall (by decide))) fun _ => alike_pure _)
  exact .named .disjunction
    (.bind (conjunctions.joined (passes_of_forall (by decide))) fun _ => alike_pure _)

/-- **Where no group is nested deeper than the limit, it does not matter how deeper groups are
read.** -/
theorem alike_disjunctionUpTo (size : Nat) (deeper deeper' : Reader Formula) :
    ∀ {depth level : Nat}, limit ≤ level + depth →
      Alike (Plain limit level) (disjunctionUpTo size deeper depth)
        (disjunctionUpTo size deeper' depth) (Plain limit level)
  | 0, level, least => by
    refine alike_disjunctionOf fun cursor plain => ?_
    obtain ⟨_, within⟩ := plain
    exact absurd within.level_le (by omega)
  | depth + 1, level, least =>
    alike_disjunctionOf (alike_disjunctionUpTo size deeper deeper' (by omega))

/-! ### Whole texts -/

theorem depthStep_le (mode : Mode) (depth : Depth) (c : Char) :
    (depthStep (mode, depth) c).2.current ≤ depth.current + 1 ∧
      (depthStep (mode, depth) c).2.greatest ≤ max depth.greatest (depth.current + 1) := by
  unfold depthStep Depth.step
  dsimp only
  split_ifs <;> grind

theorem greatest_foldl_le (text : List Char) (mode : Mode) (depth : Depth) :
    (text.foldl depthStep (mode, depth)).2.greatest ≤
      max depth.greatest (depth.current + text.length) := by
  induction text generalizing mode depth with
  | nil => exact Nat.le_max_left _ _
  | cons c text ih =>
    obtain ⟨current, greatest⟩ := depthStep_le mode depth c
    rw [List.foldl_cons, List.length_cons]
    have rest := ih (depthStep (mode, depth) c).1 (depthStep (mode, depth) c).2
    exact rest.trans (by omega)

theorem nestingDepth_le_length (text : List Char) : nestingDepth text ≤ text.length := by
  simpa [nestingDepth] using greatest_foldl_le text .start ⟨0, 0⟩

/-- **No group is entered that is nested deeper than the outline.** If the depth of the outline is
within a limit, and the scan ends outside the classes of pattern literals, then the grammar reads
the text in the same way whatever stands for it inside of deeper groups. -/
theorem expressionUpTo_eq (nesting : nestingDepth text ≤ depth) (outside : EndsOutside .start text)
    (deeper : Reader Formula) :
    expressionUpTo (text.length + 1) deeper depth (.start text) =
      expression (text.length + 1) (.start text) := by
  have plain : Plain (nestingDepth text) 0 text :=
    ⟨false, 0, Nat.le_refl 0, Nat.le_refl _, outside⟩
  obtain ⟨deeper', same⟩ := exists_disjunctionUpTo (text.length + 1) deeper nesting
  obtain ⟨deeper'', same'⟩ := exists_disjunctionUpTo_of_lt (text.length + 1)
    (Nat.lt_succ_of_le (nestingDepth_le_length text))
  have gaps := staysPlain_gap (nestingDepth text) 0
  have ends : Alike (Plain (nestingDepth text) 0) endOfInput endOfInput fun _ => True :=
    fun cursor _ => ⟨rfl, fun _ _ _ => trivial⟩
  have inside : Alike (Plain (nestingDepth text) 0)
      (disjunctionUpTo (text.length + 1) deeper depth)
      (disjunction (text.length + 1) (text.length + 1)) (Plain (nestingDepth text) 0) := by
    rw [same, same']
    exact alike_disjunctionUpTo _ _ _ (by omega)
  have whole : Alike (Plain (nestingDepth text) 0)
      (expressionUpTo (text.length + 1) deeper depth) (expression (text.length + 1)) fun _ => True :=
    .named .expression (.bind gaps fun _ => .bind inside fun _ => .bind gaps fun _ =>
      .bind ends fun _ => alike_pure _)
  exact (whole (.start text) plain).1

/-- In `a =~ /[(]/ && (b || c == '((')` one group is seen, and no deeper one is entered. -/
theorem expressionUpTo_quoted_parentheses :
    expressionUpTo ("a =~ /[(]/ && (b || c == '((')".toList.length + 1)
        (fun _ => ⟨none, .none⟩) 1 (.start "a =~ /[(]/ && (b || c == '((')".toList) =
      expression ("a =~ /[(]/ && (b || c == '((')".toList.length + 1)
        (.start "a =~ /[(]/ && (b || c == '((')".toList) :=
  expressionUpTo_eq (by decide) (by unfold EndsOutside; decide) _

/-- In `a =~ /(?x)b#[/ && (c)` a bracket that is never closed hides a group: the outline has depth
`0`, but without its group the text is not read. -/
theorem hidden_group :
    nestingDepth "a =~ /(?x)b#[/ && (c)".toList = 0 ∧
      (expression ("a =~ /(?x)b#[/ && (c)".toList.length + 1)
        (.start "a =~ /(?x)b#[/ && (c)".toList)).result.isSome = true ∧
      (expressionUpTo ("a =~ /(?x)b#[/ && (c)".toList.length + 1) (fun _ => ⟨none, .none⟩) 0
        (.start "a =~ /(?x)b#[/ && (c)".toList)).result.isSome = false := by
  refine ⟨by decide, by decide +kernel, by decide +kernel⟩

end WhenClause.Grammar
