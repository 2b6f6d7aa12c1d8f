/-
**The outline is no deeper than the groups of a formula.**

A text may be full of parentheses that open no group: quotes and pattern literals can hold any. Where
the grammar reads the text the outline shows none of them, so the depth that it has is at most the
depth of the groups in the formula that is read (`nestingDepth_le_of_read`).

The proof follows the scan of the outline along with the grammar. `Due limit level text` says that the
scan stands in front of `text` in plain text with `level` parentheses open, has found none nested more
than `limit` deep, and is still to find some. A token leaves it so (`alike_test_due`), and so does a
group, unless groups within it are nested deeper than the limit (`Accounts`). At the end of a text
nothing is to be found any more, so there some group was nested so deep.

Where the grammar reads a bracket of a pattern literal as a character, the scan may stay within a
class up to the end of the text. Then it finds nothing at all from there on.
-/

import WhenClause.Proofs.Nesting
import WhenClause.Proofs.ReaderValue

namespace WhenClause.Grammar

open Reader

variable {limit level size : Nat} {mode mode' : Mode} {text rest : List Char} {α β : Type}
  {reader first other : Reader α} {second : α → Reader β} {inner : Reader Formula}
  {depth : α → Nat} {depth' : β → Nat} {formula : Formula} {parts : List Formula}

/-! ### Groups of a formula -/

mutual

/-- How deep groups are nested in a formula, which is one itself if it is an `any`. -/
def Formula.nesting : Formula → Nat
  | .test _ => 0
  | .negation body => body.nesting
  | .all parts => Formula.nestingOf parts
  | .any parts => Formula.nestingOf parts + 1

def Formula.nestingOf : List Formula → Nat
  | [] => 0
  | part :: parts => max part.nesting (Formula.nestingOf parts)

end

/-- How deep groups are nested in the formula of a whole text, whose outermost alternatives stand in
no group. -/
def Formula.groupDepth (formula : Formula) : Nat := formula.nesting - 1

theorem nesting_le_nestingOf {part : Formula} (among : part ∈ parts) :
    part.nesting ≤ Formula.nestingOf parts := by
  induction parts with
  | nil => cases among
  | cons head parts ih =>
    rw [Formula.nestingOf]
    rcases List.mem_cons.mp among with rfl | among
    · exact Nat.le_max_left _ _
    · exact (ih among).trans (Nat.le_max_right _ _)

theorem nesting_negated (marks : Nat) (formula : Formula) :
    (negated marks formula).nesting = formula.nesting := by
  unfold negated
  split
  · rw [Formula.nesting]
  · rfl

/-! ### What the scan is still to find -/

/-- The scan stands in front of a text, in a mode and with so many parentheses open. It has found
none nested more than `limit` deep, but is to find some from there on. -/
def Exceeds (limit : Nat) (mode : Mode) (level : Nat) (rest : List Char) : Prop :=
  ∃ greatest, greatest ≤ limit ∧
    limit < (rest.foldl depthStep (mode, ⟨level, greatest⟩)).2.greatest

/-- So it does in plain text, not behind a `=~`. -/
def Due (limit level : Nat) (rest : List Char) : Prop :=
  ∃ behindEqual, Exceeds limit (.plain behindEqual false) level rest

theorem Exceeds.scan (exceeds : Exceeds limit mode level (text ++ rest))
    (scans : ∀ depth, text.foldl depthStep (mode, depth) = (mode', depth)) :
    Exceeds limit mode' level rest := by
  obtain ⟨greatest, atMost, found⟩ := exceeds
  exact ⟨greatest, atMost, by rwa [List.foldl_append, scans] at found⟩

theorem carried_due (limit level : Nat) : Carried (Due limit level) := by
  rintro text rest passes ⟨behindEqual, greatest, atMost, found⟩
  obtain ⟨behindEqual', same⟩ := passes behindEqual ⟨level, greatest⟩
  exact ⟨behindEqual', greatest, atMost, by rwa [List.foldl_append, same] at found⟩

/-- A parenthesis that opens goes one level deeper, if the limit is not reached. -/
theorem Due.opens (due : Due limit level ('(' :: rest)) :
    limit ≤ level ∨ Due limit (level + 1) rest := by
  obtain ⟨behindEqual, greatest, atMost, found⟩ := due
  rw [List.foldl_cons, depthStep_plain (by decide) (by decide)] at found
  by_cases reached : limit ≤ level
  · exact .inl reached
  · exact .inr ⟨false, max greatest (level + 1), by omega, found⟩

theorem Due.closes (due : Due limit (level + 1) (')' :: rest)) : Due limit level rest := by
  obtain ⟨behindEqual, greatest, atMost, found⟩ := due
  rw [List.foldl_cons, depthStep_plain (by decide) (by decide)] at found
  exact ⟨false, greatest, atMost, found⟩

theorem not_due_nil : ¬Due limit level [] := by
  rintro ⟨_, greatest, atMost, found⟩
  exact absurd found (Nat.not_lt.mpr atMost)

/-- A pattern source leaves it so: a scan that does not leave the source as the grammar does would not
find anything any more. -/
theorem Exceeds.source {source more : List Char} {length : Nat}
    (exceeds : Exceeds limit (.pattern false) level text)
    (taken : takeSource text = some (source, length)) (slash : text.drop length = '/' :: more) :
    Exceeds limit (.pattern false) level ('/' :: more) := by
  obtain ⟨rfl, ends⟩ := sourceEnds_of_takeSource taken slash
  rcases ends.scan with leaves | stays
  · exact exceeds.scan leaves
  · obtain ⟨greatest, atMost, found⟩ := exceeds
    rw [stays] at found
    exact absurd found (Nat.not_lt.mpr atMost)

/-- **A test leaves it so.** -/
theorem alike_test_due (limit level : Nat) :
    Alike (Due limit level) test test (Due limit level) := by
  have carried := carried_due limit level
  refine alike_test carried (@alike_patternTest _ (Exceeds limit (.plain false true) level)
    (Exceeds limit (.pattern false) level)
    (fun rest => ∀ more, rest = '/' :: more → Exceeds limit (.pattern false) level rest)
    carried ?_ ?_ ?_ ?_ ?_)
  · exact fun rest ⟨_, exceeds⟩ => @Exceeds.scan _ _ _ _ ['=', '~'] _ exceeds fun _ => rfl
  · exact fun text rest only exceeds => exceeds.scan fun depth => foldl_depthStep_gap only depth
  · exact fun rest exceeds => @Exceeds.scan _ _ _ _ ['/'] _ exceeds fun _ => rfl
  · intro text source length exceeds taken more slash
    rw [slash]
    exact exceeds.source taken slash
  · intro rest exceeds
    exact ⟨false, @Exceeds.scan _ _ _ _ ['/'] _ (exceeds rest rfl) fun _ => rfl⟩

/-! ### Readers that account for what is to be found -/

/-- Where the scan is to find more than the limit allows, a reader leaves that to what stands behind
what it reads, or else it reads something that is nested so deep itself. -/
def Accounts (limit level : Nat) (reader : Reader α) (depth : α → Nat) : Prop :=
  ∀ cursor value next, Due limit level cursor.rest →
    (reader cursor).result = some (value, next) →
      Due limit level next.rest ∨ limit < level + depth value

theorem Accounts.of_alike
    (alike : Alike (Due limit level) reader reader (Due limit level)) (depth : α → Nat) :
    Accounts limit level reader depth :=
  fun _ _ _ due read => .inl (alike.leaves due read)

theorem accounts_pure (value : α) (depth : α → Nat) :
    Accounts limit level (pure value : Reader α) depth :=
  .of_alike (alike_pure value) depth

/-- One thing after another, if the whole is nested at least as deep as either of them. -/
theorem Accounts.bind (accounts : Accounts limit level first depth)
    (rest : ∀ value, Accounts limit level (second value) depth')
    (above : ∀ value, Gives (second value) fun value' => depth value ≤ depth' value') :
    Accounts limit level (first >>= second) depth' := by
  intro cursor value next due read
  obtain ⟨value', middle, read', read⟩ := result_bind_eq_some.mp read
  rcases accounts cursor value' middle due read' with due | deep
  · exact rest value' middle value next due read
  · have most := (above value').holds read
    exact .inr (by omega)

/-- A token in front does not matter. -/
theorem Accounts.behind
    (token : Alike (Due limit level) first first (Due limit level))
    (rest : ∀ value, Accounts limit level (second value) depth') :
    Accounts limit level (first >>= second) depth' :=
  (Accounts.of_alike token fun _ => 0).bind rest fun _ _ _ _ _ => Nat.zero_le _

theorem Accounts.map {f : α → β} (accounts : Accounts limit level reader depth)
    (above : ∀ value, depth value ≤ depth' (f value)) :
    Accounts limit level (do return f (← reader)) depth' :=
  accounts.bind (fun value => accounts_pure (f value) depth') fun value => gives_pure (above value)

theorem Accounts.orElse (accounts : Accounts limit level first depth)
    (accounts' : Accounts limit level other depth) :
    Accounts limit level (Reader.orElse first other) depth := by
  intro cursor value next due read
  rw [result_orElse, Option.or_eq_some_iff] at read
  rcases read with read | ⟨-, read⟩
  · exact accounts cursor value next due read
  · exact accounts' cursor value next due read

theorem Accounts.named (construct : Construct) (accounts : Accounts limit level reader depth) :
    Accounts limit level (Reader.named construct reader) depth := by
  intro cursor value next due read
  rw [result_named] at read
  exact accounts cursor value next due read

theorem Accounts.many (accounts : Accounts limit level inner Formula.nesting) (size : Nat) :
    Accounts limit level (Reader.many size inner) Formula.nestingOf := by
  have from' : ∀ size before attempts,
      Accounts limit level (manyFrom inner size before attempts) Formula.nestingOf := by
    intro size
    induction size with
    | zero =>
      rintro before attempts cursor _ _ due ⟨⟩
      exact .inl due
    | succ size ih =>
      intro before attempts cursor parts next due read
      unfold manyFrom at read
      split at read
      · rename_i part middle more same
        have first : (inner cursor).result = some (part, middle) := by rw [same]
        rcases accounts cursor part middle due first with due | deep
        · exact ih _ _ middle parts next due read
        · have among : part ∈ parts := (gives_manyFrom_mem size _ _).holds read part List.mem_cons_self
          have most := nesting_le_nestingOf among
          exact .inr (by omega)
      · cases read
        exact .inl due
  exact from' size [] .none

theorem Accounts.repeatedly (accounts : Accounts limit level inner Formula.nesting) (size : Nat) :
    Accounts limit level (Grammar.repeatedly size inner) Formula.nestingOf := by
  have items : Accounts limit level (do gap; inner) Formula.nesting :=
    .behind (steady_gap _ (carried_due limit level)) fun _ => accounts
  refine .orElse (accounts.bind (fun part => (items.many size).map fun parts => ?_) fun part => ?_)
    (accounts_pure [] _)
  · exact Nat.le_max_right _ _
  · exact gives_bind fun parts => gives_pure (Nat.le_max_left _ _)

/-! ### The grammar -/

/-- A group is nested one deeper than what stands in it. -/
theorem accounts_group (within : Accounts limit (level + 1) inner Formula.groupDepth)
    (any : Gives inner fun formula => ∃ parts, formula = .any parts) :
    Accounts limit level (group inner) Formula.nesting := by
  intro cursor formula next due read
  rw [group, result_named] at read
  obtain ⟨_, behindOpen, opened, read⟩ := result_bind_eq_some.mp read
  obtain ⟨_, start, gap, read⟩ := result_bind_eq_some.mp read
  obtain ⟨_, stop, inside, read⟩ := result_bind_eq_some.mp read
  obtain ⟨_, beforeClose, gap', read⟩ := result_bind_eq_some.mp read
  obtain ⟨_, behindClose, closed, read⟩ := result_bind_eq_some.mp read
  cases read
  obtain ⟨parts, rfl⟩ := any.holds inside
  rw [Formula.nesting]
  have gaps := steady_gap _ (carried_due limit (level + 1))
  have opens : Alike (Due limit level) (mark ['(']) (mark ['(']) fun rest =>
      limit ≤ level ∨ Due limit (level + 1) rest := alike_mark fun _ due => due.opens
  have closes : Alike (Due limit (level + 1)) (mark [')']) (mark [')']) (Due limit level) :=
    alike_mark fun _ due => due.closes
  rcases opens.leaves due opened with reached | due
  · exact .inr (by omega)
  · rcases within start _ stop (gaps.leaves due gap) inside with due | deep
    · exact .inl (closes.leaves (gaps.leaves due gap') closed)
    · rw [Formula.groupDepth, Formula.nesting, Nat.add_sub_cancel] at deep
      exact .inr (by omega)

theorem Accounts.joined {separator : List Char} (passes : Passes separator)
    (accounts : Accounts limit level inner Formula.nesting) (size : Nat) :
    Accounts limit level (Grammar.joined size separator inner) Formula.nestingOf := by
  have carried := carried_due limit level
  have items : Accounts limit level (do mark separator; gap; inner) Formula.nesting :=
    .behind (steady_mark passes _ carried) fun _ => .behind (steady_gap _ carried) fun _ => accounts
  refine accounts.bind (fun part => .behind (steady_gap _ carried) fun _ =>
    (items.repeatedly size).map fun parts => ?_) fun part => ?_
  · exact Nat.le_max_right _ _
  · exact gives_bind fun _ => gives_bind fun parts => gives_pure (Nat.le_max_left _ _)

/-- **Alternatives account for their groups**, if what stands in a group does one level deeper. -/
theorem accounts_disjunctionOf (within : Accounts limit (level + 1) inner Formula.groupDepth)
    (any : Gives inner fun formula => ∃ parts, formula = .any parts) (size : Nat) :
    Accounts limit level (disjunctionOf size inner) Formula.groupDepth := by
  have carried := carried_due limit level
  have gaps := steady_gap _ carried
  have tests : Accounts limit level (do return Formula.test (← test)) Formula.nesting :=
    .behind (alike_test_due limit level) fun written => accounts_pure _ _
  have primaries : Accounts limit level (primary inner) Formula.nesting :=
    .named .primary ((accounts_group within any).orElse tests)
  have marks : Alike (Due limit level) negationMark negationMark (Due limit level) :=
    .named .negationMark (steady_mark (passes_of_forall (by decide)) _ carried)
  have unaries : Accounts limit level (unary size inner) Formula.nesting :=
    .named .unary (.behind (marks.repeatedly gaps size) fun count => .behind gaps fun _ =>
      primaries.map fun formula => (nesting_negated count.length formula).ge)
  have conjunctions : Accounts limit level (conjunction size inner) Formula.nesting :=
    .named .conjunction ((unaries.joined (passes_of_forall (by decide)) size).map fun parts => by
      rw [Formula.nesting])
  exact .named .disjunction
    ((conjunctions.joined (passes_of_forall (by decide)) size).map fun parts => by
      rw [Formula.groupDepth, Formula.nesting, Nat.add_sub_cancel])

/-- **Expressions account for their groups.** -/
theorem accounts_disjunction (size : Nat) :
    ∀ depth level, Accounts limit level (disjunction size depth) Formula.groupDepth
  | 0, _ => fun _ _ _ _ read => nomatch read
  | depth + 1, level => accounts_disjunctionOf (accounts_disjunction size depth (level + 1))
      (gives_disjunction_any size depth) size

/-! ### Whole texts -/

/-- **Parentheses that open no group do not count.** A limit that the groups of a formula keep to is
kept to by the outline of every text that the formula is read off, whatever its quotes and pattern
literals hold. -/
theorem nestingDepth_le_of_read (run : read text = .ok formula)
    (keeps : formula.groupDepth ≤ limit) : nestingDepth text ≤ limit := by
  by_contra deep
  have due : Due limit 0 text := ⟨false, 0, Nat.zero_le limit, Nat.not_le.mp deep⟩
  have gaps := steady_gap _ (carried_due limit 0)
  have ends : Alike (Due limit 0) endOfInput endOfInput fun _ => False := by
    refine alike_whole fun rest value length due taken => ?_
    split at taken
    · rename_i empty
      exact not_due_nil (List.isEmpty_iff.mp empty ▸ due)
    · cases taken
  obtain ⟨next, whole⟩ := exists_of_read run
  rw [expression, result_named] at whole
  obtain ⟨_, start, gap, whole⟩ := result_bind_eq_some.mp whole
  obtain ⟨_, stop, inside, whole⟩ := result_bind_eq_some.mp whole
  obtain ⟨_, last, gap', whole⟩ := result_bind_eq_some.mp whole
  obtain ⟨_, _, ended, whole⟩ := result_bind_eq_some.mp whole
  cases whole
  rcases accounts_disjunction _ _ 0 start _ stop (gaps.leaves due gap) inside with due | deep
  · exact ends.leaves (gaps.leaves due gap') ended
  · omega

/-- In `a =~ /[(]/ && (b || c == '((')` groups are nested one deep, and so is what the outline shows
of its parentheses. -/
theorem nestingDepth_quoted_parentheses :
    ∃ formula, read "a =~ /[(]/ && (b || c == '((')".toList = .ok formula ∧
      formula.groupDepth = 1 ∧ nestingDepth "a =~ /[(]/ && (b || c == '((')".toList ≤ 1 := by
  have reads : (read "a =~ /[(]/ && (b || c == '((')".toList).toOption.map Formula.groupDepth =
      some 1 := by decide +kernel
  cases run : read "a =~ /[(]/ && (b || c == '((')".toList with
  | error attempts =>
    rw [run] at reads
    cases reads
  | ok formula =>
    rw [run] at reads
    have one : formula.groupDepth = 1 := Option.some.inj reads
    exact ⟨formula, rfl, one, nestingDepth_le_of_read run one.le⟩

end WhenClause.Grammar
