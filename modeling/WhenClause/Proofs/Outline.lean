/-
**The outline of what texts write.**

The scan that finds the outline of a text knows no grammar. It `Passes` a text if, begun in plain
text, it ends in plain text with as many parentheses open as before. The lemmas here follow it
through each kind of token: through words, gaps and operators, from the quote that opens a quoted
text to the one that closes it, and from the slash that begins a pattern literal to the one that
ends it.

* `Writes.nests`: over a text of a phrase the depth grows by as much as groups are nested in it;
* `nestingDepth_of_writes`: so the depth of a whole text is found to be at most that.
-/

import WhenClause.Proofs.Phrase

namespace WhenClause.Grammar

variable {text text' rest gap word body content source more before behind : List Char}
  {depth : Depth} {behindEqual : Bool}

/-! ### Plain text -/

/-- The scan of a text that begins in plain text ends there, with the same depth. No `=~` may stand
directly before the text, and none stands at its end. -/
def Passes (text : List Char) : Prop :=
  ∀ behindEqual depth, ∃ behindEqual',
    text.foldl depthStep (.plain behindEqual false, depth) = (.plain behindEqual' false, depth)

theorem passes_nil : Passes [] := fun behindEqual _ => ⟨behindEqual, rfl⟩

theorem Passes.append (first : Passes text) (second : Passes text') : Passes (text ++ text') := by
  intro behindEqual depth
  obtain ⟨middle, same⟩ := first behindEqual depth
  obtain ⟨last, same'⟩ := second middle depth
  exact ⟨last, by rw [List.foldl_append, same, same']⟩

/-- A character of plain text, neither a quote nor the end of a `=~`. -/
theorem depthStep_plain {c : Char} (noQuote : c ≠ '\'') (noMatch : c ≠ '~') (behindEqual : Bool)
    (depth : Depth) :
    depthStep (.plain behindEqual false, depth) c = (.plain (c == '=') false, depth.step c) := by
  have step : (Mode.plain behindEqual false).step c = (.plain (c == '=') false, true) := by
    by_cases equal : c = '='
    · subst equal
      rfl
    · have other : (c == '=') = false := beq_false_of_ne equal
      simp only [Mode.step, noQuote, noMatch, equal, other, Bool.false_eq_true, and_false,
        false_and, if_false, ite_self]
  simp only [depthStep, step, if_true]

theorem Depth.step_of_ne {c : Char} (noOpen : c ≠ '(') (noClose : c ≠ ')') (depth : Depth) :
    depth.step c = depth := by
  rw [step, if_neg noOpen, if_neg noClose]

/-- Text without quotes, parentheses and `~` is passed. -/
theorem passes_of_forall (plain : ∀ c ∈ text, c ∉ ['\'', '~', '(', ')']) : Passes text := by
  intro behindEqual depth
  induction text generalizing behindEqual with
  | nil => exact ⟨behindEqual, rfl⟩
  | cons c text ih =>
    obtain ⟨first, rest⟩ := List.forall_mem_cons.mp plain
    simp only [List.mem_cons, List.not_mem_nil, or_false, not_or] at first
    obtain ⟨noQuote, noMatch, noOpen, noClose⟩ := first
    rw [List.foldl_cons, depthStep_plain noQuote noMatch, Depth.step_of_ne noOpen noClose]
    exact ih rest _

theorem Gap.passes (only : Gap gap) : Passes gap := by
  refine passes_of_forall fun c member marked => ?_
  have marks : ∀ c ∈ ['\'', '~', '(', ')'], isGap c = false := by decide
  have inGap := only c member
  rw [marks c marked] at inGap
  cases inGap

theorem passes_word (characters : ∀ c ∈ word, isWordCharacter c = true) : Passes word := by
  refine passes_of_forall fun c member marked => ?_
  have marks : ∀ c ∈ ['\'', '~', '(', ')'], isWordCharacter c = false := by decide
  have inWord := characters c member
  rw [marks c marked] at inWord
  cases inWord

/-! ### Quoted text -/

/-- Between quotes the scan only looks for a quote and for backslashes. -/
theorem Mode.step_quoted {c : Char} (noQuote : c ≠ '\'') (noEscape : c ≠ '\\') :
    Mode.quoted.step c = (.quoted, false) := by
  rw [step, if_neg noEscape, if_neg noQuote]

/-- **The scan leaves quoted text where the grammar does.** -/
theorem splitBodyFrom_eq (text : List Char) : ∀ before, ∃ body,
    (Quoted.splitBodyFrom before text).1 = before.reverse ++ body ∧
      text = body ++ (Quoted.splitBodyFrom before text).2 ∧
      ((Quoted.splitBodyFrom before text).2 ≠ [] →
        ∀ depth, body.foldl depthStep (.quoted, depth) = (.quoted, depth)) := by
  induction text using source_cases with
  | nil => exact fun before => ⟨[], by simp [Quoted.splitBodyFrom]⟩
  | open' => exact fun before => ⟨['\\'], by simp [Quoted.splitBodyFrom]⟩
  | escape escaped rest ih =>
    intro before
    obtain ⟨body, first, parts, scan⟩ := ih (escaped :: '\\' :: before)
    refine ⟨'\\' :: escaped :: body, ?_, ?_, fun some' depth => ?_⟩
    · rw [Quoted.splitBodyFrom, first]
      simp
    · rw [Quoted.splitBodyFrom]
      exact congrArg (fun text => '\\' :: escaped :: text) parts
    · rw [Quoted.splitBodyFrom] at some'
      exact scan some' depth
  | other c rest noEscape ih =>
    intro before
    by_cases quote : c = '\''
    · subst quote
      exact ⟨[], by simp [Quoted.splitBodyFrom]⟩
    obtain ⟨body, first, parts, scan⟩ := ih (c :: before)
    rw [splitBodyFrom_cons ⟨quote, noEscape⟩]
    refine ⟨c :: body, ?_, congrArg (c :: ·) parts, fun some' depth => ?_⟩
    · rw [first]
      simp
    · have stays : depthStep (.quoted, depth) c = (.quoted, depth) := by
        rw [depthStep, Mode.step_quoted quote noEscape]
        rfl
      rw [List.foldl_cons, stays]
      exact scan some' depth

/-- Between its quotes a quoted text is passed. -/
theorem passes_quoted (split : Quoted.splitBody text = (body, '\'' :: more)) :
    text = body ++ '\'' :: more ∧ Passes ('\'' :: (body ++ ['\''])) := by
  obtain ⟨body', first, parts, scan⟩ := splitBodyFrom_eq text []
  rw [show Quoted.splitBodyFrom [] text = (body, '\'' :: more) from split] at first parts scan
  obtain rfl : body = body' := by simpa using first
  refine ⟨parts, fun behindEqual depth => ⟨false, ?_⟩⟩
  rw [List.foldl_cons, List.foldl_append]
  show [_].foldl depthStep (body.foldl depthStep (.quoted, depth)) = _
  rw [scan (List.cons_ne_nil _ _)]
  rfl

/-- As quoted text the grammar takes a body up to the quote that ends it, and the quotes. -/
theorem exists_take_quotedString : ∃ take, quotedString = Reader.whole .quotedString take ∧
    ∀ text content length, take text = some (content, length) → ∃ body more,
      text = '\'' :: (body ++ '\'' :: more) ∧
        Quoted.splitBody (body ++ '\'' :: more) = (body, '\'' :: more) ∧
        content = Quoted.unescape body ∧ length = body.length + 2 := by
  refine ⟨_, rfl, fun text content length taken => ?_⟩
  split at taken
  · split at taken
    · rename_i rest body more split
      cases taken
      obtain ⟨rfl, -⟩ := passes_quoted split
      exact ⟨body, more, rfl, split, rfl, rfl⟩
    · cases taken
  · cases taken

theorem QuotedAs.passes (quoted : QuotedAs content body) : Passes ('\'' :: (body ++ ['\''])) :=
  (passes_quoted (splitBodyFrom_append quoted [] [])).2

/-! ### Pattern literals -/

/-- The scan of what follows from a place on ends outside the classes of pattern literals. -/
def EndsOutside (mode : Mode) (text : List Char) : Prop :=
  (text.foldl (fun mode c => (mode.step c).1) mode) ∉ [.pattern true, .patternEscape true]

theorem foldl_depthStep_fst (text : List Char) (mode : Mode) (depth : Depth) :
    (text.foldl depthStep (mode, depth)).1 = text.foldl (fun mode c => (mode.step c).1) mode := by
  induction text generalizing mode depth with
  | nil => rfl
  | cons c text ih => exact ih _ _

theorem depthStep_pattern {c : Char} (noEscape : c ≠ '\\') (inClass : Bool)
    (stays : inClass = false → c ≠ '/') (depth : Depth) :
    depthStep (.pattern inClass, depth) c =
      (.pattern (if inClass then c != ']' else c == '['), depth) := by
  cases inClass with
  | true =>
    by_cases opens : c = '['
    · subst opens
      rfl
    by_cases closes : c = ']'
    · subst closes
      rfl
    simp [depthStep, Mode.step, noEscape, opens, closes]
  | false =>
    by_cases opens : c = '['
    · subst opens
      rfl
    simp [depthStep, Mode.step, noEscape, opens, stays rfl]

/-- A class that is never closed is never left. -/
theorem not_endsOutside_of_closesClass (open' : closesClass text = false) :
    ¬EndsOutside (.pattern true) text := by
  unfold EndsOutside
  rw [not_not]
  induction text using source_cases with
  | nil => decide
  | open' => decide
  | escape escaped rest ih =>
    rw [closesClass] at open'
    exact ih open'
  | other c rest noEscape ih =>
    rw [closesClass_cons noEscape, Bool.or_eq_false_iff] at open'
    obtain ⟨noClose, open'⟩ := open'
    have step : ((Mode.pattern true).step c).1 = .pattern true := by
      have := congrArg Prod.fst (depthStep_pattern noEscape true (absurd · (by decide)) ⟨0, 0⟩)
      simpa [depthStep, bne, noClose] using this
    rw [List.foldl_cons, step]
    exact ih open'

/-- What a character that does not end a pattern source leaves the scan in. -/
theorem EndsOutside.tail {c : Char} {inClass : Bool} (noEscape : c ≠ '\\')
    (stays : inClass = false → c ≠ '/') (outside : EndsOutside (.pattern inClass) (c :: rest)) :
    EndsOutside (.pattern (if inClass then c != ']' else c == '[')) rest := by
  have step : ((Mode.pattern inClass).step c).1 =
      .pattern (if inClass then c != ']' else c == '[') :=
    congrArg Prod.fst (depthStep_pattern noEscape inClass stays ⟨0, 0⟩)
  unfold EndsOutside at outside ⊢
  rwa [List.foldl_cons, step] at outside

/-- The grammar goes on where the scan does: it enters a class only if it is closed, and then the
scan leaves it too. -/
theorem exists_splitSourceFrom_cons {c : Char} {inClass : Bool} (noEscape : c ≠ '\\')
    (stays : ¬(inClass = false ∧ (c = '/' ∨ c = '\n' ∨ c = '\r'))) (before rest : List Char) :
    ∃ next, splitSourceFrom before inClass (c :: rest) = splitSourceFrom (c :: before) next rest ∧
      (EndsOutside (.pattern (if inClass then c != ']' else c == '[')) rest →
        next = if inClass then c != ']' else c == '[') := by
  rw [splitSourceFrom_cons noEscape]
  cases inClass with
  | true => exact ⟨c != ']', rfl, fun _ => rfl⟩
  | false =>
    refine ⟨c == '[' && closesClass rest, ?_, fun outside => ?_⟩
    · rw [if_neg Bool.false_ne_true, if_neg fun ending => stays ⟨rfl, ending⟩]
    · cases opens : c == '[' with
      | false => rfl
      | true =>
        rw [if_neg Bool.false_ne_true, opens] at outside
        rw [if_neg Bool.false_ne_true, Bool.true_and]
        by_contra open'
        exact not_endsOutside_of_closesClass (Bool.eq_false_iff.mpr open') outside

/-- **The scan leaves a pattern source where the grammar does**, if every class that it enters from
there on is closed. -/
theorem splitSourceFrom_eq (text : List Char) : ∀ before inClass, ∃ source,
    (splitSourceFrom before inClass text).1 = before.reverse ++ source ∧
      text = source ++ (splitSourceFrom before inClass text).2 ∧
      ((splitSourceFrom before inClass text).2 ≠ [] → EndsOutside (.pattern inClass) text →
        ∀ depth, source.foldl depthStep (.pattern inClass, depth) = (.pattern false, depth)) := by
  induction text using source_cases with
  | nil => exact fun before inClass => ⟨[], by simp [splitSourceFrom]⟩
  | open' =>
    intro before inClass
    refine ⟨['\\'], ?_⟩
    cases inClass <;> simp [splitSourceFrom]
  | escape escaped rest ih =>
    intro before inClass
    obtain ⟨source, first, parts, scan⟩ := ih (escaped :: '\\' :: before) inClass
    refine ⟨'\\' :: escaped :: source, ?_, ?_, fun some' outside depth => ?_⟩
    · rw [splitSourceFrom, first]
      simp
    · rw [splitSourceFrom]
      exact congrArg (fun text => '\\' :: escaped :: text) parts
    · rw [splitSourceFrom] at some'
      exact scan some' outside depth
  | other c rest noEscape ih =>
    intro before inClass
    by_cases ends : inClass = false ∧ (c = '/' ∨ c = '\n' ∨ c = '\r')
    · obtain ⟨rfl, ending⟩ := ends
      refine ⟨[], ?_⟩
      rw [splitSourceFrom_cons noEscape, if_neg Bool.false_ne_true, if_pos ending]
      simp
    obtain ⟨next, unfolds, enters⟩ := exists_splitSourceFrom_cons noEscape ends before rest
    obtain ⟨source, first, parts, scan⟩ := ih (c :: before) next
    rw [unfolds]
    refine ⟨c :: source, ?_, congrArg (c :: ·) parts, fun some' outside depth => ?_⟩
    · rw [first]
      simp
    · have noSlash : inClass = false → c ≠ '/' := fun plain slash => ends ⟨plain, .inl slash⟩
      have outside' := outside.tail noEscape noSlash
      rw [List.foldl_cons, depthStep_pattern noEscape inClass noSlash, ← enters outside']
      rw [← enters outside'] at outside'
      exact scan some' outside' depth

theorem SourceRest.scan {inClass : Bool} (more : SourceRest inClass source) (depth : Depth) :
    source.foldl depthStep (.pattern inClass, depth) = (.pattern false, depth) := by
  induction more with
  | done => rfl
  | escape _ ih => exact ih
  | @other inClass c rest noEscape noEnd _ ih =>
    rw [List.foldl_cons, depthStep_pattern noEscape inClass fun plain slash =>
      noEnd plain (.inl slash)]
    exact ih

/-- Behind a `=~` a gap leaves the scan where it is. -/
theorem foldl_depthStep_gap (only : Gap gap) (depth : Depth) :
    gap.foldl depthStep (.plain false true, depth) = (.plain false true, depth) := by
  induction gap with
  | nil => rfl
  | cons c gap ih =>
    obtain ⟨first, rest⟩ := List.forall_mem_cons.mp only
    have step : depthStep (.plain false true, depth) c = (.plain false true, depth) := by
      simp only [isGap, Bool.or_eq_true, beq_iff_eq] at first
      rcases first with ((rfl | rfl) | rfl) | rfl <;> rfl
    rw [List.foldl_cons, step]
    exact ih rest

/-- Behind a `=~` and a gap a slash begins a pattern literal. -/
theorem passes_pattern (only : Gap gap)
    (scan : ∀ depth, source.foldl depthStep (.pattern false, depth) = (.pattern false, depth)) :
    Passes ("=~".toList ++ (gap ++ ('/' :: (source ++ ['/'])))) := by
  intro behindEqual depth
  refine ⟨false, ?_⟩
  have matched : "=~".toList.foldl depthStep (.plain behindEqual false, depth) =
      (.plain false true, depth) := rfl
  rw [List.foldl_append, matched, List.foldl_append, foldl_depthStep_gap only, List.foldl_cons]
  show (source ++ ['/']).foldl depthStep (.pattern false, depth) = _
  rw [List.foldl_append, scan]
  rfl

/-! ### Tokens -/

theorem IsWord.passes (isWord : IsWord word) : Passes word := passes_word isWord.characters

theorem KeyText.passes (isKey : KeyText content text) : Passes text := by
  cases isKey with
  | bare isWord => exact isWord.passes
  | quoted quoted => exact quoted.passes

theorem passes_operator {operator : Operator} (isOperator : OperatorText operator text) :
    Passes text := by
  refine passes_of_forall ?_
  cases isOperator with
  | ordered comparison => cases comparison <;> decide
  | _ => decide

/-- A number is made of characters of one word. -/
theorem characters_of_takeNumber {digits : List Char} {length : Nat}
    (taken : takeNumber text = some (digits, length)) :
    ∀ c ∈ text.take length, isWordCharacter c = true := by
  have parts : text = wordOf text ++ text.dropWhile isWordCharacter :=
    List.takeWhile_append_dropWhile.symm
  have ends : EndsWord (text.dropWhile isWordCharacter) := by
    intro c first
    have stop := List.head?_dropWhile_not isWordCharacter text
    rw [Option.mem_def.mp first] at stop
    simpa using stop
  have front := eq_take_of_takeNumber taken
  rw [parts, takeNumber_append ends] at taken
  intro c member
  rw [← front, eq_take_of_takeNumber taken] at member
  exact List.mem_takeWhile_imp (List.mem_of_mem_take member)

theorem passes_number {number : Double} (isNumber : NumberText number text) : Passes text := by
  have characters := characters_of_takeNumber isNumber.whole
  rw [List.take_length] at characters
  exact passes_word characters

theorem passes_constant (holds : Bool) : Passes (Value.booleanText holds).toList :=
  passes_word (booleanText_characters holds)

theorem ValueText.passes {value : Value} (isValue : ValueText value text) : Passes text := by
  cases isValue with
  | boolean holds => exact passes_constant holds
  | number isNumber => exact passes_number isNumber
  | quoted quoted => exact quoted.passes
  | bare isWord => exact isWord.passes

/-! ### Phrases -/

/-- The scan of a text that begins in plain text ends there with as many parentheses open, and has
found them nested at most so much deeper. -/
def Nests (deeper : Nat) (text : List Char) : Prop :=
  ∀ behindEqual depth, ∃ behindEqual' greatest,
    text.foldl depthStep (.plain behindEqual false, depth) =
        (.plain behindEqual' false, ⟨depth.current, greatest⟩) ∧
      greatest ≤ max depth.greatest (depth.current + deeper)

theorem Passes.nests (passes : Passes text) (deeper : Nat) : Nests deeper text := by
  intro behindEqual depth
  obtain ⟨behindEqual', same⟩ := passes behindEqual depth
  exact ⟨behindEqual', depth.greatest, same, Nat.le_max_left _ _⟩

theorem Nests.append {deeper : Nat} (first : Nests deeper text) (second : Nests deeper text') :
    Nests deeper (text ++ text') := by
  intro behindEqual depth
  obtain ⟨middle, greatest, same, atMost⟩ := first behindEqual depth
  obtain ⟨last, greatest', same', atMost'⟩ := second middle ⟨depth.current, greatest⟩
  refine ⟨last, greatest', by rw [List.foldl_append, same, same'], ?_⟩
  simp only at atMost'
  omega

theorem nests_group {deeper : Nat} (inner : Nests deeper text) :
    Nests (deeper + 1) ('(' :: (text ++ [')'])) := by
  intro behindEqual depth
  obtain ⟨behindEqual', greatest, same, atMost⟩ :=
    inner false ⟨depth.current + 1, max depth.greatest (depth.current + 1)⟩
  refine ⟨false, greatest, ?_, ?_⟩
  · have opens : depthStep (.plain behindEqual false, depth) '(' =
        (.plain false false, ⟨depth.current + 1, max depth.greatest (depth.current + 1)⟩) :=
      depthStep_plain (by decide) (by decide) behindEqual depth
    have closes := depthStep_plain (c := ')') (by decide) (by decide) behindEqual'
      ⟨depth.current + 1, greatest⟩
    rw [List.foldl_cons, opens, List.foldl_append, same, List.foldl_cons, closes]
    rfl
  · simp only at atMost
    omega

theorem Marks.passes {count : Nat} (marks : Marks count text) : Passes text := by
  induction marks with
  | none => exact passes_nil
  | mark only _ ih =>
    exact (show Passes ['!'] from passes_of_forall (by decide)).append (only.passes.append ih)

theorem Nests.nestingDepth_le {deeper : Nat} (nests : Nests deeper text) :
    nestingDepth text ≤ deeper := by
  obtain ⟨behindEqual, greatest, same, atMost⟩ := nests false ⟨0, 0⟩
  rw [nestingDepth, Mode.start, same]
  simpa using atMost

variable [PatternEngine] {phrase : Phrase} {sentence : Sentence}

theorem TestText.passes {literal : Literal} (isTest : TestText literal text) : Passes text := by
  cases isTest with
  | has isKey => exact isKey.passes
  | @matching name key before behind text pattern isKey only only' isPattern =>
    cases isPattern with
    | @intro source flags made whole closed sealed =>
      have shape : key ++ (before ++ ("=~".toList ++ (behind ++ ('/' :: source ++ '/' :: flags)))) =
          key ++ (before ++ (("=~".toList ++ (behind ++ ('/' :: (source ++ ['/'])))) ++ flags)) := by
        simp only [List.append_assoc, List.cons_append, List.nil_append]
      have letters : Passes flags := passes_word fun flag member =>
        isWordCharacter_of_isAlpha (isAlpha_of_ofSource made flag member)
      rw [shape]
      exact isKey.passes.append (only.passes.append
        ((passes_pattern only' (sourceRest whole closed sealed).scan).append letters))
  | member isKey only _ only' _ isKey' =>
    exact isKey.passes.append (only.passes.append
      ((passes_word (by decide)).append (only'.passes.append isKey'.passes)))
  | notMember isKey only _ only' _ only'' _ isKey' =>
    exact isKey.passes.append (only.passes.append ((passes_word (by decide)).append
      (only'.passes.append ((passes_word (by decide)).append (only''.passes.append isKey'.passes)))))
  | compare isKey only _ isOperator only' isValue =>
    exact isKey.passes.append (only.passes.append
      ((passes_operator isOperator).append (only'.passes.append isValue.passes)))

/-- **Over a text of a phrase the depth grows by what groups are nested in it.** -/
theorem Writes.nests {deeper : Nat} (writes : Writes deeper phrase text) : Nests deeper text := by
  induction writes with
  | constant holds => exact (passes_constant holds).nests _
  | test isTest => exact isTest.passes.nests _
  | group only _ only' ih =>
    have inside := (only.passes.nests _).append (ih.append (only'.passes.nests _))
    simpa only [List.append_assoc] using nests_group inside
  | unary marks _ ih => exact (marks.passes.nests _).append ih
  | conjunct _ ih => exact ih
  | alternative _ ih => exact ih
  | join _ _ ih ih' => exact ih.append ih'
  | none => exact passes_nil.nests _
  | @part _ join _ _ _ _ _ _ only only' _ _ ih ih' =>
    have mark : Passes join.mark := by cases join <;> exact passes_of_forall (by decide)
    exact (only.passes.nests _).append ((mark.nests _).append
      ((only'.passes.nests _).append (ih.append ih')))

/-- **The depth of a whole text is found to be at most that of the groups in it.** -/
theorem nestingDepth_of_writes {deeper : Nat} (only : Gap before)
    (writes : Writes deeper (.joined .any sentence) text) (only' : Gap behind) :
    nestingDepth (before ++ (text ++ behind)) ≤ deeper :=
  ((only.passes.nests deeper).append
    (writes.nests.append (only'.passes.nests deeper))).nestingDepth_le

end WhenClause.Grammar
