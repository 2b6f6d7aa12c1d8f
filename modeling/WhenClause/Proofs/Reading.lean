/-
**The grammar reads what texts write.**

`Phrase.Accepted` says that the reader for the place of a phrase reads a text in front of another one
as formulas that stand for the phrase. Readers may skip the gap behind what they read or leave it, so
where they end is told up to the gap in front (`Cursor.skipGap`).

* `result_joined`: parts of a join are read up to the last one;
* `accepted_unary`, `accepted_join`, …: a text is accepted at a place if its parts are at theirs;
* `Writes.accepted`: by induction on how a text is written, every text of a phrase is accepted, if
  the readers may go deep enough for its groups;
* `read_of_accepted`, `read_of_writes`: so the formula of a whole text stands for the sentence that
  it writes.
-/

import WhenClause.Proofs.Phrase

namespace WhenClause.Grammar

open Reader

variable {size depth count : Nat} {inner : Reader Formula} {join : Join}
  {text rest before behind : List Char} {position : Nat}

/-! ### Readers of joins -/

/-- The reader of one part of a join. -/
def Join.item (size : Nat) (inner : Reader Formula) : Join → Reader Formula
  | .all => unary size inner
  | .any => conjunction size inner

/-- The reader of a part with the mark before it. -/
def Join.step (size : Nat) (inner : Reader Formula) (join : Join) : Reader Formula := do
  gap
  (do Reader.mark join.mark; gap; join.item size inner)

theorem step_refused {cursor : Cursor} (other : ∀ c ∈ (cursor.rest.dropWhile isGap).head?,
    c ∉ join.mark) : (join.step size inner cursor).result = none := by
  obtain ⟨place, skip⟩ := cursor.exists_skipGap
  rw [Join.step, result_bind, result_gap, Option.bind_some, result_bind, skip]
  have refused : (mark join.mark ⟨place, cursor.rest.dropWhile isGap⟩).result = none := by
    cases join <;>
    · refine refuses_mark_of_head_ne ?_ place
      rintro _ member rfl
      exact other _ member List.mem_cons_self
  rw [refused, Option.bind_none]

/-- The mark before a part of a join is read with the part. -/
theorem result_step {formula : Formula} {cursor middle : Cursor} (only : Gap before)
    (only' : Gap behind) (begins : Begins text)
    (same : cursor.skipGap =
      (⟨position, before ++ (join.mark ++ (behind ++ (text ++ rest)))⟩ : Cursor).skipGap)
    (read : (join.item size inner
        ⟨position + before.length + join.mark.length + behind.length, text ++ rest⟩).result =
      some (formula, middle)) :
    (join.step size inner cursor).result = some (formula, middle) := by
  have settled : Settled (join.mark ++ (behind ++ (text ++ rest))) := by
    cases join <;> exact settled_cons (by decide)
  have front := same.trans (only.skipGap_of_settled position settled)
  have skip := only'.skipGap_of_settled (position + before.length + join.mark.length)
    (begins.settled rest)
  obtain ⟨_, marked, -⟩ :=
    takes_mark join.mark (behind ++ (text ++ rest)) (position + before.length)
  simp only [Join.step, result_bind, result_gap, front, marked, skip, read, Option.bind_some]

/-! ### Marks of negation -/

theorem Marks.repeats (marks : Marks count before) (begins : Settled (text ++ rest))
    (position : Nat) (cursor : Cursor)
    (same : cursor.skipGap = (⟨position, before ++ (text ++ rest)⟩ : Cursor).skipGap) :
    ∃ behind, Repeats (do gap; negationMark) cursor (List.replicate count ()) behind ∧
      behind.skipGap = ⟨position + before.length, text ++ rest⟩ := by
  induction marks generalizing position cursor with
  | none => exact ⟨cursor, .stop cursor, by rw [same]; exact Cursor.skipGap_of_settled begins⟩
  | @mark count gap before only marks ih =>
    have settled : Settled ('!' :: (gap ++ before) ++ (text ++ rest)) := settled_cons (by decide)
    have same := same.trans (Cursor.skipGap_of_settled settled)
    obtain ⟨behind, repeats, place⟩ := ih (position + 1 + gap.length)
      ⟨position + 1, gap ++ before ++ (text ++ rest)⟩ (by
        rw [List.append_assoc, only.skipGap_append])
    refine ⟨behind, .next ?_ repeats, ?_⟩
    · rw [result_bind, result_gap, Option.bind_some, same, negationMark, result_named]
      obtain ⟨_, read, -⟩ := takes_mark ['!'] (gap ++ before ++ (text ++ rest)) position
      exact read
    · rw [place]
      congr 1
      simp only [List.length_cons, List.length_append]
      omega

theorem Marks.count_le (marks : Marks count before) : count ≤ before.length := by
  induction marks with
  | none => exact Nat.le_refl 0
  | mark =>
    simp only [List.length_cons, List.length_append]
    omega

/-! ### Tests and groups -/

theorem follows_closing (only : Gap behind) (rest : List Char) :
    Follows [')'] (behind ++ (')' :: rest)) := by
  unfold Follows
  rw [only.dropWhile_append]
  rintro _ ⟨⟩
  decide

/-- A test is no group, as it begins otherwise. -/
theorem refuses_group (begins : BeginsWord text) : Refuses (group inner) (text ++ rest) :=
  .named ((refuses_mark_of_head_ne ((begins.append rest).head_ne (by decide))).bind _)

theorem takes_primary_of_test {good : WrittenTest → Prop} (begins : BeginsWord text)
    (takes : Takes test text rest good) :
    Takes (primary inner) text rest fun formula => ∃ written, formula = .test written ∧ good written :=
  .named ((refuses_group begins).orElse (takes.map fun written holds => ⟨written, rfl, holds⟩))

/-- A disjunction between parentheses is a primary expression. -/
theorem result_primary_of_group {formula : Formula} (only : Gap before)
    (only' : Gap behind) (begins : Begins text)
    {cursor : Cursor}
    (read : (inner ⟨position + 1 + before.length, text ++ (behind ++ (')' :: rest))⟩).result =
      some (formula, cursor))
    (place : cursor.skipGap =
      (⟨position + 1 + before.length + text.length, behind ++ (')' :: rest)⟩ : Cursor).skipGap) :
    (primary inner ⟨position, '(' :: (before ++ (text ++ (behind ++ [')']))) ++ rest⟩).result =
      some (formula,
        ⟨position + ('(' :: (before ++ (text ++ (behind ++ [')'])))).length, rest⟩) := by
  have shape : '(' :: (before ++ (text ++ (behind ++ [')']))) ++ rest =
      ['('] ++ (before ++ (text ++ (behind ++ ([')'] ++ rest)))) := by simp
  have length : position + ('(' :: (before ++ (text ++ (behind ++ [')'])))).length =
      position + ['('].length + before.length + text.length + behind.length + [')'].length := by
    simp only [List.length_cons, List.length_append, List.length_nil]
    omega
  rw [shape, length]
  obtain ⟨_, opens, -⟩ := takes_mark ['('] (before ++ (text ++ (behind ++ ([')'] ++ rest)))) position
  have skip := only.skipGap_of_settled (position + ['('].length)
    (begins.settled (behind ++ ([')'] ++ rest)))
  have skip' : cursor.skipGap =
      ⟨position + ['('].length + before.length + text.length + behind.length, [')'] ++ rest⟩ :=
    place.trans (only'.skipGap_of_settled _ (settled_cons (by decide)))
  obtain ⟨_, closes, -⟩ := takes_mark [')'] rest
    (position + ['('].length + before.length + text.length + behind.length)
  have inside : (inner ⟨position + ['('].length + before.length,
      text ++ (behind ++ ([')'] ++ rest))⟩).result = some (formula, cursor) := read
  simp only [primary, result_named, result_orElse, group, result_bind, opens, result_gap, skip,
    inside, skip', closes, result_pure, Option.bind_some, Option.some_or]

/-- Marks of negation stand before a primary expression. -/
theorem result_unary {formula : Formula} {behind' : Cursor} (marks : Marks count before)
    (begins : Begins text) (noMark : ∀ c ∈ (text ++ rest).head?, c ≠ '!')
    (enough : before.length ≤ size)
    (read : (primary inner ⟨position + before.length, text ++ rest⟩).result =
      some (formula, behind')) :
    (unary size inner ⟨position, before ++ (text ++ rest)⟩).result =
      some (negated count formula, behind') := by
  obtain ⟨behind, repeats, place⟩ :=
    marks.repeats (begins.settled rest) position ⟨position, _⟩ rfl
  have refused : ((do gap; negationMark : Reader Unit) behind).result = none := by
    rw [result_bind, result_gap, Option.bind_some, place, negationMark, result_named]
    exact refuses_mark_of_head_ne noMark _
  have settled : Settled (before ++ (text ++ rest)) := by
    cases marks with
    | none => exact begins.settled rest
    | mark => exact settled_cons (by decide)
  have few : (List.replicate count ()).length ≤ size + 1 := by
    have := marks.count_le
    rw [List.length_replicate]
    omega
  have all := result_repeatedly_of_repeats settled repeats refused few
  simp only [unary, result_named, result_bind, all, result_gap, place, read, result_pure,
    Option.bind_some, List.length_replicate]

/-! ### Phrases -/

variable [PatternEngine] {sentence : Sentence} {phrase : Phrase}

/-- The reader for the place of a phrase reads the text, if what stands behind it may follow. -/
def Phrase.Accepted (depth size : Nat) (inner : Reader Formula) (text rest : List Char) :
    Phrase → Prop
  | .primary sentence => Follows testEnds rest → ∀ position, ∃ formula,
      (Grammar.primary inner ⟨position, text ++ rest⟩).result =
        some (formula, ⟨position + text.length, rest⟩) ∧
      Reads depth [formula] (.primary sentence)
  | .unary sentence => Follows testEnds rest → ∀ position, ∃ formula,
      (Grammar.unary size inner ⟨position, text ++ rest⟩).result =
        some (formula, ⟨position + text.length, rest⟩) ∧
      Reads depth [formula] (.unary sentence)
  | .joined join sentence => Follows join.ends rest → ∀ position,
      ∃ formula middle formulas behind,
        (join.item size inner ⟨position, text ++ rest⟩).result = some (formula, middle) ∧
        Repeats (join.step size inner) middle formulas behind ∧
        behind.skipGap = (⟨position + text.length, rest⟩ : Cursor).skipGap ∧
        formulas.length < text.length ∧ Reads depth (formula :: formulas) (.joined join sentence)
  | .more join sentences => Follows join.ends rest → ∀ position (cursor : Cursor),
      cursor.skipGap = (⟨position, text ++ rest⟩ : Cursor).skipGap →
      ∃ formulas behind, Repeats (join.step size inner) cursor formulas behind ∧
        behind.skipGap = (⟨position + text.length, rest⟩ : Cursor).skipGap ∧
        formulas.length ≤ text.length ∧ Reads depth formulas (.more join sentences)

/-- **The parts of a join are read up to the last one.** -/
theorem result_joined (accepted : (Phrase.joined join sentence).Accepted depth size inner text rest)
    (follows : Follows join.ends rest) (stops : ∀ c ∈ (rest.dropWhile isGap).head?, c ∉ join.mark)
    (enough : text.length ≤ size) (position : Nat) :
    ∃ formulas behind, (joined size join.mark (join.item size inner) ⟨position, text ++ rest⟩).result =
        some (formulas, behind) ∧
      behind.skipGap = (⟨position + text.length, rest⟩ : Cursor).skipGap ∧
      Reads depth formulas (.joined join sentence) := by
  obtain ⟨formula, middle, formulas, behind, first, repeats, place, few, reads⟩ :=
    accepted follows position
  obtain ⟨behind', repeats', place'⟩ := repeats.skipGap middle.skipGap_skipGap.symm
  have end' : behind'.rest.dropWhile isGap = rest.dropWhile isGap := by
    have := congrArg Cursor.rest (place'.trans place)
    rwa [Cursor.rest_skipGap, Cursor.rest_skipGap] at this
  have refused : (join.step size inner behind').result = none := step_refused (by rwa [end'])
  have enough' : formulas.length ≤ size + 1 := by omega
  have more := result_repeatedly_of_repeats middle.settled_skipGap repeats' refused enough'
  refine ⟨formula :: formulas, behind', ?_, place'.trans place, reads⟩
  rw [joined, result_bind, first, Option.bind_some, result_bind, result_gap, Option.bind_some,
    result_bind, more, Option.bind_some, result_pure]

/-- Alternatives are joined conjunctions. -/
theorem result_conjunction
    (accepted : (Phrase.joined .all sentence).Accepted depth size inner text rest)
    (follows : Follows Join.any.ends rest) (enough : text.length ≤ size) (position : Nat) :
    ∃ formulas behind, (conjunction size inner ⟨position, text ++ rest⟩).result =
        some (.all formulas, behind) ∧
      behind.skipGap = (⟨position + text.length, rest⟩ : Cursor).skipGap ∧
      Reads depth formulas (.joined .all sentence) := by
  have wider : ∀ c ∈ Join.any.ends, c ∈ Join.all.ends ∧ c ∉ Join.all.mark := by decide
  obtain ⟨formulas, behind, read, place, reads⟩ := result_joined accepted
    (fun c first => (wider c (follows c first)).1) (fun c first => (wider c (follows c first)).2)
    enough position
  refine ⟨formulas, behind, ?_, place, reads⟩
  have read' : (joined size ['&', '&'] (unary size inner) ⟨position, text ++ rest⟩).result =
    some (formulas, behind) := read
  rw [conjunction, result_named, result_bind, read', Option.bind_some, result_pure]

/-- A whole disjunction is read where it ends or a parenthesis closes it. -/
theorem result_disjunctionOf
    (accepted : (Phrase.joined .any sentence).Accepted depth size inner text rest)
    (follows : Follows [')'] rest) (enough : text.length ≤ size) (position : Nat) :
    ∃ formulas behind, (disjunctionOf size inner ⟨position, text ++ rest⟩).result =
        some (.any formulas, behind) ∧
      behind.skipGap = (⟨position + text.length, rest⟩ : Cursor).skipGap ∧
      Reads depth formulas (.joined .any sentence) := by
  have wider : ∀ c ∈ [')'], c ∈ Join.any.ends ∧ c ∉ Join.any.mark := by decide
  obtain ⟨formulas, behind, read, place, reads⟩ := result_joined accepted
    (fun c first => (wider c (follows c first)).1) (fun c first => (wider c (follows c first)).2)
    enough position
  refine ⟨formulas, behind, ?_, place, reads⟩
  have read' : (joined size ['|', '|'] (conjunction size inner) ⟨position, text ++ rest⟩).result =
    some (formulas, behind) := read
  rw [disjunctionOf, result_named, result_bind, read', Option.bind_some, result_pure]

/-- A part of a join is read together with the parts behind it. -/
theorem accepted_append {sentences : List Sentence} {text' : List Char}
    (first : (Phrase.joined join sentence).Accepted depth size inner text (text' ++ rest))
    (more : (Phrase.more join sentences).Accepted depth size inner text' rest)
    (follows : Follows join.ends rest) (follows' : Follows join.ends (text' ++ rest))
    (position : Nat) :
    ∃ formula middle formulas formulas' behind,
      (join.item size inner ⟨position, text ++ (text' ++ rest)⟩).result = some (formula, middle) ∧
      Repeats (join.step size inner) middle (formulas ++ formulas') behind ∧
      behind.skipGap = (⟨position + text.length + text'.length, rest⟩ : Cursor).skipGap ∧
      formulas.length + formulas'.length < text.length + text'.length ∧
      Reads depth (formula :: formulas) (.joined join sentence) ∧
      Reads depth formulas' (.more join sentences) := by
  obtain ⟨formula, middle, formulas, behind, read, repeats, place, few, reads⟩ :=
    first follows' position
  obtain ⟨formulas', behind', repeats', place', few', reads'⟩ :=
    more follows (position + text.length) behind place
  exact ⟨formula, middle, formulas, formulas', behind', read, repeats.append repeats', place',
    Nat.add_lt_add_of_lt_of_le few few', reads, reads'⟩

/-! ### One rule for each place -/

theorem accepted_of_takes_test {good : WrittenTest → Prop} (begins : BeginsWord text)
    (takes : Follows testEnds rest → Takes test text rest good)
    (reads : ∀ written, good written → Reads depth [.test written] (.primary sentence)) :
    (Phrase.primary sentence).Accepted depth size inner text rest := by
  intro follows
  refine (takes_primary_of_test begins (takes follows)).mono ?_
  rintro _ ⟨written, rfl, holds⟩
  exact reads written holds

theorem accepted_unary (marks : Marks count before) (begins : Begins text)
    (noMark : ∀ c ∈ (text ++ rest).head?, c ≠ '!') (enough : before.length ≤ size)
    (accepted : (Phrase.primary sentence).Accepted depth size inner text rest) :
    (Phrase.unary (negations count sentence)).Accepted depth size inner (before ++ text) rest := by
  intro follows position
  obtain ⟨formula, read, reads⟩ := accepted follows (position + before.length)
  refine ⟨negated count formula, ?_, .unary count reads⟩
  rw [List.append_assoc, List.length_append, ← Nat.add_assoc]
  exact result_unary marks begins noMark enough read

theorem accepted_conjunct (begins : Begins text)
    (accepted : (Phrase.unary sentence).Accepted depth size inner text rest) :
    (Phrase.joined .all sentence).Accepted depth size inner text rest := by
  intro follows position
  obtain ⟨formula, read, reads⟩ := accepted follows position
  exact ⟨formula, _, [], _, read, .stop _, rfl, begins.length_pos, .conjunct reads⟩

theorem accepted_alternative (begins : Begins text) (enough : text.length ≤ size)
    (accepted : (Phrase.joined .all sentence).Accepted depth size inner text rest) :
    (Phrase.joined .any sentence).Accepted depth size inner text rest := by
  intro follows position
  obtain ⟨formulas, behind, read, place, reads⟩ :=
    result_conjunction accepted follows enough position
  exact ⟨.all formulas, behind, [], behind, read, .stop behind, place, begins.length_pos,
    .alternative reads⟩

theorem accepted_join {sentences : List Sentence} {text' : List Char}
    (first : (Phrase.joined join sentence).Accepted depth size inner text (text' ++ rest))
    (more : (Phrase.more join sentences).Accepted depth size inner text' rest)
    (next : Follows join.ends rest → Follows join.ends (text' ++ rest)) :
    (Phrase.joined join (.joined join (sentence :: sentences))).Accepted depth size inner
      (text ++ text') rest := by
  intro follows position
  obtain ⟨formula, middle, formulas, formulas', behind, read, repeats, place, few, reads, reads'⟩ :=
    accepted_append first more follows (next follows) position
  refine ⟨formula, middle, formulas ++ formulas', behind, ?_, repeats, ?_, ?_, .join reads reads'⟩
  · rw [List.append_assoc]
    exact read
  · rw [place, List.length_append, Nat.add_assoc]
  · rwa [List.length_append, List.length_append]

theorem accepted_none : (Phrase.more join []).Accepted depth size inner [] rest :=
  fun _ _ cursor same => ⟨[], cursor, .stop cursor, same, Nat.le_refl 0, .none⟩

theorem accepted_part {sentences : List Sentence} {text' : List Char} (only : Gap before)
    (only' : Gap behind) (begins : Begins text)
    (first : (Phrase.joined join sentence).Accepted depth size inner text (text' ++ rest))
    (more : (Phrase.more join sentences).Accepted depth size inner text' rest)
    (next : Follows join.ends rest → Follows join.ends (text' ++ rest)) :
    (Phrase.more join (sentence :: sentences)).Accepted depth size inner
      (before ++ (join.mark ++ (behind ++ (text ++ text')))) rest := by
  intro follows position cursor same
  have length : (before ++ (join.mark ++ (behind ++ (text ++ text')))).length =
      before.length + join.mark.length + behind.length + text.length + text'.length := by
    simp only [List.length_append, Nat.add_assoc]
  obtain ⟨formula, middle, formulas, formulas', cursor', read, repeats, place, few, reads, reads'⟩ :=
    accepted_append first more follows (next follows)
      (position + before.length + join.mark.length + behind.length)
  simp only [List.append_assoc] at same
  refine ⟨formula :: (formulas ++ formulas'), cursor',
    .next (result_step only only' begins same read) repeats, ?_, ?_, .part reads reads'⟩
  · rw [place, length]
    simp only [Nat.add_assoc]
  · rw [length, List.length_cons, List.length_append]
    omega

/-- **Every text of a phrase is accepted**, if the readers may go as deep as its groups are nested. -/
theorem Writes.accepted (writes : Writes depth phrase text) :
    ∀ fuel, depth ≤ fuel ∨ text.length ≤ fuel → text.length ≤ size → ∀ rest,
      phrase.Accepted depth size (disjunction size fuel) text rest := by
  induction writes with
  | constant value =>
    intro fuel _ _ rest
    refine accepted_of_takes_test (ValueText.boolean value).beginsWord
      (takes_test_of_constant value) ?_
    rintro _ rfl
    exact .constant value
  | test isTest =>
    intro fuel _ _ rest
    exact accepted_of_takes_test isTest.beginsWord (takes_test isTest) fun _ builds => .test builds
  | @group depth sentence before inner behind only writes only' ih =>
    intro fuel deep enough rest follows position
    simp only [List.length_cons, List.length_append, List.length_nil] at deep enough
    obtain ⟨fuel, rfl⟩ : ∃ less, fuel = less + 1 := ⟨fuel - 1, by omega⟩
    obtain ⟨formulas, cursor, read, place, reads⟩ :=
      result_disjunctionOf (ih fuel (by omega) (by omega) (behind ++ (')' :: rest)))
        (follows_closing only' rest) (by omega) (position + 1 + before.length)
    exact ⟨.any formulas, result_primary_of_group only only' writes.begins_joined read place,
      .group reads⟩
  | @unary depth count sentence before text marks writes ih =>
    intro fuel deep enough rest
    rw [List.length_append] at deep enough
    have noMark : ∀ c ∈ (text ++ rest).head?, c ≠ '!' := by
      rcases writes.primary_begins with begins | ⟨inner, rfl⟩
      · exact (begins.append rest).head_ne (by decide)
      · rintro _ ⟨⟩
        decide
    exact accepted_unary marks writes.begins_primary noMark (by omega)
      (ih fuel (by omega) (by omega) rest)
  | conjunct writes ih =>
    exact fun fuel deep enough rest =>
      accepted_conjunct writes.begins_unary (ih fuel deep enough rest)
  | alternative writes ih =>
    exact fun fuel deep enough rest =>
      accepted_alternative writes.begins_joined enough (ih fuel deep enough rest)
  | @join depth join sentence sentences text text' first more ih ih' =>
    intro fuel deep enough rest
    rw [List.length_append] at deep enough
    exact accepted_join (ih fuel (by omega) (by omega) (text' ++ rest))
      (ih' fuel (by omega) (by omega) rest) more.follows
  | none => exact fun fuel _ _ rest => accepted_none
  | @part depth join sentence sentences before behind text text' only only' first more ih ih' =>
    intro fuel deep enough rest
    simp only [List.length_append] at deep enough
    exact accepted_part only only' first.begins_joined
      (ih fuel (by omega) (by omega) (text' ++ rest)) (ih' fuel (by omega) (by omega) rest)
      more.follows

/-! ### Whole texts -/

/-- The formula of a whole text that is accepted stands for its sentence. -/
theorem read_of_accepted (only : Gap before) (begins : Begins text) (only' : Gap behind)
    (accepted : ∀ size, size = (before ++ (text ++ behind)).length →
      (Phrase.joined .any sentence).Accepted depth (size + 1) (disjunction (size + 1) size) text
        behind) :
    ∃ formulas, Grammar.read (before ++ (text ++ behind)) = .ok (.any formulas) ∧
      Reads depth formulas (.joined .any sentence) := by
  have length : (before ++ (text ++ behind)).length =
      before.length + text.length + behind.length := by
    simp only [List.length_append, Nat.add_assoc]
  have follows : Follows [')'] behind := by
    unfold Follows
    have none' := only'.dropWhile_append []
    rw [List.append_nil] at none'
    rw [none']
    exact nofun
  have skip := only.skipGap_of_settled 0 (begins.settled behind)
  obtain ⟨formulas, cursor, read, place, reads⟩ := result_disjunctionOf (accepted _ rfl) follows
    (by omega) (0 + before.length)
  have atEnd : cursor.skipGap.rest = [] := by
    have end' := only'.skipGap_of_settled (0 + before.length + text.length) (show Settled [] from nofun)
    rw [List.append_nil] at end'
    rw [place, end']
  have ends : ∃ behind', (endOfInput cursor.skipGap).result = some ((), behind') := by
    refine ⟨cursor.skipGap.advance 0, ?_⟩
    rw [endOfInput, result_whole, atEnd]
    rfl
  obtain ⟨behind', ends⟩ := ends
  have inside : (disjunction ((before ++ (text ++ behind)).length + 1)
      ((before ++ (text ++ behind)).length + 1) ⟨0 + before.length, text ++ behind⟩).result =
      some (.any formulas, cursor) := read
  have whole : (expression ((before ++ (text ++ behind)).length + 1)
      (.start (before ++ (text ++ behind)))).result = some (.any formulas, behind') := by
    rw [expression, result_named, Cursor.start]
    simp only [result_bind, result_gap, skip, inside, ends, result_pure, Option.bind_some]
  refine ⟨formulas, ?_, reads⟩
  unfold Grammar.read
  dsimp only
  rw [whole]

/-- **The formula of a whole text stands for the sentence that it writes.** -/
theorem read_of_writes (only : Gap before) (writes : Writes depth (.joined .any sentence) text)
    (only' : Gap behind) :
    ∃ formulas, Grammar.read (before ++ (text ++ behind)) = .ok (.any formulas) ∧
      Reads depth formulas (.joined .any sentence) := by
  refine read_of_accepted only writes.begins_joined only' ?_
  rintro size rfl
  simp only [List.length_append]
  exact writes.accepted _ (by omega) (by omega) behind

end WhenClause.Grammar
