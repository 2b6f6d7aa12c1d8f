/-
**Printed expressions as texts of the grammar.**

Each part of an expression prints as a text that the grammar has for it: keys, values, pattern
literals, literals, clauses, and the whole (`writes_render`). What is written is the expression with
the zeros of its numbers made positive (`Expression.reread`), for `-0` prints as `0`.

Two things cannot be written: a number that is not finite, and a pattern literal whose source the
grammar ends elsewhere (`Expression.Writable`).
-/

import WhenClause.Expression.Printer
import WhenClause.Proofs.Phrase
import WhenClause.Proofs.Shortest

namespace WhenClause

open Grammar

variable {value : Value}

/-! ### Values -/

/-- A number is finite. -/
def Value.Writable : Value → Prop
  | .number value => value.isFinite = true
  | _ => True

/-- A value as it is read again: a zero has no sign. -/
def Value.reread : Value → Value
  | .number value => .number value.reread
  | value => value

theorem Value.reread_beq (writable : value.Writable) : (value.reread == value) = true := by
  cases value with
  | number value => exact Double.reread_beq writable
  | boolean value => exact (beq_self_iff _).mpr rfl
  | string value => exact (beq_self_iff _).mpr rfl

theorem Value.render_reread (value : Value) : value.reread.render = value.render := by
  cases value with
  | number value => exact congrArg String.ofList (Double.characters_reread value)
  | _ => rfl

/-! ### Keys -/

theorem quotedAs_escape (content : List Char) :
    QuotedAs content (content.flatMap Quoted.escape) := by
  induction content with
  | nil => exact .nil
  | cons c content ih =>
    rw [List.flatMap_cons, Quoted.escape]
    split
    · rename_i special
      exact .escaped special ih
    · rename_i ordinary
      exact .plain (not_or.mp ordinary) ih

/-- A key that stands bare is a word, and not one that the grammar takes for a constant. -/
theorem isWord_of_isBareKey {key : List Char} (bare : isBareKey key = true) :
    IsWord key ∧ ∀ value, key ≠ (Value.booleanText value).toList := by
  unfold isBareKey at bare
  cases key with
  | nil => cases bare
  | cons first rest =>
    simp only [Bool.and_eq_true, bne_iff_ne, List.all_eq_true, Bool.not_eq_true'] at bare
    obtain ⟨⟨⟨⟨noLess, noGreater⟩, noTrue⟩, noFalse⟩, plain⟩ := bare
    refine ⟨⟨List.cons_ne_nil first rest, fun c member => ?_, ?_⟩, ?_⟩
    · obtain ⟨noBlank, noOperator⟩ := plain c member
      have noGap : isGap c = false := by
        cases gap : isGap c with
        | false => rfl
        | true => rw [← noBlank, isBlank_of_isGap gap]
      rw [isWordCharacter, noGap, show "()!&|='~".toList.contains c = false from noOperator]
      rfl
    · rintro _ ⟨⟩
      exact ⟨noLess, noGreater⟩
    · rintro (_ | _)
      · exact noFalse
      · exact noTrue

/-- **A printed key is read as the key.** -/
theorem keyText_render (key : String) : KeyText key.toList (renderKey key).toList := by
  unfold renderKey
  split
  · rename_i bare
    exact .bare (isWord_of_isBareKey bare).1
  · rw [String.toList_ofList]
    exact .quoted (quotedAs_escape key.toList)

/-- No printed key is taken for a constant. -/
theorem renderKey_ne_booleanText (key : String) (holds : Bool) :
    (renderKey key).toList ≠ (Value.booleanText holds).toList := by
  unfold renderKey
  split
  · rename_i bare
    exact (isWord_of_isBareKey bare).2 holds
  · rw [String.toList_ofList]
    cases holds <;> exact fun same => absurd (List.cons.inj same).1 (by decide)

/-! ### Values and flags as they are printed -/

/-- **A printed value is read as the value.** -/
theorem valueText_render (writable : value.Writable) : ValueText value.reread value.render.toList := by
  cases value with
  | boolean value => exact .boolean value
  | number value =>
    have isNumber := Double.numberText_characters writable
    rw [Value.render, Double.text, String.toList_ofList]
    exact .number isNumber
  | string value =>
    have isText := ValueText.quoted (quotedAs_escape value.toList)
    rw [String.ofList_toList] at isText
    rw [Value.render, String.toList_ofList]
    exact isText

/-- The flags that are kept are kept again. -/
theorem canonicalFlags_idem (flags : List Char) :
    canonicalFlags (canonicalFlags flags).toList = canonicalFlags flags := by
  unfold canonicalFlags
  rw [String.toList_ofList]
  refine congrArg String.ofList (List.filter_congr fun flag kept => ?_)
  rw [Bool.eq_iff_iff, List.contains_iff_mem, List.contains_iff_mem, List.mem_filter,
    List.contains_iff_mem]
  exact and_iff_right kept

/-! ### Spaces and joined texts -/

theorem gap_space : Gap [' '] := List.forall_mem_singleton.mpr (by decide)

/-- Between spaces nothing is joined to one word. -/
theorem apart_space (left right : List Char) : Apart left [' '] right := nofun

/-- What `intercalate` puts behind the first text: each other one with the separator before it. -/
theorem toList_intercalate_cons (separator first : String) (rest : List String) :
    (separator.intercalate (first :: rest)).toList =
      first.toList ++ rest.flatMap fun text => separator.toList ++ text.toList := by
  rw [String.toList_intercalate]
  induction rest generalizing first with
  | nil => simp
  | cons second rest ih =>
    rw [List.map_cons, List.map_cons, List.intercalate_cons_cons, ← List.map_cons, ih,
      List.flatMap_cons, List.append_assoc, List.append_assoc]

/-! ### Texts that are not blank -/

/-- Something in a text is not blank. -/
def Shown (text : String) : Prop := ∃ c ∈ text.toList, isBlank c = false

theorem Shown.append {text : String} (shown : Shown text) (more : String) : Shown (text ++ more) := by
  obtain ⟨c, member, noBlank⟩ := shown
  exact ⟨c, by rw [String.toList_append]; exact List.mem_append_left _ member, noBlank⟩

theorem Shown.intercalate {first : String} (shown : Shown first) (separator : String)
    (rest : List String) : Shown (separator.intercalate (first :: rest)) := by
  obtain ⟨c, member, noBlank⟩ := shown
  exact ⟨c, by rw [toList_intercalate_cons]; exact List.mem_append_left _ member, noBlank⟩

theorem shown_renderKey (key : String) : Shown (renderKey key) := by
  unfold renderKey
  split
  · rename_i bare
    obtain ⟨c, rest, same⟩ := List.exists_cons_of_ne_nil (isWord_of_isBareKey bare).1.nonempty
    refine ⟨c, by rw [same]; exact List.mem_cons_self, ?_⟩
    rw [same] at bare
    simp [isBareKey] at bare
    exact bare.2.1.1
  · exact ⟨'\'', by rw [String.toList_ofList]; exact List.mem_cons_self, by decide⟩

variable [PatternEngine]
variable {pattern : PatternLiteral} {literal : Literal} {clause : Clause}
  {expression : Expression} {depth : Nat}

/-! ### What can be written -/

/-- The literal is one that `ofSource` makes, and the grammar takes its source for a source, up to
the slash behind it. -/
structure PatternLiteral.Writable (pattern : PatternLiteral) : Prop where
  made : ∃ flags, ofSource pattern.source flags = .ok pattern
  whole : takeSource pattern.source.toList = some (pattern.source.toList, pattern.source.toList.length)
  closed : closesClasses false pattern.source.toList = true
  sealed : endsInBackslash pattern.source.toList = false

def Test.Writable : Test → Prop
  | .equals _ value => value.Writable
  | .matching _ pattern => pattern.Writable
  | _ => True

def Literal.Writable : Literal → Prop
  | .test question _ => question.Writable
  | .ordered _ _ bound => bound.Writable

/-- Every number of an expression is finite, and every pattern literal can be written. -/
def Expression.Writable (expression : Expression) : Prop :=
  ∀ clause ∈ expression.clauses, ∀ literal ∈ clause, literal.Writable

/-! ### What is read again -/

def Test.reread : Test → Test
  | .equals key value => .equals key value.reread
  | question => question

def Literal.reread : Literal → Literal
  | .test question holds => .test question.reread holds
  | .ordered key comparison bound => .ordered key comparison bound.reread

/-- An expression as it is read again. -/
def Expression.reread (expression : Expression) : Expression :=
  ⟨expression.clauses.map (·.map Literal.reread)⟩

theorem Test.reread_beq {question : Test} (writable : question.Writable) :
    (question.reread == question) = true := by
  cases question with
  | equals key value =>
    exact Bool.and_eq_true_iff.mpr ⟨beq_self_eq_true key, Value.reread_beq writable⟩
  | _ => exact (beq_self_iff _).mpr rfl

/-- **A literal that can be written is equal to what is read again.** -/
theorem Literal.reread_beq (writable : literal.Writable) : (literal.reread == literal) = true := by
  cases literal with
  | test question holds =>
    rw [reread, test_beq, Test.reread_beq writable, beq_self_eq_true, Bool.true_and]
  | ordered key comparison bound =>
    rw [reread, ordered_beq, Value.reread_beq writable]
    simp

theorem Literal.render_reread (literal : Literal) : literal.reread.render = literal.render := by
  cases literal with
  | test question holds =>
    cases question with
    | equals key value =>
      cases holds <;> simp only [reread, Test.reread, render, Value.render_reread]
    | _ => rfl
  | ordered key comparison bound => simp only [reread, render, Value.render_reread]

theorem Clause.render_map_reread (clause : Clause) :
    Clause.render (clause.map Literal.reread) = clause.render := by
  unfold Clause.render
  rw [List.isEmpty_map, List.map_map]
  exact congrArg (fun parts => if clause.isEmpty then "true" else " && ".intercalate parts)
    (List.map_congr_left fun literal _ => literal.render_reread)

/-- What is read again prints as before. -/
theorem Expression.render_reread (expression : Expression) :
    expression.reread.render = expression.render := by
  unfold Expression.render isNever reread
  rw [List.isEmpty_map, List.map_map]
  exact congrArg (fun parts => if expression.clauses.isEmpty then "false" else
    " || ".intercalate parts) (List.map_congr_left fun clause _ => Clause.render_map_reread clause)

/-! ### Pattern literals -/

/-- A pattern literal is also made of its source and the flags that it keeps. -/
theorem PatternLiteral.ofSource_flags {flags : List Char}
    (made : ofSource pattern.source flags = .ok pattern) :
    ofSource pattern.source pattern.flags.toList = .ok pattern := by
  obtain ⟨some', -, source, flags'⟩ := ofSource_eq_ok.mp made
  have kept : ∀ flag ∈ pattern.flags.toList, flag ∈ acceptedFlags := by
    have all' : ∀ flag ∈ keptFlags, flag ∈ acceptedFlags := by decide
    rw [flags', canonicalFlags, String.toList_ofList]
    exact fun flag member => all' flag (List.mem_of_mem_filter member)
  refine ofSource_eq_ok.mpr ⟨some', kept, source, ?_⟩
  rw [flags', canonicalFlags_idem]

/-- **A printed pattern literal is read as the literal.** -/
theorem patternText_render (writable : pattern.Writable) :
    PatternText pattern pattern.render.toList := by
  obtain ⟨flags, made⟩ := writable.made
  have made' := PatternLiteral.ofSource_flags made
  rw [← @String.ofList_toList pattern.source] at made'
  have isPattern := PatternText.intro made' writable.whole writable.closed writable.sealed
  have shape : pattern.render.toList =
      '/' :: pattern.source.toList ++ '/' :: pattern.flags.toList := by
    simp [PatternLiteral.render]
  rw [shape]
  exact isPattern

/-! ### Literals -/

/-- A printed literal as a sentence: a failing test of truth, or of a pattern, is a negation. -/
def Literal.sentence : Literal → Sentence
  | .test (.has key) false => .negation (.literal (.test (.has key) true))
  | .test (.matching key pattern) false =>
    .negation (.literal (.test (.matching key pattern) true))
  | literal => .literal literal

theorem testText_has (key : String) :
    TestText (.test (.has key) true) (renderKey key).toList := by
  have isTest := TestText.has (keyText_render key) (renderKey_ne_booleanText key)
  rwa [String.ofList_toList] at isTest

theorem testText_matching (key : String) (writable : pattern.Writable) :
    TestText (.test (.matching key pattern) true)
      (renderKey key ++ " =~ " ++ pattern.render).toList := by
  have isTest := TestText.matching (keyText_render key) gap_space gap_space
    (patternText_render writable)
  rw [String.ofList_toList] at isTest
  simpa using isTest

theorem testText_member (key container : String) :
    TestText (.test (.member key container) true)
      (renderKey key ++ " in " ++ renderKey container).toList := by
  have isTest := TestText.member (keyText_render key) gap_space (apart_space _ _) gap_space
    (apart_space _ _) (keyText_render container)
  rw [String.ofList_toList, String.ofList_toList] at isTest
  simpa using isTest

theorem testText_notMember (key container : String) :
    TestText (.test (.member key container) false)
      (renderKey key ++ " not in " ++ renderKey container).toList := by
  have isTest := TestText.notMember (keyText_render key) gap_space (apart_space _ _) gap_space
    (apart_space _ _) gap_space (apart_space _ _) (keyText_render container)
  rw [String.ofList_toList, String.ofList_toList] at isTest
  simpa using isTest

/-- A key, a mark between spaces, and a value. -/
theorem testText_compare {operator : Operator} {mark : List Char} {text : String} (key : String)
    (isOperator : OperatorText operator mark) (writable : value.Writable)
    (parts : text.toList = (renderKey key).toList ++ ([' '] ++ (mark ++ ([' '] ++
      value.render.toList)))) :
    TestText (operator.toLiteral key value.reread) text.toList := by
  have isTest := TestText.compare (keyText_render key) gap_space (apart_space _ _) isOperator
    gap_space (valueText_render writable)
  rw [String.ofList_toList] at isTest
  rw [parts]
  exact isTest

/-- **A printed literal writes its sentence.** -/
theorem Literal.writes_render (writable : literal.Writable) :
    Writes depth (.unary literal.reread.sentence) literal.render.toList := by
  have plain : ∀ {literal : Literal} {text : List Char}, TestText literal text →
      Writes depth (.unary (.literal literal)) text :=
    fun isTest => .unary .none (.test isTest)
  have negated : ∀ {literal : Literal} {text : List Char}, TestText literal text →
      Writes depth (.unary (.negation (.literal literal))) ('!' :: text) :=
    fun isTest => .unary (.mark gap_nil .none) (.test isTest)
  cases literal with
  | test question holds =>
    cases question with
    | has key =>
      cases holds with
      | true => exact plain (testText_has key)
      | false =>
        rw [render, String.toList_append]
        exact negated (testText_has key)
    | equals key value =>
      cases holds with
      | true => exact plain (testText_compare key .equal writable (by simp [render]))
      | false => exact plain (testText_compare key .differ writable (by simp [render]))
    | matching key pattern =>
      cases holds with
      | true => exact plain (testText_matching key writable)
      | false =>
        rw [render, String.append_assoc, String.append_assoc, String.toList_append,
          ← String.append_assoc]
        exact negated (testText_matching key writable)
    | member key container =>
      cases holds with
      | true => exact plain (testText_member key container)
      | false => exact plain (testText_notMember key container)
  | ordered key comparison bound =>
    exact plain (testText_compare key (.ordered comparison) writable (by simp [render]))

/-! ### Joins -/

section Joins

variable {α : Type} {join : Join} {sentence : α → Sentence} {text : α → String}
  {first : α} {parts : List α}

theorem writes_more (each : ∀ part ∈ parts,
      Writes depth (.joined join (sentence part)) (text part).toList) :
    Writes depth (.more join (parts.map sentence))
      (parts.flatMap fun part => ' ' :: (join.mark ++ [' ']) ++ (text part).toList) := by
  induction parts with
  | nil => exact .none
  | cons part parts ih =>
    obtain ⟨first, rest⟩ := List.forall_mem_cons.mp each
    have writes := Writes.part gap_space gap_space first (ih rest)
    simpa using writes

/-- **Printed parts with marks between them write a join.** -/
theorem writes_intercalate {separator : String}
    (spaced : separator.toList = ' ' :: (join.mark ++ [' ']))
    (each : ∀ part ∈ first :: parts,
      Writes depth (.joined join (sentence part)) (text part).toList) :
    Writes depth (.joined join (.joined join ((first :: parts).map sentence)))
      (separator.intercalate ((first :: parts).map text)).toList := by
  obtain ⟨head, tail⟩ := List.forall_mem_cons.mp each
  rw [List.map_cons, List.map_cons, toList_intercalate_cons, List.flatMap_map, spaced]
  exact .join head (writes_more tail)

end Joins

/-- A printed clause as a sentence. -/
def Clause.sentence : Clause → Sentence
  | [] => .constant true
  | literal :: literals => .joined .all ((literal :: literals).map Literal.sentence)

/-- A printed expression as a sentence. -/
def Expression.sentence (expression : Expression) : Sentence :=
  match expression.clauses with
  | [] => .constant false
  | clause :: clauses => .joined .any ((clause :: clauses).map Clause.sentence)

theorem Clause.writes_render (writable : ∀ literal ∈ clause, literal.Writable) :
    Writes depth (.joined .any (Clause.sentence (clause.map Literal.reread)))
      clause.render.toList := by
  cases clause with
  | nil => exact (Writes.constant true).joined_of_primary .any
  | cons literal literals =>
    rw [List.map_cons, sentence, ← List.map_cons, List.map_map]
    exact .alternative (writes_intercalate rfl fun literal inside =>
      .conjunct (Literal.writes_render (writable literal inside)))

/-- **A printed expression writes what is read again**, without any group. -/
theorem Expression.writes_render (writable : expression.Writable) :
    Writes depth (.joined .any expression.reread.sentence) expression.render.toList := by
  obtain ⟨clauses⟩ := expression
  cases clauses with
  | nil => exact (Writes.constant false).joined_of_primary .any
  | cons clause clauses =>
    show Writes depth (.joined .any (.joined .any
      (((clause :: clauses).map (·.map Literal.reread)).map Clause.sentence))) _
    rw [List.map_map]
    exact writes_intercalate rfl fun clause inside =>
      Clause.writes_render (writable clause inside)

/-! ### What is not blank -/

theorem Literal.shown_render (literal : Literal) : Shown literal.render := by
  have mark : Shown "!" := ⟨'!', by decide, by decide⟩
  cases literal with
  | test question holds =>
    cases question with
    | has key =>
      cases holds with
      | true => exact shown_renderKey key
      | false =>
        rw [render]
        exact mark.append _
    | equals key value =>
      cases holds <;>
      · rw [render]
        exact ((shown_renderKey key).append _).append _
    | matching key pattern =>
      cases holds with
      | true =>
        rw [render]
        exact ((shown_renderKey key).append _).append _
      | false =>
        rw [render]
        exact ((mark.append _).append _).append _
    | member key container =>
      cases holds <;>
      · rw [render]
        exact ((shown_renderKey key).append _).append _
  | ordered key comparison bound =>
    rw [render]
    exact ((((shown_renderKey key).append _).append _).append _).append _

theorem Clause.shown_render (clause : Clause) : Shown clause.render := by
  cases clause with
  | nil => exact (⟨'t', by decide, by decide⟩ : Shown "true")
  | cons literal literals => exact literal.shown_render.intercalate _ _

/-- **A printed expression is not blank.** -/
theorem Expression.shown_render (expression : Expression) : Shown expression.render := by
  obtain ⟨clauses⟩ := expression
  cases clauses with
  | nil => exact (⟨'f', by decide, by decide⟩ : Shown "false")
  | cons clause clauses => exact clause.shown_render.intercalate _ _

end WhenClause
