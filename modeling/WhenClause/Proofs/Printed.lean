/-
**Reading what is printed.**

A pattern source may have an open class, and then where it ends is up to everything behind it. So
what a printed literal is read as is told in front of a text, in which its source must end
(`Literal.FitsBefore`), and the parts of a join are read one by one, each in front of what is printed
behind it (`FitBefore`).

* `accepted_literal`: a printed literal is read as the literal, in front of every text before which
  its source ends;
* `accepted_parts`, `shallow_parts`: so are printed parts of a join, and the scan of the outline
  finds no parenthesis in them;
* `accepted_expression`, `shallow_expression`: the same of printed expressions.
-/

import WhenClause.Proofs.Legible
import WhenClause.Proofs.RoundTrip

namespace WhenClause

open Expression Grammar

variable {text rest gap : List Char}

/-! ### Outlines without parentheses -/

namespace Grammar

/-- The scan of a text that begins in plain text finds no open parentheses that were not open. -/
def Shallow (text : List Char) : Prop :=
  ∀ behindEqual depth,
    (text.foldl depthStep (.plain behindEqual false, depth)).2.greatest ≤
      max depth.greatest depth.current

theorem shallow_nil : Shallow [] := fun _ _ => Nat.le_max_left _ _

theorem Nests.shallow_append (nests : Nests 0 text) (shallow : Shallow rest) :
    Shallow (text ++ rest) := by
  intro behindEqual depth
  obtain ⟨behindEqual', greatest, same, atMost⟩ := nests behindEqual depth
  have found := shallow behindEqual' ⟨depth.current, greatest⟩
  rw [List.foldl_append, same]
  simp only at found
  omega

theorem Passes.shallow_append (passes : Passes text) (shallow : Shallow rest) :
    Shallow (text ++ rest) :=
  (passes.nests 0).shallow_append shallow

/-- A pattern literal whose class is never closed hides all that follows. -/
theorem shallow_open_pattern (only : Gap gap)
    (scan : ∀ depth, (text.foldl depthStep (.pattern false, depth)).2 = depth) :
    Shallow ("=~".toList ++ (gap ++ ('/' :: text))) := by
  intro behindEqual depth
  have matched : "=~".toList.foldl depthStep (.plain behindEqual false, depth) =
      (.plain false true, depth) := rfl
  rw [List.foldl_append, matched, List.foldl_append, foldl_depthStep_gap only, List.foldl_cons]
  show (text.foldl depthStep (.pattern false, depth)).2.greatest ≤ _
  rw [scan]
  exact Nat.le_max_left _ _

theorem Shallow.nestingDepth_le (shallow : Shallow text) : nestingDepth text ≤ 0 := by
  have found := shallow false ⟨0, 0⟩
  simpa [nestingDepth, Mode.start] using found

/-! ### Texts that close no class -/

theorem closesClass_append_of_forall (plain : ∀ c ∈ text, c ≠ '\\' ∧ c ≠ ']') (rest : List Char) :
    closesClass (text ++ rest) = closesClass rest := by
  induction text with
  | nil => rfl
  | cons c text ih =>
    obtain ⟨⟨noEscape, noClose⟩, tail⟩ := List.forall_mem_cons.mp plain
    rw [List.cons_append, closesClass_cons noEscape, beq_false_of_ne noClose, Bool.false_or, ih tail]

/-- Nothing stands in front, or a space. -/
def Spaced (text : List Char) : Prop := ∀ c ∈ text.head?, c = ' '

/-- Before a space texts close a class only one by one. -/
theorem closesClass_append_of_spaced (open' : closesClass text = false) (spaced : Spaced rest)
    (open'' : closesClass rest = false) : closesClass (text ++ rest) = false := by
  cases rest with
  | nil => rwa [List.append_nil]
  | cons c rest =>
    obtain rfl := spaced c rfl
    rw [closesClass_cons (by decide)] at open''
    rw [closesClass_append_cons (by decide) (by decide), open']
    exact open''

end Grammar

/-! ### Parts of joins -/

section Parts

variable {α : Type} {join : Join} {text : α → String} {fits : α → List Char → Prop} {first : α}
  {parts : List α}

/-- Parts of a join as they are printed, each with the mark before it. -/
def behindParts (join : Join) (text : α → String) (parts : List α) : List Char :=
  parts.flatMap fun part => ' ' :: (join.mark ++ [' ']) ++ (text part).toList

/-- Every part fits in front of what is printed behind it. -/
def FitBefore (join : Join) (text : α → String) (fits : α → List Char → Prop) (rest : List Char) :
    List α → Prop
  | [] => True
  | part :: parts =>
    fits part (behindParts join text parts ++ rest) ∧ FitBefore join text fits rest parts

theorem toList_intercalate_parts {separator : String}
    (spaced : separator.toList = ' ' :: (join.mark ++ [' '])) (first : α) (parts : List α) :
    (separator.intercalate ((first :: parts).map text)).toList =
      (text first).toList ++ behindParts join text parts := by
  rw [List.map_cons, toList_intercalate_cons, List.flatMap_map, spaced]
  rfl

theorem behindParts_cons (join : Join) (text : α → String) (part : α) (parts : List α) :
    behindParts join text (part :: parts) =
      [' '] ++ (join.mark ++ ([' '] ++ ((text part).toList ++ behindParts join text parts))) := by
  simp [behindParts]

theorem spaced_behindParts (spaced : Spaced rest) : Spaced (behindParts join text parts ++ rest) := by
  cases parts with
  | nil => exact spaced
  | cons part parts =>
    rw [behindParts_cons]
    rintro _ ⟨⟩
    rfl

theorem follows_behindParts (follows : Follows join.ends rest) :
    Follows join.ends (behindParts join text parts ++ rest) := by
  cases parts with
  | nil => exact follows
  | cons part parts =>
    unfold Follows
    rw [behindParts_cons, List.append_assoc, gap_space.dropWhile_append]
    cases join <;>
    · rintro _ ⟨⟩
      decide

theorem shallow_behindParts
    (each : ∀ part rest, fits part rest → Shallow rest → Shallow ((text part).toList ++ rest))
    (fit : FitBefore join text fits rest parts) (shallow : Shallow rest) :
    Shallow (behindParts join text parts ++ rest) := by
  induction parts with
  | nil => exact shallow
  | cons part parts ih =>
    have mark : Passes join.mark := by cases join <;> exact passes_of_forall (by decide)
    rw [behindParts_cons]
    simp only [List.append_assoc]
    exact gap_space.passes.shallow_append (mark.shallow_append (gap_space.passes.shallow_append
      (each part _ fit.1 (ih fit.2))))

/-- **The scan finds no parenthesis in printed parts**, if there is none in any of them. -/
theorem shallow_parts {separator : String}
    (spaced : separator.toList = ' ' :: (join.mark ++ [' ']))
    (each : ∀ part rest, fits part rest → Shallow rest → Shallow ((text part).toList ++ rest))
    (fit : FitBefore join text fits rest (first :: parts)) (shallow : Shallow rest) :
    Shallow ((separator.intercalate ((first :: parts).map text)).toList ++ rest) := by
  rw [toList_intercalate_parts spaced, List.append_assoc]
  exact each first _ fit.1 (shallow_behindParts each fit.2 shallow)

theorem closesClass_behindParts (each : ∀ part ∈ parts, closesClass (text part).toList = false)
    (spaced : Spaced rest) (open' : closesClass rest = false) :
    closesClass (behindParts join text parts ++ rest) = false := by
  induction parts with
  | nil => exact open'
  | cons part parts ih =>
    obtain ⟨head, tail⟩ := List.forall_mem_cons.mp each
    have plain : ∀ c ∈ [' '] ++ (join.mark ++ [' ']), c ≠ '\\' ∧ c ≠ ']' := by
      cases join <;> decide
    have shape : behindParts join text (part :: parts) ++ rest = [' '] ++ (join.mark ++ [' ']) ++
        ((text part).toList ++ (behindParts join text parts ++ rest)) := by
      simp [behindParts]
    rw [shape, closesClass_append_of_forall plain]
    exact closesClass_append_of_spaced head (spaced_behindParts spaced) (ih tail)

end Parts

variable [PatternEngine]
variable {pattern : PatternLiteral} {literal : Literal} {clause : Clause} {expression : Expression}
  {size fuel : Nat} {inner : Reader Formula}

/-! ### Printed pattern tests -/

/-- The source of a printed pattern test ends in front of a text where it should. -/
def Literal.EndsBefore (rest : List Char) : Literal → Prop
  | .test (.matching _ pattern) _ => SourceEnds (closesClass rest) false pattern.source.toList
  | _ => True

/-- A printed literal can be read in front of a text. -/
structure Literal.FitsBefore (literal : Literal) (rest : List Char) : Prop where
  legible : literal.Legible
  ends : literal.EndsBefore rest

namespace PatternLiteral.Legible

variable (legible : pattern.Legible)

include legible

theorem isAlpha_flags : ∀ flag ∈ pattern.flags.toList, flag.isAlpha = true :=
  isAlpha_of_ofSource (PatternLiteral.ofSource_flags legible.made.choose_spec)

/-- The flags close no class. -/
theorem closesClass_flags (rest : List Char) :
    closesClass (pattern.flags.toList ++ rest) = closesClass rest := by
  refine closesClass_append_of_forall (fun flag member => ?_) rest
  have letter := legible.isAlpha_flags flag member
  constructor
  · rintro rfl
    cases letter
  · rintro rfl
    cases letter

theorem takes_render (ends : SourceEnds (closesClass rest) false pattern.source.toList)
    (word : EndsWord rest) :
    Takes patternLiteral ('/' :: pattern.source.toList ++ '/' :: pattern.flags.toList) rest
      fun read => PatternLiteral.ofSource (String.ofList read.1) read.2.1 = .ok pattern := by
  have made := PatternLiteral.ofSource_flags legible.made.choose_spec
  rw [← legible.closesClass_flags] at ends
  obtain ⟨some', -, -, -⟩ := ofSource_eq_ok.mp made
  rw [← @String.ofList_toList pattern.source] at made some'
  refine takes_patternLiteral_of_takeSource made (ends.takeSource ?_) word
  cases characters : pattern.source.toList with
  | nil =>
    rw [characters] at some'
    cases some'
  | cons => rfl

end PatternLiteral.Legible

/-- A printed pattern test is a key, a mark between spaces, and a pattern literal. -/
theorem toList_render_matching (key : String) (pattern : PatternLiteral) :
    (renderKey key ++ " =~ " ++ pattern.render).toList =
      (renderKey key).toList ++ ([' '] ++ ("=~".toList ++ ([' '] ++
        ('/' :: pattern.source.toList ++ '/' :: pattern.flags.toList)))) := by
  simp [PatternLiteral.render]

theorem accepted_matching (key : String) (legible : pattern.Legible)
    (ends : SourceEnds (closesClass rest) false pattern.source.toList) :
    (Phrase.primary (.literal (.test (.matching key pattern) true))).Accepted 0 size inner
      (renderKey key ++ " =~ " ++ pattern.render).toList rest := by
  have isKey := keyText_render key
  rw [toList_render_matching]
  refine accepted_of_takes_test (isKey.beginsWord.append _) (fun follows =>
    takes_test_of_patternLiteral isKey gap_space gap_space (settled_cons (by decide))
      (legible.takes_render ends follows.endsWord)) ?_
  rintro _ ⟨read, made, rfl⟩
  refine .test fun facts source => ?_
  simp only [WrittenTest.build, made, String.ofList_toList]
  rfl

/-- **A printed literal is read as the literal**, in front of a text before which its source ends. -/
theorem accepted_literal (fits : literal.FitsBefore rest)
    (enough : literal.render.toList.length ≤ size) :
    (Phrase.unary literal.reread.sentence).Accepted 0 size (disjunction size fuel)
      literal.render.toList rest := by
  obtain ⟨legible, ends⟩ := fits
  -- only what a pattern test is read as depends on the text behind it
  rcases legible.cases with writable | ⟨key, pattern, holds, rfl, legible⟩
  · exact (Literal.writes_render writable).accepted fuel (.inl (Nat.zero_le fuel)) enough rest
  have begins : BeginsWord (renderKey key ++ " =~ " ++ pattern.render).toList := by
    rw [toList_render_matching]
    exact (keyText_render key).beginsWord.append _
  have primary := @accepted_matching _ _ _ size (disjunction size fuel) key legible ends
  generalize printed : renderKey key ++ " =~ " ++ pattern.render = text at begins primary
  have noMark : ∀ c ∈ (text.toList ++ rest).head?, c ≠ '!' := (begins.append rest).head_ne (by decide)
  cases holds with
  | true =>
    have unary := accepted_unary .none begins.begins noMark (Nat.zero_le size) primary
    rw [Literal.render, printed]
    exact unary
  | false =>
    have shape : (Literal.test (.matching key pattern) false).render.toList =
        '!' :: ([] ++ []) ++ text.toList := by
      simp [← printed, Literal.render]
    rw [shape, List.length_append] at enough
    rw [shape]
    exact accepted_unary (.mark gap_nil .none) begins.begins noMark (by omega) primary

/-- **The scan finds no parenthesis in a printed literal.** -/
theorem shallow_literal (fits : literal.FitsBefore rest) (shallow : Shallow rest) :
    Shallow (literal.render.toList ++ rest) := by
  obtain ⟨legible, ends⟩ := fits
  rcases legible.cases with writable | ⟨key, pattern, holds, rfl, legible⟩
  · exact (Literal.writes_render writable).nests.shallow_append shallow
  have isKey := keyText_render key
  have flags : Passes pattern.flags.toList := passes_word fun flag member =>
    isWordCharacter_of_isAlpha (legible.isAlpha_flags flag member)
  have matching : Shallow ((renderKey key ++ " =~ " ++ pattern.render).toList ++ rest) := by
    have shape : (renderKey key ++ " =~ " ++ pattern.render).toList ++ rest =
        (renderKey key).toList ++ ([' '] ++ ("=~".toList ++ ([' '] ++ ('/' ::
          (pattern.source.toList ++ '/' :: (pattern.flags.toList ++ rest)))))) := by
      rw [toList_render_matching]
      simp
    rw [shape]
    refine isKey.passes.shallow_append (gap_space.passes.shallow_append ?_)
    have ends : SourceEnds (closesClass (pattern.flags.toList ++ rest)) false
        pattern.source.toList := by
      rw [legible.closesClass_flags]
      exact ends
    -- from an open class the scan does not come back, so the rest of the text hides its parentheses
    rcases ends.scan with scan | scan
    · have passes := passes_pattern gap_space scan
      have shallow' := passes.shallow_append (flags.shallow_append shallow)
      simpa using shallow'
    · exact shallow_open_pattern gap_space scan
  cases holds with
  | true => exact matching
  | false =>
    have mark : Passes ['!'] := passes_of_forall (by decide)
    have shape : (Literal.test (.matching key pattern) false).render.toList =
        ['!'] ++ (renderKey key ++ " =~ " ++ pattern.render).toList := by
      simp [Literal.render]
    rw [shape, List.append_assoc]
    exact mark.shallow_append matching

/-! ### Printed joins -/

section Joins

variable {α : Type} {join : Join} {sentence : α → Sentence} {text : α → String}
  {fits : α → List Char → Prop} {first : α} {parts : List α}

theorem accepted_behindParts (begins : ∀ part, Begins (text part).toList)
    (each : ∀ part rest, (text part).toList.length ≤ size → fits part rest →
      (Phrase.joined join (sentence part)).Accepted 0 size inner (text part).toList rest)
    (enough : (behindParts join text parts).length ≤ size) (fit : FitBefore join text fits rest parts) :
    (Phrase.more join (parts.map sentence)).Accepted 0 size inner (behindParts join text parts)
      rest := by
  induction parts with
  | nil => exact accepted_none
  | cons part parts ih =>
    rw [behindParts_cons] at enough ⊢
    simp only [List.length_append] at enough
    exact accepted_part gap_space gap_space (begins part) (each part _ (by omega) fit.1)
      (ih (by omega) fit.2) follows_behindParts

/-- **Printed parts with marks between them are read as their join**, if each of them is. -/
theorem accepted_parts {separator : String}
    (spaced : separator.toList = ' ' :: (join.mark ++ [' ']))
    (begins : ∀ part, Begins (text part).toList)
    (each : ∀ part rest, (text part).toList.length ≤ size → fits part rest →
      (Phrase.joined join (sentence part)).Accepted 0 size inner (text part).toList rest)
    (enough : (separator.intercalate ((first :: parts).map text)).toList.length ≤ size)
    (fit : FitBefore join text fits rest (first :: parts)) :
    (Phrase.joined join (.joined join ((first :: parts).map sentence))).Accepted 0 size inner
      (separator.intercalate ((first :: parts).map text)).toList rest := by
  rw [toList_intercalate_parts spaced] at enough ⊢
  rw [List.length_append] at enough
  exact accepted_join (each first _ (by omega) fit.1)
    (accepted_behindParts begins each (by omega) fit.2) follows_behindParts

end Joins

/-! ### Printed clauses and expressions -/

theorem Literal.begins_render (literal : Literal) : Begins literal.render.toList := by
  have key : ∀ (key : String) (more : List Char), Begins ((renderKey key).toList ++ more) :=
    fun key more => (keyText_render key).beginsWord.begins.append more
  have mark : ∀ more : List Char, Begins ('!' :: more) := fun more => ⟨'!', more, rfl, by decide⟩
  cases literal with
  | test question holds =>
    cases question <;> cases holds <;> simp only [render, String.toList_append, List.append_assoc]
    case has.true name => exact (keyText_render name).beginsWord.begins
    case has.false => exact mark _
    case matching.false => exact mark _
    all_goals exact key _ _
  | ordered name comparison bound =>
    simp only [render, String.toList_append, List.append_assoc]
    exact key _ _

theorem Clause.begins_render (clause : Clause) : Begins (Clause.render clause).toList := by
  cases clause with
  | nil => exact (⟨'t', _, rfl, by decide⟩ : Begins "true".toList)
  | cons literal literals =>
    have shape := @toList_intercalate_parts _ .all Literal.render " && " rfl literal literals
    rw [show (Clause.render (literal :: literals)).toList = _ from shape]
    exact literal.begins_render.append _

/-- Every literal of a printed clause can be read in front of what is printed behind it. -/
def Clause.FitsBefore (clause : Clause) (rest : List Char) : Prop :=
  FitBefore .all Literal.render Literal.FitsBefore rest clause

/-- Every clause of a printed expression can be read in front of what is printed behind it. -/
def Expression.Fits (expression : Expression) : Prop :=
  FitBefore .any Clause.render Clause.FitsBefore [] expression.clauses

theorem accepted_clause (fits : Clause.FitsBefore clause rest)
    (enough : (Clause.render clause).toList.length ≤ size) :
    (Phrase.joined .any (Clause.sentence (clause.map Literal.reread))).Accepted 0 size
      (disjunction size fuel) (Clause.render clause).toList rest := by
  cases clause with
  | nil =>
    exact ((Writes.constant true).joined_of_primary .any).accepted fuel (.inl (Nat.zero_le fuel))
      enough rest
  | cons literal literals =>
    rw [List.map_cons, Clause.sentence, ← List.map_cons, List.map_map]
    exact accepted_alternative (Clause.begins_render _) enough
      (accepted_parts rfl Literal.begins_render (fun literal rest enough fits =>
        accepted_conjunct literal.begins_render (accepted_literal fits enough)) enough fits)

theorem shallow_clause (fits : Clause.FitsBefore clause rest) (shallow : Shallow rest) :
    Shallow ((Clause.render clause).toList ++ rest) := by
  cases clause with
  | nil => exact (passes_constant true).shallow_append shallow
  | cons literal literals =>
    exact shallow_parts rfl (fun literal rest => shallow_literal) fits shallow

/-- **A printed expression is read as what is read again**, if its literals can be read where they
are printed. -/
theorem accepted_expression (fits : expression.Fits)
    (enough : expression.render.toList.length ≤ size) :
    (Phrase.joined .any expression.reread.sentence).Accepted 0 size (disjunction size fuel)
      expression.render.toList [] := by
  obtain ⟨clauses⟩ := expression
  cases clauses with
  | nil =>
    exact ((Writes.constant false).joined_of_primary .any).accepted fuel (.inl (Nat.zero_le fuel))
      enough []
  | cons clause clauses =>
    show (Phrase.joined .any (.joined .any
      (((clause :: clauses).map (·.map Literal.reread)).map Clause.sentence))).Accepted _ _ _ _ _
    rw [List.map_map]
    exact accepted_parts rfl Clause.begins_render (fun clause rest enough fits =>
      accepted_clause fits enough) enough fits

theorem shallow_expression (fits : expression.Fits) : Shallow expression.render.toList := by
  rw [← List.append_nil expression.render.toList]
  obtain ⟨clauses⟩ := expression
  cases clauses with
  | nil => exact (passes_constant false).shallow_append shallow_nil
  | cons clause clauses =>
    exact shallow_parts rfl (fun clause rest => shallow_clause) fits shallow_nil

theorem Expression.begins_render (expression : Expression) :
    Begins expression.render.toList := by
  obtain ⟨clauses⟩ := expression
  cases clauses with
  | nil => exact (⟨'f', _, rfl, by decide⟩ : Begins "false".toList)
  | cons clause clauses =>
    have shape := @toList_intercalate_parts _ .any Clause.render " || " rfl clause clauses
    rw [show (Expression.mk (clause :: clauses)).render.toList = _ from shape]
    exact clause.begins_render.append _

end WhenClause
