/-
**Printing and parsing pattern tests.**

Any source that compiles makes a pattern literal, and is printed as it is between slashes. Where the
literal ends is up to the grammar: at the first slash that no backslash stands before and no class
holds, and such an end of a line ends the source, too. So a test for a pattern is parsed back
exactly if the grammar takes its whole source in front of the slash behind it (`EndsAtSlash`).

* `endsAtSlash_of_reparses`: an equal test has the source, and it has been read in front of a slash;
* `reparses_of_endsAtSlash`: and then nothing that is printed behind it can move its end;
* `reparses_pattern_iff`: which tests for patterns are parsed back from what they print as;
* `parse_bare_slash`: the source `a/b` compiles, and a test for it is not parsed back.
-/

import WhenClause.Proofs.Reparse
import WhenClause.Regex.Engine

namespace WhenClause

open Expression Grammar

variable {source : String}

/-! ### Sources in front of a slash -/

/-- The grammar takes a source as a whole in front of the slash behind it. -/
def EndsAtSlash (source : String) : Prop :=
  takeSource (source.toList ++ ['/']) = some (source.toList, source.toList.length)

instance : Decidable (EndsAtSlash source) :=
  inferInstanceAs (Decidable (takeSource _ = _))

theorem endsAtSlash_iff (some' : source.isEmpty = false) :
    EndsAtSlash source ↔ SourceEnds false false source.toList := by
  constructor
  · intro taken
    exact (sourceEnds_of_takeSource taken List.drop_left).2
  · intro ends
    exact @SourceEnds.takeSource source.toList [] ends (by simpa [Bool.eq_false_iff] using some')

section Engine

variable [PatternEngine]
variable {facts : Facts} {limits : Limits} {expression : Expression} {literal : Literal}
  {pattern : PatternLiteral} {key : String} {flags : List Char} {holds : Bool}

/-! ### The text of a test -/

theorem render_matching (key : String) (pattern : PatternLiteral) :
    (matching key pattern).render = renderKey key ++ " =~ " ++ pattern.render := rfl

theorem render_notMatching (key : String) (pattern : PatternLiteral) :
    (notMatching key pattern).render = "!" ++ renderKey key ++ " =~ " ++ pattern.render := rfl

/-- The text of an expression is parsed to an equal expression. -/
def Expression.Reparses (facts : Facts) (limits : Limits) (expression : Expression) : Prop :=
  ∃ result, parse facts limits expression.render = .ok result ∧ (result == expression) = true

/-- Tests for patterns are equal only if they are identical. -/
theorem Literal.eq_of_matching_beq
    (same : (Literal.test (.matching key pattern) holds == literal) = true) :
    literal = .test (.matching key pattern) holds := by
  cases literal with
  | ordered key comparison bound => cases same
  | test question holds' =>
    obtain ⟨questions, polarities⟩ := Bool.and_eq_true_iff.mp same
    obtain rfl : holds = holds' := beq_iff_eq.mp polarities
    obtain ⟨rfl, -⟩ | ⟨_, _, _, ⟨⟩, -⟩ := (Test.beq_iff _ _).mp questions
    rfl

/-- What equals a test for a pattern has the test. -/
theorem mem_of_beq_matching (formed : expression.Formed)
    (equal : (expression == single (.test (.matching key pattern) holds)) = true) :
    ∃ clause ∈ expression.clauses, .test (.matching key pattern) holds ∈ clause := by
  obtain ⟨-, matched⟩ := (beq_iff_same formed (formed_single _)).mp equal
  obtain ⟨clause, inside, -, same⟩ := matched _ List.mem_cons_self
  have contained := Clause.isSubset_iff.mp same _ List.mem_cons_self
  obtain ⟨literal, member, same⟩ := List.contains_iff_exists_mem_beq.mp contained
  rw [Literal.eq_of_matching_beq same] at member
  exact ⟨clause, inside, member⟩

/-- A test that is parsed back has a source that ends at the slash behind it. -/
theorem endsAtSlash_of_reparses
    (reparses : (single (.test (.matching key pattern) holds)).Reparses facts limits) :
    1 ≤ limits.clauses ∧ SourceEnds false false pattern.source.toList := by
  obtain ⟨result, run, equal⟩ := reparses
  have built : Built (· = facts) result := .parse rfl run
  obtain ⟨clause, inside, member⟩ := mem_of_beq_matching built.formed equal
  constructor
  · have room := (room_of_parse run).resolve_left fun always' => by
      rw [always'] at inside
      rw [List.mem_singleton.mp inside] at member
      cases member
    exact (List.length_pos_of_mem inside).trans_le room
  · have legible : pattern.Legible := legible_of_parse run clause inside _ member
    obtain ⟨closing, ends⟩ := legible.ends
    exact ends.congr (.inr rfl)

/-- **A test is parsed back if its source ends at the slash behind it**, for nothing else is printed
behind the literal. -/
theorem reparses_of_endsAtSlash
    (made : ∃ flags, PatternLiteral.ofSource pattern.source flags = .ok pattern)
    (ends : SourceEnds false false pattern.source.toList)
    (bytes : (single (.test (.matching key pattern) holds)).render.utf8ByteSize ≤
      limits.expressionBytes)
    (room : 1 ≤ limits.clauses) :
    (single (.test (.matching key pattern) holds)).Reparses facts limits := by
  have legible : pattern.Legible := ⟨made, false, ends⟩
  have built : Built (· = facts) (single (.test (.matching key pattern) holds)) :=
    @Built.literal _ (· = facts) facts rfl (.test (.matching key pattern) holds)
  have fits : (single (.test (.matching key pattern) holds)).Fits :=
    ⟨⟨⟨legible, ends⟩, trivial⟩, trivial⟩
  obtain ⟨result, parsed, equal, -⟩ :=
    parse_render_of_fits built (legible_single legible) fits bytes (.inr room)
  exact ⟨result, parsed, equal⟩

/-! ### The round trip -/

/-- **Which tests for patterns are parsed back from what they print as.** Of a source and flags that
compile, both tests are parsed to an equal expression, within limits that have room for the text and
for a clause, exactly if the source ends at the slash behind it. -/
theorem reparses_pattern_iff (made : PatternLiteral.ofSource source flags = .ok pattern)
    (test : expression = matching key pattern ∨ expression = notMatching key pattern)
    (bytes : expression.render.utf8ByteSize ≤ limits.expressionBytes) :
    expression.Reparses facts limits ↔ 1 ≤ limits.clauses ∧ EndsAtSlash source := by
  obtain ⟨some', -, same, -⟩ := ofSource_eq_ok.mp made
  obtain ⟨holds, rfl⟩ : ∃ holds, expression = single (.test (.matching key pattern) holds) :=
    test.elim (fun same => ⟨true, same⟩) fun same => ⟨false, same⟩
  rw [endsAtSlash_iff some', ← same]
  refine ⟨endsAtSlash_of_reparses, fun ⟨room, ends⟩ => ?_⟩
  exact reparses_of_endsAtSlash ⟨flags, by rw [same]; exact made⟩ ends bytes room

end Engine

/-! ### Two sources for one pattern -/

/-- Sorted ranges are joined in their order. -/
theorem CharSet.ofRanges_of_sorted {range : Nat × Nat} {ranges : List (Nat × Nat)}
    (sorted : (range :: ranges).Pairwise fun left right => left.1 ≤ right.1) :
    ofRanges (range :: ranges) = ⟨join range ranges⟩ := by
  rw [ofRanges, List.mergeSort_of_pairwise (sorted.imp decide_eq_true)]

/-- A single character below the surrogates is a text. -/
theorem Regex.Shape.ofSet_singleton {c : Char} (some' : 0 < c.toNat) (low : c.toNat < 0xd800) :
    ofSet (.singleton c) = .text [c] := by
  have surrogates : CharSet.ofRanges [(0xd800, 0xdfff)] = ⟨[(0xd800, 0xdfff)]⟩ :=
    CharSet.ofRanges_of_sorted (List.pairwise_singleton _ _)
  have others : (CharSet.singleton c).complement =
      ⟨[(0, c.toNat - 1), (c.toNat + 1, CharSet.maxCode)]⟩ := by
    have below : c.toNat + 1 ≤ CharSet.maxCode := by
      unfold CharSet.maxCode
      omega
    simp [CharSet.complement, CharSet.gaps, CharSet.singleton, some', below]
  have sorted : [(0, c.toNat - 1), (c.toNat + 1, CharSet.maxCode), (0xd800, 0xdfff)].Pairwise
      fun left right => left.1 ≤ right.1 :=
    List.pairwise_cons.mpr ⟨fun _ _ => Nat.zero_le _, List.pairwise_pair.mpr low⟩
  have joined : CharSet.join (0, c.toNat - 1)
      [(c.toNat + 1, CharSet.maxCode), (0xd800, 0xdfff)] =
        [(0, c.toNat - 1), (c.toNat + 1, CharSet.maxCode)] := by
    have apart : ¬c.toNat + 1 ≤ c.toNat - 1 + 1 := by omega
    rw [CharSet.join, if_neg apart]
    rfl
  have itself : (CharSet.singleton c).difference (.ofRanges [(0xd800, 0xdfff)]) =
      .singleton c := by
    rw [CharSet.difference, CharSet.intersect, CharSet.union, others, surrogates]
    show (CharSet.ofRanges [(0, c.toNat - 1), (c.toNat + 1, CharSet.maxCode),
      (0xd800, 0xdfff)]).complement = _
    rw [CharSet.ofRanges_of_sorted sorted, joined, CharSet.complement]
    have before : c.toNat - 1 + 1 = c.toNat := by omega
    simp [CharSet.gaps, before, CharSet.singleton]
  unfold ofSet
  rw [itself]
  simp [CharSet.singleton]

/-- The characters `a/b` write a pattern that is a single text. -/
theorem exists_slash_pattern :
    ∃ pattern, Regex.Pattern.read? {} ['a', '/', 'b'] = some pattern := by
  obtain ⟨part, read, depth, shape⟩ : ∃ part,
      Regex.readChoice 4 { options := {} } ['a', '/', 'b'] = some (part, {}, []) ∧
        part.depth ≤ Regex.maxDepth ∧ part.shape = .text ['a', '/', 'b'] := by
    refine ⟨_, rfl, by decide, ?_⟩
    show Regex.Shape.sequence [.ofSet (.singleton 'a'), .ofSet (.singleton '/'),
      .ofSet (.singleton 'b')] = _
    rw [Regex.Shape.ofSet_singleton (by decide) (by decide),
      Regex.Shape.ofSet_singleton (by decide) (by decide),
      Regex.Shape.ofSet_singleton (by decide) (by decide)]
    rfl
  have fits : part.shape.fits = true := by
    rw [shape]
    decide +kernel
  refine ⟨part.pattern, ?_⟩
  rw [Regex.Pattern.read?, show ['a', '/', 'b'].length + 1 = 4 from rfl, read]
  exact if_pos ⟨depth, fits⟩

/-- With its slash escaped or not, the source `a/b` compiles. -/
theorem exists_slash_literal (unescaped : unescapeSlashes source.toList = ['a', '/', 'b']) :
    ∃ pattern, PatternLiteral.ofSource source [] = .ok pattern ∧ pattern.source = source ∧
      pattern.flags = "" := by
  obtain ⟨pattern, read⟩ := exists_slash_pattern
  have compiles : compilePattern? source "" = some pattern := by
    have switches : ∀ letter : Char, "".contains letter = false := fun letter => by simp
    rw [compilePattern?, unescaped, PatternSwitches.ofFlags, switches, switches, switches]
    exact read
  have some' : source.isEmpty = false := by
    refine Bool.eq_false_iff.mpr fun empty => ?_
    rw [String.isEmpty_iff.mp empty] at unescaped
    cases unescaped
  exact ⟨⟨source, "", pattern, compiles⟩, ofSource_eq_ok.mpr ⟨some', nofun, rfl, rfl⟩, rfl, rfl⟩

/-- With its slash escaped, both tests for `a/b` are parsed back. -/
theorem reparses_escaped_slash :
    ∃ pattern, PatternLiteral.ofSource "a\\/b" [] = .ok pattern ∧
      (matching "k" pattern).Reparses none {} ∧ (notMatching "k" pattern).Reparses none {} := by
  obtain ⟨pattern, made, source, flags⟩ := @exists_slash_literal "a\\/b" rfl
  have short : (matching "k" pattern).render.utf8ByteSize ≤ ({} : Limits).expressionBytes := by
    rw [render_matching, PatternLiteral.render, source, flags]
    decide
  have short' : (notMatching "k" pattern).render.utf8ByteSize ≤ ({} : Limits).expressionBytes := by
    rw [render_notMatching, PatternLiteral.render, source, flags]
    decide
  exact ⟨pattern, made, (reparses_pattern_iff made (.inl rfl) short).mpr ⟨by decide, by decide⟩,
    (reparses_pattern_iff made (.inr rfl) short').mpr ⟨by decide, by decide⟩⟩

/-- With its slash as it is, the source `a/b` compiles, too, and is printed so. There the literal
ends behind `a`, and `b/` are no flags. -/
theorem parse_bare_slash :
    ∃ pattern, PatternLiteral.ofSource "a/b" [] = .ok pattern ∧
      (matching "k" pattern).render = "k =~ /a/b/" ∧
      (matching "k" pattern).render.utf8ByteSize ≤ ({} : Limits).expressionBytes ∧
      ∀ result, parse none {} (matching "k" pattern).render ≠ .ok result := by
  obtain ⟨pattern, made, source, flags⟩ := @exists_slash_literal "a/b" rfl
  have text : (matching "k" pattern).render = "k =~ /a/b/" := by
    rw [render_matching, PatternLiteral.render, source, flags]
    decide
  have fails : (parse none {} "k =~ /a/b/").toOption.isSome = false := by decide +kernel
  refine ⟨pattern, made, text, by rw [text]; decide, fun result parsed => ?_⟩
  rw [text] at parsed
  rw [parsed] at fails
  cases fails

end WhenClause
