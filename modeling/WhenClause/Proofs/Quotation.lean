/-
**Quoted text, written, read and passed over.**

Three parts of the language know where a quoted text ends: what is written ends at its last quote,
the grammar goes up to the first quote that no backslash takes with it, and so does the scan for the
outline. They agree on where that is (`quotes_agree`), whatever backslashes stand before a quote.

The outline is a list here, its characters with their positions (`outline`). The depth of a text and
the suggestion for it are functions of that list.

* `nestingDepth_eq_outline`, `suggest?_eq_outline`: what is found in the outline;
* `quotedString_encode`: the grammar reads back what is written, and no more;
* `outlineFrom_quotedString`: behind a quoted text the outline goes on as at the start of a text.
-/

import WhenClause.Proofs.Outline
import WhenClause.Proofs.Rendering

namespace WhenClause.Grammar

variable {rest content : List Char} {cursor next : Cursor}

/-! ### The outline as a list -/

/-- The characters of the outline from a place in a text on, with their positions, given the mode
there. -/
def outlineFrom (mode : Mode) (position : Nat) : List Char → List (Nat × Char)
  | [] => []
  | c :: rest =>
    let behind := outlineFrom (mode.step c).1 (position + 1) rest
    if (mode.step c).2 then (position, c) :: behind else behind

/-- The characters of the outline of a text, with their positions. -/
def outline (text : List Char) : List (Nat × Char) := outlineFrom .start 0 text

/-- A character that is not in the outline only changes the mode. -/
theorem outlineFrom_of_silent {mode mode' : Mode} {c : Char} (silent : mode.step c = (mode', false))
    (position : Nat) (rest : List Char) :
    outlineFrom mode position (c :: rest) = outlineFrom mode' (position + 1) rest := by
  simp only [outlineFrom, silent, Bool.false_eq_true, if_false]

/-- The depth behind a text is that behind the characters of its outline. -/
theorem foldl_depthStep_snd (text : List Char) (mode : Mode) (depth : Depth) (position : Nat) :
    (text.foldl depthStep (mode, depth)).2 =
      (outlineFrom mode position text).foldl (fun (depth : Depth) entry => depth.step entry.2)
        depth := by
  induction text generalizing mode depth position with
  | nil => rfl
  | cons c text ih =>
    rw [List.foldl_cons, depthStep, ih _ _ (position + 1), outlineFrom]
    cases (mode.step c).2 <;> rfl

theorem nestingDepth_eq_outline (text : List Char) :
    nestingDepth text =
      ((outline text).foldl (fun (depth : Depth) entry => depth.step entry.2) ⟨0, 0⟩).greatest :=
  congrArg Depth.greatest (foldl_depthStep_snd text .start ⟨0, 0⟩ 0)

/-- The operator that the character at a position may have been meant for, given its neighbours in a
text. -/
def suggestionIn? (text : List Char) (entry : Nat × Char) : Option Suggestion :=
  suggestionAt? (text.take entry.1).getLast? entry.2 (text.drop (entry.1 + 1)).head?

theorem suggestionIn?_append (front : List Char) (c : Char) (rest : List Char) :
    suggestionIn? (front ++ c :: rest) (front.length, c) =
      suggestionAt? front.getLast? c rest.head? := by
  simp [suggestionIn?]

theorem suggestFrom_eq_outlineFrom (front rest : List Char) (mode : Mode) :
    suggestFrom mode front.getLast? rest =
      (outlineFrom mode front.length rest).findSome? (suggestionIn? (front ++ rest)) := by
  induction rest generalizing mode front with
  | nil => rfl
  | cons c rest ih =>
    rw [suggestFrom, outlineFrom]
    obtain ⟨mode', outlined⟩ := mode.step c
    have behind := ih (front ++ [c]) mode'
    rw [List.getLast?_concat, List.length_append, List.length_singleton, List.append_assoc,
      List.singleton_append] at behind
    cases outlined with
    | false => exact behind
    | true =>
      simp only [if_true, List.findSome?_cons, suggestionIn?_append, behind]
      cases suggestionAt? front.getLast? c rest.head? <;> rfl

/-- The suggestion for a text is the first one in its outline. -/
theorem suggest?_eq_outline (text : List Char) :
    suggest? text = (outline text).findSome? (suggestionIn? text) :=
  suggestFrom_eq_outlineFrom [] text .start

/-! ### Over quoted text -/

/-- Between quotes nothing is in the outline, and the scan leaves them where the grammar ends the
body. -/
theorem outlineFrom_quoted (text : List Char) : ∀ before position behind,
    (Quoted.splitBodyFrom before text).2 = '\'' :: rest →
      position + text.length = behind + rest.length →
        outlineFrom .quoted position text = outlineFrom .start behind rest := by
  -- a backslash takes the next character with it in the scan as in the grammar, so both go on from
  -- the same place; what is left of the text tells the position
  induction text using source_cases with
  | nil =>
    intro before position behind ends
    simp [Quoted.splitBodyFrom] at ends
  | open' =>
    intro before position behind ends
    simp [Quoted.splitBodyFrom] at ends
  | escape escaped text ih =>
    intro before position behind ends places
    rw [Quoted.splitBodyFrom] at ends
    rw [outlineFrom_of_silent rfl, outlineFrom_of_silent rfl]
    refine ih _ _ behind ends ?_
    simp only [List.length_cons] at places
    omega
  | other c text noEscape ih =>
    intro before position behind ends places
    by_cases quote : c = '\''
    · subst quote
      have split : Quoted.splitBodyFrom before ('\'' :: text) = (before.reverse, '\'' :: text) := by
        simp [Quoted.splitBodyFrom]
      rw [split] at ends
      cases ends
      have next : behind = position + 1 := by
        rw [List.length_cons] at places
        omega
      rw [next, outlineFrom_of_silent rfl]
      rfl
    · rw [splitBodyFrom_cons ⟨quote, noEscape⟩] at ends
      rw [outlineFrom_of_silent (Mode.step_quoted quote noEscape)]
      refine ih _ _ behind ends ?_
      rw [List.length_cons] at places
      omega

/-- **Behind a quoted text the outline goes on as at the start of a text**, and nothing before that
is in it. -/
theorem outlineFrom_quotedString (read : (quotedString cursor).result = some (content, next))
    (behindEqual behindMatch : Bool) :
    outlineFrom (.plain behindEqual behindMatch) cursor.position cursor.rest =
      outlineFrom .start next.position next.rest := by
  obtain ⟨take, same, takes⟩ := exists_take_quotedString
  rw [same, result_whole] at read
  obtain ⟨⟨_, length⟩, taken, moved⟩ := Option.map_eq_some_iff.mp read
  obtain ⟨body, more, shape, split, -, rfl⟩ := takes _ _ _ taken
  have behind : next = ⟨cursor.position + body.length + 2, more⟩ := by
    cases moved
    simp [Cursor.advance, shape, Nat.add_assoc]
  rw [behind, shape, outlineFrom_of_silent rfl]
  refine outlineFrom_quoted _ [] _ _ (congrArg Prod.snd split) ?_
  show cursor.position + 1 + (body ++ '\'' :: more).length =
    cursor.position + body.length + 2 + more.length
  rw [List.length_append, List.length_cons]
  omega

/-- **The grammar reads back what is written between quotes, and no more.** -/
theorem quotedString_encode (content rest : List Char) (position : Nat) :
    (quotedString ⟨position, Quoted.encode content ++ rest⟩).result =
      some (content, ⟨position + (Quoted.encode content).length, rest⟩) := by
  obtain ⟨_, read, rfl⟩ := takes_quotedString (quotedAs_escape content) rest position
  exact read

/-- **Quotes end in one place for all.** What is written for a text is read back as that text, and
reading ends where what is written does, whatever follows. Where a quoted text is read, the scan for
the outline, which may have been anywhere in plain text, goes on right behind it as at the start of a
text; nothing within is in the outline. -/
theorem quotes_agree :
    (∀ content rest position,
        (quotedString ⟨position, Quoted.encode content ++ rest⟩).result =
          some (content, ⟨position + (Quoted.encode content).length, rest⟩)) ∧
      ∀ cursor content next, (quotedString cursor).result = some (content, next) →
        ∀ behindEqual behindMatch,
          outlineFrom (.plain behindEqual behindMatch) cursor.position cursor.rest =
            outlineFrom .start next.position next.rest :=
  ⟨quotedString_encode, fun _ _ _ read => outlineFrom_quotedString read⟩

/-- In `'a\\\'(' && b` a backslash and a quote are quoted, one behind the other, and behind them a
parenthesis that is not in the outline. -/
theorem quotes_agree_backslashes :
    (quotedString ⟨0, "'a\\\\\\'(' && b".toList⟩).result =
        some ("a\\'(".toList, ⟨8, " && b".toList⟩) ∧
      outlineFrom (.plain true false) 0 "'a\\\\\\'(' && b".toList =
        outlineFrom .start 8 " && b".toList := by
  have read : (quotedString ⟨0, "'a\\\\\\'(' && b".toList⟩).result =
      some ("a\\'(".toList, ⟨8, " && b".toList⟩) := by rfl
  exact ⟨read, quotes_agree.2 _ _ _ read true false⟩

end WhenClause.Grammar
