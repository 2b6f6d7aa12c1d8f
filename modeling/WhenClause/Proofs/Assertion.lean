/-
**Readers that do the same.**

`Alike before left right behind` relates two readers: from every cursor whose text satisfies the
assertion `before` they have the same outcome, and the text behind what they read satisfies `behind`.
For a reader and itself it says where the reader leaves the text.

There is one rule for each way of putting readers together. So to show that a part of the grammar
does not matter in some place, it is enough to follow an assertion from token to token to this place,
and to see that it cannot hold there.
-/

import WhenClause.Proofs.Word

namespace WhenClause.Grammar

open Reader

variable {α β : Type} {left right item item' : Reader α} {before middle behind : List Char → Prop}

/-- Two readers do the same where one assertion about the text in front holds, and another one holds
behind what they read. -/
def Alike (before : List Char → Prop) (left right : Reader α) (behind : List Char → Prop) : Prop :=
  ∀ cursor, before cursor.rest → left cursor = right cursor ∧
    ∀ value next, (left cursor).result = some (value, next) → behind next.rest

theorem Alike.leaves {cursor next : Cursor} {value : α} (alike : Alike before left right behind)
    (holds : before cursor.rest) (read : (left cursor).result = some (value, next)) :
    behind next.rest :=
  (alike cursor holds).2 value next read

/-! ### Single readers -/

theorem alike_pure (value : α) : Alike before (pure value) (pure value) before :=
  fun _ holds => ⟨rfl, by rintro _ _ ⟨⟩; exact holds⟩

theorem alike_position : Alike before position position before :=
  fun _ holds => ⟨rfl, by rintro _ _ ⟨⟩; exact holds⟩

theorem alike_gap (skips : ∀ text rest, Gap text → before (text ++ rest) → behind rest) :
    Alike before gap gap behind := by
  refine fun cursor holds => ⟨rfl, ?_⟩
  rintro _ _ ⟨⟩
  rw [Cursor.rest_skipGap]
  refine skips (cursor.rest.takeWhile isGap) _ (fun c => List.mem_takeWhile_imp) ?_
  rwa [List.takeWhile_append_dropWhile]

theorem alike_mark {text : List Char} (passes : ∀ rest, before (text ++ rest) → behind rest) :
    Alike before (mark text) (mark text) behind := by
  refine fun cursor holds => ⟨rfl, fun value next read => ?_⟩
  rw [result_mark] at read
  split at read
  · rename_i front
    cases read
    obtain ⟨rest, same⟩ := List.isPrefixOf_iff_prefix.mp front
    rw [← same] at holds
    have drop : (cursor.advance text.length).rest = rest := by
      rw [Cursor.advance, ← same, List.drop_left]
    rw [drop]
    exact passes rest holds
  · cases read

theorem alike_whole {construct : Construct} {take : List Char → Option (α × Nat)}
    (takes : ∀ text value length, before text → take text = some (value, length) →
      behind (text.drop length)) :
    Alike before (whole construct take) (whole construct take) behind := by
  refine fun cursor holds => ⟨rfl, fun value next read => ?_⟩
  rw [result_whole, Option.map_eq_some_iff] at read
  obtain ⟨⟨value', length⟩, taken, same⟩ := read
  cases same
  exact takes cursor.rest value' length holds taken

/-! ### Combinations -/

theorem Alike.bind {next next' : α → Reader β} (first : Alike before left right middle)
    (second : ∀ value, Alike middle (next value) (next' value) behind) :
    Alike before (left >>= next) (right >>= next') behind := by
  intro cursor holds
  obtain ⟨same, leaves⟩ := first cursor holds
  constructor
  · show Reader.bind left next cursor = Reader.bind right next' cursor
    unfold Reader.bind
    rw [← same]
    split
    · rfl
    · rename_i value cursor' attempts read
      rw [(second value cursor' (leaves value cursor' (by rw [read]))).1]
  · intro value last read
    rw [result_bind, Option.bind_eq_some_iff] at read
    obtain ⟨⟨value', cursor'⟩, read', rest⟩ := read
    exact (second value').leaves (leaves value' cursor' read') rest

theorem Alike.orElse (first : Alike before left right behind)
    (second : Alike before item item' behind) :
    Alike before (Reader.orElse left item) (Reader.orElse right item') behind := by
  intro cursor holds
  obtain ⟨same, leaves⟩ := first cursor holds
  obtain ⟨same', leaves'⟩ := second cursor holds
  constructor
  · unfold Reader.orElse
    rw [same, same']
  · intro value next read
    rw [result_orElse, Option.or_eq_some_iff] at read
    rcases read with read | ⟨-, read⟩
    · exact leaves value next read
    · exact leaves' value next read

theorem alike_firstOf {readers : List (Reader α)}
    (each : ∀ reader ∈ readers, Alike before reader reader behind) :
    Alike before (firstOf readers) (firstOf readers) behind := by
  induction readers with
  | nil => exact fun cursor _ => ⟨rfl, nofun⟩
  | cons reader readers ih =>
    obtain ⟨first, rest⟩ := List.forall_mem_cons.mp each
    exact first.orElse (ih rest)

theorem Alike.named (construct : Construct) (alike : Alike before left right behind) :
    Alike before (Reader.named construct left) (Reader.named construct right) behind := by
  intro cursor holds
  obtain ⟨same, leaves⟩ := alike cursor holds
  constructor
  · unfold Reader.named
    rw [same]
  · intro value next read
    rw [result_named] at read
    exact leaves value next read

theorem Alike.many (alike : Alike before item item' before) (size : Nat) :
    Alike before (Reader.many size item) (Reader.many size item') before := by
  unfold Reader.many
  generalize ([] : List α) = values
  generalize Attempts.none = attempts
  intro cursor
  induction size generalizing values attempts cursor with
  | zero => exact fun holds => ⟨rfl, by rintro _ _ ⟨⟩; exact holds⟩
  | succ size ih =>
    intro holds
    obtain ⟨same, leaves⟩ := alike cursor holds
    unfold manyFrom
    rw [← same]
    split
    · rename_i value next more read
      exact ih _ _ next (leaves value next (by rw [read]))
    · exact ⟨rfl, by rintro _ _ ⟨⟩; exact holds⟩

theorem Alike.repeatedly (alike : Alike before item item' before)
    (gaps : Alike before gap gap before) (size : Nat) :
    Alike before (Grammar.repeatedly size item) (Grammar.repeatedly size item') before :=
  .orElse
    (.bind alike fun _ => .bind ((gaps.bind fun _ => alike).many size) fun _ => alike_pure _)
    (alike_pure _)

end WhenClause.Grammar
