/-
**Bounds on openings.**

However large a shape is, its openings are few and short, or they are not listed at all. Each way of
putting parts together keeps these bounds (`Openings.Bounded`), and so does every shape, by induction
on it: what precedes a part is bounded, hence so is what the part makes of it.
-/

import WhenClause.Regex.Opening

namespace WhenClause.Regex

theorem length_bytesOf_le (code : Nat) : (bytesOf code).length ≤ 4 := by
  unfold bytesOf
  split <;> simp

namespace Opening

variable {opening other : Opening} {openings : List Opening}

/-! ### Lists of openings -/

theorem length_joinTo_le (opening : Opening) (openings : List Opening) :
    (opening.joinTo openings).length ≤ openings.length + 1 := by
  cases openings with
  | nil => exact Nat.le_refl 1
  | cons next rest =>
    rw [joinTo]
    split <;> simp

theorem length_joined_le (openings : List Opening) :
    (joined openings).length ≤ openings.length := by
  induction openings with
  | nil => exact Nat.le_refl 0
  | cons opening openings ih =>
    exact Nat.le_trans (length_joinTo_le opening (joined openings)) (Nat.succ_le_succ ih)

/-- Joining changes the bytes of no opening. -/
theorem exists_of_mem_joinTo (member : other ∈ opening.joinTo openings) :
    ∃ origin ∈ opening :: openings, origin.bytes = other.bytes := by
  cases openings with
  | nil => exact ⟨other, member, rfl⟩
  | cons next rest =>
    rw [joinTo] at member
    split at member
    · rcases List.mem_cons.mp member with rfl | member
      · exact ⟨next, by simp, rfl⟩
      · exact ⟨other, by simp [member], rfl⟩
    · exact ⟨other, member, rfl⟩

theorem exists_of_mem_joined (member : opening ∈ joined openings) :
    ∃ origin ∈ openings, origin.bytes = opening.bytes := by
  induction openings generalizing opening with
  | nil => cases member
  | cons first openings ih =>
    obtain ⟨origin, among, same⟩ := exists_of_mem_joinTo member
    rcases List.mem_cons.mp among with rfl | among
    · exact ⟨origin, List.mem_cons_self, same⟩
    · obtain ⟨origin', among', same'⟩ := ih among
      exact ⟨origin', List.mem_cons_of_mem _ among', same'.trans same⟩

/-- The openings are few, and each of them is short. -/
structure Bounded (openings : List Opening) : Prop where
  few : openings.length ≤ maxOpenings
  short : ∀ opening ∈ openings, opening.bytes.length ≤ maxOpeningBytes

theorem Bounded.joined (bounded : Bounded openings) : Bounded (joined openings) where
  few := Nat.le_trans (length_joined_le openings) bounded.few
  short opening member := by
    obtain ⟨origin, among, same⟩ := exists_of_mem_joined member
    rw [← same]
    exact bounded.short origin among

/-- Two lists that are not too long together keep the bounds as one. -/
theorem Bounded.joined_append {others : List Opening} (bounded : Bounded openings)
    (bounded' : Bounded others) (room : openings.length + others.length ≤ maxOpenings) :
    Bounded (Opening.joined (openings ++ others)) := by
  refine Bounded.joined ⟨by rwa [List.length_append], fun opening member => ?_⟩
  rcases List.mem_append.mp member with member | member
  · exact bounded.short opening member
  · exact bounded'.short opening member

/-- A change that lengthens no opening keeps the bounds. -/
theorem Bounded.map (bounded : Bounded openings) {change : Opening → Opening}
    (shorter : ∀ opening, (change opening).bytes.length ≤ opening.bytes.length) :
    Bounded (openings.map change) where
  few := by
    rw [List.length_map]
    exact bounded.few
  short := List.forall_mem_map.mpr fun opening member =>
    Nat.le_trans (shorter opening) (bounded.short opening member)

theorem length_cut_le (count : Nat) (opening : Opening) :
    (opening.cut count).bytes.length ≤ opening.bytes.length := by
  unfold cut
  split
  · exact Nat.le_refl _
  · exact List.length_take_le' count _

theorem length_cut_le_count (count : Nat) (opening : Opening) :
    (opening.cut count).bytes.length ≤ count := by
  unfold cut
  split
  · assumption
  · exact List.length_take_le count _

/-- An opening goes on in as many ways as there are others, or not at all. -/
theorem length_flatMap_followedBy_le (openings others : List Opening) :
    (openings.flatMap (·.followedBy others)).length ≤
      max openings.length (openings.length * others.length) := by
  have each : ∀ opening : Opening, (opening.followedBy others).length ≤ max 1 others.length := by
    intro opening
    unfold followedBy
    split
    · rw [List.length_map]
      exact Nat.le_max_right 1 _
    · exact Nat.le_max_left 1 _
  have total : (openings.flatMap (·.followedBy others)).length ≤
      openings.length * max 1 others.length := by
    induction openings with
    | nil => simp
    | cons opening openings ih =>
      rw [List.flatMap_cons, List.length_append, List.length_cons, Nat.succ_mul, Nat.add_comm]
      exact Nat.add_le_add ih (each opening)
  rw [← Nat.mul_max_mul_left, Nat.mul_one] at total
  exact total

end Opening

/-! ### Openings of parts -/

namespace Openings

/-- The openings are few and short, or they are not listed. -/
def Bounded (openings : Openings) : Prop := ∀ list, openings = some list → Opening.Bounded list

variable {first second body : Openings}

theorem bounded_none : Bounded none := nofun

theorem bounded_some {list : List Opening} (bounded : Opening.Bounded list) :
    Bounded (some list) := by
  rintro _ ⟨⟩
  exact bounded

theorem bounded_nil : Bounded (some []) := bounded_some ⟨Nat.zero_le _, nofun⟩

theorem bounded_single {opening : Opening} (short : opening.bytes.length ≤ maxOpeningBytes) :
    Bounded (some [opening]) :=
  bounded_some ⟨Nat.le_of_ble_eq_true rfl, List.forall_mem_singleton.mpr short⟩

theorem bounded_empty : Bounded (some [.empty]) := bounded_single (Nat.zero_le _)

theorem Bounded.unfinished (bounded : body.Bounded) : Bounded (body.map (·.map .unfinished)) := by
  intro list same
  obtain ⟨openings, rfl, rfl⟩ := Option.map_eq_some_iff.mp same
  exact (bounded openings rfl).map fun _ => Nat.le_refl _

theorem Bounded.followedBy (bounded : first.Bounded) : (first.followedBy second).Bounded := by
  intro list same
  obtain ⟨openings, listed, same⟩ := Option.bind_eq_some_iff.mp same
  have bounded := bounded openings listed
  split at same
  · rename_i others kept
    obtain ⟨-, room⟩ := Option.filter_eq_some_iff.mp kept
    cases same
    refine ⟨?_, List.forall_mem_map.mpr fun opening _ => opening.length_cut_le_count _⟩
    rw [List.length_map]
    refine Nat.le_trans (Opening.length_joined_le _) (Nat.le_trans
      (Opening.length_flatMap_followedBy_le openings others) (Nat.max_le.mpr ⟨bounded.few, ?_⟩))
    exact of_decide_eq_true room
  · split at same
    · cases same
    · cases same
      exact bounded.map fun _ => Nat.le_refl _

theorem Bounded.extendedBy (bounded : first.Bounded) : (first.extendedBy second).Bounded := by
  unfold Openings.extendedBy
  split
  · exact bounded.followedBy
  · exact bounded

theorem Bounded.foldl_extendedBy (bounded : first.Bounded) (parts : List Openings) :
    (parts.foldl Openings.extendedBy first).Bounded := by
  induction parts generalizing first with
  | nil => exact bounded
  | cons next parts ih => exact ih bounded.extendedBy

theorem Bounded.besides (bounded : first.Bounded) (bounded' : second.Bounded) :
    (first.besides second).Bounded := by
  intro list same
  obtain ⟨openings, listed, same⟩ := Option.bind_eq_some_iff.mp same
  obtain ⟨others, listed', same⟩ := Option.bind_eq_some_iff.mp same
  have bounded := bounded openings listed
  have bounded' := bounded' others listed'
  split at same
  · cases same
    exact bounded.joined_append bounded' ‹_›
  · have cut := (bounded.map (Opening.length_cut_le 4)).joined
    have cut' := (bounded'.map (Opening.length_cut_le 4)).joined
    simp only at same
    split at same
    · cases same
      exact cut.joined_append cut' ‹_›
    · cases same

theorem bounded_ofSet (members : CharSet) : (ofSet members).Bounded := by
  unfold ofSet
  simp only
  split
  · rename_i small
    refine bounded_some ⟨?_, List.forall_mem_map.mpr fun code _ => ?_⟩
    · rw [List.length_map]
      exact Nat.le_trans small (by decide)
    · exact Nat.le_trans (length_bytesOf_le code) (by decide)
  · exact bounded_none

theorem Bounded.repeated (bounded : body.Bounded) (least : Nat) (most : Option Nat) (isLazy : Bool) :
    (body.repeated least most isLazy).Bounded := by
  unfold Openings.repeated
  split
  · have copy : Bounded (if most = some 1 then body else body.map (·.map Opening.unfinished)) := by
      split
      · exact bounded
      · exact bounded.unfinished
    simp only
    split
    · exact bounded_empty.besides copy
    · exact copy.besides bounded_empty
  · simp only
    split
    · exact bounded_empty.foldl_extendedBy _
    · exact (bounded_empty.foldl_extendedBy _).unfinished

end Openings

/-! ### Openings of shapes -/

/-- What precedes a shape is bounded. -/
def Preceding.Bounded : Preceding → Prop
  | nothing => True
  | parts front => front.Bounded
  | alternatives earlier => earlier.Bounded

theorem Preceding.Bounded.settle {preceding : Preceding} {own : Openings}
    (bounded : preceding.Bounded) (bounded' : own.Bounded) : (preceding.settle own).Bounded := by
  cases preceding with
  | nothing => exact bounded'
  | parts front => exact Openings.Bounded.extendedBy bounded
  | alternatives earlier => exact Openings.Bounded.besides bounded bounded'

theorem Shape.bounded_openingsBehind (shape : Shape) {preceding : Preceding}
    (bounded : preceding.Bounded) : (shape.openingsBehind preceding).Bounded := by
  induction shape generalizing preceding with
  | empty => exact bounded.settle Openings.bounded_empty
  | condition assertion => exact bounded.settle Openings.bounded_empty
  | text characters =>
    exact bounded.settle (Openings.bounded_single (Opening.length_cut_le_count _ _))
  | set members => exact bounded.settle (Openings.bounded_ofSet members)
  | repetition body least most isLazy ih =>
    exact bounded.settle ((@ih .nothing trivial).repeated least most isLazy)
  | group number body ih => exact bounded.settle (@ih .nothing trivial)
  | both first second ih ih' =>
    have behind : ∀ front : Openings, front.Bounded →
        (second.openingsBehind (.parts (first.openingsBehind (.parts front)))).Bounded :=
      fun front bounded => @ih' (.parts _) (@ih (.parts front) bounded)
    cases preceding with
    | parts front => exact behind front bounded
    | nothing => exact bounded.settle (behind _ Openings.bounded_empty)
    | alternatives _ => exact bounded.settle (behind _ Openings.bounded_empty)
  | either first second ih ih' =>
    have beside : ∀ earlier : Openings, earlier.Bounded →
        (second.openingsBehind (.alternatives
          (first.openingsBehind (.alternatives earlier)))).Bounded :=
      fun earlier bounded => @ih' (.alternatives _) (@ih (.alternatives earlier) bounded)
    cases preceding with
    | alternatives earlier => exact beside earlier bounded
    | nothing => exact bounded.settle (beside _ Openings.bounded_nil)
    | parts _ => exact bounded.settle (beside _ Openings.bounded_nil)

/-- **The openings of a shape keep within the bounds.** -/
theorem Shape.bounded_openings (shape : Shape) : shape.openings.Bounded :=
  @bounded_openingsBehind shape .nothing trivial

end WhenClause.Regex
