/-
**Byte offsets.**

Each character takes up some bytes, so the offsets at which characters begin are the lengths of the
beginnings of a text.

* `utf8ByteSize_ofList`, `byteLength_toList`: the length of a text is that of the string;
* `takeBytes_append`: within as many bytes as a beginning has, a text begins with it.
-/

import WhenClause.Text.Span

namespace WhenClause

variable {text : List Char}

/-! ### Lengths -/

theorem byteLength_nil : byteLength [] = 0 := rfl

theorem foldl_utf8Size (text : List Char) (bytes : Nat) :
    text.foldl (fun bytes c => bytes + c.utf8Size) bytes = bytes + byteLength text := by
  unfold byteLength
  induction text generalizing bytes with
  | nil => rfl
  | cons c text ih =>
    rw [List.foldl_cons, List.foldl_cons, ih, ih (0 + c.utf8Size), Nat.zero_add, Nat.add_assoc]

theorem byteLength_cons (c : Char) (text : List Char) :
    byteLength (c :: text) = c.utf8Size + byteLength text := by
  rw [byteLength, List.foldl_cons, foldl_utf8Size, Nat.zero_add]

theorem byteLength_append (front rest : List Char) :
    byteLength (front ++ rest) = byteLength front + byteLength rest := by
  induction front with
  | nil => rw [List.nil_append, byteLength_nil, Nat.zero_add]
  | cons c front ih => rw [List.cons_append, byteLength_cons, byteLength_cons, ih, Nat.add_assoc]

theorem utf8ByteSize_ofList (text : List Char) :
    (String.ofList text).utf8ByteSize = byteLength text := by
  induction text with
  | nil => rfl
  | cons c text ih =>
    rw [String.ofList_cons, String.utf8ByteSize_append, String.utf8ByteSize_singleton, ih,
      byteLength_cons]

theorem byteLength_toList (text : String) : byteLength text.toList = text.utf8ByteSize := by
  rw [← utf8ByteSize_ofList, String.ofList_toList]

/-- Characters of one byte each. -/
theorem byteLength_of_forall (single : ∀ c ∈ text, c.utf8Size = 1) :
    byteLength text = text.length := by
  induction text with
  | nil => rfl
  | cons c text ih =>
    obtain ⟨first, rest⟩ := List.forall_mem_cons.mp single
    rw [byteLength_cons, first, ih rest, List.length_cons, Nat.add_comm]

/-! ### Beginnings -/

theorem takeBytes_go_append (front rest taken : List Char) :
    takeBytes.go taken (front ++ rest) (byteLength front) = taken.reverse ++ front := by
  induction front generalizing taken with
  | nil =>
    rw [List.nil_append, List.append_nil, byteLength_nil]
    cases rest with
    | nil => rfl
    | cons c rest => exact if_neg (Nat.not_le.mpr c.utf8Size_pos)
  | cons c front ih =>
    rw [List.cons_append, takeBytes.go, byteLength_cons, if_pos (Nat.le_add_right _ _),
      Nat.add_sub_cancel_left, ih, List.reverse_cons, List.append_assoc]
    rfl

/-- **Within as many bytes as a beginning of it has, a text begins with that.** -/
theorem takeBytes_append (front rest : List Char) :
    takeBytes (front ++ rest) (byteLength front) = front :=
  takeBytes_go_append front rest []

end WhenClause
