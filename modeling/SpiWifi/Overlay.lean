/-!
Writing over part of a fixed-length list. What does not fit is cut off, so the
length never changes.
-/

set_option autoImplicit false
set_option relaxedAutoImplicit false

namespace SpiWifi

variable {α : Type}

def overlay (base : List α) (start : Nat) (patch : List α) : List α :=
  base.take start ++ patch.take (base.length - start) ++ base.drop (start + patch.length)

@[simp] theorem length_overlay (base : List α) (start : Nat) (patch : List α) :
    (overlay base start patch).length = base.length := by
  simp only [overlay, List.length_append, List.length_take, List.length_drop]
  omega

@[simp] theorem overlay_nil (base : List α) (start : Nat) : overlay base start [] = base := by
  simp [overlay]

/-- A patch that fits is read back from where it was written. -/
theorem take_drop_overlay {base patch : List α} {start : Nat}
    (h : start + patch.length ≤ base.length) :
    ((overlay base start patch).drop start).take patch.length = patch := by
  have hp : patch.take (base.length - start) = patch := List.take_of_length_le (by omega)
  rw [overlay, hp, List.append_assoc, List.drop_left' (by rw [List.length_take]; omega),
    List.take_left' rfl]

/-- A patch over the front is cut to the room there is. -/
theorem overlay_front (base patch : List α) : overlay base 0 patch =
    patch.take (min patch.length base.length) ++
      base.drop (min patch.length base.length) := by
  rw [overlay, List.take_zero, List.nil_append, Nat.sub_zero, Nat.zero_add]
  rcases Nat.le_total patch.length base.length with fits | long
  · rw [Nat.min_eq_left fits, List.take_of_length_le fits, List.take_length]
  · rw [Nat.min_eq_right long, List.drop_eq_nil_of_le long, List.drop_length]

/-- A patch replaces exactly the part that it lies over. -/
theorem overlay_append (left : List α) {old patch : List α} (right : List α)
    (h : patch.length = old.length) :
    overlay (left ++ (old ++ right)) left.length patch = left ++ (patch ++ right) := by
  have hp : patch.take ((left ++ (old ++ right)).length - left.length) = patch :=
    List.take_of_length_le (by simp only [List.length_append]; omega)
  rw [overlay, hp, List.take_left' rfl, h, List.drop_append, List.drop_eq_nil_of_le (by omega),
    List.nil_append, Nat.add_sub_cancel_left, List.drop_left' rfl, List.append_assoc]

theorem exists_split {base : List α} {start width : Nat} (fits : start + width ≤ base.length) :
    ∃ left old right, base = left ++ (old ++ right) ∧ left.length = start ∧ old.length = width := by
  refine ⟨base.take start, (base.drop start).take width, (base.drop start).drop width, ?_, ?_, ?_⟩
  · rw [List.take_append_drop, List.take_append_drop]
  · rw [List.length_take]
    omega
  · rw [List.length_take, List.length_drop]
    omega

/-- What stands where a patch goes may be written there again. -/
theorem overlay_take_drop {base : List α} {start width : Nat} (fits : start + width ≤ base.length) :
    overlay base start ((base.drop start).take width) = base := by
  obtain ⟨left, old, right, rfl, rfl, rfl⟩ := exists_split fits
  rw [List.drop_left' rfl, List.take_left' rfl, overlay_append left right rfl]

/-- A patch leaves everything beside it alone. -/
theorem getElem?_overlay_apart {base patch : List α} {start index : Nat}
    (fits : start + patch.length ≤ base.length)
    (apart : index < start ∨ start + patch.length ≤ index) :
    (overlay base start patch)[index]? = base[index]? := by
  obtain ⟨left, old, right, rfl, rfl, width⟩ := exists_split fits
  rw [overlay_append left right width.symm]
  rcases apart with before | behind
  · rw [List.getElem?_append_left before, List.getElem?_append_left before]
  · have past : (left ++ patch).length ≤ index := by rwa [List.length_append]
    have same : (left ++ old).length = (left ++ patch).length := by
      rw [List.length_append, List.length_append, width]
    rw [← List.append_assoc, ← List.append_assoc, List.getElem?_append_right past,
      List.getElem?_append_right (same ▸ past), same]

theorem take_drop_overlay_apart {base patch : List α} {start first width : Nat}
    (fits : start + patch.length ≤ base.length)
    (apart : first + width ≤ start ∨ start + patch.length ≤ first) :
    ((overlay base start patch).drop first).take width = (base.drop first).take width := by
  refine List.ext_getElem? fun index ↦ ?_
  rw [List.getElem?_take, List.getElem?_take]
  split
  · rw [List.getElem?_drop, List.getElem?_drop, getElem?_overlay_apart fits (by omega)]
  · rfl

/-- A shorter patch over the front of a longer one. -/
theorem overlay_overlay_front {base first second : List α} {start : Nat}
    (h : second.length ≤ first.length) (fits : start + first.length ≤ base.length) :
    overlay (overlay base start first) start second =
      overlay base start (second ++ first.drop second.length) := by
  obtain ⟨left, old, right, rfl, rfl, width⟩ := exists_split fits
  have hfirst : first = first.take second.length ++ first.drop second.length :=
    (List.take_append_drop _ _).symm
  have hfront : second.length = (first.take second.length).length := by
    rw [List.length_take]
    omega
  have hlength : (second ++ first.drop second.length).length = old.length := by
    rw [List.length_append, List.length_drop]
    omega
  calc overlay (overlay (left ++ (old ++ right)) left.length first) left.length second
      = overlay (left ++ (first ++ right)) left.length second := by
        rw [overlay_append left right width.symm]
    _ = overlay (left ++ (first.take second.length ++ (first.drop second.length ++ right)))
          left.length second := by
        rw [← List.append_assoc (first.take second.length), ← hfirst]
    _ = left ++ (second ++ (first.drop second.length ++ right)) := overlay_append left _ hfront
    _ = overlay (left ++ (old ++ right)) left.length (second ++ first.drop second.length) := by
        rw [overlay_append left right hlength, List.append_assoc]

/-- A patch that starts where the one before it ended. -/
theorem overlay_overlay_behind {base first second : List α} {start : Nat}
    (fits : start + first.length + second.length ≤ base.length) :
    overlay (overlay base start first) (start + first.length) second =
      overlay base start (first ++ second) := by
  rw [Nat.add_assoc] at fits
  obtain ⟨left, old, right, rfl, rfl, width⟩ := exists_split fits
  have hold : old = old.take first.length ++ old.drop first.length :=
    (List.take_append_drop _ _).symm
  have hfront : first.length = (old.take first.length).length := by
    rw [List.length_take]
    omega
  have hbehind : second.length = (old.drop first.length).length := by
    rw [List.length_drop]
    omega
  have hboth : (first ++ second).length = old.length := by rw [List.length_append, width]
  calc overlay (overlay (left ++ (old ++ right)) left.length first) (left.length + first.length)
        second
      = overlay (overlay (left ++ (old.take first.length ++ (old.drop first.length ++ right)))
          left.length first) (left.length + first.length) second := by
        rw [← List.append_assoc (old.take first.length), ← hold]
    _ = overlay ((left ++ first) ++ (old.drop first.length ++ right)) (left ++ first).length
          second := by
        rw [overlay_append left _ hfront, List.length_append, List.append_assoc]
    _ = (left ++ first) ++ (second ++ right) := overlay_append _ right hbehind
    _ = overlay (left ++ (old ++ right)) left.length (first ++ second) := by
        rw [overlay_append left right hboth, List.append_assoc, List.append_assoc]

end SpiWifi
