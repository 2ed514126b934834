import DocPress.Data

/-! # What a value holds is smaller than the value

Reading a document goes down from a value to the values at its keys. These bounds are why it
ends. -/

set_option autoImplicit false

namespace DocPress.Data

theorem sizeOf_lookup {key : String} {v : Data} (es : List (String × Data))
    (h : es.lookup key = some v) : sizeOf v < sizeOf es := by
  induction es with
  | nil => simp at h
  | cons e es ih =>
    obtain ⟨k, w⟩ := e
    by_cases hk : key = k
    · subst hk
      simp only [List.lookup_cons_self, Option.some.injEq] at h
      subst h
      simp
      omega
    · have hb : (key == k) = false := by simpa using hk
      rw [List.lookup_cons, hb] at h
      have step : sizeOf es < sizeOf ((k, w) :: es) := by
        rw [List.cons.sizeOf_spec]
        omega
      exact Nat.lt_trans (ih h) step

theorem sizeOf_field? {key : String} {d v : Data} (h : d.field? key = some v) :
    sizeOf v < sizeOf d := by
  cases d with
  | map es =>
    have := sizeOf_lookup es h
    simp
    omega
  | _ => simp [field?] at h

theorem sizeOf_present? {key : String} {d v : Data} (h : d.present? key = some v) :
    sizeOf v < sizeOf d := by
  unfold present? at h
  rw [Option.filter_eq_some_iff] at h
  exact sizeOf_field? h.1

end DocPress.Data
