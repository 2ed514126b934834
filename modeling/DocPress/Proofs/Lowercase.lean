import DocPress.Text.Lowercase

/-! # Signs in lower-cased texts

Lower-casing changes letters only, and no letter becomes a sign of the basic alphabet such as a full
stop, a hyphen or a less-than sign: the lower-case forms in the table all lie beyond these signs. So
a text has such a sign if and only if its lower-case form has it. -/

set_option autoImplicit false

namespace DocPress.Text

/-- A character of the basic alphabet that stands before the small letters and is no letter. -/
structure IsSign (c : Char) : Prop where
  positive : 0 < c.toNat
  beforeSmall : c.toNat < 97
  notCapital : ¬ (65 ≤ c.toNat ∧ c.toNat ≤ 90)

instance (c : Char) : Decidable (IsSign c) :=
  decidable_of_iff (0 < c.toNat ∧ c.toNat < 97 ∧ ¬ (65 ≤ c.toNat ∧ c.toNat ≤ 90))
    ⟨fun isSign => ⟨isSign.1, isSign.2.1, isSign.2.2⟩,
      fun isSign => ⟨isSign.positive, isSign.beforeSmall, isSign.notCapital⟩⟩

theorem lowerRuns_large : ∀ run ∈ lowerRuns, (97 : Int) ≤ run.1 + run.2.2.2 := by
  decide +kernel

variable {sign : Char}

/-- A code point from that of the small letters on is not that of a sign. -/
theorem IsSign.ne_ofNat (isSign : IsSign sign) {n : Nat} (large : 97 ≤ n) :
    Char.ofNat n ≠ sign := by
  intro same
  have code := congrArg Char.toNat same
  by_cases valid : n.isValidChar
  · rw [Char.ofNat, dif_pos valid] at code
    have small := isSign.beforeSmall
    change n = sign.toNat at code
    omega
  · rw [Char.ofNat, dif_neg valid] at code
    have positive := isSign.positive
    change 0 = sign.toNat at code
    omega

theorem IsSign.lowerChar_eq_iff (isSign : IsSign sign) (c : Char) :
    lowerChar c = sign ↔ c = sign := by
  unfold lowerChar
  split
  · split
    · rename_i isCapital
      have other : c ≠ sign := fun same => isSign.notCapital (same ▸ isCapital)
      exact iff_of_false (isSign.ne_ofNat (by omega)) other
    · exact Iff.rfl
  · rename_i notBasic
    have other : c ≠ sign := by
      rintro rfl
      have small := isSign.beforeSmall
      omega
    split
    · rename_i run found
      have large := lowerRuns_large run (List.mem_of_find?_eq_some found)
      have inRun := List.find?_some found
      simp only [Bool.and_eq_true, decide_eq_true_eq] at inRun
      exact iff_of_false (isSign.ne_ofNat (by omega)) other
    · exact Iff.rfl

theorem IsSign.mem_lowerFrom_iff (isSign : IsSign sign) (before cs : List Char) :
    sign ∈ lowerFrom before cs ↔ sign ∈ cs := by
  induction cs generalizing before with
  | nil => exact Iff.rfl
  | cons c cs inductionHypothesis =>
    have notLarge {n : Nat} (large : 97 ≤ n) : sign ≠ Char.ofNat n := (isSign.ne_ofNat large).symm
    have small := isSign.beforeSmall
    rw [lowerFrom, List.mem_append, List.mem_cons, inductionHypothesis]
    refine or_congr_left ?_
    split
    · rename_i isSigma
      have other : sign ≠ c := by
        rintro rfl
        omega
      refine iff_of_false ?_ other
      split <;> simpa using notLarge (by decide)
    · split
      · rename_i isDotted
        have other : sign ≠ c := by
          rintro rfl
          omega
        have notSmall : sign ≠ 'i' := notLarge (n := 105) (by decide)
        have notAccent : sign ≠ Char.ofNat 0x307 := notLarge (by decide)
        exact iff_of_false (by simp [notSmall, notAccent]) other
      · rw [List.mem_singleton, eq_comm, isSign.lowerChar_eq_iff, eq_comm]

/-- A sign is in the lower-case form of a text if and only if it is in the text. -/
theorem IsSign.mem_lower_iff (isSign : IsSign sign) (s : String) :
    sign ∈ (lower s).toList ↔ sign ∈ s.toList := by
  rw [lower, String.toList_ofList, isSign.mem_lowerFrom_iff]

end DocPress.Text
