import DocPress.Numeral

/-! # Numerals are read back

Reading the digits of a number gives the number again, so no two numbers have the same numeral.

* `ofInt_eq_toString`: the numerals are the usual ones.
* `read?_ofNat`: a numeral is read as its number, unless it is too long. -/

set_option autoImplicit false

namespace DocPress.Numeral

/-! ## Digits -/

theorem digitValue?_digitChar : ∀ d < 10, digitValue? 10 (digitChar d) = some d := by
  decide

theorem digitChar_ne_underscore : ∀ d < 10, digitChar d ≠ '_' := by
  decide

/-- A digit after a text that reads as `m` makes it read as `10 * m` and the digit. -/
theorem readDigits_append_digit {cs : List Char} {value m d : Nat} {ready : Bool} (small : d < 10)
    (front : readDigits 10 value ready cs = some m) :
    readDigits 10 value ready (cs ++ [digitChar d]) = some (10 * m + d) := by
  induction cs generalizing value ready with
  | nil =>
    simp only [readDigits, Option.ite_none_right_eq_some, Option.some.injEq] at front
    obtain ⟨-, rfl⟩ := front
    simp [readDigits, digitChar_ne_underscore d small, digitValue?_digitChar d small]
  | cons c cs inductionHypothesis =>
    simp only [List.cons_append, readDigits] at front ⊢
    split at front
    · rename_i isUnderscore
      rw [if_pos isUnderscore]
      split at front
      · rename_i isReady
        rw [if_pos isReady]
        exact inductionHypothesis front
      · contradiction
    · rename_i notUnderscore
      rw [if_neg notUnderscore]
      split at front
      · exact inductionHypothesis front
      · contradiction

/-- The digits of a number are read as that number. -/
theorem readDigits_digits (n : Nat) : readDigits 10 0 false (digits n) = some n := by
  induction n using digits.induct with
  | case1 n small =>
    rw [digits, if_pos small]
    simp [readDigits, digitChar_ne_underscore n small, digitValue?_digitChar n small]
  | case2 n large inductionHypothesis =>
    rw [digits, if_neg large,
      readDigits_append_digit (Nat.mod_lt n (by decide)) inductionHypothesis, Nat.div_add_mod]

theorem ofNat_injective : Function.Injective ofNat := by
  intro m n equal
  have sameDigits : digits m = digits n := by
    have sameTexts := congrArg String.toList equal
    simpa [ofNat] using sameTexts
  have sameValue := readDigits_digits m
  rw [sameDigits, readDigits_digits n] at sameValue
  exact (Option.some.inj sameValue).symm

theorem exists_digitChar_of_mem {n : Nat} {c : Char} (isDigit : c ∈ digits n) :
    ∃ d < 10, c = digitChar d := by
  induction n using digits.induct with
  | case1 n small =>
    rw [digits, if_pos small] at isDigit
    exact ⟨n, small, List.mem_singleton.mp isDigit⟩
  | case2 n large inductionHypothesis =>
    rw [digits, if_neg large] at isDigit
    cases List.mem_append.mp isDigit with
    | inl isHigher => exact inductionHypothesis isHigher
    | inr isLast => exact ⟨n % 10, Nat.mod_lt n (by decide), List.mem_singleton.mp isLast⟩

/-! ## The usual numerals -/

theorem digitChar_eq : ∀ d < 10, digitChar d = Nat.digitChar d := by
  decide

theorem digits_eq_toDigits (n : Nat) : digits n = Nat.toDigits 10 n := by
  induction n using digits.induct with
  | case1 n small =>
    rw [digits, if_pos small, Nat.toDigits_of_lt_base small, digitChar_eq n small]
  | case2 n large inductionHypothesis =>
    rw [digits, if_neg large, inductionHypothesis, digitChar_eq _ (Nat.mod_lt n (by decide)),
      Nat.toDigits_of_base_le (by decide) (Nat.le_of_not_lt large)]

theorem ofNat_eq_toString (n : Nat) : ofNat n = toString n := by
  rw [ofNat, digits_eq_toDigits, Nat.toString_eq_ofList_toDigits]

theorem ofInt_eq_toString (n : Int) : ofInt n = toString n := by
  cases n with
  | ofNat n => exact ofNat_eq_toString n
  | negSucc n =>
    rw [ofInt, ofNat_eq_toString]
    rfl

/-! ## Reading a numeral -/

theorem trim_of_forall {cs : List Char} (free : ∀ c ∈ cs, isMargin c = false) : trim cs = cs := by
  have kept : ∀ cs : List Char, (∀ c ∈ cs, isMargin c = false) → cs.dropWhile isMargin = cs := by
    intro cs free
    cases cs with
    | nil => rfl
    | cons c cs => exact List.dropWhile_cons_of_neg (by simp [free c List.mem_cons_self])
  rw [trim, kept cs free, kept cs.reverse fun c member => free c (List.mem_reverse.mp member),
    List.reverse_reverse]

theorem splitSign_digits (n : Nat) : splitSign (digits n) = (false, digits n) := by
  have unsigned : ∀ d < 10, digitChar d ≠ '-' ∧ digitChar d ≠ '+' := by decide
  have noSign : ∀ c ∈ digits n, c ≠ '-' ∧ c ≠ '+' := by
    intro c isDigit
    obtain ⟨d, small, rfl⟩ := exists_digitChar_of_mem isDigit
    exact unsigned d small
  unfold splitSign
  split
  · rename_i isFirst
    exact absurd rfl (noSign '-' (isFirst ▸ List.mem_cons_self)).1
  · rename_i isFirst
    exact absurd rfl (noSign '+' (isFirst ▸ List.mem_cons_self)).2
  · rfl

theorem length_digits_le_iff (n : Nat) :
    (digits n).length ≤ maxDigits ↔ isWritable (n : Int) = true := by
  have positive : 0 < maxDigits := by decide
  rw [digits_eq_toDigits, isWritable, decide_eq_true_eq]
  -- the power is not computed here: any bound will do
  generalize maxDigits = bound at positive
  exact Nat.length_toDigits_le_iff (by decide) positive

theorem read?_ofNat (n : Nat) :
    read? (ofNat n) = if isWritable (n : Int) then some (n : Int) else none := by
  have marginless : ∀ d < 10, isMargin (digitChar d) = false := by decide
  have trimmed : trim (digits n) = digits n := by
    refine trim_of_forall fun c isDigit => ?_
    obtain ⟨d, small, rfl⟩ := exists_digitChar_of_mem isDigit
    exact marginless d small
  have counted : (digits n).filter (· ≠ '_') = digits n := by
    refine List.filter_eq_self.mpr fun c isDigit => ?_
    obtain ⟨d, small, rfl⟩ := exists_digitChar_of_mem isDigit
    simp [digitChar_ne_underscore d small]
  rw [read?, ofNat, String.toList_ofList, trimmed, splitSign_digits]
  simp only [counted, length_digits_le_iff, readDigits_digits]
  rfl

end DocPress.Numeral
