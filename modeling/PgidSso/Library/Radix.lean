import Mathlib.Data.Nat.Digits.Lemmas

/-! Numbers by a fixed number of digits, the highest first. -/

namespace radix

/-- The number that digits write in a base. -/
def number (base : Nat) (digits : List Nat) : Nat :=
  Nat.ofDigits base digits.reverse

variable {base : Nat} {digits others : List Nat}

@[simp] theorem number_nil : number base [] = 0 := rfl

theorem number_append (digit : Nat) : number base (digits ++ [digit]) = number base digits * base + digit := by
  rw [number, List.reverse_append, List.reverse_singleton, List.singleton_append, Nat.ofDigits_cons, number]
  ring

theorem number_lt (hbase : 1 < base) (hdigits : ∀ digit ∈ digits, digit < base) :
    number base digits < base ^ digits.length := by
  have hlt := Nat.ofDigits_lt_base_pow_length hbase fun digit hmem => hdigits digit (List.mem_reverse.mp hmem)
  rwa [List.length_reverse] at hlt

/-- As many digits of the same number are the same. -/
theorem number_injective (hbase : 1 < base) (hdigits : ∀ digit ∈ digits, digit < base)
    (hothers : ∀ digit ∈ others, digit < base) (hlength : digits.length = others.length)
    (hnumber : number base digits = number base others) : digits = others := by
  apply List.reverse_injective
  refine Nat.ofDigits_inj_of_len_eq hbase ?_ ?_ ?_ hnumber
  · rw [List.length_reverse, List.length_reverse, hlength]
  · exact fun digit hmem => hdigits digit (List.mem_reverse.mp hmem)
  · exact fun digit hmem => hothers digit (List.mem_reverse.mp hmem)

/-- Every number that is small enough has so many digits. -/
theorem exists_digits (hbase : 1 < base) {count value : Nat} (hvalue : value < base ^ count) :
    ∃ digits : List Nat, digits.length = count ∧ (∀ digit ∈ digits, digit < base) ∧ number base digits = value := by
  have hlength : (base.digits value).length ≤ count := (Nat.digits_length_le_iff hbase value).mpr hvalue
  refine ⟨(base.digits value ++ List.replicate (count - (base.digits value).length) 0).reverse, ?_, ?_, ?_⟩
  · rw [List.length_reverse, List.length_append, List.length_replicate]
    omega
  · intro digit hmem
    rcases List.mem_append.mp (List.mem_reverse.mp hmem) with hdigit | hzero
    · exact Nat.digits_lt_base hbase hdigit
    · rw [List.eq_of_mem_replicate hzero]
      omega
  · rw [number, List.reverse_reverse, Nat.ofDigits_append_replicate_zero, Nat.ofDigits_digits]

end radix
