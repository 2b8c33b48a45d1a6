import PgidSso.Alert.Orchestration.Proof

namespace pgid.alert.orchestration

section references

variable {left right : String}

theorem ascii_of_index {character : Char} (hindex : 0 ≤ base64UrlIndex character) : character.toNat < 128 := by
  simp only [base64UrlIndex] at hindex
  split at hindex
  · omega
  split at hindex
  · omega
  split at hindex
  · omega
  split at hindex
  · rename_i hdash
    rw [hdash]
    decide
  split at hindex
  · rename_i hunderscore
    rw [hunderscore]
    decide
  · omega

/-- Texts of the basic plane are told apart by their code units. -/
theorem map_unit_injective {first second : List Char} (hfirst : ∀ character ∈ first, character.toNat < 65536)
    (hsecond : ∀ character ∈ second, character.toNat < 65536)
    (hunits : first.map Text.unit = second.map Text.unit) : first = second := by
  induction first generalizing second with
  | nil => exact (List.map_eq_nil_iff.mp hunits.symm).symm
  | cons character first ih =>
    cases second with
    | nil => cases hunits
    | cons other second =>
      obtain ⟨hunit, hrest⟩ := List.cons.inj hunits
      obtain ⟨hcharacter, hfirst⟩ := List.forall_mem_cons.mp hfirst
      obtain ⟨hother, hsecond⟩ := List.forall_mem_cons.mp hsecond
      have hnat := congrArg UInt16.toNat hunit
      simp only [Text.unit, UInt16.toNat_ofNat'] at hnat
      have hsame : character = other := Char.toNat_inj.mp (by omega)
      rw [hsame, ih hfirst hsecond hrest]

/-- References that are accepted are told apart by their code units. -/
theorem reference_eq_of_text (hleft : isCanonicalBase64Url32 left) (hright : isCanonicalBase64Url32 right)
    (htext : Text.of left = Text.of right) : left = right := by
  apply String.toList_inj.mp
  refine map_unit_injective ?_ ?_ htext
  · intro character hcharacter
    have := ascii_of_index (hleft.1.2 character hcharacter)
    omega
  · intro character hcharacter
    have := ascii_of_index (hright.1.2 character hcharacter)
    omega

end references

end pgid.alert.orchestration
