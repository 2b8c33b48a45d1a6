import PgidSso.Archive.StoredObject

open checked

namespace pgid.audit

/-- The object with an unread body, whose stream delivers the chunks. -/
def R2ObjectBody.streaming (object : R2ObjectBody) (chunks : List (List UInt8)) : R2ObjectBody :=
  { object with bodyUsed := false, locked := false, reads := chunks.map .chunk }

namespace restore

section loop

variable {expectedBytes : Nat} {output result : List UInt8} {chunks : List (List UInt8)}

/-- The loop over chunks returns all of them, if none is empty and they have the expected length. -/
theorem readLoop_eq_ok_iff (hroom : output.length ≤ expectedBytes) :
    (readLoop expectedBytes output (chunks.map .chunk)).result = .ok result ↔
      [] ∉ chunks ∧ (output ++ chunks.flatten).length = expectedBytes ∧ result = output ++ chunks.flatten := by
  induction chunks generalizing output with
  | nil =>
    rw [List.map_nil, readLoop, List.flatten_nil, List.append_nil]
    split
    · rename_i hlength
      exact iff_of_false (by simp) fun h => hlength h.2.1
    · rename_i hlength
      simp [not_not.mp hlength, eq_comm]
  | cons bytes chunks ih =>
    rw [List.map_cons, readLoop, List.mem_cons, not_or, List.flatten_cons, ← List.append_assoc]
    split
    · rename_i hempty
      exact iff_of_false (by simp) fun h => h.1.1 hempty.symm
    · rename_i hnonempty
      have hcuts : ¬ [] = bytes := fun hempty => hnonempty hempty.symm
      split
      · rename_i hbeyond
        refine iff_of_false (by simp) fun h => ?_
        have hlength := h.2.1
        rw [List.length_append, List.length_append] at hlength
        omega
      · rename_i hfits
        rw [ih (by rw [List.length_append]; omega), and_iff_right hcuts]

/-- Chunks that are not empty are refused only for their number of bytes. -/
theorem readLoop_of_nonempty (hroom : output.length ≤ expectedBytes) (hnonempty : [] ∉ chunks) :
    (readLoop expectedBytes output (chunks.map .chunk)).result =
      if expectedBytes < (output ++ chunks.flatten).length then .error .boundsExceeded
      else if (output ++ chunks.flatten).length < expectedBytes then .error .sizeMismatch
      else .ok (output ++ chunks.flatten) := by
  induction chunks generalizing output with
  | nil =>
    rw [List.map_nil, readLoop, List.flatten_nil, List.append_nil, if_neg (by omega : ¬ expectedBytes < output.length)]
    by_cases hshort : output.length < expectedBytes
    · rw [if_pos (by omega), if_pos hshort]
    · rw [if_neg (by omega), if_neg hshort]
  | cons bytes chunks ih =>
    rw [List.mem_cons, not_or] at hnonempty
    obtain ⟨hbytes, hothers⟩ := hnonempty
    rw [List.map_cons, readLoop, if_neg fun hempty => hbytes hempty.symm, List.flatten_cons, ← List.append_assoc]
    by_cases hfits : expectedBytes - output.length < bytes.length
    · rw [if_pos hfits, if_pos]
      simp only [List.length_append]
      omega
    · rw [if_neg hfits]
      exact ih (by rw [List.length_append]; omega) hothers

/-- The copy never outgrows the expected bytes, and one chunk at most is in hand beside it. -/
theorem readLoop_held (hroom : output.length ≤ expectedBytes) {held : Held}
    (hheld : held ∈ (readLoop expectedBytes output (chunks.map .chunk)).held) :
    held.output.length ≤ expectedBytes ∧ held.chunk ∈ chunks := by
  induction chunks generalizing output with
  | nil =>
    rw [List.map_nil, readLoop] at hheld
    split at hheld <;> cases hheld
  | cons bytes chunks ih =>
    rw [List.map_cons, readLoop] at hheld
    split at hheld
    · obtain rfl := List.mem_singleton.mp hheld
      exact ⟨hroom, List.mem_cons_self⟩
    · split at hheld
      · obtain rfl := List.mem_singleton.mp hheld
        exact ⟨hroom, List.mem_cons_self⟩
      · rename_i hfits
        have hcopied : (output ++ bytes).length ≤ expectedBytes := by
          rw [List.length_append]
          omega
        obtain rfl | hlater := List.mem_cons.mp hheld
        · exact ⟨hroom, List.mem_cons_self⟩
        obtain rfl | hlater := List.mem_cons.mp hlater
        · exact ⟨hcopied, List.mem_cons_self⟩
        obtain ⟨houtput, hchunk⟩ := ih hcopied hlater
        exact ⟨houtput, List.mem_cons_of_mem bytes hchunk⟩

end loop

theorem boundedObjectRead_streaming (object : R2ObjectBody) (chunks : List (List UInt8)) (expectedBytes : Nat) :
    boundedObjectRead (object.streaming chunks) expectedBytes = readLoop expectedBytes [] (chunks.map .chunk) := by
  rw [boundedObjectRead, if_neg (by simp [R2ObjectBody.streaming])]
  rfl

/-- A body is read when none of its chunks is empty and they have the expected length; however the
read ends, it has held no more than that many bytes beside one chunk; and where chunks without an
empty one are cut makes no difference. -/
theorem boundedObjectRead_chunks (object : R2ObjectBody) (chunks : List (List UInt8)) (expectedBytes : Nat) :
    (∀ bytes, (boundedObjectRead (object.streaming chunks) expectedBytes).result = .ok bytes ↔
      [] ∉ chunks ∧ chunks.flatten.length = expectedBytes ∧ bytes = chunks.flatten) ∧
    (∀ held ∈ (boundedObjectRead (object.streaming chunks) expectedBytes).held,
      held.output.length ≤ expectedBytes ∧ held.chunk ∈ chunks) ∧
    ∀ others : List (List UInt8), [] ∉ chunks → [] ∉ others → others.flatten = chunks.flatten →
      (boundedObjectRead (object.streaming others) expectedBytes).result =
        (boundedObjectRead (object.streaming chunks) expectedBytes).result := by
  refine ⟨?_, ?_, ?_⟩
  · intro bytes
    rw [boundedObjectRead_streaming, readLoop_eq_ok_iff (Nat.zero_le _), List.nil_append]
  · intro held hheld
    rw [boundedObjectRead_streaming] at hheld
    exact readLoop_held (Nat.zero_le _) hheld
  · intro others hchunks hothers hsame
    rw [boundedObjectRead_streaming, boundedObjectRead_streaming, readLoop_of_nonempty (Nat.zero_le _) hothers,
      readLoop_of_nonempty (Nat.zero_le _) hchunks, hsame]

/-- The same byte, with and without an empty chunk before it: one is read, the other fails. -/
theorem boundedObjectRead_empty_chunk :
    let object : R2ObjectBody :=
      { bodyUsed := false, checksum := .undefined, customMetadata := none, etag := [], httpMetadata := none, key := [],
        locked := false, reads := [], size := some 1, version := [] }
    (boundedObjectRead (object.streaming [[7]]) 1).result = .ok [7] ∧
      [[], [7]].flatten.length = 1 ∧
      (boundedObjectRead (object.streaming [[], [7]]) 1).result = .error .streamFailed := by
  exact ⟨rfl, rfl, rfl⟩

end restore

end pgid.audit
