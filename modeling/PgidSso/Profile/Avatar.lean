import Mathlib.Data.Nat.Bitwise
import PgidSso.Library.Reading

/-! The bytes of an uploaded avatar: its type by its signature, the dimensions that its
header declares, and the ceilings. Every read of a byte is logged. -/

namespace pgid.avatar

inductive AvatarContentType where
  | png
  | jpeg
  | webp
  deriving DecidableEq

def MAX_AVATAR_BYTES : Nat := 256 * 1024

def MAX_AVATAR_DIMENSION : Nat := 2048

structure AvatarDimensions where
  width : Nat
  height : Nat
  deriving DecidableEq

/-- `bytes[index]` as a number, and `bytes[index] ?? 0`: a bit operation takes `undefined` for 0. -/
def byteAt (bytes : List UInt8) (index : Nat) : Reading Nat := do
  return ((← Reading.get bytes index).map UInt8.toNat).getD 0

/-- `bytes[offset] === first && bytes[offset + 1] === …`; a byte is read when those before it
are as expected. -/
def matchesAt (bytes : List UInt8) (offset : Nat) : List UInt8 → Reading Bool
  | [] => return true
  | expected :: rest => do
    if (← Reading.get bytes offset) = some expected then matchesAt bytes (offset + 1) rest else return false

def detectImageType (bytes : List UInt8) : Reading (Option AvatarContentType) := do
  if ← Reading.and (pure (8 ≤ bytes.length)) (matchesAt bytes 0 [0x89, 0x50, 0x4e, 0x47, 0x0d, 0x0a, 0x1a, 0x0a]) then
    return some .png
  else if ← Reading.and (pure (3 ≤ bytes.length)) (matchesAt bytes 0 [0xff, 0xd8, 0xff]) then
    return some .jpeg
  else if ← Reading.and (pure (12 ≤ bytes.length))
      (Reading.and (matchesAt bytes 0 [0x52, 0x49, 0x46, 0x46]) (matchesAt bytes 8 [0x57, 0x45, 0x42, 0x50])) then
    return some .webp
  else
    return none

def readPngDimensions (bytes : List UInt8) : Reading (Option AvatarDimensions) := do
  if bytes.length < 24 then return none
  let width := (← byteAt bytes 16) <<< 24 ||| (← byteAt bytes 17) <<< 16 ||| (← byteAt bytes 18) <<< 8 |||
    (← byteAt bytes 19)
  let height := (← byteAt bytes 20) <<< 24 ||| (← byteAt bytes 21) <<< 16 ||| (← byteAt bytes 22) <<< 8 |||
    (← byteAt bytes 23)
  return some { width, height }

/-- Start-of-frame markers; DHT, JPG and DAC share the range but are no frame headers. -/
def isFrameMarker (marker : Nat) : Bool :=
  0xc0 ≤ marker && marker ≤ 0xcf && marker ≠ 0xc4 && marker ≠ 0xc8 && marker ≠ 0xcc

/-- The loop of `readJpegDimensions` from an offset. -/
def readJpegDimensions.walk (bytes : List UInt8) (offset : Nat) : Reading (Option AvatarDimensions) :=
  if hroom : offset + 9 ≤ bytes.length then do
    if (← byteAt bytes offset) ≠ 0xff then walk bytes (offset + 1)
    else
      let marker ← byteAt bytes (offset + 1)
      if isFrameMarker marker then
        let height := (← byteAt bytes (offset + 5)) <<< 8 ||| (← byteAt bytes (offset + 6))
        let width := (← byteAt bytes (offset + 7)) <<< 8 ||| (← byteAt bytes (offset + 8))
        return some { width, height }
      else
        let segmentLength := (← byteAt bytes (offset + 2)) <<< 8 ||| (← byteAt bytes (offset + 3))
        if segmentLength < 2 then return none
        else walk bytes (offset + (2 + segmentLength))
  else return none
termination_by bytes.length - offset

def readJpegDimensions (bytes : List UInt8) : Reading (Option AvatarDimensions) :=
  readJpegDimensions.walk bytes 2

/-- The key frame's 14-bit sizes. -/
def readVp8Dimensions (bytes : List UInt8) : Reading (Option AvatarDimensions) := do
  if bytes.length < 30 then return none
  let width := ((← byteAt bytes 26) ||| (← byteAt bytes 27) <<< 8) &&& 0x3fff
  let height := ((← byteAt bytes 28) ||| (← byteAt bytes 29) <<< 8) &&& 0x3fff
  return some { width, height }

/-- The 14-bit sizes packed after the signature. -/
def readVp8lDimensions (bytes : List UInt8) : Reading (Option AvatarDimensions) := do
  if bytes.length < 25 then return none
  let b0 ← byteAt bytes 21
  let b1 ← byteAt bytes 22
  let b2 ← byteAt bytes 23
  let b3 ← byteAt bytes 24
  let width := 1 + ((b1 &&& 0x3f) <<< 8 ||| b0)
  let height := 1 + ((b3 &&& 0x0f) <<< 10 ||| b2 <<< 2 ||| (b1 &&& 0xc0) >>> 6)
  return some { width, height }

/-- The 24-bit canvas sizes, less one. -/
def readVp8xDimensions (bytes : List UInt8) : Reading (Option AvatarDimensions) := do
  if bytes.length < 30 then return none
  let width := 1 + ((← byteAt bytes 24) ||| (← byteAt bytes 25) <<< 8 ||| (← byteAt bytes 26) <<< 16)
  let height := 1 + ((← byteAt bytes 27) ||| (← byteAt bytes 28) <<< 8 ||| (← byteAt bytes 29) <<< 16)
  return some { width, height }

/-- The three branches are by the format of the first chunk, which is read before any length is
checked. -/
def readWebpDimensions (bytes : List UInt8) : Reading (Option AvatarDimensions) := do
  let format := [← byteAt bytes 12, ← byteAt bytes 13, ← byteAt bytes 14, ← byteAt bytes 15]
  if format = [0x56, 0x50, 0x38, 0x20] then readVp8Dimensions bytes
  else if format = [0x56, 0x50, 0x38, 0x4c] then readVp8lDimensions bytes
  else if format = [0x56, 0x50, 0x38, 0x58] then readVp8xDimensions bytes
  else return none

/-- `none` is an unknown size, which the callers do not treat as invalid. -/
def readImageDimensions (contentType : AvatarContentType) (bytes : List UInt8) :
    Reading (Option AvatarDimensions) :=
  match contentType with
  | .png => readPngDimensions bytes
  | .jpeg => readJpegDimensions bytes
  | .webp => readWebpDimensions bytes

inductive AvatarValidation where
  | ok (contentType : AvatarContentType) (width height : Option Nat)
  | error (error : String)
  deriving DecidableEq

/-- The ceiling on dimensions that have been read. -/
def checkDimensions (contentType : AvatarContentType) : Option AvatarDimensions → AvatarValidation
  | none => .ok contentType none none
  | some dimensions =>
    if dimensions.width < 1 ∨ dimensions.height < 1 ∨ MAX_AVATAR_DIMENSION < dimensions.width ∨
        MAX_AVATAR_DIMENSION < dimensions.height then
      .error "avatar_dimensions_too_large"
    else .ok contentType (some dimensions.width) (some dimensions.height)

def validateAvatarBytes (bytes : List UInt8) : Reading AvatarValidation :=
  if bytes.length = 0 then return .error "empty_avatar"
  else if MAX_AVATAR_BYTES < bytes.length then return .error "avatar_too_large"
  else do
    match ← detectImageType bytes with
    | none => return .error "unsupported_avatar_type"
    | some contentType => return checkDimensions contentType (← readImageDimensions contentType bytes)

/-! ### Which reads are past the bytes -/

section reads

variable {bytes : List UInt8}

@[simp] theorem value_byteAt (bytes : List UInt8) (index : Nat) :
    (byteAt bytes index).value = (bytes[index]?.map UInt8.toNat).getD 0 := rfl

theorem past_byteAt {index : Nat} (hindex : index < bytes.length) : (byteAt bytes index).past = false := by
  rw [byteAt, Reading.past_bind, Reading.past_get hindex]
  rfl

theorem past_matchesAt (offset : Nat) (expected : List UInt8) (hroom : offset + expected.length ≤ bytes.length) :
    (matchesAt bytes offset expected).past = false := by
  induction expected generalizing offset with
  | nil => rfl
  | cons first rest ih =>
    rw [List.length_cons] at hroom
    rw [matchesAt, Reading.past_bind, Reading.past_get (by omega), Bool.false_or]
    split
    · exact ih (offset + 1) (by omega)
    · rfl

theorem matchesAt_iff (offset : Nat) (expected : List UInt8) :
    (matchesAt bytes offset expected).value = true ↔ expected <+: bytes.drop offset := by
  induction expected generalizing offset with
  | nil => exact iff_of_true rfl List.nil_prefix
  | cons first rest ih =>
    rw [matchesAt, Reading.value_bind, Reading.value_get]
    by_cases hoffset : offset < bytes.length
    · rw [List.drop_eq_getElem_cons hoffset, List.cons_prefix_cons, List.getElem?_eq_getElem hoffset]
      split
      · rename_i hsame
        rw [ih (offset + 1)]
        exact (and_iff_right (Option.some.inj hsame).symm).symm
      · rename_i hother
        exact iff_of_false Bool.false_ne_true fun h => hother (congrArg some h.1.symm)
    · rw [List.drop_of_length_le (by omega), List.getElem?_eq_none (by omega), if_neg (by simp)]
      exact iff_of_false Bool.false_ne_true (by simp)

theorem past_readPngDimensions : (readPngDimensions bytes).past = false := by
  rw [readPngDimensions]
  by_cases hshort : bytes.length < 24
  · rw [if_pos hshort]
    rfl
  · simp [hshort, past_byteAt (show 16 < bytes.length by omega), past_byteAt (show 17 < bytes.length by omega),
      past_byteAt (show 18 < bytes.length by omega), past_byteAt (show 19 < bytes.length by omega),
      past_byteAt (show 20 < bytes.length by omega), past_byteAt (show 21 < bytes.length by omega),
      past_byteAt (show 22 < bytes.length by omega), past_byteAt (show 23 < bytes.length by omega)]

/-- The walk moves forward at every turn and reads at most nine bytes from its offset. -/
theorem past_walk (offset : Nat) : (readJpegDimensions.walk bytes offset).past = false := by
  induction hremaining : bytes.length - offset using Nat.strongRecOn generalizing offset with
  | ind remaining ih =>
    rw [readJpegDimensions.walk]
    split
    · rename_i hroom
      rw [Reading.past_bind, past_byteAt (by omega), Bool.false_or]
      split
      · exact ih (bytes.length - (offset + 1)) (by omega) (offset + 1) rfl
      · rw [Reading.past_bind, past_byteAt (by omega), Bool.false_or]
        split
        · simp [past_byteAt (show offset + 5 < bytes.length by omega),
            past_byteAt (show offset + 6 < bytes.length by omega),
            past_byteAt (show offset + 7 < bytes.length by omega),
            past_byteAt (show offset + 8 < bytes.length by omega)]
        · rw [Reading.past_bind, past_byteAt (by omega), Bool.false_or, Reading.past_bind, past_byteAt (by omega),
            Bool.false_or]
          dsimp only
          split
          · rfl
          · exact ih _ (by omega) _ rfl
    · rfl

theorem past_readVp8Dimensions : (readVp8Dimensions bytes).past = false := by
  rw [readVp8Dimensions]
  by_cases hshort : bytes.length < 30
  · rw [if_pos hshort]
    rfl
  · simp [hshort, past_byteAt (show 26 < bytes.length by omega), past_byteAt (show 27 < bytes.length by omega),
      past_byteAt (show 28 < bytes.length by omega), past_byteAt (show 29 < bytes.length by omega)]

theorem past_readVp8lDimensions : (readVp8lDimensions bytes).past = false := by
  rw [readVp8lDimensions]
  by_cases hshort : bytes.length < 25
  · rw [if_pos hshort]
    rfl
  · simp [hshort, past_byteAt (show 21 < bytes.length by omega), past_byteAt (show 22 < bytes.length by omega),
      past_byteAt (show 23 < bytes.length by omega), past_byteAt (show 24 < bytes.length by omega)]

theorem past_readVp8xDimensions : (readVp8xDimensions bytes).past = false := by
  rw [readVp8xDimensions]
  by_cases hshort : bytes.length < 30
  · rw [if_pos hshort]
    rfl
  · simp [hshort, past_byteAt (show 24 < bytes.length by omega), past_byteAt (show 25 < bytes.length by omega),
      past_byteAt (show 26 < bytes.length by omega), past_byteAt (show 27 < bytes.length by omega),
      past_byteAt (show 28 < bytes.length by omega), past_byteAt (show 29 < bytes.length by omega)]

/-- Only the format of the first chunk may be read past the end. -/
theorem past_readWebpDimensions : (readWebpDimensions bytes).past = true ↔ bytes.length < 16 := by
  have hformat : ∀ index, (byteAt bytes index).past = decide (bytes.length ≤ index) := fun _ => Bool.or_false _
  have hrest : ∀ format : List Nat, (if format = [0x56, 0x50, 0x38, 0x20] then readVp8Dimensions bytes
      else if format = [0x56, 0x50, 0x38, 0x4c] then readVp8lDimensions bytes
      else if format = [0x56, 0x50, 0x38, 0x58] then readVp8xDimensions bytes
      else pure none).past = false := by
    intro format
    split
    · exact past_readVp8Dimensions
    · split
      · exact past_readVp8lDimensions
      · split
        · exact past_readVp8xDimensions
        · rfl
  simp only [readWebpDimensions, Reading.past_bind, hformat, hrest, Bool.or_false, Bool.or_eq_true, decide_eq_true_eq]
  omega

theorem past_detectImageType (bytes : List UInt8) : (detectImageType bytes).past = false := by
  have hmatches : ∀ (offset : Nat) (expected : List UInt8) (minimum : Nat), offset + expected.length ≤ minimum →
      (Reading.and (pure (decide (minimum ≤ bytes.length))) (matchesAt bytes offset expected)).past = false := by
    intro offset expected minimum hroom
    refine Reading.past_and rfl fun hlength => past_matchesAt offset expected ?_
    rw [Reading.value_pure, decide_eq_true_eq] at hlength
    omega
  have hcontainer : (Reading.and (pure (decide (12 ≤ bytes.length)))
      (Reading.and (matchesAt bytes 0 [0x52, 0x49, 0x46, 0x46])
        (matchesAt bytes 8 [0x57, 0x45, 0x42, 0x50]))).past = false := by
    refine Reading.past_and rfl fun hlength => ?_
    rw [Reading.value_pure, decide_eq_true_eq] at hlength
    refine Reading.past_and (past_matchesAt 0 _ ?_) fun _ => past_matchesAt 8 _ ?_
    · exact Nat.le_trans (by decide) hlength
    · exact hlength
  rw [detectImageType, Reading.past_bind, hmatches 0 _ 8 (by decide), Bool.false_or]
  split
  · rfl
  · rw [Reading.past_bind, hmatches 0 _ 3 (by decide), Bool.false_or]
    split
    · rfl
    · rw [Reading.past_bind, hcontainer, Bool.false_or]
      split <;> rfl

/-- A RIFF container of WebP that ends before the format of its first chunk does. -/
structure ShortWebp (bytes : List UInt8) : Prop where
  long : 12 ≤ bytes.length
  short : bytes.length < 16
  riff : [0x52, 0x49, 0x46, 0x46] <+: bytes
  webp : [0x57, 0x45, 0x42, 0x50] <+: bytes.drop 8

theorem detectImageType_webp_iff : (detectImageType bytes).value = some .webp ↔
    12 ≤ bytes.length ∧ [0x52, 0x49, 0x46, 0x46] <+: bytes ∧ [0x57, 0x45, 0x42, 0x50] <+: bytes.drop 8 := by
  have hpng := @matchesAt_iff bytes 0 [0x89, 0x50, 0x4e, 0x47, 0x0d, 0x0a, 0x1a, 0x0a]
  have hjpeg := @matchesAt_iff bytes 0 [0xff, 0xd8, 0xff]
  have hriff := @matchesAt_iff bytes 0 [0x52, 0x49, 0x46, 0x46]
  have hwebp := @matchesAt_iff bytes 8 [0x57, 0x45, 0x42, 0x50]
  rw [List.drop_zero] at hpng hjpeg hriff
  -- Signatures of two types do not begin with the same byte.
  have hdistinct : ∀ first second : UInt8, ∀ left right : List UInt8, first ≠ second → first :: left <+: bytes →
      ¬ second :: right <+: bytes := by
    rintro first second left right hne ⟨after, rfl⟩ hsecond
    rw [List.cons_append, List.cons_prefix_cons] at hsecond
    exact hne hsecond.1.symm
  rw [detectImageType, Reading.value_bind, Reading.value_and, Reading.value_pure]
  split
  · rename_i hfound
    rw [Bool.and_eq_true, hpng] at hfound
    exact iff_of_false (by simp) fun h => hdistinct _ _ _ _ (by decide) h.2.1 hfound.2
  · rw [Reading.value_bind, Reading.value_and, Reading.value_pure]
    split
    · rename_i hfound
      rw [Bool.and_eq_true, hjpeg] at hfound
      exact iff_of_false (by simp) fun h => hdistinct _ _ _ _ (by decide) h.2.1 hfound.2
    · rw [Reading.value_bind, Reading.value_and, Reading.value_pure, Reading.value_and]
      split
      · rename_i hfound
        rw [Bool.and_eq_true, Bool.and_eq_true, decide_eq_true_eq, hriff, hwebp] at hfound
        exact iff_of_true rfl hfound
      · rename_i hfound
        rw [Bool.and_eq_true, Bool.and_eq_true, decide_eq_true_eq, hriff, hwebp] at hfound
        exact iff_of_false (by simp) hfound

/-- The validation reads past the end of its bytes exactly in a short container of WebP. -/
theorem past_validateAvatarBytes (bytes : List UInt8) : (validateAvatarBytes bytes).past = true ↔ ShortWebp bytes := by
  have hwebp := @detectImageType_webp_iff bytes
  rw [validateAvatarBytes]
  split
  · rename_i hempty
    exact iff_of_false Bool.false_ne_true fun h => absurd h.long (by omega)
  · split
    · rename_i hlarge
      refine iff_of_false Bool.false_ne_true fun h => ?_
      have hshort := h.short
      rw [MAX_AVATAR_BYTES] at hlarge
      omega
    · rw [Reading.past_bind, past_detectImageType, Bool.false_or]
      split
      · rename_i hdetected
        rw [hdetected] at hwebp
        exact iff_of_false Bool.false_ne_true fun h => Option.some_ne_none _ (hwebp.mpr ⟨h.long, h.riff, h.webp⟩).symm
      · rename_i contentType hdetected
        rw [hdetected, Option.some.injEq] at hwebp
        rw [Reading.past_bind, Reading.past_pure, Bool.or_false]
        cases contentType with
        | png =>
          rw [readImageDimensions, past_readPngDimensions]
          refine iff_of_false Bool.false_ne_true fun h => ?_
          cases hwebp.mpr ⟨h.long, h.riff, h.webp⟩
        | jpeg =>
          rw [readImageDimensions, readJpegDimensions, past_walk]
          refine iff_of_false Bool.false_ne_true fun h => ?_
          cases hwebp.mpr ⟨h.long, h.riff, h.webp⟩
        | webp =>
          obtain ⟨hlong, hriff, hcontainer⟩ := hwebp.mp rfl
          rw [readImageDimensions, past_readWebpDimensions]
          exact ⟨fun hshort => ⟨hlong, hshort, hriff, hcontainer⟩, fun h => h.short⟩

end reads

end pgid.avatar
