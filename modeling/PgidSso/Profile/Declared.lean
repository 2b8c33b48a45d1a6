import PgidSso.Profile.Avatar
import Mathlib.Data.List.Flatten

/-! The image headers that declare a size, and what the avatar ceiling makes of them. -/

namespace pgid.avatar

/-- The bytes of a number, the most significant first. -/
def bigEndian : Nat → Nat → List UInt8
  | 0, _ => []
  | count + 1, value => UInt8.ofNat (value / 256 ^ count) :: bigEndian count value

/-- The bytes of a number, the least significant first. -/
def littleEndian : Nat → Nat → List UInt8
  | 0, _ => []
  | count + 1, value => UInt8.ofNat value :: littleEndian count (value / 256)

@[simp] theorem length_bigEndian (count value : Nat) : (bigEndian count value).length = count := by
  induction count with
  | zero => rfl
  | succ count ih => rw [bigEndian, List.length_cons, ih]

/-- A PNG signature and its IHDR chunk; `detail` is the bit depth, the color type, the
methods and the checksum. -/
structure PngHeader where
  width : Nat
  height : Nat
  detail : List UInt8
  widthFits : width < 2 ^ 32
  heightFits : height < 2 ^ 32
  detailLength : detail.length = 9

def PngHeader.bytes (header : PngHeader) : List UInt8 :=
  [0x89, 0x50, 0x4e, 0x47, 0x0d, 0x0a, 0x1a, 0x0a] ++ bigEndian 4 13 ++ [0x49, 0x48, 0x44, 0x52] ++
    bigEndian 4 header.width ++ bigEndian 4 header.height ++ header.detail

/-- The markers before a frame header that a length follows: the tables, the definitions
and the application segments. -/
def IsSegmentMarker (marker : UInt8) : Prop :=
  marker ∈ [0xc4, 0xc8, 0xcc] ∨ (0xdb ≤ marker ∧ marker ≤ 0xfe)

/-- A marker segment, with the fill bytes before its marker. -/
structure JpegSegment where
  fill : Nat
  marker : UInt8
  payload : List UInt8
  legalMarker : IsSegmentMarker marker
  legalLength : payload.length + 2 < 2 ^ 16

def JpegSegment.bytes (segment : JpegSegment) : List UInt8 :=
  List.replicate segment.fill 0xff ++ ([0xff, segment.marker] ++ bigEndian 2 (segment.payload.length + 2) ++
    segment.payload)

/-- A frame header, with the fill bytes before its marker. -/
structure JpegFrame where
  fill : Nat
  marker : UInt8
  precision : UInt8
  height : Nat
  width : Nat
  components : List UInt8
  legalMarker : isFrameMarker marker.toNat = true
  heightFits : height < 2 ^ 16
  widthFits : width < 2 ^ 16
  legalLength : components.length + 7 < 2 ^ 16

def JpegFrame.bytes (frame : JpegFrame) : List UInt8 :=
  List.replicate frame.fill 0xff ++ ([0xff, frame.marker] ++ bigEndian 2 (frame.components.length + 7) ++
    [frame.precision] ++ bigEndian 2 frame.height ++ bigEndian 2 frame.width ++ frame.components)

/-- The marker sequence of a JPEG up to its first frame header. -/
structure JpegHeader where
  segments : List JpegSegment
  frame : JpegFrame

def JpegHeader.bytes (header : JpegHeader) : List UInt8 :=
  [0xff, 0xd8] ++ (header.segments.flatMap JpegSegment.bytes ++ header.frame.bytes)

/-- A RIFF container of WebP up to the data of its first chunk. -/
def riff (size : Nat) (format : List UInt8) (chunkSize : Nat) : List UInt8 :=
  [0x52, 0x49, 0x46, 0x46] ++ littleEndian 4 size ++ [0x57, 0x45, 0x42, 0x50] ++ format ++
    littleEndian 4 chunkSize

/-- The key frame header of a lossy image. -/
structure Vp8Header where
  size : Nat
  chunkSize : Nat
  tag : Nat
  width : Nat
  widthScale : Nat
  height : Nat
  heightScale : Nat
  widthFits : width < 2 ^ 14
  widthScaleFits : widthScale < 4
  heightFits : height < 2 ^ 14
  heightScaleFits : heightScale < 4

def Vp8Header.bytes (header : Vp8Header) : List UInt8 :=
  riff header.size [0x56, 0x50, 0x38, 0x20] header.chunkSize ++ littleEndian 3 header.tag ++ [0x9d, 0x01, 0x2a] ++
    littleEndian 2 (header.width + header.widthScale * 2 ^ 14) ++
    littleEndian 2 (header.height + header.heightScale * 2 ^ 14)

/-- The header of a lossless image; `version` has the alpha flag and the version. -/
structure Vp8lHeader where
  size : Nat
  chunkSize : Nat
  width : Nat
  height : Nat
  version : Nat
  widthFits : 1 ≤ width ∧ width ≤ 2 ^ 14
  heightFits : 1 ≤ height ∧ height ≤ 2 ^ 14
  versionFits : version < 16

def Vp8lHeader.bytes (header : Vp8lHeader) : List UInt8 :=
  riff header.size [0x56, 0x50, 0x38, 0x4c] header.chunkSize ++ [0x2f] ++
    littleEndian 4 ((header.width - 1) + (header.height - 1) * 2 ^ 14 + header.version * 2 ^ 28)

/-- The header of an extended image; the size is its canvas's. -/
structure Vp8xHeader where
  size : Nat
  chunkSize : Nat
  flags : Nat
  width : Nat
  height : Nat
  widthFits : 1 ≤ width ∧ width ≤ 2 ^ 24
  heightFits : 1 ≤ height ∧ height ≤ 2 ^ 24

def Vp8xHeader.bytes (header : Vp8xHeader) : List UInt8 :=
  riff header.size [0x56, 0x50, 0x38, 0x58] header.chunkSize ++ littleEndian 4 header.flags ++
    littleEndian 3 (header.width - 1) ++ littleEndian 3 (header.height - 1)

inductive ImageHeader where
  | png (header : PngHeader)
  | jpeg (header : JpegHeader)
  | vp8 (header : Vp8Header)
  | vp8l (header : Vp8lHeader)
  | vp8x (header : Vp8xHeader)

namespace ImageHeader

def bytes : ImageHeader → List UInt8
  | .png header => header.bytes
  | .jpeg header => header.bytes
  | .vp8 header => header.bytes
  | .vp8l header => header.bytes
  | .vp8x header => header.bytes

def contentType : ImageHeader → AvatarContentType
  | .png _ => .png
  | .jpeg _ => .jpeg
  | .vp8 _ | .vp8l _ | .vp8x _ => .webp

/-- The declared size. -/
def dimensions : ImageHeader → AvatarDimensions
  | .png header => ⟨header.width, header.height⟩
  | .jpeg header => ⟨header.frame.width, header.frame.height⟩
  | .vp8 header => ⟨header.width, header.height⟩
  | .vp8l header => ⟨header.width, header.height⟩
  | .vp8x header => ⟨header.width, header.height⟩

/-- No marker up to the frame header has a fill byte before it. -/
def Unfilled : ImageHeader → Prop
  | .jpeg header => (∀ segment ∈ header.segments, segment.fill = 0) ∧ header.frame.fill = 0
  | _ => True

end ImageHeader

/-- A size within the ceiling. -/
def AvatarDimensions.Within (dimensions : AvatarDimensions) : Prop :=
  (1 ≤ dimensions.width ∧ dimensions.width ≤ MAX_AVATAR_DIMENSION) ∧
    (1 ≤ dimensions.height ∧ dimensions.height ≤ MAX_AVATAR_DIMENSION)

/-- If the bytes are accepted, then with the size that the header declares, which is
within the ceiling. -/
def Respected (header : ImageHeader) (tail : List UInt8) : Prop :=
  ∀ contentType width height, (validateAvatarBytes (header.bytes ++ tail)).value = .ok contentType width height →
    width = some header.dimensions.width ∧ height = some header.dimensions.height ∧ header.dimensions.Within

/-- The way through marker segments of a reader that knows no fill bytes: any byte after a
`0xff` is a marker to it, the two after that are a length, and a byte that is no `0xff` is
skipped. -/
inductive Leads (bytes : List UInt8) : Nat → Nat → Prop
  | here (offset : Nat) : Leads bytes offset offset
  | skip {offset last : Nat} {byte : UInt8} {rest : List UInt8} (hdrop : bytes.drop offset = byte :: rest)
      (hbyte : byte ≠ 0xff) (hrest : Leads bytes (offset + 1) last) : Leads bytes offset last
  | segment {offset last : Nat} {marker high low : UInt8} {rest : List UInt8}
      (hdrop : bytes.drop offset = 0xff :: marker :: high :: low :: rest)
      (hmarker : isFrameMarker marker.toNat = false) (hlength : 2 ≤ high.toNat * 256 + low.toNat)
      (hrest : Leads bytes (offset + (2 + (high.toNat * 256 + low.toNat))) last) : Leads bytes offset last

/-- A frame header at an offset, with the size that it declares. -/
def FrameAt (bytes : List UInt8) (offset : Nat) (dimensions : AvatarDimensions) : Prop :=
  ∃ marker first second third high low wide narrow rest,
    bytes.drop offset = 0xff :: marker :: first :: second :: third :: high :: low :: wide :: narrow :: rest ∧
      isFrameMarker marker.toNat = true ∧
      dimensions = ⟨wide.toNat * 256 + narrow.toNat, high.toNat * 256 + low.toNat⟩

/-- Where the first fill byte stands, or else the frame header. -/
def JpegHeader.fillOffset (header : JpegHeader) : Nat :=
  2 + ((header.segments.takeWhile fun segment => segment.fill = 0).flatMap JpegSegment.bytes).length

/-- The reader that knows no fill bytes comes from the first one, by accident, to bytes that are
a frame header with the declared size, or with a size out of bounds. -/
def ImageHeader.RepeatedBeyond (header : ImageHeader) (tail : List UInt8) : Prop :=
  match header with
  | .jpeg markers => ∃ offset dimensions, Leads (markers.bytes ++ tail) markers.fillOffset offset ∧
      FrameAt (markers.bytes ++ tail) offset dimensions ∧ (dimensions = header.dimensions ∨ ¬ dimensions.Within)
  | _ => False

section bits

/-- Bits below the lowest of a number are added to it. -/
theorem or_eq_add (shift : Nat) {high low : Nat} (hhigh : 2 ^ shift ∣ high) (hlow : low < 2 ^ shift) :
    high ||| low = high + low := by
  obtain ⟨factor, rfl⟩ := hhigh
  exact (Nat.two_pow_add_eq_or_of_lt hlow factor).symm

theorem toNat_byte (value : Nat) : (UInt8.ofNat value).toNat = value % 256 :=
  UInt8.toNat_ofNat'

theorem pair_or {high low : Nat} (hlow : low < 256) : high <<< 8 ||| low = high * 256 + low := by
  rw [Nat.shiftLeft_eq]
  exact or_eq_add 8 ⟨high, by omega⟩ hlow

theorem word_or {first second third fourth : Nat} (hsecond : second < 256) (hthird : third < 256)
    (hfourth : fourth < 256) :
    first <<< 24 ||| second <<< 16 ||| third <<< 8 ||| fourth =
      first * 2 ^ 24 + second * 2 ^ 16 + third * 2 ^ 8 + fourth := by
  have htwo : first * 2 ^ 24 ||| second * 2 ^ 16 = first * 2 ^ 24 + second * 2 ^ 16 :=
    or_eq_add 24 ⟨first, by omega⟩ (by omega)
  have hthree : first * 2 ^ 24 + second * 2 ^ 16 ||| third * 2 ^ 8 =
      first * 2 ^ 24 + second * 2 ^ 16 + third * 2 ^ 8 :=
    or_eq_add 16 ⟨first * 2 ^ 8 + second, by omega⟩ (by omega)
  simp only [Nat.shiftLeft_eq]
  rw [htwo, hthree]
  exact or_eq_add 8 ⟨first * 2 ^ 16 + second * 2 ^ 8 + third, by omega⟩ (by omega)

theorem reversed_or {first second third : Nat} (hfirst : first < 256) (hsecond : second < 256) :
    first ||| second <<< 8 ||| third <<< 16 = first + second * 2 ^ 8 + third * 2 ^ 16 := by
  have htwo : first ||| second * 2 ^ 8 = second * 2 ^ 8 + first := by
    rw [Nat.or_comm]
    exact or_eq_add 8 ⟨second, by omega⟩ (by omega)
  have hthree : second * 2 ^ 8 + first ||| third * 2 ^ 16 = third * 2 ^ 16 + (second * 2 ^ 8 + first) := by
    rw [Nat.or_comm]
    exact or_eq_add 16 ⟨third, by omega⟩ (by omega)
  simp only [Nat.shiftLeft_eq]
  rw [htwo, hthree]
  omega

theorem masked_pair {first second : Nat} (hfirst : first < 256) :
    (first ||| second <<< 8) &&& 0x3fff = (first + second * 256) % 2 ^ 14 := by
  have hmask : (0x3fff : Nat) = 2 ^ 14 - 1 := by decide
  rw [Nat.or_comm, pair_or hfirst, hmask, Nat.and_two_pow_sub_one_eq_mod, Nat.add_comm]

theorem packed_low (packed : Nat) : packed / 256 % 256 % 2 ^ 6 * 256 + packed % 256 = packed % 2 ^ 14 := by
  omega

theorem packed_high (packed : Nat) : packed / 256 / 256 / 256 % 256 % 2 ^ 4 * 2 ^ 10 +
    packed / 256 / 256 % 256 * 2 ^ 2 + packed / 256 % 256 / 64 = packed / 2 ^ 14 % 2 ^ 14 := by
  have hthird : packed / 256 / 256 / 256 = packed / 2 ^ 14 / 1024 := by
    simp only [Nat.div_div_eq_div_mul, Nat.reduceMul, Nat.reducePow]
  have hsecond : packed / 256 / 256 = packed / 2 ^ 14 / 4 := by
    simp only [Nat.div_div_eq_div_mul, Nat.reduceMul, Nat.reducePow]
  have hfirst : packed / 256 % 256 / 64 = packed / 2 ^ 14 % 4 := by
    omega
  rw [hthird, hsecond, hfirst]
  generalize packed / 2 ^ 14 = high
  omega

end bits

section reading

variable {tail : List UInt8}

theorem readPngDimensions_header (header : PngHeader) :
    (readPngDimensions (header.bytes ++ tail)).value = some ⟨header.width, header.height⟩ := by
  have hroom : ¬ (header.bytes ++ tail).length < 24 := by
    simp only [PngHeader.bytes, List.length_append, List.length_cons, List.length_nil, length_bigEndian]
    omega
  have hwidth := header.widthFits
  have hheight := header.heightFits
  rw [readPngDimensions, if_neg hroom]
  simp only [PngHeader.bytes, bigEndian, List.cons_append, List.nil_append, Reading.value_bind,
    value_byteAt, List.getElem?_cons_succ, List.getElem?_cons_zero, Option.map_some, Option.getD_some, toNat_byte]
  rw [word_or (by omega) (by omega) (by omega), word_or (by omega) (by omega) (by omega)]
  have hread : ∀ value < 2 ^ 32, value / 256 ^ 3 % 256 * 2 ^ 24 + value / 256 ^ 2 % 256 * 2 ^ 16 +
      value / 256 ^ 1 % 256 * 2 ^ 8 + value / 256 ^ 0 % 256 = value := by
    intro value hvalue
    omega
  rw [hread _ hwidth, hread _ hheight]
  rfl

/-- The format of the first chunk of a container selects the reader of its size. -/
theorem readWebpDimensions_riff (size chunkSize : Nat) (first second third fourth : UInt8) (after : List UInt8) :
    (readWebpDimensions (riff size [first, second, third, fourth] chunkSize ++ after)).value =
      (if [first.toNat, second.toNat, third.toNat, fourth.toNat] = [0x56, 0x50, 0x38, 0x20] then
        readVp8Dimensions (riff size [first, second, third, fourth] chunkSize ++ after)
      else if [first.toNat, second.toNat, third.toNat, fourth.toNat] = [0x56, 0x50, 0x38, 0x4c] then
        readVp8lDimensions (riff size [first, second, third, fourth] chunkSize ++ after)
      else if [first.toNat, second.toNat, third.toNat, fourth.toNat] = [0x56, 0x50, 0x38, 0x58] then
        readVp8xDimensions (riff size [first, second, third, fourth] chunkSize ++ after)
      else return none).value :=
  rfl

theorem readWebpDimensions_vp8 (header : Vp8Header) :
    (readWebpDimensions (header.bytes ++ tail)).value = some ⟨header.width, header.height⟩ := by
  have hwidth := header.widthFits
  have hwidthScale := header.widthScaleFits
  have hheight := header.heightFits
  have hheightScale := header.heightScaleFits
  have hformat : (readWebpDimensions (header.bytes ++ tail)).value =
      (readVp8Dimensions (header.bytes ++ tail)).value := by
    simp only [Vp8Header.bytes, List.append_assoc, readWebpDimensions_riff]
    rw [if_pos (by decide)]
  have hread : ∀ value scale, value < 2 ^ 14 → scale < 4 →
      ((value + scale * 2 ^ 14) % 256 + (value + scale * 2 ^ 14) / 256 % 256 * 256) % 2 ^ 14 = value := by
    intro value scale hvalue hscale
    omega
  have hroom : ¬ (header.bytes ++ tail).length < 30 := by
    simp [Vp8Header.bytes, riff, littleEndian]
  rw [hformat, readVp8Dimensions, if_neg hroom]
  simp only [Vp8Header.bytes, riff, littleEndian, List.cons_append, List.nil_append, Reading.value_bind,
    value_byteAt, List.getElem?_cons_succ, List.getElem?_cons_zero, Option.map_some, Option.getD_some, toNat_byte]
  rw [masked_pair (by omega), masked_pair (by omega), hread _ _ hwidth hwidthScale,
    hread _ _ hheight hheightScale]
  rfl

/-- The bits of a byte above its low six. -/
theorem high_bits : ∀ byte < 256, (byte &&& 0xc0) >>> 6 = byte / 64 := by
  set_option maxRecDepth 20000 in decide

theorem readWebpDimensions_vp8l (header : Vp8lHeader) :
    (readWebpDimensions (header.bytes ++ tail)).value = some ⟨header.width, header.height⟩ := by
  obtain ⟨hwidthMin, hwidth⟩ := header.widthFits
  obtain ⟨hheightMin, hheight⟩ := header.heightFits
  have hversion := header.versionFits
  have hformat : (readWebpDimensions (header.bytes ++ tail)).value =
      (readVp8lDimensions (header.bytes ++ tail)).value := by
    simp only [Vp8lHeader.bytes, List.append_assoc, readWebpDimensions_riff]
    rw [if_neg (by decide)]
    rw [if_pos (by decide)]
  obtain ⟨packed, hpacked⟩ : ∃ packed,
      packed = (header.width - 1) + (header.height - 1) * 2 ^ 14 + header.version * 2 ^ 28 := ⟨_, rfl⟩
  have hroom : ¬ (header.bytes ++ tail).length < 25 := by
    simp [Vp8lHeader.bytes, riff, littleEndian]
  rw [hformat, readVp8lDimensions, if_neg hroom]
  simp only [Vp8lHeader.bytes, riff, littleEndian, ← hpacked, List.cons_append, List.nil_append, Reading.value_bind,
    value_byteAt, List.getElem?_cons_succ, List.getElem?_cons_zero, Option.map_some, Option.getD_some, toNat_byte]
  have hlow : ∀ byte : Nat, byte &&& 0x3f = byte % 2 ^ 6 := fun byte => Nat.and_two_pow_sub_one_eq_mod byte 6
  have hnibble : ∀ byte : Nat, byte &&& 0x0f = byte % 2 ^ 4 := fun byte => Nat.and_two_pow_sub_one_eq_mod byte 4
  have hwidthRead : 1 + packed % 2 ^ 14 = header.width := by
    omega
  have hheightRead : 1 + packed / 2 ^ 14 % 2 ^ 14 = header.height := by
    have hhigh : packed / 2 ^ 14 = (header.height - 1) + header.version * 2 ^ 14 := by
      omega
    rw [hhigh]
    omega
  have htwo : packed / 256 / 256 / 256 % 256 % 2 ^ 4 * 2 ^ 10 ||| packed / 256 / 256 % 256 * 2 ^ 2 =
      packed / 256 / 256 / 256 % 256 % 2 ^ 4 * 2 ^ 10 + packed / 256 / 256 % 256 * 2 ^ 2 :=
    or_eq_add 10 ⟨packed / 256 / 256 / 256 % 256 % 2 ^ 4, Nat.mul_comm _ _⟩ (by clear hpacked; omega)
  have hthree : packed / 256 / 256 / 256 % 256 % 2 ^ 4 * 2 ^ 10 + packed / 256 / 256 % 256 * 2 ^ 2 |||
      packed / 256 % 256 / 64 =
        packed / 256 / 256 / 256 % 256 % 2 ^ 4 * 2 ^ 10 + packed / 256 / 256 % 256 * 2 ^ 2 +
          packed / 256 % 256 / 64 :=
    or_eq_add 2 ⟨packed / 256 / 256 / 256 % 256 % 2 ^ 4 * 2 ^ 8 + packed / 256 / 256 % 256, by clear hpacked; omega⟩
      (by clear hpacked; omega)
  rw [hlow, hnibble, pair_or (by omega), high_bits _ (by omega), Nat.shiftLeft_eq, Nat.shiftLeft_eq, htwo, hthree,
    packed_low, packed_high, hwidthRead, hheightRead]
  rfl

theorem readWebpDimensions_vp8x (header : Vp8xHeader) :
    (readWebpDimensions (header.bytes ++ tail)).value = some ⟨header.width, header.height⟩ := by
  obtain ⟨hwidthMin, hwidth⟩ := header.widthFits
  obtain ⟨hheightMin, hheight⟩ := header.heightFits
  have hformat : (readWebpDimensions (header.bytes ++ tail)).value =
      (readVp8xDimensions (header.bytes ++ tail)).value := by
    simp only [Vp8xHeader.bytes, List.append_assoc, readWebpDimensions_riff]
    rw [if_neg (by decide), if_neg (by decide)]
    rw [if_pos (by decide)]
  have hread : ∀ value, 1 ≤ value → value ≤ 2 ^ 24 →
      1 + ((value - 1) % 256 + (value - 1) / 256 % 256 * 2 ^ 8 + (value - 1) / 256 / 256 % 256 * 2 ^ 16) = value := by
    intro value hmin hmax
    omega
  have hroom : ¬ (header.bytes ++ tail).length < 30 := by
    simp [Vp8xHeader.bytes, riff, littleEndian]
  rw [hformat, readVp8xDimensions, if_neg hroom]
  simp only [Vp8xHeader.bytes, riff, littleEndian, List.cons_append, List.nil_append, Reading.value_bind,
    value_byteAt, List.getElem?_cons_succ, List.getElem?_cons_zero, Option.map_some, Option.getD_some, toNat_byte]
  rw [reversed_or (by omega) (by omega), reversed_or (by omega) (by omega), hread _ hwidthMin hwidth,
    hread _ hheightMin hheight]
  rfl

end reading

section walking

variable {bytes rest : List UInt8} {offset : Nat}

theorem byteAt_of_drop (hdrop : bytes.drop offset = rest) (index : Nat) :
    (byteAt bytes (offset + index)).value = (byteAt rest index).value := by
  rw [← hdrop, value_byteAt, value_byteAt, List.getElem?_drop]

theorem length_of_drop (hdrop : bytes.drop offset = rest) (hrest : 0 < rest.length) :
    bytes.length = offset + rest.length := by
  rw [← hdrop, List.length_drop] at hrest ⊢
  omega

theorem isFrameMarker_segment {marker : UInt8} (hmarker : IsSegmentMarker marker) :
    isFrameMarker marker.toNat = false := by
  obtain hlisted | ⟨hmin, -⟩ := hmarker
  · simp only [List.mem_cons, List.not_mem_nil, or_false] at hlisted
    rcases hlisted with rfl | rfl | rfl <;> rfl
  · rw [UInt8.le_iff_toNat_le] at hmin
    have hconstant : (0xdb : UInt8).toNat = 0xdb := rfl
    have hbeyond : decide (marker.toNat ≤ 0xcf) = false := decide_eq_false (by omega)
    simp [isFrameMarker, hbeyond]

/-- One turn of the walk, by the nine bytes at its offset. -/
theorem walk_turn {lead marker first second third high low wide narrow : UInt8}
    (hdrop : bytes.drop offset =
      lead :: marker :: first :: second :: third :: high :: low :: wide :: narrow :: rest) :
    (readJpegDimensions.walk bytes offset).value =
      if lead ≠ 0xff then (readJpegDimensions.walk bytes (offset + 1)).value
      else if isFrameMarker marker.toNat then
        some ⟨wide.toNat * 256 + narrow.toNat, high.toNat * 256 + low.toNat⟩
      else if first.toNat * 256 + second.toNat < 2 then none
      else (readJpegDimensions.walk bytes (offset + (2 + (first.toNat * 256 + second.toNat)))).value := by
  have hlength := length_of_drop hdrop (by simp)
  have hread := byteAt_of_drop hdrop
  have hlead : (byteAt bytes offset).value = lead.toNat := hread 0
  have hmarker : (byteAt bytes (offset + 1)).value = marker.toNat := hread 1
  have hsame : lead.toNat = 0xff ↔ lead = 0xff := by
    rw [← UInt8.toNat_inj]
    rfl
  rw [readJpegDimensions.walk, dif_pos (by simp only [hlength, List.length_cons]; omega), Reading.value_bind, hlead]
  by_cases hmarks : lead = 0xff
  · rw [if_neg (not_not.mpr (hsame.mpr hmarks)), if_neg (not_not.mpr hmarks), Reading.value_bind, hmarker]
    split
    · simp only [Reading.value_bind, hread 5, hread 6, hread 7, hread 8, value_byteAt, List.getElem?_cons_succ,
        List.getElem?_cons_zero, Option.map_some, Option.getD_some]
      rw [pair_or low.toNat_lt, pair_or narrow.toNat_lt]
      rfl
    · simp only [Reading.value_bind, hread 2, hread 3, value_byteAt, List.getElem?_cons_succ,
        List.getElem?_cons_zero, Option.map_some, Option.getD_some]
      rw [pair_or second.toNat_lt]
      split <;> rfl
  · rw [if_pos (mt hsame.mp hmarks), if_pos hmarks]

theorem drop_nine (hroom : offset + 9 ≤ bytes.length) :
    ∃ lead marker first second third high low wide narrow rest, bytes.drop offset =
      lead :: marker :: first :: second :: third :: high :: low :: wide :: narrow :: rest := by
  rw [List.drop_eq_getElem_cons (show offset < bytes.length by omega),
    List.drop_eq_getElem_cons (show offset + 1 < bytes.length by omega),
    List.drop_eq_getElem_cons (show offset + 1 + 1 < bytes.length by omega),
    List.drop_eq_getElem_cons (show offset + 1 + 1 + 1 < bytes.length by omega),
    List.drop_eq_getElem_cons (show offset + 1 + 1 + 1 + 1 < bytes.length by omega),
    List.drop_eq_getElem_cons (show offset + 1 + 1 + 1 + 1 + 1 < bytes.length by omega),
    List.drop_eq_getElem_cons (show offset + 1 + 1 + 1 + 1 + 1 + 1 < bytes.length by omega),
    List.drop_eq_getElem_cons (show offset + 1 + 1 + 1 + 1 + 1 + 1 + 1 < bytes.length by omega),
    List.drop_eq_getElem_cons (show offset + 1 + 1 + 1 + 1 + 1 + 1 + 1 + 1 < bytes.length by omega)]
  exact ⟨_, _, _, _, _, _, _, _, _, _, rfl⟩

theorem Leads.le {last : Nat} (hleads : Leads bytes offset last) : offset ≤ last := by
  induction hleads with
  | here => exact Nat.le_refl _
  | skip _ _ _ ih => omega
  | segment _ _ _ _ ih => omega

theorem FrameAt.room {dimensions : AvatarDimensions} (hframe : FrameAt bytes offset dimensions) :
    offset + 9 ≤ bytes.length := by
  obtain ⟨marker, first, second, third, high, low, wide, narrow, rest, hdrop, -⟩ := hframe
  have hlength := length_of_drop hdrop (by simp)
  simp only [List.length_cons] at hlength
  omega

/-- The walk finds the size of the frame header that it is led to. -/
theorem walk_eq_some_iff {dimensions : AvatarDimensions} :
    (readJpegDimensions.walk bytes offset).value = some dimensions ↔
      ∃ last, Leads bytes offset last ∧ FrameAt bytes last dimensions := by
  constructor
  · intro hwalk
    induction hremaining : bytes.length - offset using Nat.strongRecOn generalizing offset with
    | ind remaining ih =>
      by_cases hroom : offset + 9 ≤ bytes.length
      · obtain ⟨lead, marker, first, second, third, high, low, wide, narrow, rest, hdrop⟩ := drop_nine hroom
        rw [walk_turn hdrop] at hwalk
        split at hwalk
        · rename_i hlead
          obtain ⟨last, hleads, hframe⟩ := ih _ (by omega) hwalk rfl
          exact ⟨last, .skip hdrop hlead hleads, hframe⟩
        · rename_i hlead
          obtain rfl := not_not.mp hlead
          split at hwalk
          · rename_i hmarker
            cases hwalk
            exact ⟨offset, .here offset, marker, first, second, third, high, low, wide, narrow, rest, hdrop, hmarker, rfl⟩
          · rename_i hmarker
            split at hwalk
            · cases hwalk
            · rename_i hlength
              obtain ⟨last, hleads, hframe⟩ := ih _ (by omega) hwalk rfl
              exact ⟨last, .segment hdrop (Bool.eq_false_iff.mpr hmarker) (by omega) hleads, hframe⟩
      · rw [readJpegDimensions.walk, dif_neg hroom] at hwalk
        cases hwalk
  · rintro ⟨last, hleads, hframe⟩
    have hroom := hframe.room
    induction hleads with
    | here offset =>
      obtain ⟨marker, first, second, third, high, low, wide, narrow, rest, hdrop, hmarker, rfl⟩ := hframe
      rw [walk_turn hdrop, if_neg (not_not.mpr rfl), if_pos hmarker]
    | @skip offset last byte rest hdrop hbyte hrest ih =>
      have hle := hrest.le
      obtain ⟨lead, marker, first, second, third, high, low, wide, narrow, after, hnine⟩ :=
        @drop_nine bytes offset (by omega)
      rw [hdrop, List.cons.injEq] at hnine
      obtain ⟨rfl, rfl⟩ := hnine
      rw [walk_turn hdrop, if_pos hbyte]
      exact ih hframe hroom
    | @segment offset last marker first second rest hdrop hmarker hlength hrest ih =>
      have hle := hrest.le
      obtain ⟨lead, own, high, low, third, fourth, fifth, sixth, seventh, after, hnine⟩ :=
        @drop_nine bytes offset (by omega)
      rw [hdrop] at hnine
      simp only [List.cons.injEq] at hnine
      obtain ⟨rfl, rfl, rfl, rfl, rfl⟩ := hnine
      rw [walk_turn hdrop, if_neg (not_not.mpr rfl), if_neg (by rw [hmarker]; exact Bool.false_ne_true),
        if_neg (by omega)]
      exact ih hframe hroom

/-- At a frame header without fill bytes the walk ends with its size. -/
theorem walk_frame (frame : JpegFrame) (hfill : frame.fill = 0) {tail : List UInt8}
    (hdrop : bytes.drop offset = frame.bytes ++ tail) :
    (readJpegDimensions.walk bytes offset).value = some ⟨frame.width, frame.height⟩ := by
  simp only [JpegFrame.bytes, hfill, List.replicate_zero, List.nil_append, bigEndian, List.cons_append] at hdrop
  have hwidth := frame.widthFits
  have hheight := frame.heightFits
  have hvalue : ∀ value < 2 ^ 16, value / 256 ^ 1 % 256 * 256 + value / 256 ^ 0 % 256 = value := by
    intro value hvalue
    omega
  rw [walk_turn hdrop, if_neg (not_not.mpr rfl), if_pos frame.legalMarker]
  simp only [toNat_byte]
  rw [hvalue _ hwidth, hvalue _ hheight]

/-- Over a segment without fill bytes the walk steps to its end. -/
theorem walk_segment (segment : JpegSegment) (hfill : segment.fill = 0)
    (hdrop : bytes.drop offset = segment.bytes ++ rest) (hrest : 9 ≤ rest.length) :
    (readJpegDimensions.walk bytes offset).value =
      (readJpegDimensions.walk bytes (offset + segment.bytes.length)).value := by
  have hstep : segment.bytes.length = 2 + (segment.payload.length + 2) := by
    simp only [JpegSegment.bytes, hfill, List.replicate_zero, List.nil_append, List.length_append, length_bigEndian,
      List.length_cons, List.length_nil]
    omega
  have hlegal := segment.legalLength
  have hroom : offset + 9 ≤ bytes.length := by
    rw [length_of_drop hdrop (by rw [List.length_append]; omega), List.length_append]
    omega
  obtain ⟨lead, marker, first, second, third, high, low, wide, narrow, after, hnine⟩ := drop_nine hroom
  simp only [JpegSegment.bytes, hfill, List.replicate_zero, List.nil_append, bigEndian, List.cons_append] at hdrop
  have hsame := hdrop.symm.trans hnine
  simp only [List.cons.injEq] at hsame
  obtain ⟨rfl, rfl, rfl, rfl, -⟩ := hsame
  have hvalue : (segment.payload.length + 2) / 256 ^ 1 % 256 * 256 + (segment.payload.length + 2) / 256 ^ 0 % 256 =
      segment.payload.length + 2 := by
    omega
  rw [walk_turn hnine, if_neg (not_not.mpr rfl),
    if_neg (by rw [isFrameMarker_segment segment.legalMarker]; exact Bool.false_ne_true)]
  simp only [toNat_byte]
  rw [hvalue, if_neg (by omega), hstep]

/-- A marker that follows a fill byte is misread as the length of a segment, which ends
past bytes that are not many. -/
theorem walk_misread {third fourth : UInt8} (hdrop : bytes.drop offset = 0xff :: 0xff :: third :: fourth :: rest)
    (hthird : 0xc0 ≤ third.toNat) (hfew : bytes.length < offset + 49163) :
    (readJpegDimensions.walk bytes offset).value = none := by
  by_cases hroom : offset + 9 ≤ bytes.length
  · obtain ⟨lead, marker, first, second, fifth, high, low, wide, narrow, after, hnine⟩ := drop_nine hroom
    have hsame := hdrop.symm.trans hnine
    simp only [List.cons.injEq] at hsame
    obtain ⟨rfl, rfl, rfl, rfl, -⟩ := hsame
    have hfourth := fourth.toNat_lt
    rw [walk_turn hnine, if_neg (not_not.mpr rfl), if_neg (by decide), if_neg (by omega), readJpegDimensions.walk,
      dif_neg (by omega)]
    rfl
  · rw [readJpegDimensions.walk, dif_neg hroom]
    rfl

/-- What follows fill bytes and the marker after them. -/
theorem filled_bytes {fill : Nat} (hfill : fill ≠ 0) (marker next : UInt8) (tail : List UInt8)
    (hmarker : 0xc0 ≤ marker.toNat) : ∃ third fourth after, 0xc0 ≤ third.toNat ∧
      List.replicate fill 0xff ++ (0xff :: marker :: next :: tail) = 0xff :: 0xff :: third :: fourth :: after := by
  obtain _ | _ | _ | fill := fill
  · exact absurd rfl hfill
  · exact ⟨marker, next, tail, hmarker, rfl⟩
  · exact ⟨0xff, marker, next :: tail, by decide, rfl⟩
  · refine ⟨0xff, 0xff, List.replicate fill 0xff ++ (marker :: next :: tail), by decide, ?_⟩
    have hmoved : List.replicate fill (0xff : UInt8) ++ 0xff :: (marker :: next :: tail) =
        0xff :: (List.replicate fill 0xff ++ (marker :: next :: tail)) := by
      rw [← List.cons_append, ← List.replicate_succ, List.replicate_succ', List.append_assoc, List.singleton_append]
    rw [List.replicate_succ, List.replicate_succ, List.replicate_succ, List.cons_append, List.cons_append,
      List.cons_append, hmoved]

theorem length_frame (frame : JpegFrame) : 9 ≤ frame.bytes.length := by
  simp only [JpegFrame.bytes, List.length_append, length_bigEndian, List.length_cons, List.length_nil]
  omega

theorem frame_marker (frame : JpegFrame) : 0xc0 ≤ frame.marker.toNat := by
  have hmarker := frame.legalMarker
  simp only [isFrameMarker, Bool.and_eq_true, decide_eq_true_eq] at hmarker
  exact hmarker.1.1.1.1

theorem segment_marker (segment : JpegSegment) : 0xc0 ≤ segment.marker.toNat := by
  obtain hlisted | ⟨hmin, -⟩ := segment.legalMarker
  · simp only [List.mem_cons, List.not_mem_nil, or_false] at hlisted
    rcases hlisted with hmarker | hmarker | hmarker <;> rw [hmarker] <;> decide
  · rw [UInt8.le_iff_toNat_le] at hmin
    exact Nat.le_trans (by decide) hmin

/-- Without fill bytes the walk reaches the frame header. -/
theorem walk_unfilled (segments : List JpegSegment) (frame : JpegFrame)
    (hsegments : ∀ segment ∈ segments, segment.fill = 0) (hframe : frame.fill = 0) {tail : List UInt8}
    (hdrop : bytes.drop offset = segments.flatMap JpegSegment.bytes ++ (frame.bytes ++ tail)) :
    (readJpegDimensions.walk bytes offset).value = some ⟨frame.width, frame.height⟩ := by
  induction segments generalizing offset with
  | nil => exact walk_frame frame hframe hdrop
  | cons segment segments ih =>
    obtain ⟨hfill, hlater⟩ := List.forall_mem_cons.mp hsegments
    have hframeLength := length_frame frame
    rw [List.flatMap_cons, List.append_assoc] at hdrop
    rw [walk_segment segment hfill hdrop (by simp only [List.length_append]; omega)]
    apply ih hlater
    rw [← List.drop_drop, hdrop, List.drop_left]

/-- With a fill byte the walk loses the frame header, when the bytes are not many. -/
theorem walk_filled (segments : List JpegSegment) (frame : JpegFrame)
    (hfilled : ¬ ((∀ segment ∈ segments, segment.fill = 0) ∧ frame.fill = 0)) {tail : List UInt8}
    (hdrop : bytes.drop offset = segments.flatMap JpegSegment.bytes ++ (frame.bytes ++ tail))
    (hfew : bytes.length < offset + 49163) : (readJpegDimensions.walk bytes offset).value = none := by
  induction segments generalizing offset with
  | nil =>
    have hframe : frame.fill ≠ 0 := fun hfill => hfilled ⟨by simp, hfill⟩
    rw [List.flatMap_nil, List.nil_append, JpegFrame.bytes] at hdrop
    simp only [bigEndian, List.cons_append, List.nil_append, List.append_assoc] at hdrop
    obtain ⟨third, fourth, after, hthird, hbytes⟩ := filled_bytes hframe frame.marker _ _ (frame_marker frame)
    rw [hbytes] at hdrop
    exact walk_misread hdrop hthird hfew
  | cons segment segments ih =>
    rw [List.flatMap_cons, List.append_assoc] at hdrop
    by_cases hfill : segment.fill = 0
    · have hframeLength := length_frame frame
      rw [walk_segment segment hfill hdrop (by simp only [List.length_append]; omega)]
      apply ih
      · rintro ⟨hlater, hframe⟩
        exact hfilled ⟨List.forall_mem_cons.mpr ⟨hfill, hlater⟩, hframe⟩
      · rw [← List.drop_drop, hdrop, List.drop_left]
      · omega
    · rw [JpegSegment.bytes] at hdrop
      simp only [bigEndian, List.cons_append, List.nil_append, List.append_assoc] at hdrop
      obtain ⟨third, fourth, after, hthird, hbytes⟩ := filled_bytes hfill segment.marker _ _ (segment_marker segment)
      rw [hbytes] at hdrop
      exact walk_misread hdrop hthird hfew

/-- The walk comes to the first fill byte, or to the frame header. -/
theorem walk_fillOffset (segments : List JpegSegment) (frame : JpegFrame) {tail : List UInt8}
    (hdrop : bytes.drop offset = segments.flatMap JpegSegment.bytes ++ (frame.bytes ++ tail)) :
    (readJpegDimensions.walk bytes offset).value = (readJpegDimensions.walk bytes
      (offset + ((segments.takeWhile fun segment => segment.fill = 0).flatMap JpegSegment.bytes).length)).value := by
  induction segments generalizing offset with
  | nil => rfl
  | cons segment segments ih =>
    by_cases hfill : segment.fill = 0
    · have hframeLength := length_frame frame
      rw [List.flatMap_cons, List.append_assoc] at hdrop
      rw [walk_segment segment hfill hdrop (by simp only [List.length_append]; omega), List.takeWhile_cons,
        if_pos (decide_eq_true hfill), List.flatMap_cons, List.length_append, ← Nat.add_assoc]
      apply ih
      rw [← List.drop_drop, hdrop, List.drop_left]
    · rw [List.takeWhile_cons, if_neg (by rwa [decide_eq_true_eq])]
      rfl

end walking

section validation

variable {tail : List UInt8}

/-- A marker, with its fill bytes, begins with `0xff`. -/
theorem replicate_append_cons (fill : Nat) (rest : List UInt8) :
    ∃ after, List.replicate fill 0xff ++ (0xff :: rest) = 0xff :: after := by
  cases fill with
  | zero => exact ⟨rest, rfl⟩
  | succ fill => exact ⟨List.replicate fill 0xff ++ 0xff :: rest, by rw [List.replicate_succ, List.cons_append]⟩

theorem jpeg_signature (header : JpegHeader) (tail : List UInt8) : ∃ after, header.bytes ++ tail = 0xff :: 0xd8 :: 0xff :: after := by
  suffices hbody : ∃ after, header.segments.flatMap JpegSegment.bytes ++ header.frame.bytes ++ tail = 0xff :: after by
    obtain ⟨after, hafter⟩ := hbody
    exact ⟨after, by simp only [JpegHeader.bytes, List.cons_append, List.nil_append, hafter]⟩
  cases header.segments with
  | nil =>
    simp only [List.flatMap_nil, List.nil_append, JpegFrame.bytes, List.cons_append, List.append_assoc]
    exact replicate_append_cons header.frame.fill _
  | cons segment segments =>
    simp only [List.flatMap_cons, JpegSegment.bytes, List.cons_append, List.nil_append, List.append_assoc]
    exact replicate_append_cons segment.fill _

theorem detectImageType_jpeg (after : List UInt8) :
    (detectImageType (0xff :: 0xd8 :: 0xff :: after)).value = some .jpeg := by
  have hpng : ∀ long : Bool, (Reading.and (pure long) (matchesAt (0xff :: 0xd8 :: 0xff :: after) 0
      [0x89, 0x50, 0x4e, 0x47, 0x0d, 0x0a, 0x1a, 0x0a])).value = false := by
    intro long
    cases long <;> rfl
  have hlength : decide (3 ≤ (0xff :: 0xd8 :: 0xff :: after : List UInt8).length) = true := by
    simp
  rw [detectImageType, Reading.value_bind, hpng, hlength]
  rfl

theorem detectImageType_riff (size chunkSize : Nat) (format after : List UInt8) :
    (detectImageType (riff size format chunkSize ++ after)).value = some .webp := by
  refine detectImageType_webp_iff.mpr ⟨?_, ?_, ?_⟩
  · simp [riff, littleEndian]
  · exact ⟨_, by rw [riff, List.append_assoc, List.append_assoc, List.append_assoc, List.append_assoc]⟩
  · exact ⟨format ++ littleEndian 4 chunkSize ++ after, by simp [riff, littleEndian]⟩

/-- The type of an image is that of its header. -/
theorem detectImageType_header (header : ImageHeader) (tail : List UInt8) :
    (detectImageType (header.bytes ++ tail)).value = some header.contentType := by
  cases header with
  | png header =>
    have hlength : decide (8 ≤ ((ImageHeader.png header).bytes ++ tail).length) = true := by
      simp [ImageHeader.bytes, PngHeader.bytes]
    rw [detectImageType, hlength]
    rfl
  | jpeg header =>
    obtain ⟨after, hafter⟩ := jpeg_signature header tail
    rw [ImageHeader.bytes, hafter, detectImageType_jpeg]
    rfl
  | vp8 header =>
    simp only [ImageHeader.bytes, Vp8Header.bytes, List.append_assoc, detectImageType_riff]
    rfl
  | vp8l header =>
    simp only [ImageHeader.bytes, Vp8lHeader.bytes, List.append_assoc, detectImageType_riff]
    rfl
  | vp8x header =>
    simp only [ImageHeader.bytes, Vp8xHeader.bytes, List.append_assoc, detectImageType_riff]
    rfl

theorem drop_signature (header : JpegHeader) : (header.bytes ++ tail).drop 2 =
    header.segments.flatMap JpegSegment.bytes ++ (header.frame.bytes ++ tail) := by
  simp [JpegHeader.bytes]

/-- The size of an image without fill bytes is read as it is declared. -/
theorem readImageDimensions_header (header : ImageHeader) (hunfilled : header.Unfilled) :
    (readImageDimensions header.contentType (header.bytes ++ tail)).value = some header.dimensions := by
  cases header with
  | png header =>
    simp only [ImageHeader.contentType, readImageDimensions, ImageHeader.bytes, ImageHeader.dimensions]
    exact readPngDimensions_header header
  | jpeg header =>
    simp only [ImageHeader.contentType, readImageDimensions, readJpegDimensions, ImageHeader.bytes,
      ImageHeader.dimensions]
    exact walk_unfilled header.segments header.frame hunfilled.1 hunfilled.2 (drop_signature header)
  | vp8 header =>
    simp only [ImageHeader.contentType, readImageDimensions, ImageHeader.bytes, ImageHeader.dimensions]
    exact readWebpDimensions_vp8 header
  | vp8l header =>
    simp only [ImageHeader.contentType, readImageDimensions, ImageHeader.bytes, ImageHeader.dimensions]
    exact readWebpDimensions_vp8l header
  | vp8x header =>
    simp only [ImageHeader.contentType, readImageDimensions, ImageHeader.bytes, ImageHeader.dimensions]
    exact readWebpDimensions_vp8x header

theorem validateAvatarBytes_large (header : ImageHeader) (hlarge : MAX_AVATAR_BYTES < (header.bytes ++ tail).length) :
    (validateAvatarBytes (header.bytes ++ tail)).value = .error "avatar_too_large" := by
  rw [validateAvatarBytes, if_neg (by omega), if_pos hlarge]
  rfl

/-- The verdict on an image that is not too large is the one on the size that is read. -/
theorem validateAvatarBytes_header (header : ImageHeader) (hsmall : (header.bytes ++ tail).length ≤ MAX_AVATAR_BYTES) :
    (validateAvatarBytes (header.bytes ++ tail)).value = checkDimensions header.contentType
      (readImageDimensions header.contentType (header.bytes ++ tail)).value := by
  have hnonempty : (header.bytes ++ tail).length ≠ 0 := by
    intro hempty
    have hdetected := detectImageType_header header tail
    rw [List.eq_nil_of_length_eq_zero hempty] at hdetected
    cases hdetected
  rw [validateAvatarBytes, if_neg hnonempty, if_neg (Nat.not_lt.mpr hsmall), Reading.value_bind,
    detectImageType_header]
  rfl

theorem checkDimensions_eq_ok_iff {contentType found : AvatarContentType} {dimensions : AvatarDimensions}
    {width height : Option Nat} :
    checkDimensions contentType (some dimensions) = .ok found width height ↔
      dimensions.Within ∧ contentType = found ∧ some dimensions.width = width ∧ some dimensions.height = height := by
  rw [checkDimensions, AvatarDimensions.Within]
  split
  · exact iff_of_false (by simp) (by omega)
  · rw [AvatarValidation.ok.injEq]
    exact (and_iff_right (by omega)).symm

/-- Few bytes whose frame header comes after a fill byte are accepted with no size. -/
theorem validateAvatarBytes_filled (header : ImageHeader) (hfilled : ¬ header.Unfilled)
    (hfew : (header.bytes ++ tail).length < 49165) :
    (validateAvatarBytes (header.bytes ++ tail)).value = .ok header.contentType none none := by
  rw [validateAvatarBytes_header header (by rw [MAX_AVATAR_BYTES]; omega)]
  cases header with
  | jpeg header =>
    have hread := walk_filled header.segments header.frame hfilled (drop_signature header) hfew
    simp only [ImageHeader.contentType, readImageDimensions, readJpegDimensions, ImageHeader.bytes, hread]
    rfl
  | png _ | vp8 _ | vp8l _ | vp8x _ => exact absurd trivial hfilled

/-- With a fill byte the size that is read is the one that the reader is led to from there. -/
theorem readImageDimensions_filled (header : JpegHeader) {dimensions : AvatarDimensions} :
    (readImageDimensions .jpeg (header.bytes ++ tail)).value = some dimensions ↔
      ∃ offset, Leads (header.bytes ++ tail) header.fillOffset offset ∧
        FrameAt (header.bytes ++ tail) offset dimensions := by
  rw [readImageDimensions, readJpegDimensions, walk_fillOffset header.segments header.frame (drop_signature header)]
  exact walk_eq_some_iff

theorem respected_iff (header : ImageHeader) (tail : List UInt8) : Respected header tail ↔
    header.Unfilled ∨ MAX_AVATAR_BYTES < (header.bytes ++ tail).length ∨ header.RepeatedBeyond tail := by
  by_cases hlarge : MAX_AVATAR_BYTES < (header.bytes ++ tail).length
  · refine iff_of_true (fun contentType width height hvalid => ?_) (.inr (.inl hlarge))
    rw [validateAvatarBytes_large header hlarge] at hvalid
    cases hvalid
  have hverdict := validateAvatarBytes_header header (Nat.not_lt.mp hlarge)
  by_cases hunfilled : header.Unfilled
  · refine iff_of_true (fun contentType width height hvalid => ?_) (.inl hunfilled)
    rw [hverdict, readImageDimensions_header header hunfilled, checkDimensions_eq_ok_iff] at hvalid
    exact ⟨hvalid.2.2.1.symm, hvalid.2.2.2.symm, hvalid.1⟩
  rw [or_iff_right hunfilled, or_iff_right hlarge]
  cases header with
  | png _ | vp8 _ | vp8l _ | vp8x _ => exact absurd trivial hunfilled
  | jpeg markers =>
    have hread := @readImageDimensions_filled tail markers
    rw [Respected, hverdict]
    constructor
    · intro hrespected
      cases hfound : (readImageDimensions .jpeg (markers.bytes ++ tail)).value with
      | none =>
        obtain ⟨hwidth, -⟩ := hrespected .jpeg none none (congrArg (checkDimensions .jpeg) hfound)
        cases hwidth
      | some dimensions =>
        obtain ⟨offset, hleads, hframe⟩ := hread.mp hfound
        refine ⟨offset, dimensions, hleads, hframe, or_iff_not_imp_right.mpr fun hwithin => ?_⟩
        obtain ⟨hwidth, hheight, -⟩ := hrespected .jpeg (some dimensions.width) (some dimensions.height)
          ((congrArg (checkDimensions .jpeg) hfound).trans
            (checkDimensions_eq_ok_iff.mpr ⟨not_not.mp hwithin, rfl, rfl, rfl⟩))
        obtain ⟨width, height⟩ := dimensions
        cases hwidth
        cases hheight
        rfl
    · rintro ⟨offset, dimensions, hleads, hframe, hsize⟩ contentType width height hvalid
      have hfound : (readImageDimensions .jpeg (markers.bytes ++ tail)).value = some dimensions :=
        hread.mpr ⟨offset, hleads, hframe⟩
      obtain ⟨hwithin, -, hwidth, hheight⟩ := checkDimensions_eq_ok_iff.mp
        ((congrArg (checkDimensions .jpeg) hfound).symm.trans hvalid)
      obtain rfl := hsize.resolve_right (not_not.mpr hwithin)
      exact ⟨hwidth.symm, hheight.symm, hwithin⟩

end validation

/-- A baseline image of a size, with so many fill bytes before its frame header. -/
def baselineImage (fill size : Nat) (hsize : size < 2 ^ 16) : ImageHeader :=
  .jpeg ⟨[], ⟨fill, 0xc0, 8, size, size, [1, 1, 0x11, 0], rfl, hsize, hsize, by decide⟩⟩

end pgid.avatar
