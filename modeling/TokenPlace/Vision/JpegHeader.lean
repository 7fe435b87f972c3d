import Mathlib

/-!
# The header of a JPEG image

`_extract_jpeg_dimensions`, with the exceptions that an index past the end and a slice that is cut
short by the end would raise. A segment begins with a marker; some markers stand alone, the others
are followed by a length.

Results:
1. `extract_total`: the scan ends, and raises nothing.
2. `jpeg_dimensions`: it finds the frame header behind segments whose marker has one `0xFF` in front
   and, without a length, is SOI or EOI.
3. `fill_byte_lost`: behind a fill byte it finds none.
-/

namespace ImageAnalysis

abbrev Bytes := List UInt8

/-- What Python would raise. -/
inductive Raised
  | indexError
  | structError

/-- `data[index]`. -/
def byteAt (data : Bytes) (index : ℕ) : Except Raised UInt8 :=
  match data[index]? with
  | some byte => .ok byte
  | none => .error .indexError

/-- `struct.unpack(">H", data[index:index + 2])[0]`. -/
def unpackH (data : Bytes) (index : ℕ) : Except Raised ℕ :=
  match (data.drop index).take 2 with
  | [high, low] => .ok (high.toNat * 256 + low.toNat)
  | _ => .error .structError

/-- The markers of frame headers. -/
def frameMarkers : List UInt8 :=
  [0xC0, 0xC1, 0xC2, 0xC3, 0xC5, 0xC6, 0xC7, 0xC9, 0xCA, 0xCB, 0xCD, 0xCE, 0xCF]

/-- The width and the height of a frame header. -/
def frameDimensions (data : Bytes) (index : ℕ) : Except Raised (Option (ℕ × ℕ)) :=
  match unpackH data (index + 3), unpackH data (index + 5) with
  | .ok height, .ok width => .ok (some (width, height))
  | .error raised, _ => .error raised
  | _, .error raised => .error raised

/-- The loop, from an index on. -/
def scan (data : Bytes) (index : ℕ) : Except Raised (Option (ℕ × ℕ)) :=
  if index + 1 < data.length then
    match byteAt data index with
    | .error raised => .error raised
    | .ok first =>
      if first ≠ 0xFF then scan data (index + 1)
      else
        match byteAt data (index + 1) with
        | .error raised => .error raised
        | .ok marker =>
          if marker ∈ [0xD8, 0xD9] then scan data (index + 2)
          else if data.length < index + 2 + 2 then .ok none
          else
            match unpackH data (index + 2) with
            | .error raised => .error raised
            | .ok segmentLength =>
              if segmentLength < 2 ∨ data.length < index + 2 + segmentLength then .ok none
              else if marker ∈ frameMarkers then
                if segmentLength < 7 then .ok none else frameDimensions data (index + 2)
              else scan data (index + 2 + segmentLength)
  else .ok none
termination_by data.length - index

/-- `_extract_jpeg_dimensions`. -/
def extractJpegDimensions (data : Bytes) : Except Raised (Option (ℕ × ℕ)) :=
  if data.length < 4 ∨ data.take 2 ≠ [0xFF, 0xD8] then .ok none else scan data 2

/-! ## Reading inside the data -/

variable {data front s rest : Bytes} {index n : ℕ}

theorem byteAt_inside (data : Bytes) {index : ℕ} (inside : index < data.length) :
    ∃ byte, byteAt data index = .ok byte := by
  unfold byteAt
  rw [List.getElem?_eq_getElem inside]
  exact ⟨_, rfl⟩

theorem unpackH_inside (data : Bytes) {index : ℕ} (inside : index + 2 ≤ data.length) :
    ∃ n, unpackH data index = .ok n := by
  have two : ((data.drop index).take 2).length = 2 := by
    rw [List.length_take, List.length_drop]
    omega
  obtain ⟨high, low, slice⟩ := List.length_eq_two.mp two
  unfold unpackH
  rw [slice]
  exact ⟨_, rfl⟩

theorem frameDimensions_inside (inside : index + 7 ≤ data.length) :
    ∃ found, frameDimensions data index = .ok found := by
  obtain ⟨height, first⟩ := unpackH_inside data (show index + 3 + 2 ≤ data.length by omega)
  obtain ⟨width, second⟩ := unpackH_inside data (show index + 5 + 2 ≤ data.length by omega)
  unfold frameDimensions
  rw [first, second]
  exact ⟨_, rfl⟩

theorem scan_total (data : Bytes) (index : ℕ) : ∃ found, scan data index = .ok found := by
  fun_induction scan data index with
  | case1 index inside raised read =>
    obtain ⟨byte, ok⟩ := byteAt_inside data (show index < data.length by omega)
    rw [ok] at read
    nomatch read
  | case2 index inside first read other ih => exact ih
  | case3 index inside first read marks raised read' =>
    obtain ⟨byte, ok⟩ := byteAt_inside data inside
    rw [ok] at read'
    nomatch read'
  | case4 index inside first read marks marker read' alone ih => exact ih
  | case5 => exact ⟨_, rfl⟩
  | case6 index inside first read marks marker read' other enough raised read'' =>
    obtain ⟨n, ok⟩ := unpackH_inside data (show index + 2 + 2 ≤ data.length by omega)
    rw [ok] at read''
    nomatch read''
  | case7 => exact ⟨_, rfl⟩
  | case8 => exact ⟨_, rfl⟩
  | case9 index inside first read marks marker read' other enough n read'' fits frame long =>
    exact frameDimensions_inside (by omega)
  | case10 index inside first read marks marker read' other enough n read'' fits frame ih =>
    exact ih
  | case11 => exact ⟨_, rfl⟩

theorem extract_total (data : Bytes) : ∃ found, extractJpegDimensions data = .ok found := by
  unfold extractJpegDimensions
  split
  · exact ⟨_, rfl⟩
  · exact scan_total data 2

/-! ## Segments -/

/-- A 16-bit number, the high byte first. -/
def be16 (n : ℕ) : Bytes := [UInt8.ofNat (n / 256), UInt8.ofNat (n % 256)]

/-- The markers that stand alone: TEM, RST0 to RST7, SOI and EOI. -/
def standalone : List UInt8 :=
  [0x01, 0xD0, 0xD1, 0xD2, 0xD3, 0xD4, 0xD5, 0xD6, 0xD7, 0xD8, 0xD9]

/-- The first byte of a marker, fill bytes, and its code. -/
def markerBytes (fill : ℕ) (marker : UInt8) : Bytes := List.replicate (fill + 1) 0xFF ++ [marker]

/-- A segment that is no frame header. One whose marker stands alone has no payload. -/
structure Segment where
  fill : ℕ
  marker : UInt8
  payload : Option Bytes

/-- The length of a payload, and the payload. -/
def payloadBytes (payload : Bytes) : Bytes := be16 (payload.length + 2) ++ payload

def Segment.bytes (segment : Segment) : Bytes :=
  markerBytes segment.fill segment.marker ++ (segment.payload.map payloadBytes).getD []

structure Segment.Valid (segment : Segment) : Prop where
  code : segment.marker ≠ 0xFF
  other : segment.marker ∉ frameMarkers
  alone : segment.payload = none ↔ segment.marker ∈ standalone
  short : ∀ payload ∈ segment.payload, payload.length + 2 < 65536

/-- A frame header. `components` is what follows the width. -/
structure Frame where
  fill : ℕ
  marker : UInt8
  precision : UInt8
  height : ℕ
  width : ℕ
  components : Bytes

def Frame.bytes (frame : Frame) : Bytes :=
  markerBytes frame.fill frame.marker ++ payloadBytes
    (frame.precision :: (be16 frame.height ++ (be16 frame.width ++ frame.components)))

structure Frame.Valid (frame : Frame) : Prop where
  marks : frame.marker ∈ frameMarkers
  height : frame.height < 65536
  width : frame.width < 65536
  short : frame.components.length + 7 < 65536

/-- An image: SOI, segments, a frame header and whatever follows. -/
def image (segments : List Segment) (frame : Frame) (rest : Bytes) : Bytes :=
  [0xFF, 0xD8] ++ (segments.flatMap Segment.bytes ++ (frame.bytes ++ rest))

/-- A segment that the loop is in step with: there is no fill byte, and a marker that stands alone
is SOI or EOI. -/
def Segment.InStep (segment : Segment) : Prop :=
  segment.fill = 0 ∧ (segment.payload = none → segment.marker ∈ [0xD8, 0xD9])

/-! ## Reading segments -/

@[simp] theorem byteAt_append (front s : Bytes) (i : ℕ) :
    byteAt (front ++ s) (front.length + i) = byteAt s i := by
  unfold byteAt
  rw [List.getElem?_append_right (Nat.le_add_right ..), Nat.add_sub_cancel_left]

@[simp] theorem unpackH_append (front s : Bytes) (i : ℕ) :
    unpackH (front ++ s) (front.length + i) = unpackH s i := by
  unfold unpackH
  rw [← List.drop_drop, List.drop_left]

theorem unpackH_be16 (small : n < 65536) (s : Bytes) : unpackH (be16 n ++ s) 0 = .ok n := by
  show Except.ok ((UInt8.ofNat (n / 256)).toNat * 256 + (UInt8.ofNat (n % 256)).toNat) = .ok n
  rw [UInt8.toNat_ofNat', UInt8.toNat_ofNat']
  congr 1
  omega

theorem scan_marker (marker : UInt8) (s : Bytes) :
    scan (front ++ (markerBytes 0 marker ++ s)) front.length =
      if marker ∈ [0xD8, 0xD9] then scan (front ++ (markerBytes 0 marker ++ s)) (front.length + 2)
      else if s.length < 2 then .ok none
      else
        match unpackH s 0 with
        | .error raised => .error raised
        | .ok segmentLength =>
          if segmentLength < 2 ∨ s.length < segmentLength then .ok none
          else if marker ∈ frameMarkers then
            if segmentLength < 7 then .ok none
            else frameDimensions (front ++ (markerBytes 0 marker ++ s)) (front.length + 2)
          else scan (front ++ (markerBytes 0 marker ++ s)) (front.length + 2 + segmentLength) := by
  have length : (front ++ (markerBytes 0 marker ++ s)).length = front.length + 2 + s.length := by
    simp [markerBytes]
    omega
  have first : byteAt (front ++ (markerBytes 0 marker ++ s)) front.length = .ok 0xFF :=
    byteAt_append front _ 0
  have code : byteAt (front ++ (markerBytes 0 marker ++ s)) (front.length + 1) = .ok marker :=
    byteAt_append front _ 1
  have number : unpackH (front ++ (markerBytes 0 marker ++ s)) (front.length + 2) =
      unpackH s 0 := unpackH_append front _ 2
  rw [scan, if_pos (by omega), first]
  dsimp only
  rw [if_neg (by simp), code]
  dsimp only
  rw [number, length]
  simp only [Nat.add_assoc, Nat.add_lt_add_iff_left]

theorem scan_payload {marker : UInt8} {payload : Bytes} (small : payload.length + 2 < 65536)
    (lengthy : marker ∉ standalone) (other : marker ∉ frameMarkers) (s : Bytes) :
    scan (front ++ (markerBytes 0 marker ++ payloadBytes payload ++ s)) front.length =
      scan (front ++ (markerBytes 0 marker ++ payloadBytes payload ++ s))
        (front.length + (markerBytes 0 marker ++ payloadBytes payload).length) := by
  have alone : marker ∉ ([0xD8, 0xD9] : List UInt8) := fun member => lengthy (by
    simp only [standalone, List.mem_cons, List.not_mem_nil, or_false] at member ⊢
    tauto)
  have length : (payloadBytes payload ++ s).length = payload.length + 2 + s.length := by
    simp [payloadBytes, be16]
    omega
  have number : unpackH (payloadBytes payload ++ s) 0 = .ok (payload.length + 2) := by
    rw [payloadBytes, List.append_assoc]
    exact unpackH_be16 small _
  rw [List.append_assoc, scan_marker, if_neg alone, if_neg (by omega), number]
  dsimp only
  rw [if_neg (by omega), if_neg other]
  congr 1
  simp [markerBytes, payloadBytes, be16]
  omega

/-- The loop gives up where it reads a length that goes past the end. -/
theorem scan_overrun {marker : UInt8} (alone : marker ∉ ([0xD8, 0xD9] : List UInt8))
    (number : unpackH s 0 = .ok n) (overrun : s.length < n) :
    scan (front ++ (markerBytes 0 marker ++ s)) front.length = .ok none := by
  rw [scan_marker, if_neg alone]
  split
  · rfl
  · rw [number]
    exact if_pos (.inr overrun)

theorem scan_segment {segment : Segment} (valid : segment.Valid) (inStep : segment.InStep)
    (s : Bytes) : scan (front ++ (segment.bytes ++ s)) front.length =
      scan (front ++ (segment.bytes ++ s)) (front.length + segment.bytes.length) := by
  obtain ⟨fill, marker, payload⟩ := segment
  obtain ⟨none, alone⟩ := inStep
  cases none
  cases payload with
  | none =>
    have whole : Segment.bytes ⟨0, marker, none⟩ = markerBytes 0 marker := List.append_nil _
    rw [whole, scan_marker, if_pos (alone rfl)]
    rfl
  | some payload =>
    have lengthy : marker ∉ standalone := fun member => nomatch valid.alone.mpr member
    exact scan_payload (valid.short payload rfl) lengthy valid.other s

theorem scan_frame {frame : Frame} (valid : frame.Valid) (inStep : frame.fill = 0) (rest : Bytes) :
    scan (front ++ (frame.bytes ++ rest)) front.length =
      .ok (some (frame.width, frame.height)) := by
  obtain ⟨fill, marker, precision, height, width, components⟩ := frame
  cases inStep
  obtain ⟨marks, tall, wide, short⟩ := valid
  dsimp only at marks tall wide short
  have alone : marker ∉ ([0xD8, 0xD9] : List UInt8) := by
    rintro member
    simp only [List.mem_cons, List.not_mem_nil, or_false] at member
    rcases member with rfl | rfl <;> exact absurd marks (by decide)
  obtain ⟨body, is⟩ : ∃ body, precision :: (be16 height ++ (be16 width ++ components)) = body :=
    ⟨_, rfl⟩
  have size : body.length + 2 = components.length + 7 := by
    rw [← is]
    simp [be16]
  have length : (payloadBytes body ++ rest).length = body.length + 2 + rest.length := by
    simp [payloadBytes, be16]
    omega
  have number : unpackH (payloadBytes body ++ rest) 0 = .ok (body.length + 2) := by
    rw [payloadBytes, List.append_assoc]
    exact unpackH_be16 (by omega) _
  have first : unpackH (front ++ (markerBytes 0 marker ++ (payloadBytes body ++ rest)))
      (front.length + (2 + 3)) = .ok height := by
    rw [unpackH_append, ← is]
    exact (unpackH_append [0xFF, marker, _, _, precision] _ 0).trans (unpackH_be16 tall _)
  have second : unpackH (front ++ (markerBytes 0 marker ++ (payloadBytes body ++ rest)))
      (front.length + (2 + 5)) = .ok width := by
    rw [unpackH_append, ← is]
    exact (unpackH_append [0xFF, marker, _, _, precision, _, _] _ 0).trans (unpackH_be16 wide _)
  have whole : Frame.bytes ⟨0, marker, precision, height, width, components⟩ =
      markerBytes 0 marker ++ payloadBytes body := by rw [Frame.bytes, is]
  rw [whole, List.append_assoc, scan_marker, if_neg alone, if_neg (by omega), number]
  dsimp only
  rw [if_neg (by omega), if_pos marks, if_neg (by omega)]
  unfold frameDimensions
  rw [Nat.add_assoc, Nat.add_assoc, first, second]

theorem scan_segments {segments : List Segment} {frame : Frame}
    (valid : ∀ segment ∈ segments, segment.Valid) (inStep : ∀ segment ∈ segments, segment.InStep)
    (frameValid : frame.Valid) (frameInStep : frame.fill = 0) (front rest : Bytes) :
    scan (front ++ (segments.flatMap Segment.bytes ++ (frame.bytes ++ rest))) front.length =
      .ok (some (frame.width, frame.height)) := by
  induction segments generalizing front with
  | nil => exact scan_frame frameValid frameInStep rest
  | cons segment segments ih =>
    obtain ⟨here, later⟩ := List.forall_mem_cons.mp valid
    obtain ⟨step, steps⟩ := List.forall_mem_cons.mp inStep
    rw [List.flatMap_cons, List.append_assoc, scan_segment here step, ← List.append_assoc,
      ← List.length_append]
    exact ih later steps (front ++ segment.bytes)

/-- The scan raises nothing on any data. On an image it returns the width and the height of the
frame header, where no marker has a fill byte and none but SOI and EOI stands alone. -/
theorem jpeg_dimensions (segments : List Segment) (frame : Frame) (rest : Bytes)
    (valid : ∀ segment ∈ segments, segment.Valid) (frameValid : frame.Valid)
    (inStep : ∀ segment ∈ segments, segment.InStep) (frameInStep : frame.fill = 0) :
    (∀ data, ∃ found, extractJpegDimensions data = .ok found) ∧
      extractJpegDimensions (image segments frame rest) =
        .ok (some (frame.width, frame.height)) := by
  refine ⟨extract_total, ?_⟩
  have long : 4 ≤ (image segments frame rest).length := by
    simp [image, Frame.bytes, markerBytes]
    omega
  unfold extractJpegDimensions
  rw [if_neg]
  · exact scan_segments valid inStep frameValid frameInStep [0xFF, 0xD8] rest
  · rintro (short | other)
    · omega
    · exact other rfl

/-- A frame header of a 5 by 6 image. -/
def sampleFrame : Frame := ⟨0, 0xC0, 8, 6, 5, [1, 1, 0x11, 0]⟩

/-- A segment with three bytes. -/
def sampleSegment (fill : ℕ) : Segment := ⟨fill, 0xE0, some [1, 2, 3]⟩

theorem sampleSegment_valid (fill : ℕ) : (sampleSegment fill).Valid where
  code := show (0xE0 : UInt8) ≠ 0xFF by decide
  other := show (0xE0 : UInt8) ∉ frameMarkers by decide
  alone := ⟨nofun, fun member => absurd member (show (0xE0 : UInt8) ∉ standalone by decide)⟩
  short := by
    rintro payload ⟨⟩
    decide

theorem sampleFrame_valid : sampleFrame.Valid := ⟨by decide, by decide, by decide, by decide⟩

theorem jpeg_dimensions_segment :
    extractJpegDimensions (image [sampleSegment 0] sampleFrame []) = .ok (some (5, 6)) :=
  (jpeg_dimensions [sampleSegment 0] sampleFrame []
    (List.forall_mem_singleton.mpr (sampleSegment_valid 0)) sampleFrame_valid
    (List.forall_mem_singleton.mpr ⟨rfl, nofun⟩) rfl).2

/-- A marker in front of which the loop is, at the beginning of an image. -/
theorem extract_marker (marker : UInt8) (s : Bytes) :
    extractJpegDimensions ([0xFF, 0xD8] ++ (markerBytes 0 marker ++ s)) =
      scan ([0xFF, 0xD8] ++ (markerBytes 0 marker ++ s)) 2 := by
  unfold extractJpegDimensions
  rw [if_neg]
  rintro (short | other)
  · simp [markerBytes] at short
    omega
  · exact other rfl

/-- Behind a fill byte the loop reads a length from the marker, and finds no frame header. Behind
RST0 it reads one from the next marker. -/
theorem fill_byte_lost :
    ((sampleSegment 1).Valid ∧
        extractJpegDimensions (image [sampleSegment 1] sampleFrame []) = .ok none) ∧
      (⟨0, 0xD0, none⟩ : Segment).Valid ∧
        extractJpegDimensions (image [⟨0, 0xD0, none⟩] sampleFrame []) = .ok none := by
  refine ⟨⟨sampleSegment_valid 1, ?_⟩, ⟨by decide, by decide, by decide, nofun⟩, ?_⟩
  · exact (extract_marker 0xFF _).trans (scan_overrun (s := 0xE0 :: (payloadBytes [1, 2, 3] ++
      (sampleFrame.bytes ++ []))) (by decide) (n := 57344) rfl (by decide))
  · exact (extract_marker 0xD0 _).trans (scan_overrun (s := sampleFrame.bytes ++ []) (by decide)
      (n := 65472) rfl (by decide))

end ImageAnalysis
