import Mathlib.Data.Int.Order.Basic
import Mathlib.Tactic.IntervalCases
import Mathlib.Tactic.Ring
import Wbcz.Lib.Fallible
import Wbcz.Lib.Grid
import Wbcz.Printing.PrintRuntime

/-!
# The bytes of a raster

The two loops over the buffer of a raster. `_svg_from_rgb` draws a rectangle for every run of dark
pixels of a row; `_bgr_bottom_up` writes the rows for the spooler of Windows: the last one first,
blue before red, and every row filled up with zeros to a multiple of four bytes.

A raster may have a negative width or height as long as the length of its buffer agrees with them;
then the loops have no row to go through.
-/

namespace Wbcz.Printing

open Fallible (bind_eq_ok)
open Grid (Run Marks)

/-- `RasterImage`. -/
structure RasterImage where
  width : ℤ
  height : ℤ
  bpp : ℤ
  pixels : List UInt8

/-- An item of a buffer. -/
def byteAt (buffer : List UInt8) (i : ℕ) : Except PrintFailure UInt8 :=
  match buffer[i]? with
  | some b => .ok b
  | none => .error (.unexpected "index out of range")

/-- Write an item of a buffer. -/
def setByte (buffer : List UInt8) (i : ℕ) (b : UInt8) : Except PrintFailure (List UInt8) :=
  if i < buffer.length then .ok (buffer.set i b)
  else .error (.unexpected "bytearray index out of range")

/-! ## Rectangles -/

/-- A rectangle of the drawing. -/
structure Rect where
  x : ℕ
  y : ℕ
  width : ℕ
  height : ℕ
  deriving DecidableEq, Repr

def Rect.text (rect : Rect) : String :=
  "<rect x=\"" ++ toString rect.x ++ "\" y=\"" ++ toString rect.y ++ "\" width=\"" ++
    toString rect.width ++ "\" height=\"" ++ toString rect.height ++ "\"/>"

/-- The three channels at an index are all below the threshold. -/
def isDark (pixels : List UInt8) (idx : ℕ) : Except PrintFailure Bool := do
  if (← byteAt pixels idx) < 128 then
    if (← byteAt pixels (idx + 1)) < 128 then
      pure (decide ((← byteAt pixels (idx + 2)) < 128))
    else pure false
  else pure false

/-- The inner loop, with so many columns left: where the run ends that goes on at `x`. -/
def runStop (pixels : List UInt8) (row : ℕ) : ℕ → ℕ → Except PrintFailure ℕ
  | 0, x => pure x
  | left + 1, x => do
    if ← isDark pixels (row + x * 3) then runStop pixels row left (x + 1) else pure x

/-- The outer loop over a row, from column `x` on; every round of it moves on by a column. -/
def rowRects (pixels : List UInt8) (width y : ℕ) : ℕ → ℕ → Except PrintFailure (List Rect)
  | 0, _ => pure []
  | rounds + 1, x =>
    if width ≤ x then pure []
    else do
      let row := y * width * 3
      if ← isDark pixels (row + x * 3) then
        -- the run is looked at again from its first pixel on
        let stop ← runStop pixels row (width - x) x
        let rest ← rowRects pixels width y rounds stop
        pure (⟨x, y, stop - x, 1⟩ :: rest)
      else rowRects pixels width y rounds (x + 1)

/-- The rectangles of a raster, row after row. -/
def svgRects (raster : RasterImage) : Except PrintFailure (List Rect) := do
  let rows ← (List.range raster.height.toNat).mapM fun y =>
    rowRects raster.pixels raster.width.toNat y raster.width.toNat 0
  pure rows.flatten

def svgText (raster : RasterImage) (rects : List Rect) : String :=
  let width := toString raster.width
  let height := toString raster.height
  "<svg xmlns=\"http://www.w3.org/2000/svg\" viewBox=\"0 0 " ++ width ++ " " ++ height ++
    "\" width=\"" ++ width ++ "\" height=\"" ++ height ++ "\" shape-rendering=\"crispEdges\">" ++
    "<rect width=\"100%\" height=\"100%\" fill=\"white\"/>" ++
    "<g fill=\"black\">" ++ String.join (rects.map Rect.text) ++ "</g></svg>"

/-- `_svg_from_rgb`. -/
def svgFromRgb (raster : RasterImage) : Except PrintFailure String := do
  if raster.bpp ≠ 24 then throw (.contract "unexpected libdmtx raster format")
  if (raster.pixels.length : ℤ) ≠ raster.width * raster.height * 3 then
    throw (.contract "invalid libdmtx raster size")
  let rects ← svgRects raster
  pure (svgText raster rects)

/-! ## Rows for the spooler -/

/-- `range(0, stop, step)`. -/
def rangeBy (stop step : ℕ) : List ℕ := List.range' 0 ((stop + step - 1) / step) step

/-- The loop over a row: every pixel is written with its channels reversed. -/
def bgrRow (row : List UInt8) : List ℕ → List UInt8 → Except PrintFailure (List UInt8)
  | [], bgr => pure bgr
  | x :: xs, bgr => do
    let bgr ← setByte bgr x (← byteAt row (x + 2))
    let bgr ← setByte bgr (x + 1) (← byteAt row (x + 1))
    let bgr ← setByte bgr (x + 2) (← byteAt row x)
    bgrRow row xs bgr

/-- `(n + 3) & ~3`. -/
def alignFour (n : ℤ) : ℤ := (n + 3) / 4 * 4

/-- `_bgr_bottom_up`: the bytes and the stride. -/
def bgrBottomUp (image : RasterImage) : Except PrintFailure (List UInt8 × ℤ) := do
  if image.bpp ≠ 24 ∨ (image.pixels.length : ℤ) ≠ image.width * image.height * 3 then
    throw (.definitePreSpool "FINAL_RASTER_INVALID")
  let rowBytes := image.width * 3
  let stride := alignFour rowBytes
  let padding := List.replicate (stride - rowBytes).toNat (0 : UInt8)
  let rows ← (List.range image.height.toNat).reverse.mapM fun y => do
    let row := (image.pixels.drop (y * rowBytes.toNat)).take rowBytes.toNat
    let bgr ← bgrRow row (rangeBy rowBytes.toNat 3) (List.replicate rowBytes.toNat 0)
    pure (bgr ++ padding)
  pure (rows.flatten, stride)

/-! ## What the bytes stand for -/

/-- The buffer of a 24-bit raster has three bytes for every pixel. -/
structure RasterImage.Consistent (image : RasterImage) : Prop where
  bpp : image.bpp = 24
  length : (image.pixels.length : ℤ) = image.width * image.height * 3

/-- A channel of the pixel at `(x, y)`: red, green and blue. -/
def RasterImage.channel? (image : RasterImage) (x y c : ℕ) : Option UInt8 :=
  image.pixels[(y * image.width.toNat + x) * 3 + c]?

/-- A pixel of the raster. -/
def RasterImage.Has (image : RasterImage) (x y : ℕ) : Prop :=
  (x : ℤ) < image.width ∧ (y : ℤ) < image.height

/-- Every channel of the pixel is below the threshold. -/
def RasterImage.Dark (image : RasterImage) (x y : ℕ) : Prop :=
  ∀ c < 3, ∃ b, image.channel? x y c = some b ∧ b < 128

/-- The pixel is in the rectangle. -/
def Rect.Has (rect : Rect) (x y : ℕ) : Prop :=
  (rect.x ≤ x ∧ x < rect.x + rect.width) ∧ rect.y ≤ y ∧ y < rect.y + rect.height

/-- The bytes are those of the raster from the last row to the first, each pixel as blue, green
and red, and each row filled up with zeros. -/
structure BottomUp (image : RasterImage) (data : List UInt8) (stride : ℤ) : Prop where
  aligned : 4 ∣ stride
  least : image.width * 3 ≤ stride ∧ stride < image.width * 3 + 4
  length : data.length = image.height.toNat * stride.toNat
  pixel : ∀ x y, image.Has x y → ∀ c < 3,
    data[(image.height.toNat - 1 - y) * stride.toNat + (x * 3 + c)]? = image.channel? x y (2 - c)
  padding : ∀ y < image.height.toNat, ∀ j, image.width.toNat * 3 ≤ j → j < stride.toNat →
    data[y * stride.toNat + j]? = some 0

/-- The rectangles are runs of pixels of one row, no pixel is in two of them, and the pixels in
them are the dark ones. -/
structure Draws (image : RasterImage) (rects : List Rect) : Prop where
  runs : ∀ rect ∈ rects, rect.height = 1 ∧ 0 < rect.width
  apart : rects.Pairwise fun rect other => ∀ x y, ¬ (rect.Has x y ∧ other.Has x y)
  dark : ∀ x y, (∃ rect ∈ rects, rect.Has x y) ↔ image.Has x y ∧ image.Dark x y

/-! ## The loops over a row -/

section Buffers

variable {buffer : List UInt8} {i : ℕ} {b : UInt8}

theorem byteAt_of_some (h : buffer[i]? = some b) : byteAt buffer i = .ok b := by
  rw [byteAt, h]

theorem setByte_of_lt (h : i < buffer.length) : setByte buffer i b = .ok (buffer.set i b) :=
  if_pos h

theorem exists_getElem? (buffer : List UInt8) (i : ℕ) (h : i < buffer.length) :
    ∃ b, buffer[i]? = some b :=
  ⟨buffer[i], List.getElem?_eq_getElem h⟩

end Buffers

/-- Every channel at an index is below the threshold. -/
def DarkAt (pixels : List UInt8) (idx : ℕ) : Prop :=
  ∀ c < 3, ∃ b, pixels[idx + c]? = some b ∧ b < 128

theorem isDark_spec {pixels : List UInt8} {idx : ℕ} (h : idx + 2 < pixels.length) :
    ∃ dark : Bool, isDark pixels idx = .ok dark ∧ (dark = true ↔ DarkAt pixels idx) := by
  obtain ⟨red, hred⟩ := exists_getElem? pixels idx (by omega)
  obtain ⟨green, hgreen⟩ := exists_getElem? pixels (idx + 1) (by omega)
  obtain ⟨blue, hblue⟩ := exists_getElem? pixels (idx + 2) h
  have hdark : DarkAt pixels idx ↔ red < 128 ∧ green < 128 ∧ blue < 128 := by
    constructor
    · intro hall
      obtain ⟨_, hr, hlow⟩ := hall 0 (by decide)
      obtain ⟨_, hg, hlow'⟩ := hall 1 (by decide)
      obtain ⟨_, hb, hlow''⟩ := hall 2 (by decide)
      rw [Nat.add_zero, hred] at hr
      rw [hgreen] at hg
      rw [hblue] at hb
      cases hr
      cases hg
      cases hb
      exact ⟨hlow, hlow', hlow''⟩
    · rintro ⟨hlow, hlow', hlow''⟩ c hc
      interval_cases c
      · exact ⟨red, hred, hlow⟩
      · exact ⟨green, hgreen, hlow'⟩
      · exact ⟨blue, hblue, hlow''⟩
  refine ⟨decide (red < 128 ∧ green < 128 ∧ blue < 128), ?_, by rw [decide_eq_true_iff, hdark]⟩
  rw [isDark, byteAt_of_some hred, byteAt_of_some hgreen, byteAt_of_some hblue]
  -- the channels are read in order, and a bright one ends the reading
  by_cases hr : red < 128
  · by_cases hg : green < 128
    · simp [bind, Except.bind, hr, hg, pure, Except.pure]
    · simp [bind, Except.bind, hr, hg, pure, Except.pure]
  · simp [bind, Except.bind, hr, pure, Except.pure]

section Rows

variable {pixels : List UInt8} {row width : ℕ}

/-- The inner loop stops behind the last dark pixel of a run. -/
theorem runStop_spec (hfits : ∀ x < width, row + x * 3 + 2 < pixels.length) (left x : ℕ)
    (hx : x + left = width) : ∃ stop, runStop pixels row left x = .ok stop ∧ x ≤ stop ∧
      stop ≤ width ∧ (∀ t, x ≤ t → t < stop → DarkAt pixels (row + t * 3)) ∧
        (stop < width → ¬ DarkAt pixels (row + stop * 3)) := by
  induction left generalizing x with
  | zero => exact ⟨x, rfl, le_rfl, by omega, fun t _ _ => by omega, fun _ => by omega⟩
  | succ left ih =>
    obtain ⟨dark, hrun, hdark⟩ := isDark_spec (hfits x (by omega))
    cases dark with
    | false =>
      refine ⟨x, ?_, le_rfl, by omega, fun t _ _ => by omega, fun _ h => ?_⟩
      · rw [runStop, hrun]
        rfl
      · cases hdark.mpr h
    | true =>
      obtain ⟨stop, hstop, hle, hwidth, hin, hend⟩ := ih (x + 1) (by omega)
      refine ⟨stop, ?_, by omega, hwidth, fun t ht hlt => ?_, hend⟩
      · rw [runStop, hrun]
        exact hstop
      · rcases Nat.eq_or_lt_of_le ht with rfl | ht
        · exact hdark.mp rfl
        · exact hin t ht hlt

/-- The rectangle of a run. -/
def rectOf (y : ℕ) (run : Run) : Rect := ⟨run.start, y, run.stop - run.start, 1⟩

/-- The rectangles of a row are those of its runs of dark pixels. -/
theorem rowRects_spec {y : ℕ} (hfits : ∀ x < width, y * width * 3 + x * 3 + 2 < pixels.length)
    (rounds x : ℕ) (hrounds : width ≤ x + rounds) (hx : x ≤ width) :
    ∃ runs, rowRects pixels width y rounds x = .ok (runs.map (rectOf y)) ∧
      Marks (fun t => DarkAt pixels (y * width * 3 + t * 3)) x width runs := by
  induction rounds generalizing x with
  | zero => exact ⟨[], rfl, fun t _ _ => by omega⟩
  | succ rounds ih =>
    rcases Nat.eq_or_lt_of_le hx with rfl | hlt
    · exact ⟨[], by rw [rowRects, if_pos le_rfl]; rfl, fun t _ _ => by omega⟩
    obtain ⟨dark, hrun, hdark⟩ := isDark_spec (hfits x hlt)
    cases dark with
    | false =>
      obtain ⟨runs, hrest, hmarks⟩ := ih (x + 1) (by omega) hlt
      refine ⟨runs, ?_, hmarks.skip fun h => ?_⟩
      · rw [rowRects, if_neg (not_le.mpr hlt)]
        simp only [hrun]
        exact hrest
      · cases hdark.mpr h
    | true =>
      obtain ⟨stop, hstop, hle, hwidth, hin, hend⟩ := runStop_spec hfits (width - x) x (by omega)
      -- the run begins with a dark pixel, so the loop has moved on
      have hmoved : x < stop := by
        refine lt_of_le_of_ne hle fun heq => ?_
        subst heq
        exact hend hlt (hdark.mp rfl)
      obtain ⟨runs, hrest, hmarks⟩ := ih stop (by omega) hwidth
      refine ⟨⟨x, stop⟩ :: runs, ?_, le_rfl, hmoved, hwidth, fun t ht hlt => ?_,
        fun t ht => hin t ht.1 ht.2, hend, hmarks⟩
      · rw [rowRects, if_neg (not_le.mpr hlt)]
        refine bind_eq_ok.mpr ⟨true, hrun, ?_⟩
        exact bind_eq_ok.mpr ⟨stop, hstop, bind_eq_ok.mpr ⟨_, hrest, rfl⟩⟩
      · exact absurd ht (not_le.mpr hlt)

/-- The loop over a row reverses the channels of every pixel, and leaves the bytes before. -/
theorem bgrRow_spec (row : List UInt8) (n start : ℕ) (bgr : List UInt8)
    (hrow : start + n * 3 ≤ row.length) (hbgr : bgr.length = row.length) :
    ∃ out, bgrRow row (List.range' start n 3) bgr = .ok out ∧ out.length = row.length ∧
      (∀ i < start, out[i]? = bgr[i]?) ∧
        ∀ k < n, ∀ c < 3, out[start + (k * 3 + c)]? = row[start + (k * 3 + (2 - c))]? := by
  induction n generalizing start bgr with
  | zero => exact ⟨bgr, rfl, hbgr, fun _ _ => rfl, fun k hk => absurd hk (Nat.not_lt_zero k)⟩
  | succ n ih =>
    obtain ⟨red, hred⟩ := exists_getElem? row start (by omega)
    obtain ⟨green, hgreen⟩ := exists_getElem? row (start + 1) (by omega)
    obtain ⟨blue, hblue⟩ := exists_getElem? row (start + 2) (by omega)
    let written := ((bgr.set start blue).set (start + 1) green).set (start + 2) red
    obtain ⟨out, hout, hlength, hbefore, hpixels⟩ :=
      ih (start + 3) written (by omega) (by simp [written, hbgr])
    refine ⟨out, ?_, hlength, fun i hi => ?_, fun k hk c hc => ?_⟩
    · have hlength' : (bgr.set start blue).length = row.length := by rw [List.length_set, hbgr]
      have hlength'' : ((bgr.set start blue).set (start + 1) green).length = row.length := by
        rw [List.length_set, hlength']
      rw [List.range'_succ]
      -- blue, green and red, each read and written
      refine bind_eq_ok.mpr ⟨blue, byteAt_of_some hblue, ?_⟩
      refine bind_eq_ok.mpr ⟨_, setByte_of_lt (by omega), ?_⟩
      refine bind_eq_ok.mpr ⟨green, byteAt_of_some hgreen, ?_⟩
      refine bind_eq_ok.mpr ⟨_, setByte_of_lt (by omega), ?_⟩
      refine bind_eq_ok.mpr ⟨red, byteAt_of_some hred, ?_⟩
      exact bind_eq_ok.mpr ⟨_, setByte_of_lt (by omega), hout⟩
    · rw [hbefore i (by omega)]
      simp only [written]
      rw [List.getElem?_set_ne (by omega), List.getElem?_set_ne (by omega),
        List.getElem?_set_ne (by omega)]
    · cases k with
      | zero =>
        rw [hbefore _ (by omega)]
        interval_cases c
        · simp [written, hblue, show start < bgr.length by omega]
        · simp [written, hgreen, show start + 1 < bgr.length by omega]
        · simp [written, hred, show start + 2 < bgr.length by omega]
      | succ k =>
        have hpixel := hpixels k (by omega) c hc
        rw [show start + ((k + 1) * 3 + c) = start + 3 + (k * 3 + c) by omega, hpixel]
        congr 1
        omega

end Rows

theorem rangeBy_three (n : ℕ) : rangeBy (n * 3) 3 = List.range' 0 n 3 := by
  rw [rangeBy, show (n * 3 + 3 - 1) / 3 = n by omega]

/-! ## The loops over a raster -/

section Rasters

variable {image : RasterImage}

/-- What a consistent buffer has in it, counted in rows. -/
theorem RasterImage.Consistent.count (h : image.Consistent) (hheight : 0 < image.height) :
    image.pixels.length = image.height.toNat * (image.width.toNat * 3) := by
  have hlength := h.length
  rcases le_or_gt 0 image.width with hwidth | hwidth
  · have hcast : (image.pixels.length : ℤ) =
        ((image.height.toNat * (image.width.toNat * 3) : ℕ) : ℤ) := by
      push_cast
      rw [Int.toNat_of_nonneg hheight.le, Int.toNat_of_nonneg hwidth, hlength]
      ring
    exact_mod_cast hcast
  · -- a buffer of negative length is none
    have := mul_neg_of_neg_of_pos hwidth hheight
    omega

/-- A row of the raster lies within the buffer. -/
theorem RasterImage.Consistent.row_le (h : image.Consistent) {y : ℕ} (hy : y < image.height.toNat) :
    (y + 1) * (image.width.toNat * 3) ≤ image.pixels.length := by
  rw [h.count (by omega)]
  exact Nat.mul_le_mul_right _ hy

theorem has_iff {x y : ℕ} : image.Has x y ↔ x < image.width.toNat ∧ y < image.height.toNat := by
  rw [RasterImage.Has]
  omega

/-- The index of the loop is the index of the pixel. -/
theorem darkAt_iff {x y : ℕ} :
    DarkAt image.pixels (y * image.width.toNat * 3 + x * 3) ↔ image.Dark x y := by
  rw [DarkAt, RasterImage.Dark]
  simp only [RasterImage.channel?, Nat.add_mul]

theorem rectOf_has {run : Run} {row x y : ℕ} (h : run.start < run.stop) :
    (rectOf row run).Has x y ↔ run.Has x ∧ y = row := by
  rw [Rect.Has, rectOf, Run.Has]
  dsimp only
  omega

/-- Rectangles of the runs of each row draw the raster. -/
theorem draws_rows {runs : ℕ → List Run} (hruns : ∀ y < image.height.toNat,
    Marks (fun x => DarkAt image.pixels (y * image.width.toNat * 3 + x * 3)) 0
      image.width.toNat (runs y)) :
    Draws image ((List.range image.height.toNat).flatMap fun y => (runs y).map (rectOf y)) := by
  refine ⟨fun rect hrect => ?_, ?_, fun x y => ?_⟩
  · obtain ⟨y, hy, hrect⟩ := List.mem_flatMap.mp hrect
    obtain ⟨run, hrun, rfl⟩ := List.mem_map.mp hrect
    obtain ⟨-, hlt, -⟩ := (hruns y (List.mem_range.mp hy)).mem hrun
    exact ⟨rfl, Nat.sub_pos_of_lt hlt⟩
  · rw [List.pairwise_flatMap]
    constructor
    · -- in one row, a run ends before the next one begins
      intro y hy
      rw [List.pairwise_map]
      refine (hruns y (List.mem_range.mp hy)).apart.imp_of_mem fun {run other} hrun hother h => ?_
      rintro x row ⟨hhas, hhas'⟩
      have hlt := ((hruns y (List.mem_range.mp hy)).mem hrun).2.1
      have hlt' := ((hruns y (List.mem_range.mp hy)).mem hother).2.1
      have hx := ((rectOf_has hlt).mp hhas).1.2
      have hx' := ((rectOf_has hlt').mp hhas').1.1
      omega
    · refine List.pairwise_lt_range.imp_of_mem fun {y row} hy hrow hlt rect hrect other hother => ?_
      obtain ⟨run, -, rfl⟩ := List.mem_map.mp hrect
      obtain ⟨run', -, rfl⟩ := List.mem_map.mp hother
      rintro x z ⟨⟨-, hz⟩, -, hz'⟩
      simp only [rectOf] at hz hz'
      omega
  · rw [has_iff, ← darkAt_iff]
    constructor
    · rintro ⟨rect, hrect, hhas⟩
      obtain ⟨row, hrow, hrect⟩ := List.mem_flatMap.mp hrect
      obtain ⟨run, hrun, rfl⟩ := List.mem_map.mp hrect
      have hmarks := hruns row (List.mem_range.mp hrow)
      obtain ⟨-, hlt, hwidth⟩ := hmarks.mem hrun
      obtain ⟨hx, rfl⟩ := (rectOf_has hlt).mp hhas
      have hin : x < image.width.toNat := lt_of_lt_of_le hx.2 hwidth
      exact ⟨⟨hin, List.mem_range.mp hrow⟩, (hmarks.iff (Nat.zero_le x) hin).mpr ⟨run, hrun, hx⟩⟩
    · rintro ⟨⟨hx, hy⟩, hdark⟩
      have hmarks := hruns y hy
      obtain ⟨run, hrun, hhas⟩ := (hmarks.iff (Nat.zero_le x) hx).mp hdark
      refine ⟨rectOf y run, List.mem_flatMap.mpr ⟨y, List.mem_range.mpr hy, ?_⟩,
        (rectOf_has (hmarks.mem hrun).2.1).mpr ⟨hhas, rfl⟩⟩
      exact List.mem_map_of_mem hrun

/-- The rectangles that are drawn for a raster. -/
theorem svgRects_spec (h : image.Consistent) :
    ∃ rects, svgRects image = .ok rects ∧ Draws image rects := by
  have hrow : ∀ y < image.height.toNat, ∃ runs : List Run,
      rowRects image.pixels image.width.toNat y image.width.toNat 0 =
        .ok (runs.map (rectOf y)) ∧
      Marks (fun x => DarkAt image.pixels (y * image.width.toNat * 3 + x * 3)) 0
        image.width.toNat runs := by
    intro y hy
    refine rowRects_spec (fun x hx => ?_) _ 0 (by omega) (Nat.zero_le _)
    have := h.row_le hy
    rw [Nat.add_mul, Nat.one_mul, ← Nat.mul_assoc] at this
    omega
  choose! runs hruns hmarks using hrow
  refine ⟨_, ?_, draws_rows hmarks⟩
  have hrows := Fallible.mapM_congr (f := fun y =>
      rowRects image.pixels image.width.toNat y image.width.toNat 0)
    (g := fun y => pure ((runs y).map (rectOf y)))
    fun y (hy : y ∈ List.range image.height.toNat) => hruns y (List.mem_range.mp hy)
  rw [svgRects, hrows, List.mapM_pure]
  rfl

theorem alignFour_spec (n : ℤ) : 4 ∣ alignFour n ∧ n ≤ alignFour n ∧ alignFour n < n + 4 := by
  rw [alignFour]
  omega

/-- A row of the raster. -/
def RasterImage.row (image : RasterImage) (y : ℕ) : List UInt8 :=
  (image.pixels.drop (y * (image.width * 3).toNat)).take (image.width * 3).toNat

theorem RasterImage.Consistent.length_row (h : image.Consistent) {y : ℕ}
    (hy : y < image.height.toNat) : (image.row y).length = image.width.toNat * 3 := by
  have hle := h.row_le hy
  rw [Nat.add_mul, Nat.one_mul] at hle
  rw [RasterImage.row, List.length_take, List.length_drop, show (image.width * 3).toNat =
    image.width.toNat * 3 by omega]
  omega

theorem getElem?_row {x y c : ℕ} (hx : x < image.width.toNat) (hc : c < 3) :
    (image.row y)[x * 3 + c]? = image.channel? x y c := by
  rw [RasterImage.row, RasterImage.channel?, List.getElem?_take_of_lt (by omega),
    List.getElem?_drop, show (image.width * 3).toNat = image.width.toNat * 3 by omega]
  congr 1
  ring

/-- Rows of reversed pixels with their padding, the last row first. -/
theorem bottomUp_rows (h : image.Consistent) {bgr : ℕ → List UInt8} {padding : List UInt8}
    (hpadding : padding = List.replicate (alignFour (image.width * 3) - image.width * 3).toNat 0)
    (hlength : ∀ y < image.height.toNat, (bgr y).length = image.width.toNat * 3)
    (hpixels : ∀ y < image.height.toNat, ∀ x < image.width.toNat, ∀ c < 3,
      (bgr y)[x * 3 + c]? = image.channel? x y (2 - c)) :
    BottomUp image (((List.range image.height.toNat).reverse.map fun y => bgr y ++ padding).flatten)
      (alignFour (image.width * 3)) := by
  obtain ⟨haligned, hleast, hmost⟩ := alignFour_spec (image.width * 3)
  -- where there is a row, the width is not negative
  have hwidth : 0 < image.height.toNat → 0 ≤ image.width := by
    intro hrow
    by_contra hneg
    have hlength := h.length
    have := mul_neg_of_neg_of_pos (not_le.mp hneg) (show 0 < image.height by omega)
    omega
  have hstride : ∀ y < image.height.toNat,
      (bgr y ++ padding).length = (alignFour (image.width * 3)).toNat := by
    intro y hy
    have := hwidth (by omega)
    rw [List.length_append, hlength y hy, hpadding, List.length_replicate]
    omega
  have hrows : ∀ row ∈ (List.range image.height.toNat).reverse.map fun y => bgr y ++ padding,
      row.length = (alignFour (image.width * 3)).toNat := by
    intro row hrow
    obtain ⟨y, hy, rfl⟩ := List.mem_map.mp hrow
    exact hstride y (List.mem_range.mp (List.mem_reverse.mp hy))
  -- the row that stands at an index
  have hrow : ∀ i < image.height.toNat,
      ((List.range image.height.toNat).reverse.map fun y => bgr y ++ padding)[i]? =
        some (bgr (image.height.toNat - 1 - i) ++ padding) := by
    intro i hi
    rw [List.getElem?_map, List.getElem?_reverse (by rwa [List.length_range]), List.length_range,
      List.getElem?_range (by omega), Option.map_some]
  refine ⟨haligned, ⟨hleast, hmost⟩, ?_, fun x y hhas c hc => ?_, fun y hy j hj hlt => ?_⟩
  · rw [Grid.length_flatten hrows, List.length_map, List.length_reverse, List.length_range]
  · obtain ⟨hx, hy⟩ := has_iff.mp hhas
    have hin : x * 3 + c < (bgr y).length := by
      rw [hlength y hy]
      omega
    have hcell : x * 3 + c < (alignFour (image.width * 3)).toNat := by
      rw [← hstride y hy, List.length_append]
      omega
    rw [Grid.getElem?_flatten hrows hcell, hrow _ (by omega),
      show image.height.toNat - 1 - (image.height.toNat - 1 - y) = y by omega, Option.bind_some,
      List.getElem?_append_left hin, hpixels y hy x hx c hc]
  · have hsource : image.height.toNat - 1 - y < image.height.toNat := by omega
    have hcount := hstride _ hsource
    rw [List.length_append, hlength _ hsource] at hcount
    rw [Grid.getElem?_flatten hrows hlt, hrow y hy, Option.bind_some,
      List.getElem?_append_right (by rw [hlength _ hsource]; exact hj), hlength _ hsource, hpadding,
      List.getElem?_replicate, if_pos]
    rw [hpadding, List.length_replicate] at hcount
    omega

/-- The bytes that are written for the spooler. -/
theorem bgrBottomUp_spec (h : image.Consistent) :
    ∃ data stride, bgrBottomUp image = .ok (data, stride) ∧ BottomUp image data stride := by
  have hbytes : (image.width * 3).toNat = image.width.toNat * 3 := by omega
  have hrow : ∀ y < image.height.toNat, ∃ bgr,
      bgrRow (image.row y) (rangeBy (image.width * 3).toNat 3)
        (List.replicate (image.width * 3).toNat 0) = .ok bgr ∧
      bgr.length = image.width.toNat * 3 ∧ ∀ x < image.width.toNat, ∀ c < 3,
        bgr[x * 3 + c]? = image.channel? x y (2 - c) := by
    intro y hy
    have hlength := h.length_row hy
    obtain ⟨bgr, hbgr, hbgrLength, -, hpixels⟩ := bgrRow_spec (image.row y)
      image.width.toNat 0 (List.replicate (image.width * 3).toNat 0) (by omega)
      (by rw [List.length_replicate, hlength, hbytes])
    refine ⟨bgr, ?_, hbgrLength.trans hlength, fun x hx c hc => ?_⟩
    · rw [hbytes, rangeBy_three, ← hbytes]
      exact hbgr
    · have hpixel := hpixels x hx c hc
      rw [Nat.zero_add, Nat.zero_add] at hpixel
      rw [hpixel, getElem?_row hx (by omega)]
  choose! bgr hbgr hlength hpixels using hrow
  refine ⟨_, _, ?_, bottomUp_rows h rfl hlength hpixels⟩
  have hrows := Fallible.mapM_congr (f := fun y => do
      let bgr ← bgrRow (image.row y) (rangeBy (image.width * 3).toNat 3)
        (List.replicate (image.width * 3).toNat 0)
      pure (bgr ++ List.replicate (alignFour (image.width * 3) - image.width * 3).toNat 0))
    (g := fun y => pure
      (bgr y ++ List.replicate (alignFour (image.width * 3) - image.width * 3).toNat 0))
    fun y (hy : y ∈ (List.range image.height.toNat).reverse) =>
      bind_eq_ok.mpr ⟨_, hbgr y (List.mem_range.mp (List.mem_reverse.mp hy)), rfl⟩
  rw [bgrBottomUp, if_neg (by simp [h.bpp, h.length])]
  exact bind_eq_ok.mpr ⟨_, hrows.trans (List.mapM_pure ..), rfl⟩

end Rasters

/-- Two pixels side by side, black and white, and below them a red one and a black one. -/
def sampleImage : RasterImage := ⟨2, 2, 24, [0, 0, 0, 255, 255, 255, 200, 0, 0, 1, 2, 3]⟩

example : bgrBottomUp sampleImage =
    .ok ([0, 0, 200, 3, 2, 1, 0, 0, 0, 0, 0, 255, 255, 255, 0, 0], 8) := by decide +kernel

example : svgRects sampleImage = .ok [⟨0, 0, 1, 1⟩, ⟨1, 1, 1, 1⟩] := by decide +kernel

end Wbcz.Printing
