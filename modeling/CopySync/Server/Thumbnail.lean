import CopySync.Foundation.Tiling
import CopySync.Server.Types
import Mathlib.Algebra.Group.Action.Defs
import Mathlib.Algebra.Order.BigOperators.Group.Finset

/-!
# Thumbnails

The monitor page shows a small version of a relayed image.  Each of its pixels is the average
of a box of pixels of the image, whose edges are found by integer division.  The boxes tile the
image, and none of the arithmetic leaves the range of its type.
-/

namespace CopySync.Server

open Foundation

/-! ## Arithmetic -/

/-- Arithmetic of fixed width, exact within the range of each type.  Nothing is said of what it
gives outside the range. -/
structure Arithmetic where
  int : Int → Int
  uint64 : Nat → Nat
  uint8 : Nat → Nat
  int_exact : ∀ {value : Int}, -2 ^ 63 ≤ value → value < 2 ^ 63 → int value = value
  uint64_exact : ∀ {value : Nat}, value < 2 ^ 64 → uint64 value = value
  uint8_exact : ∀ {value : Nat}, value < 2 ^ 8 → uint8 value = value

/-- The arithmetic of the machine, which wraps around. -/
def Arithmetic.wrapping : Arithmetic where
  int := wrapInt64
  uint64 value := value % 2 ^ 64
  uint8 value := value % 2 ^ 8
  int_exact low high := by
    rw [wrapInt64]
    omega
  uint64_exact := Nat.mod_eq_of_lt
  uint8_exact := Nat.mod_eq_of_lt

/-- Arithmetic without bounds. -/
def Arithmetic.unbounded : Arithmetic where
  int := id
  uint64 := id
  uint8 := id
  int_exact _ _ := rfl
  uint64_exact _ := rfl
  uint8_exact _ := rfl

/-! ## Images -/

/-- `image.Rectangle`. -/
structure Rectangle where
  minX : Int64
  minY : Int64
  maxX : Int64
  maxY : Int64
  deriving DecidableEq, Repr

/-- What `Color.RGBA` returns: four values of at most `0xffff`. -/
structure Colour where
  red : UInt16
  green : UInt16
  blue : UInt16
  alpha : UInt16
  deriving DecidableEq, Repr

/-- `image.Image`: the bounds, and the colour at a place. -/
structure Picture where
  bounds : Rectangle
  colour : Int → Int → Colour

/-- `color.RGBA`. -/
structure Pixel where
  red : Nat
  green : Nat
  blue : Nat
  alpha : Nat
  deriving DecidableEq, Repr

/-- The image `downscale` makes, row by row. -/
structure Thumbnail where
  width : Int
  height : Int
  pixels : List (List Pixel)
  deriving DecidableEq, Repr

/-! ## Scaling -/

/-- The largest image that is decoded, in millions of pixels. -/
def maxMegapixels : Int := 64

/-- The sizes `handleMonitorBlob` goes on with, as the header of the file gives them. -/
def sizeAllowed (arith : Arithmetic) (width height : Int) : Bool :=
  !(width ≤ 0 || height ≤ 0 || arith.int (width * height) > maxMegapixels * 1000000)

/-- The sides of the thumbnail. -/
def newSize (arith : Arithmetic) (w h maxSide : Int) : Int × Int :=
  let (nw, nh) :=
    if w > maxSide ∨ h > maxSide then
      if w ≥ h then (maxSide, Int.tdiv (arith.int (h * maxSide)) w)
      else (Int.tdiv (arith.int (w * maxSide)) h, maxSide)
    else (w, h)
  (if nw < 1 then 1 else nw, if nh < 1 then 1 else nh)

/-- An edge between two boxes. -/
def boxEdge (arith : Arithmetic) (origin size pieces index : Int) : Int :=
  arith.int (origin + Int.tdiv (arith.int (index * size)) pieces)

/-- The first place of a box along one side, and the first after it. -/
def boxSide (arith : Arithmetic) (origin size pieces index : Int) : Int × Int :=
  let first := boxEdge arith origin size pieces index
  let last := boxEdge arith origin size pieces (arith.int (index + 1))
  (first, if last ≤ first then arith.int (first + 1) else last)

/-- What the loops over a box add up. -/
structure Sums where
  rr : Nat
  gg : Nat
  bb : Nat
  aa : Nat
  n : Nat
  deriving DecidableEq, Repr

def Sums.zero : Sums := ⟨0, 0, 0, 0, 0⟩

def Sums.add (arith : Arithmetic) (sums : Sums) (colour : Colour) : Sums where
  rr := arith.uint64 (sums.rr + colour.red.toNat)
  gg := arith.uint64 (sums.gg + colour.green.toNat)
  bb := arith.uint64 (sums.bb + colour.blue.toNat)
  aa := arith.uint64 (sums.aa + colour.alpha.toNat)
  n := arith.uint64 (sums.n + 1)

def Sums.average (arith : Arithmetic) (sums : Sums) : Pixel :=
  let n := if sums.n = 0 then 1 else sums.n
  ⟨arith.uint8 ((sums.rr / n) >>> 8), arith.uint8 ((sums.gg / n) >>> 8),
    arith.uint8 ((sums.bb / n) >>> 8), arith.uint8 ((sums.aa / n) >>> 8)⟩

/-- Add up a box. -/
def Picture.sumBox (src : Picture) (arith : Arithmetic) (columns rows : Int × Int) : Sums :=
  (scan rows.1 rows.2).foldl (fun sums sy =>
    (scan columns.1 columns.2).foldl (fun sums sx => sums.add arith (src.colour sx sy)) sums)
    Sums.zero

/-- Average the image down so that its longest side is at most `maxSide`.  `none` is the image
itself. -/
def downscale (arith : Arithmetic) (src : Picture) (maxSide : Int) : Option Thumbnail :=
  let b := src.bounds
  let w := arith.int (b.maxX.toInt - b.minX.toInt)
  let h := arith.int (b.maxY.toInt - b.minY.toInt)
  if w ≤ 0 ∨ h ≤ 0 then none
  else
    let (nw, nh) := newSize arith w h maxSide
    if nw = w ∧ nh = h then none
    else
      some
        { width := nw
          height := nh
          pixels := (scan 0 nh).map fun dy =>
            (scan 0 nw).map fun dx =>
              (src.sumBox arith (boxSide arith b.minX.toInt w nw dx)
                (boxSide arith b.minY.toInt h nh dy)).average arith }

/-! ## Sides -/

section Sides

variable {arith : Arithmetic} {w h maxSide : Int}

/-- The image has at most 64 million pixels. -/
def maxArea : Int := maxMegapixels * 1000000

theorem Arithmetic.int_of_small {value : Int} (nonneg : 0 ≤ value)
    (small : value ≤ maxArea * maxArea) : arith.int value = value := by
  have bound : maxArea * maxArea < 2 ^ 63 := by decide
  exact arith.int_exact (by omega) (by omega)

theorem side_le (wide : 0 < w) (tall : 0 < h) (area : w * h ≤ maxArea) :
    w ≤ maxArea ∧ h ≤ maxArea := by
  constructor
  · exact (le_mul_of_one_le_right wide.le tall).trans area
  · exact (le_mul_of_one_le_left tall.le wide).trans area

/-- The side that is not the longest one. -/
theorem shorter_side {long short : Int} (ordered : short ≤ long) (tall : 0 < short)
    (larger : maxSide < long) (one : 1 ≤ maxSide) :
    0 ≤ short * maxSide / long ∧ short * maxSide / long ≤ maxSide ∧
      short * maxSide / long ≤ short := by
  have positive : 0 < long := tall.trans_le ordered
  refine ⟨Int.ediv_nonneg (mul_nonneg tall.le (by omega)) positive.le, ?_, ?_⟩
  · apply Int.ediv_le_of_le_mul positive
    rw [mul_comm maxSide]
    exact mul_le_mul_of_nonneg_right ordered (by omega)
  · apply Int.ediv_le_of_le_mul positive
    exact mul_le_mul_of_nonneg_left larger.le tall.le

/-- The sides of the thumbnail as they are meant: the longest is `maxSide` and the other in
proportion, but one pixel at least. -/
def scaledSize (w h maxSide : Int) : Int × Int :=
  if w ≤ maxSide ∧ h ≤ maxSide then (w, h)
  else if h ≤ w then (maxSide, max 1 (h * maxSide / w))
  else (max 1 (w * maxSide / h), maxSide)

theorem atLeastOne (side : Int) : (if side < 1 then 1 else side) = max 1 side := by
  split <;> omega

theorem scaled_product {long short : Int} (tall : 0 < short) (larger : maxSide < long)
    (one : 1 ≤ maxSide) (area : short * long ≤ maxArea) :
    Int.tdiv (arith.int (short * maxSide)) long = short * maxSide / long := by
  have nonneg : 0 ≤ short * maxSide := mul_nonneg tall.le (by omega)
  have small : short * maxSide ≤ maxArea * maxArea :=
    calc short * maxSide ≤ short * long := mul_le_mul_of_nonneg_left larger.le tall.le
      _ ≤ maxArea := area
      _ ≤ maxArea * maxArea := by decide
  rw [arith.int_of_small nonneg small, Int.tdiv_eq_ediv_of_nonneg nonneg]

theorem newSize_eq (arith : Arithmetic) (wide : 0 < w) (tall : 0 < h)
    (area : w * h ≤ maxArea) (one : 1 ≤ maxSide) :
    newSize arith w h maxSide = scaledSize w h maxSide := by
  by_cases fits : w ≤ maxSide ∧ h ≤ maxSide
  · have within : ¬(w > maxSide ∨ h > maxSide) := by omega
    have atLeastW : max 1 w = w := max_eq_right wide
    have atLeastH : max 1 h = h := max_eq_right tall
    simp only [newSize, scaledSize, if_neg within, if_pos fits, atLeastOne, atLeastW, atLeastH]
  · have beyond : w > maxSide ∨ h > maxSide := by omega
    have atLeast : max 1 maxSide = maxSide := max_eq_right one
    by_cases landscape : h ≤ w
    · have product := @scaled_product arith _ _ _ tall (by omega) one (mul_comm w h ▸ area)
      simp only [newSize, scaledSize, if_pos beyond, if_neg fits, ge_iff_le, if_pos landscape,
        atLeastOne, atLeast, product]
    · have product := @scaled_product arith _ _ _ wide (by omega) one area
      simp only [newSize, scaledSize, if_pos beyond, if_neg fits, ge_iff_le, if_neg landscape,
        atLeastOne, atLeast, product]

/-- The sides are at least one pixel, and at most `maxSide` and those of the image. -/
theorem scaledSize_bounds (wide : 0 < w) (tall : 0 < h) (one : 1 ≤ maxSide) :
    (1 ≤ (scaledSize w h maxSide).1 ∧ (scaledSize w h maxSide).1 ≤ min w maxSide) ∧
      1 ≤ (scaledSize w h maxSide).2 ∧ (scaledSize w h maxSide).2 ≤ min h maxSide := by
  by_cases fits : w ≤ maxSide ∧ h ≤ maxSide
  · simp only [scaledSize, if_pos fits]
    omega
  · by_cases landscape : h ≤ w
    · obtain ⟨-, most, least⟩ := shorter_side landscape tall (by omega) one
      simp only [scaledSize, if_neg fits, if_pos landscape]
      omega
    · obtain ⟨-, most, least⟩ := shorter_side (le_of_not_ge landscape) wide (by omega) one
      simp only [scaledSize, if_neg fits, if_neg landscape]
      omega

/-- Only an image that fits keeps its size. -/
theorem scaledSize_eq_iff (wide : 0 < w) (tall : 0 < h) (one : 1 ≤ maxSide) :
    scaledSize w h maxSide = (w, h) ↔ w ≤ maxSide ∧ h ≤ maxSide := by
  constructor
  · intro same
    have bounds := scaledSize_bounds wide tall one
    rw [same] at bounds
    omega
  · exact fun fits => if_pos fits

end Sides

/-! ## Boxes -/

section Boxes

variable {origin size pieces index : Int}

theorem boxEdge_eq (arith : Arithmetic) (low : -2 ^ 63 ≤ origin) (high : origin + size < 2 ^ 63)
    (pos : 0 < pieces) (enough : pieces ≤ size) (most : size ≤ maxArea)
    (nonneg : 0 ≤ index) (within : index ≤ pieces) :
    boxEdge arith origin size pieces index = origin + cut size pieces index := by
  have wide : 0 < size := pos.trans_le enough
  have product : 0 ≤ index * size := mul_nonneg nonneg wide.le
  have small : index * size ≤ maxArea * maxArea :=
    mul_le_mul (within.trans (enough.trans most)) most wide.le (by decide)
  have first := cut_mono wide.le pos nonneg
  have last := cut_mono wide.le pos within
  rw [cut_zero] at first
  rw [cut_last pos] at last
  rw [boxEdge, arith.int_of_small product small, Int.tdiv_eq_ediv_of_nonneg product]
  exact arith.int_exact (by rw [cut] at first; omega) (by rw [cut] at last; omega)

/-- A box is the cell between its edges, which is never empty. -/
theorem boxSide_eq (arith : Arithmetic) (low : -2 ^ 63 ≤ origin) (high : origin + size < 2 ^ 63)
    (pos : 0 < pieces) (enough : pieces ≤ size) (most : size ≤ maxArea)
    (nonneg : 0 ≤ index) (within : index < pieces) :
    boxSide arith origin size pieces index = cell origin size pieces index := by
  have bound : maxArea < 2 ^ 63 := by decide
  have next : arith.int (index + 1) = index + 1 := arith.int_exact (by omega) (by omega)
  have first := boxEdge_eq arith low high pos enough most nonneg within.le
  have last := boxEdge_eq arith low high pos enough most (by omega) (Int.add_one_le_of_lt within)
  have grows := cut_lt_succ pos enough index
  have nonempty : ¬origin + cut size pieces (index + 1) ≤ origin + cut size pieces index := by
    omega
  simp only [boxSide, next, first, last, if_neg nonempty, cell]

variable {lower upper : Int64}

/-- The cells of a side of the image tile it. -/
theorem side_tiled (pos : 0 < pieces) (enough : pieces ≤ upper.toInt - lower.toInt) :
    Tiling lower.toInt upper.toInt pieces
      (cell lower.toInt (upper.toInt - lower.toInt) pieces) := by
  have tiled := tiling_cell lower.toInt pos enough
  rwa [add_sub_cancel] at tiled

theorem boxSide_side (arith : Arithmetic) (pos : 0 < pieces)
    (enough : pieces ≤ upper.toInt - lower.toInt) (most : upper.toInt - lower.toInt ≤ maxArea)
    (nonneg : 0 ≤ index) (within : index < pieces) :
    boxSide arith lower.toInt (upper.toInt - lower.toInt) pieces index =
      cell lower.toInt (upper.toInt - lower.toInt) pieces index := by
  refine boxSide_eq arith (Int64.le_toInt _) ?_ pos enough most nonneg within
  rw [add_sub_cancel]
  exact Int64.toInt_lt _

end Boxes

/-! ## Averages -/

section Averages

variable {src : Picture} {places : Finset (ℤ × ℤ)}

/-- The sum of one channel over a set of places. -/
def Picture.total (src : Picture) (channel : Colour → UInt16) (places : Finset (ℤ × ℤ)) : ℕ :=
  ∑ place ∈ places, (channel (src.colour place.1 place.2)).toNat

/-- The sums of all channels, and the number of places. -/
def Picture.sums (src : Picture) (places : Finset (ℤ × ℤ)) : Sums where
  rr := src.total Colour.red places
  gg := src.total Colour.green places
  bb := src.total Colour.blue places
  aa := src.total Colour.alpha places
  n := places.card

/-- The average of a channel, in eight bits. -/
def Picture.mean (src : Picture) (channel : Colour → UInt16) (places : Finset (ℤ × ℤ)) : ℕ :=
  src.total channel places / places.card / 2 ^ 8

/-- The average colour of a set of places. -/
def Picture.averaged (src : Picture) (places : Finset (ℤ × ℤ)) : Pixel where
  red := src.mean Colour.red places
  green := src.mean Colour.green places
  blue := src.mean Colour.blue places
  alpha := src.mean Colour.alpha places

theorem Picture.total_le (src : Picture) (channel : Colour → UInt16)
    (places : Finset (ℤ × ℤ)) : src.total channel places ≤ places.card * 65535 := by
  rw [← smul_eq_mul]
  apply Finset.sum_le_card_nsmul
  intro place _
  exact Nat.le_of_lt_succ (UInt16.toNat_lt _)

theorem Picture.total_insert (src : Picture) (channel : Colour → UInt16) {place : ℤ × ℤ}
    (fresh : place ∉ places) :
    src.total channel (insert place places) =
      src.total channel places + (channel (src.colour place.1 place.2)).toNat := by
  rw [Picture.total, Finset.sum_insert fresh, Nat.add_comm]
  rfl

/-- Adding a pixel does not overflow while there are at most 64 million. -/
theorem Picture.sums_add (arith : Arithmetic) (src : Picture) {place : ℤ × ℤ}
    (fresh : place ∉ places) (most : (insert place places).card ≤ maxArea.toNat) :
    (src.sums places).add arith (src.colour place.1 place.2) =
      src.sums (insert place places) := by
  have bound : maxArea.toNat * 65535 < 2 ^ 64 := by decide
  have exact (channel : Colour → UInt16) :
      arith.uint64 (src.total channel places +
        (channel (src.colour place.1 place.2)).toNat) =
          src.total channel (insert place places) := by
    rw [← src.total_insert channel fresh]
    apply arith.uint64_exact
    have limit := src.total_le channel (insert place places)
    have scaled := Nat.mul_le_mul_right 65535 most
    omega
  have counted : arith.uint64 (places.card + 1) = (insert place places).card := by
    rw [← Finset.card_insert_of_notMem fresh]
    exact arith.uint64_exact (by omega)
  simp only [Sums.add, Picture.sums, exact, counted]

/-- The loops over a box add up the pixels of the box. -/
theorem Picture.sumBox_eq (arith : Arithmetic) (src : Picture) {columns rows : Int × Int}
    (across : columns.1 ≤ columns.2) (down : rows.1 ≤ rows.2)
    (most : (rectangle columns.1 columns.2 rows.1 rows.2).card ≤ maxArea.toNat) :
    src.sumBox arith columns rows =
      src.sums (rectangle columns.1 columns.2 rows.1 rows.2) := by
  refine @foldl_scan_rectangle Sums columns.1 columns.2 rows.1 rows.2
    (fun sums place => sums.add arith (src.colour place.1 place.2)) src.sums across down ?_
  intro seen place within inside fresh
  apply src.sums_add arith fresh
  exact (Finset.card_le_card (Finset.insert_subset inside within)).trans most

/-- The average of a channel fits eight bits. -/
theorem Picture.mean_lt (src : Picture) (channel : Colour → UInt16)
    (places : Finset (ℤ × ℤ)) : src.mean channel places < 2 ^ 8 := by
  have average : src.total channel places / places.card ≤ 65535 :=
    Nat.div_le_of_le_mul (src.total_le channel places)
  rw [Picture.mean, Nat.div_lt_iff_lt_mul (by decide)]
  omega

theorem Picture.average_sums (arith : Arithmetic) (src : Picture) (nonempty : places.Nonempty) :
    (src.sums places).average arith = src.averaged places := by
  have counted : places.card ≠ 0 := nonempty.card_pos.ne'
  have exact (channel : Colour → UInt16) :
      arith.uint8 ((src.total channel places / places.card) >>> 8) =
        src.mean channel places := by
    rw [Nat.shiftRight_eq_div_pow]
    exact arith.uint8_exact (src.mean_lt channel places)
  have count : (if (src.sums places).n = 0 then 1 else (src.sums places).n) = places.card :=
    if_neg counted
  simp only [Sums.average, count]
  simp only [Picture.sums, exact, Picture.averaged]

end Averages

/-! ## The thumbnail -/

namespace Picture

variable {src : Picture} {arith : Arithmetic} {maxSide : Int}

def width (src : Picture) : Int := src.bounds.maxX.toInt - src.bounds.minX.toInt

def height (src : Picture) : Int := src.bounds.maxY.toInt - src.bounds.minY.toInt

/-- The places of the image. -/
noncomputable def area (src : Picture) : Finset (ℤ × ℤ) :=
  rectangle src.bounds.minX.toInt src.bounds.maxX.toInt
    src.bounds.minY.toInt src.bounds.maxY.toInt

/-- The image has pixels, and at most 64 million of them. -/
structure Moderate (src : Picture) : Prop where
  wide : 0 < src.width
  tall : 0 < src.height
  area : src.width * src.height ≤ maxArea

theorem card_area (moderate : src.Moderate) : src.area.card ≤ maxArea.toNat := by
  have product := moderate.area
  have wide := moderate.wide
  have tall := moderate.tall
  rw [area, rectangle, Finset.card_product, Int.card_Ico, Int.card_Ico]
  change src.width.toNat * src.height.toNat ≤ maxArea.toNat
  rw [← Int.toNat_mul wide.le tall.le]
  exact Int.toNat_le_toNat product

/-- The sides of the thumbnail as they are meant. -/
def size (src : Picture) (maxSide : Int) : Int × Int :=
  scaledSize src.width src.height maxSide

/-- The columns of a pixel of the thumbnail, and its rows. -/
def column (src : Picture) (maxSide : Int) : ℤ → ℤ × ℤ :=
  cell src.bounds.minX.toInt src.width (src.size maxSide).1

def row (src : Picture) (maxSide : Int) : ℤ → ℤ × ℤ :=
  cell src.bounds.minY.toInt src.height (src.size maxSide).2

/-- The thumbnail as it is meant. -/
noncomputable def thumbnail (src : Picture) (maxSide : Int) : Thumbnail where
  width := (src.size maxSide).1
  height := (src.size maxSide).2
  pixels := (scan 0 (src.size maxSide).2).map fun dy =>
    (scan 0 (src.size maxSide).1).map fun dx =>
      src.averaged (gridCell (src.column maxSide) (src.row maxSide) (dx, dy))

theorem size_bounds (moderate : src.Moderate) (one : 1 ≤ maxSide) :
    (0 < (src.size maxSide).1 ∧ (src.size maxSide).1 ≤ src.width) ∧
      0 < (src.size maxSide).2 ∧ (src.size maxSide).2 ≤ src.height := by
  have bounds := scaledSize_bounds moderate.wide moderate.tall one
  rw [← size] at bounds
  omega

theorem columns_tiled (moderate : src.Moderate) (one : 1 ≤ maxSide) :
    Tiling src.bounds.minX.toInt src.bounds.maxX.toInt (src.size maxSide).1
      (src.column maxSide) :=
  have bounds := (size_bounds moderate one).1
  side_tiled bounds.1 bounds.2

theorem rows_tiled (moderate : src.Moderate) (one : 1 ≤ maxSide) :
    Tiling src.bounds.minY.toInt src.bounds.maxY.toInt (src.size maxSide).2
      (src.row maxSide) :=
  have bounds := (size_bounds moderate one).2
  side_tiled bounds.1 bounds.2

/-- The box `downscale` averages for a pixel of the thumbnail. -/
noncomputable def box (src : Picture) (arith : Arithmetic) (thumb : Thumbnail)
    (tile : ℤ × ℤ) : Finset (ℤ × ℤ) :=
  gridCell (boxSide arith src.bounds.minX.toInt src.width thumb.width)
    (boxSide arith src.bounds.minY.toInt src.height thumb.height) tile

/-- The box on either side of a pixel is a cell of the tiling. -/
theorem boxSides_eq (arith : Arithmetic) (moderate : src.Moderate) (one : 1 ≤ maxSide)
    {tile : ℤ × ℤ} (here : tile ∈ rectangle 0 (src.size maxSide).1 0 (src.size maxSide).2) :
    boxSide arith src.bounds.minX.toInt src.width (src.size maxSide).1 tile.1 =
        src.column maxSide tile.1 ∧
      boxSide arith src.bounds.minY.toInt src.height (src.size maxSide).2 tile.2 =
        src.row maxSide tile.2 := by
  obtain ⟨⟨fromLeft, toRight⟩, fromTop, toBottom⟩ := mem_rectangle.mp here
  obtain ⟨⟨columns, across⟩, rows, down⟩ := size_bounds moderate one
  obtain ⟨narrow, low⟩ := side_le moderate.wide moderate.tall moderate.area
  exact ⟨boxSide_side arith columns across narrow fromLeft toRight,
    boxSide_side arith rows down low fromTop toBottom⟩

theorem box_thumbnail (arith : Arithmetic) (moderate : src.Moderate) (one : 1 ≤ maxSide)
    {tile : ℤ × ℤ} (here : tile ∈ rectangle 0 (src.size maxSide).1 0 (src.size maxSide).2) :
    src.box arith (src.thumbnail maxSide) tile =
      gridCell (src.column maxSide) (src.row maxSide) tile := by
  obtain ⟨column, row⟩ := boxSides_eq arith moderate one here
  rw [box, gridCell, gridCell]
  simp only [thumbnail, column, row]

/-- What is computed for a pixel is the average of its box. -/
theorem pixel_eq (arith : Arithmetic) (moderate : src.Moderate) (one : 1 ≤ maxSide)
    {tile : ℤ × ℤ} (here : tile ∈ rectangle 0 (src.size maxSide).1 0 (src.size maxSide).2) :
    (src.sumBox arith (src.column maxSide tile.1) (src.row maxSide tile.2)).average arith =
      src.averaged (gridCell (src.column maxSide) (src.row maxSide) tile) := by
  have across := src.columns_tiled moderate one
  have down := src.rows_tiled moderate one
  obtain ⟨⟨fromLeft, toRight⟩, fromTop, toBottom⟩ := mem_rectangle.mp here
  have few : (gridCell (src.column maxSide) (src.row maxSide) tile).card ≤ maxArea.toNat :=
    (Finset.card_le_card (gridCell_subset across down here)).trans (src.card_area moderate)
  rw [src.sumBox_eq arith (across.inside fromLeft toRight).2.1.le
    (down.inside fromTop toBottom).2.1.le few]
  exact src.average_sums arith (gridCell_nonempty across down here)

/-- Without overflow, an image that does not fit is averaged down to the thumbnail. -/
theorem downscale_eq (arith : Arithmetic) (moderate : src.Moderate) (one : 1 ≤ maxSide) :
    downscale arith src maxSide =
      if src.width ≤ maxSide ∧ src.height ≤ maxSide then none
      else some (src.thumbnail maxSide) := by
  obtain ⟨narrow, low⟩ := side_le moderate.wide moderate.tall moderate.area
  have bound : maxArea < 2 ^ 63 := by decide
  have wide := moderate.wide
  have tall := moderate.tall
  have w : arith.int (src.bounds.maxX.toInt - src.bounds.minX.toInt) = src.width :=
    arith.int_exact (by rw [width] at wide; omega) (by rw [width] at narrow; omega)
  have h : arith.int (src.bounds.maxY.toInt - src.bounds.minY.toInt) = src.height :=
    arith.int_exact (by rw [height] at tall; omega) (by rw [height] at low; omega)
  have positive : ¬(src.width ≤ 0 ∨ src.height ≤ 0) := by omega
  have same : (src.size maxSide).1 = src.width ∧ (src.size maxSide).2 = src.height ↔
      src.width ≤ maxSide ∧ src.height ≤ maxSide := by
    rw [← scaledSize_eq_iff wide tall one, Prod.ext_iff]
    rfl
  have sides := newSize_eq arith wide tall moderate.area one
  rw [← size] at sides
  simp only [downscale, w, h, if_neg positive, sides, same]
  by_cases fits : src.width ≤ maxSide ∧ src.height ≤ maxSide
  · rw [if_pos fits, if_pos fits]
  · rw [if_neg fits, if_neg fits]
    have pixels : ∀ dy ∈ scan 0 (src.size maxSide).2, ∀ dx ∈ scan 0 (src.size maxSide).1,
        (src.sumBox arith
            (boxSide arith src.bounds.minX.toInt src.width (src.size maxSide).1 dx)
            (boxSide arith src.bounds.minY.toInt src.height (src.size maxSide).2 dy)).average
              arith =
          src.averaged (gridCell (src.column maxSide) (src.row maxSide) (dx, dy)) := by
      intro dy inHeight dx inWidth
      have here : (dx, dy) ∈ rectangle 0 (src.size maxSide).1 0 (src.size maxSide).2 :=
        mem_rectangle.mpr ⟨mem_scan.mp inWidth, mem_scan.mp inHeight⟩
      obtain ⟨column, row⟩ := boxSides_eq arith moderate one here
      rw [column, row]
      exact pixel_eq arith moderate one here
    refine congrArg some (congrArg (Thumbnail.mk _ _) ?_)
    apply List.map_congr_left
    intro dy inHeight
    apply List.map_congr_left
    intro dx inWidth
    exact pixels dy inHeight dx inWidth

/-- The boxes partition the image, and each pixel of the thumbnail is the average of its box. -/
structure PartitionAverage (src : Picture) (arith : Arithmetic) (maxSide : Int)
    (thumb : Thumbnail) : Prop where
  width : 1 ≤ thumb.width ∧ thumb.width ≤ maxSide
  height : 1 ≤ thumb.height ∧ thumb.height ≤ maxSide
  nonempty : ∀ tile ∈ rectangle 0 thumb.width 0 thumb.height,
    (src.box arith thumb tile).Nonempty
  inside : ∀ tile ∈ rectangle 0 thumb.width 0 thumb.height,
    src.box arith thumb tile ⊆ src.area
  covered : ∀ place ∈ src.area, ∃! tile : ℤ × ℤ,
    tile ∈ rectangle 0 thumb.width 0 thumb.height ∧ place ∈ src.box arith thumb tile
  pixels : thumb.pixels = (scan 0 thumb.height).map fun dy =>
    (scan 0 thumb.width).map fun dx => src.averaged (src.box arith thumb (dx, dy))

theorem partitionAverage_thumbnail (arith : Arithmetic) (moderate : src.Moderate)
    (one : 1 ≤ maxSide) : src.PartitionAverage arith maxSide (src.thumbnail maxSide) := by
  have across := src.columns_tiled moderate one
  have down := src.rows_tiled moderate one
  obtain ⟨⟨columns, widest⟩, rows, tallest⟩ :=
    scaledSize_bounds moderate.wide moderate.tall one
  constructor
  · exact ⟨columns, widest.trans (min_le_right _ _)⟩
  · exact ⟨rows, tallest.trans (min_le_right _ _)⟩
  · intro tile here
    rw [box_thumbnail arith moderate one here]
    exact gridCell_nonempty across down here
  · intro tile here
    rw [box_thumbnail arith moderate one here]
    exact gridCell_subset across down here
  · intro place here
    obtain ⟨tile, ⟨listed, inside⟩, only⟩ := existsUnique_gridCell across down here
    refine ⟨tile, ⟨listed, ?_⟩, ?_⟩
    · rwa [box_thumbnail arith moderate one listed]
    · rintro other ⟨listed, inside⟩
      rw [box_thumbnail arith moderate one listed] at inside
      exact only other ⟨listed, inside⟩
  · apply List.map_congr_left
    intro dy inHeight
    apply List.map_congr_left
    intro dx inWidth
    rw [box_thumbnail arith moderate one
      (mem_rectangle.mpr ⟨mem_scan.mp inWidth, mem_scan.mp inHeight⟩)]

end Picture

/-- An image that does not fit is averaged down over a partition of its pixels.  Every
arithmetic that is exact within its types gives the same thumbnail, so no sum, product or
conversion leaves the range of its type. -/
theorem downscale_partition_average (src : Picture) (maxSide : Int) (moderate : src.Moderate)
    (one : 1 ≤ maxSide) (arith : Arithmetic) :
    downscale arith src maxSide = downscale .unbounded src maxSide ∧
      (downscale arith src maxSide = none ↔ src.width ≤ maxSide ∧ src.height ≤ maxSide) ∧
      ∀ thumb, downscale arith src maxSide = some thumb →
        src.PartitionAverage arith maxSide thumb := by
  rw [Picture.downscale_eq arith moderate one, Picture.downscale_eq .unbounded moderate one]
  refine ⟨rfl, ?_, ?_⟩
  · by_cases fits : src.width ≤ maxSide ∧ src.height ≤ maxSide
    · rw [if_pos fits]
      exact ⟨fun _ => fits, fun _ => rfl⟩
    · rw [if_neg fits]
      exact ⟨(fun absent => by cases absent), fun holds => absurd holds fits⟩
  · intro thumb scaled
    split at scaled
    next => cases scaled
    next =>
      cases scaled
      exact Picture.partitionAverage_thumbnail arith moderate one

/-- Three columns and two rows that start left of the origin. -/
def sampleImage : Picture where
  bounds := ⟨-1, 5, 2, 7⟩
  colour x y := if x < 0 then ⟨0xffff, 0, 0, 0xffff⟩ else ⟨0, 0x100, UInt16.ofNat y.toNat, 0xffff⟩

/-- An image of three by two pixels becomes one of two by one. -/
theorem sample_image_averaged :
    ∃ thumb, downscale .wrapping sampleImage 2 = some thumb ∧
      thumb = ⟨2, 1, [[⟨255, 0, 0, 255⟩, ⟨0, 1, 0, 255⟩]]⟩ ∧
      sampleImage.PartitionAverage .wrapping 2 thumb := by
  have moderate : sampleImage.Moderate := ⟨by decide, by decide, by decide⟩
  have scaled : downscale .wrapping sampleImage 2 =
      some ⟨2, 1, [[⟨255, 0, 0, 255⟩, ⟨0, 1, 0, 255⟩]]⟩ := by decide +kernel
  have averaged := downscale_partition_average sampleImage 2 moderate (by decide) .wrapping
  exact ⟨_, scaled, rfl, averaged.2.2 _ scaled⟩

/-- The header of a file whose sides are below 2 ^ 31, as those of the accepted formats are,
passes exactly when the image is moderate. -/
theorem sizeAllowed_iff (arith : Arithmetic) {width height : Int} (narrow : width < 2 ^ 31)
    (low : height < 2 ^ 31) :
    sizeAllowed arith width height = true ↔
      0 < width ∧ 0 < height ∧ width * height ≤ maxArea := by
  rw [sizeAllowed]
  by_cases positive : 0 < width ∧ 0 < height
  · obtain ⟨wide, tall⟩ := positive
    have product : width * height ≤ 2 ^ 31 * 2 ^ 31 :=
      mul_le_mul narrow.le low.le tall.le (by decide)
    have nonneg : 0 ≤ width * height := mul_nonneg wide.le tall.le
    have exact : arith.int (width * height) = width * height :=
      arith.int_exact (by omega) (by omega)
    simp only [exact, maxArea, Bool.not_eq_true', Bool.or_eq_false_iff, decide_eq_false_iff_not]
    omega
  · simp only [Bool.not_eq_true', Bool.or_eq_false_iff, decide_eq_false_iff_not]
    omega

end CopySync.Server
