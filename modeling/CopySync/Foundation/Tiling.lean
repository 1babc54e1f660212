import Mathlib.Data.Int.ConditionallyCompleteOrder
import Mathlib.Data.Int.Interval
import Mathlib.Tactic.Linarith
import Mathlib.Tactic.Ring

/-!
# Cutting an interval of integers into pieces

The edges `index * size / pieces`, rounded down, cut an interval into pieces that differ in
length by one at most.  The pieces lie side by side, whatever the rounding, and none of them is
empty as long as there are no more pieces than integers.
-/

namespace CopySync.Foundation

/-- The edge before a piece, counted from the start. -/
def cut (size pieces index : ℤ) : ℤ := index * size / pieces

/-- The cells lie in the interval, none is empty, and every place is in exactly one. -/
structure Tiling (lower upper pieces : ℤ) (cell : ℤ → ℤ × ℤ) : Prop where
  inside : ∀ {index : ℤ}, 0 ≤ index → index < pieces →
    lower ≤ (cell index).1 ∧ (cell index).1 < (cell index).2 ∧ (cell index).2 ≤ upper
  covered : ∀ {place : ℤ}, lower ≤ place → place < upper →
    ∃! index : ℤ, (0 ≤ index ∧ index < pieces) ∧
      (cell index).1 ≤ place ∧ place < (cell index).2

section Cut

variable {size pieces index place : ℤ}

theorem cut_le_iff (wide : 0 < size) (pos : 0 < pieces) :
    cut size pieces index ≤ place ↔ index ≤ ((place + 1) * pieces - 1) / size := by
  rw [Int.le_ediv_iff_mul_le wide, cut, Int.le_sub_one_iff, ← Int.ediv_lt_iff_lt_mul pos,
    Int.lt_add_one_iff]

/-- The piece a place is in. -/
theorem mem_piece_iff (wide : 0 < size) (pos : 0 < pieces) :
    cut size pieces index ≤ place ∧ place < cut size pieces (index + 1) ↔
      index = ((place + 1) * pieces - 1) / size := by
  rw [← not_le, cut_le_iff wide pos, cut_le_iff wide pos]
  omega

theorem cut_zero (size pieces : ℤ) : cut size pieces 0 = 0 := by
  rw [cut, zero_mul, Int.zero_ediv]

theorem cut_last (pos : 0 < pieces) : cut size pieces pieces = size :=
  Int.mul_ediv_cancel_left size pos.ne'

theorem cut_mono (wide : 0 ≤ size) (pos : 0 < pieces) : Monotone (cut size pieces) :=
  fun _ _ before => Int.ediv_le_ediv pos (mul_le_mul_of_nonneg_right before wide)

/-- No piece is empty. -/
theorem cut_lt_succ (pos : 0 < pieces) (enough : pieces ≤ size) (index : ℤ) :
    cut size pieces index < cut size pieces (index + 1) := by
  have further : index * size + 1 * pieces ≤ (index + 1) * size := by
    rw [add_mul, one_mul, one_mul]
    exact Int.add_le_add_left enough _
  calc cut size pieces index < index * size / pieces + 1 := Int.lt_succ _
    _ = (index * size + 1 * pieces) / pieces := (Int.add_mul_ediv_right _ _ pos.ne').symm
    _ ≤ cut size pieces (index + 1) := Int.ediv_le_ediv pos further

end Cut

/-- The cell between two edges. -/
def cell (lower size pieces index : ℤ) : ℤ × ℤ :=
  (lower + cut size pieces index, lower + cut size pieces (index + 1))

/-- The pieces tile the interval. -/
theorem tiling_cell {size pieces : ℤ} (lower : ℤ) (pos : 0 < pieces) (enough : pieces ≤ size) :
    Tiling lower (lower + size) pieces (cell lower size pieces) := by
  have wide : 0 < size := pos.trans_le enough
  constructor
  · intro index nonneg before
    have first := cut_mono wide.le pos nonneg
    have last := cut_mono wide.le pos (Int.add_one_le_of_lt before)
    rw [cut_zero] at first
    rw [cut_last pos] at last
    refine ⟨?_, ?_, ?_⟩
    · exact Int.le_add_of_nonneg_right first
    · exact Int.add_lt_add_left (cut_lt_succ pos enough index) lower
    · exact Int.add_le_add_left last lower
  · intro place above below
    have one : (place - lower + 1) * pieces ≤ size * pieces :=
      mul_le_mul_of_nonneg_right (by omega) pos.le
    have positive : 0 < (place - lower + 1) * pieces := mul_pos (by omega) pos
    refine ⟨((place - lower + 1) * pieces - 1) / size, ⟨⟨?_, ?_⟩, ?_⟩, ?_⟩
    · exact Int.ediv_nonneg (by omega) wide.le
    · rw [Int.ediv_lt_iff_lt_mul wide, mul_comm pieces]
      omega
    · obtain ⟨first, last⟩ := (mem_piece_iff wide pos).mpr
        (Eq.refl (((place - lower + 1) * pieces - 1) / size))
      exact ⟨by simpa only [cell] using by omega, by simpa only [cell] using by omega⟩
    · rintro index ⟨-, first, last⟩
      refine (mem_piece_iff wide pos).mp ⟨?_, ?_⟩
      · simp only [cell] at first
        omega
      · simp only [cell] at last
        omega

section Grid

variable {left right columns top bottom rows : ℤ} {column row : ℤ → ℤ × ℤ}

/-- The places of a cell of a grid. -/
noncomputable def gridCell (column row : ℤ → ℤ × ℤ) (tile : ℤ × ℤ) : Finset (ℤ × ℤ) :=
  Finset.Ico (column tile.1).1 (column tile.1).2 ×ˢ Finset.Ico (row tile.2).1 (row tile.2).2

/-- The places of a rectangle. -/
noncomputable def rectangle (left right top bottom : ℤ) : Finset (ℤ × ℤ) :=
  Finset.Ico left right ×ˢ Finset.Ico top bottom

theorem mem_rectangle {place : ℤ × ℤ} :
    place ∈ rectangle left right top bottom ↔
      (left ≤ place.1 ∧ place.1 < right) ∧ top ≤ place.2 ∧ place.2 < bottom := by
  rw [rectangle, Finset.mem_product, Finset.mem_Ico, Finset.mem_Ico]

theorem mem_gridCell {place tile : ℤ × ℤ} :
    place ∈ gridCell column row tile ↔
      ((column tile.1).1 ≤ place.1 ∧ place.1 < (column tile.1).2) ∧
        (row tile.2).1 ≤ place.2 ∧ place.2 < (row tile.2).2 := by
  rw [gridCell, Finset.mem_product, Finset.mem_Ico, Finset.mem_Ico]

theorem gridCell_nonempty (across : Tiling left right columns column)
    (down : Tiling top bottom rows row) {tile : ℤ × ℤ}
    (here : tile ∈ rectangle 0 columns 0 rows) : (gridCell column row tile).Nonempty := by
  obtain ⟨⟨leftmost, before⟩, topmost, above⟩ := mem_rectangle.mp here
  have wide := (across.inside leftmost before).2.1
  have tall := (down.inside topmost above).2.1
  exact ⟨((column tile.1).1, (row tile.2).1), mem_gridCell.mpr ⟨⟨le_rfl, wide⟩, le_rfl, tall⟩⟩

theorem gridCell_subset (across : Tiling left right columns column)
    (down : Tiling top bottom rows row) {tile : ℤ × ℤ}
    (here : tile ∈ rectangle 0 columns 0 rows) :
    gridCell column row tile ⊆ rectangle left right top bottom := by
  intro place inside
  obtain ⟨⟨leftmost, before⟩, topmost, above⟩ := mem_rectangle.mp here
  obtain ⟨first, -, last⟩ := across.inside leftmost before
  obtain ⟨highest, -, lowest⟩ := down.inside topmost above
  obtain ⟨⟨fromLeft, toRight⟩, fromTop, toBottom⟩ := mem_gridCell.mp inside
  exact mem_rectangle.mpr ⟨⟨first.trans fromLeft, toRight.trans_le last⟩,
    highest.trans fromTop, toBottom.trans_le lowest⟩

/-- Every place of the rectangle is in exactly one cell of the grid. -/
theorem existsUnique_gridCell (across : Tiling left right columns column)
    (down : Tiling top bottom rows row) {place : ℤ × ℤ}
    (here : place ∈ rectangle left right top bottom) :
    ∃! tile : ℤ × ℤ, tile ∈ rectangle 0 columns 0 rows ∧ place ∈ gridCell column row tile := by
  obtain ⟨⟨fromLeft, toRight⟩, fromTop, toBottom⟩ := mem_rectangle.mp here
  obtain ⟨x, ⟨inWidth, inColumn⟩, onlyColumn⟩ := across.covered fromLeft toRight
  obtain ⟨y, ⟨inHeight, inRow⟩, onlyRow⟩ := down.covered fromTop toBottom
  refine ⟨(x, y), ⟨mem_rectangle.mpr ⟨inWidth, inHeight⟩, mem_gridCell.mpr ⟨inColumn, inRow⟩⟩, ?_⟩
  rintro tile ⟨listed, inside⟩
  obtain ⟨width, height⟩ := mem_rectangle.mp listed
  obtain ⟨column, row⟩ := mem_gridCell.mp inside
  exact Prod.ext (onlyColumn tile.1 ⟨width, column⟩) (onlyRow tile.2 ⟨height, row⟩)

end Grid

/-! ## Scanning -/

/-- The integers of an interval in order, as a counting loop visits them. -/
def scan (lower upper : ℤ) : List ℤ :=
  (List.range (upper - lower).toNat).map fun offset : ℕ => lower + (offset : ℤ)

theorem scan_self (place : ℤ) : scan place place = [] := by
  rw [scan, sub_self]
  rfl

theorem scan_succ {lower upper : ℤ} (ordered : lower ≤ upper) :
    scan lower (upper + 1) = scan lower upper ++ [upper] := by
  have more : (upper + 1 - lower).toNat = (upper - lower).toNat + 1 := by omega
  have last : lower + ((upper - lower).toNat : ℤ) = upper := by omega
  rw [scan, more, List.range_succ, List.map_append, List.map_singleton, last, scan]

theorem mem_scan {lower upper place : ℤ} :
    place ∈ scan lower upper ↔ lower ≤ place ∧ place < upper := by
  simp only [scan, List.mem_map, List.mem_range]
  constructor
  · rintro ⟨offset, before, rfl⟩
    omega
  · rintro ⟨above, below⟩
    exact ⟨(place - lower).toNat, by omega, by omega⟩

section Scan

universe u

variable {σ : Type u} {lower upper left right top bottom : ℤ}

/-- The invariant rule for a counting loop. -/
theorem scan_invariant {visit : σ → ℤ → σ} {start : σ} (holds : ℤ → σ → Prop)
    (ordered : lower ≤ upper) (initial : holds lower start)
    (preserved : ∀ {place : ℤ} {state : σ}, lower ≤ place → place < upper →
      holds place state → holds (place + 1) (visit state place)) :
    holds upper ((scan lower upper).foldl visit start) := by
  induction upper, ordered using Int.leInduction with
  | base =>
      rw [scan_self]
      exact initial
  | succ upper ordered ih =>
      have before := ih fun above below held =>
        preserved above (below.trans (Int.lt_succ upper)) held
      rw [scan_succ ordered, List.foldl_append]
      exact preserved ordered (Int.lt_succ upper) before

/-- The part of a rectangle seen when a scan row by row has come to a place. -/
noncomputable def scanned (left right top : ℤ) (place : ℤ × ℤ) : Finset (ℤ × ℤ) :=
  rectangle left right top place.2 ∪ rectangle left place.1 place.2 (place.2 + 1)

/-- A scan row by row visits every place of a rectangle once. -/
theorem foldl_scan_rectangle {visit : σ → ℤ × ℤ → σ} (summary : Finset (ℤ × ℤ) → σ)
    (across : left ≤ right) (down : top ≤ bottom)
    (adds : ∀ {seen : Finset (ℤ × ℤ)} {place : ℤ × ℤ}, seen ⊆ rectangle left right top bottom →
      place ∈ rectangle left right top bottom → place ∉ seen →
      visit (summary seen) place = summary (insert place seen)) :
    (scan top bottom).foldl
        (fun state y => (scan left right).foldl (fun state x => visit state (x, y)) state)
        (summary ∅) =
      summary (rectangle left right top bottom) := by
  have empty (place : ℤ) : rectangle left right place place = ∅ := by
    ext other
    simp only [mem_rectangle, Finset.notMem_empty, iff_false]
    omega
  refine scan_invariant (fun y state => state = summary (rectangle left right top y)) down
    (congrArg summary (empty top).symm) ?_
  rintro y state below above rfl
  have row := @scan_invariant σ left right (fun state x => visit state (x, y))
    (summary (rectangle left right top y))
    (fun x state => state = summary (scanned left right top (x, y))) across ?_ ?_
  · refine row.trans (congrArg summary ?_)
    ext place
    simp only [scanned, Finset.mem_union, mem_rectangle]
    omega
  · refine congrArg summary ?_
    ext place
    simp only [scanned, Finset.mem_union, mem_rectangle]
    omega
  · rintro x state first last rfl
    rw [adds]
    · refine congrArg summary ?_
      ext place
      simp only [scanned, Finset.mem_insert, Finset.mem_union, mem_rectangle, Prod.ext_iff]
      omega
    · intro place
      simp only [scanned, Finset.mem_union, mem_rectangle]
      omega
    · simp only [mem_rectangle]
      omega
    · simp only [scanned, Finset.mem_union, mem_rectangle]
      omega

end Scan

end CopySync.Foundation
