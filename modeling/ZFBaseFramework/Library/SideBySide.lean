import Mathlib.Algebra.Order.BigOperators.Group.List
import Mathlib.Algebra.Order.Field.Basic
import Mathlib.Data.List.Chain
import Mathlib.Tactic.FieldSimp
import Mathlib.Tactic.Linarith
import Mathlib.Tactic.Positivity
import Mathlib.Tactic.Ring

/-!
# Boxes side by side

Boxes of given widths, each followed by the same margin. `boxes` lists them with their
left edges and `total` is the length they take; `spread` is the margin that spreads
boxes over a given length with one more margin in front, but for a least one.
-/

namespace ZFBaseFramework

universe u

namespace SideBySide

variable {K : Type u} [Field K]

/-- The left edges and widths of boxes that follow each other with a margin behind each. -/
def boxes (margin : K) : K → List K → List (K × K)
  | _, [] => []
  | left, width :: rest => (left, width) :: boxes margin (left + width + margin) rest

/-- The length that boxes take with a margin behind each. -/
def total (margin : K) (widths : List K) : K := widths.sum + widths.length * margin

@[simp]
theorem total_nil (margin : K) : total margin [] = 0 := by
  simp [total]

@[simp]
theorem total_cons (margin width : K) (rest : List K) :
    total margin (width :: rest) = width + margin + total margin rest := by
  simp only [total, List.sum_cons, List.length_cons, Nat.cast_add, Nat.cast_one]
  ring

theorem map_snd_boxes (margin left : K) (widths : List K) :
    (boxes margin left widths).map Prod.snd = widths := by
  induction widths generalizing left with
  | nil => rfl
  | cons width rest ih => simp [boxes, ih]

theorem isChain_boxes (margin left : K) (widths : List K) :
    (boxes margin left widths).IsChain fun box next => next.1 = box.1 + box.2 + margin := by
  induction widths generalizing left with
  | nil => exact List.IsChain.nil
  | cons width rest ih =>
      rw [boxes, List.isChain_cons]
      refine ⟨?_, ih _⟩
      intro next found
      cases rest with
      | nil => simp [boxes] at found
      | cons other rest =>
          simp only [boxes, List.head?_cons, Option.mem_some_iff] at found
          subst found
          rfl

section Ordered

variable [LinearOrder K] [IsStrictOrderedRing K] {margin left : K} {widths : List K}

theorem left_le_of_mem_boxes (margins : 0 ≤ margin) (nonnegative : ∀ width ∈ widths, 0 ≤ width)
    {box : K × K} (present : box ∈ boxes margin left widths) : left ≤ box.1 := by
  induction widths generalizing left with
  | nil => cases present
  | cons width rest ih =>
      rw [List.forall_mem_cons] at nonnegative
      rw [boxes, List.mem_cons] at present
      rcases present with rfl | later
      · exact le_rfl
      · have behind := ih nonnegative.2 later
        linarith [nonnegative.1]

theorem right_le_of_mem_boxes (margins : 0 ≤ margin) (nonnegative : ∀ width ∈ widths, 0 ≤ width)
    {box : K × K} (present : box ∈ boxes margin left widths) :
    box.1 + box.2 + margin ≤ left + total margin widths := by
  induction widths generalizing left with
  | nil => cases present
  | cons width rest ih =>
      rw [List.forall_mem_cons] at nonnegative
      rw [boxes, List.mem_cons] at present
      rw [total_cons]
      rcases present with rfl | later
      · have behind : 0 ≤ total margin rest :=
          add_nonneg (List.sum_nonneg nonnegative.2) (mul_nonneg (Nat.cast_nonneg _) margins)
        linarith
      · have inside := ih nonnegative.2 later
        linarith

theorem pairwise_boxes (margins : 0 ≤ margin) (nonnegative : ∀ width ∈ widths, 0 ≤ width) :
    (boxes margin left widths).Pairwise fun box other => box.1 + box.2 + margin ≤ other.1 := by
  induction widths generalizing left with
  | nil => exact List.Pairwise.nil
  | cons width rest ih =>
      rw [List.forall_mem_cons] at nonnegative
      rw [boxes, List.pairwise_cons]
      refine ⟨?_, ih nonnegative.2⟩
      intro other later
      exact left_le_of_mem_boxes margins nonnegative.2 later

/-- The margin that spreads boxes over a length, with one more margin than there are boxes, or
the least margin where that is larger. -/
def spread (least length : K) (widths : List K) : K :=
  if (length - widths.sum) / (widths.length + 1) < least then least
  else (length - widths.sum) / (widths.length + 1)

variable {least length : K}

omit [IsStrictOrderedRing K] in
theorem least_le_spread : least ≤ spread least length widths := by
  rw [spread]
  split
  · exact le_rfl
  · rename_i wide
    exact not_lt.mp wide

variable (widths least length) in
/-- Spread boxes are as long as the least margin makes them, or leave a margin of the length. -/
theorem total_spread :
    total (spread least length widths) widths = total least widths ∨
      total (spread least length widths) widths + spread least length widths = length := by
  by_cases narrow : (length - widths.sum) / (widths.length + 1) < least
  · left
    rw [spread, if_pos narrow]
  · right
    have count : (widths.length : K) + 1 ≠ 0 := by positivity
    rw [spread, if_neg narrow, total]
    field_simp
    ring

theorem total_le_total {other : K} (wider : margin ≤ other) :
    total margin widths ≤ total other widths := by
  have count : (0 : K) ≤ widths.length := Nat.cast_nonneg _
  rw [total, total]
  linarith [mul_le_mul_of_nonneg_left wider count]

variable (widths length)

/-- Spread boxes are longer than the length exactly if the least margin makes them so. -/
theorem lt_total_spread_iff (positive : 0 < least) :
    length < total (spread least length widths) widths ↔ length < total least widths := by
  have wide : least ≤ spread least length widths := least_le_spread
  have longer : total least widths ≤ total (spread least length widths) widths :=
    total_le_total wide
  rcases total_spread widths least length with same | fits
  · rw [same]
  · refine iff_of_false ?_ ?_
    · linarith
    · linarith

/-- Spread boxes are as long as the length exactly if the least margin makes them so. -/
theorem le_total_spread_iff (positive : 0 < least) :
    length ≤ total (spread least length widths) widths ↔ length ≤ total least widths := by
  have wide : least ≤ spread least length widths := least_le_spread
  have longer : total least widths ≤ total (spread least length widths) widths :=
    total_le_total wide
  rcases total_spread widths least length with same | fits
  · rw [same]
  · refine iff_of_false ?_ ?_
    · linarith
    · linarith

end Ordered

end SideBySide

end ZFBaseFramework
