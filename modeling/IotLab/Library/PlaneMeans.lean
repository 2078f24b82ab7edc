import Mathlib.Analysis.Convex.Combination
import Mathlib.Algebra.BigOperators.Fin

/-!
# Means of points in a convex set

A list of points with weights has a mean, which lies in every convex set with these
points.  In the plane the mean is taken in each coordinate.
-/

namespace IotLab.Library

section Means

variable {Item K : Type*} [Field K]

/-- The mean of points with weights, coordinate by coordinate. -/
def weightedMean (items : List Item) (point : Item → K × K) (weight : Item → K) : K × K :=
  ((items.map fun item => (point item).1 * weight item).sum / (items.map weight).sum,
    (items.map fun item => (point item).2 * weight item).sum / (items.map weight).sum)

theorem weightedMean_eq_centerMass (items : List Item) (point : Item → K × K)
    (weight : Item → K) :
    weightedMean items point weight =
      Finset.univ.centerMass (fun index : Fin items.length => weight items[index])
        fun index => point items[index] := by
  have weights : ∑ index : Fin items.length, weight items[index] = (items.map weight).sum :=
    Fin.sum_univ_fun_getElem items weight
  have coordinate : ∀ coordinate : K × K → K,
      ∑ index : Fin items.length, weight items[index] * coordinate (point items[index]) =
        (items.map fun item => coordinate (point item) * weight item).sum := by
    intro coordinate
    rw [← Fin.sum_univ_fun_getElem items fun item => coordinate (point item) * weight item]
    exact Finset.sum_congr rfl fun index _ => mul_comm _ _
  rw [Finset.centerMass, weights, weightedMean]
  refine Prod.ext ?_ ?_
  · rw [Prod.smul_fst, Prod.fst_sum, smul_eq_mul]
    exact (div_eq_inv_mul _ _).trans (congrArg _ (coordinate Prod.fst).symm)
  · rw [Prod.smul_snd, Prod.snd_sum, smul_eq_mul]
    exact (div_eq_inv_mul _ _).trans (congrArg _ (coordinate Prod.snd).symm)

variable [LinearOrder K] [IsStrictOrderedRing K] {points : Set (K × K)}

theorem weightedMean_mem (convex : Convex K points) {items : List Item}
    {point : Item → K × K} {weight : Item → K}
    (member : ∀ item ∈ items, point item ∈ points) (nonneg : ∀ item ∈ items, 0 ≤ weight item)
    (positive : 0 < (items.map weight).sum) : weightedMean items point weight ∈ points := by
  rw [weightedMean_eq_centerMass]
  apply convex.centerMass_mem
  · exact fun index _ => nonneg _ (List.getElem_mem _)
  · exact positive.trans_eq (Fin.sum_univ_fun_getElem items weight).symm
  · exact fun index _ => member _ (List.getElem_mem _)

end Means

end IotLab.Library
