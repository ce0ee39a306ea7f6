/-
This file is about a polynomial that is given by its values at the roots of unity.
As many roots of unity as their order has are the zeroes of one binomial, so the
weights of the barycentric form are the nodes themselves up to the order, and a
value off the nodes is one sum.
-/

import Mathlib

namespace Barycentric

open Polynomial

variable {Coefficient Index : Type} [Field Coefficient] {nodes : Finset Index}
  {root : Index → Coefficient}

/-- Distinct roots of unity, as many as their order, are the zeroes of a binomial. -/
theorem nodal_eq (distinct : Set.InjOn root nodes) (nonempty : nodes.Nonempty)
    (unity : ∀ index ∈ nodes, root index ^ nodes.card = 1) :
    Lagrange.nodal nodes root = X ^ nodes.card - 1 := by
  have positive : 0 < nodes.card := Finset.card_pos.mpr nonempty
  have smaller : degree (1 : Coefficient[X]) < degree ((X : Coefficient[X]) ^ nodes.card) := by
    rw [degree_one, degree_X_pow]
    exact_mod_cast positive
  refine eq_of_degree_le_of_eval_index_eq nodes distinct ?_ ?_ ?_ ?_
  · rw [Lagrange.degree_nodal]
  · rw [Lagrange.degree_nodal, degree_sub_eq_left_of_degree_lt smaller, degree_X_pow]
  · rw [Lagrange.nodal_monic, leadingCoeff_sub_of_degree_lt smaller, monic_X_pow]
  · intro index member
    rw [Lagrange.eval_nodal_at_node member, eval_sub, eval_pow, eval_X, eval_one,
      unity index member, sub_self]

variable [DecidableEq Index]

/-- The weight of a root of unity is the root itself, over the order. -/
theorem nodalWeight_eq (distinct : Set.InjOn root nodes)
    (unity : ∀ index ∈ nodes, root index ^ nodes.card = 1) {index : Index}
    (member : index ∈ nodes) :
    Lagrange.nodalWeight nodes root index = (nodes.card : Coefficient)⁻¹ * root index := by
  have nonempty : nodes.Nonempty := ⟨index, member⟩
  have positive : nodes.card ≠ 0 := (Finset.card_pos.mpr nonempty).ne'
  have inverse : (root index ^ (nodes.card - 1))⁻¹ = root index := by
    refine inv_eq_of_mul_eq_one_left ?_
    rw [mul_pow_sub_one positive, unity index member]
  rw [Lagrange.nodalWeight_eq_eval_derivative_nodal member, nodal_eq distinct nonempty unity,
    derivative_sub, derivative_one, sub_zero, derivative_X_pow, eval_mul, eval_C, eval_pow,
    eval_X, mul_inv, inverse]

/-- The barycentric form over the roots of unity. -/
theorem eval_interpolate (distinct : Set.InjOn root nodes) (nonempty : nodes.Nonempty)
    (unity : ∀ index ∈ nodes, root index ^ nodes.card = 1) (values : Index → Coefficient)
    {point : Coefficient} (off : ∀ index ∈ nodes, point ≠ root index) :
    (Lagrange.interpolate nodes root values).eval point =
      (point ^ nodes.card - 1) * (nodes.card : Coefficient)⁻¹ *
        ∑ index ∈ nodes, values index * root index * (point - root index)⁻¹ := by
  have weighted : ∑ index ∈ nodes, Lagrange.nodalWeight nodes root index *
      (point - root index)⁻¹ * values index =
      (nodes.card : Coefficient)⁻¹ *
        ∑ index ∈ nodes, values index * root index * (point - root index)⁻¹ := by
    rw [Finset.mul_sum]
    refine Finset.sum_congr rfl fun index member => ?_
    rw [nodalWeight_eq distinct unity member]
    ring
  rw [Lagrange.eval_interpolate_not_at_node values off, nodal_eq distinct nonempty unity,
    eval_sub, eval_pow, eval_X, eval_one, weighted, mul_assoc]

end Barycentric
