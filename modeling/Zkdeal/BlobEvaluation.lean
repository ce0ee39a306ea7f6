/-
This file is about the evaluation of a blob: it is the value of the polynomial that
the field elements of the blob interpolate.

The domain is the powers of one generator, read in the order of the reversed bits of
their exponents. At a point of the domain the loop is not entered. Everywhere else
it adds up the barycentric form over the roots of unity, and takes the inverse of
every denominator out of the inverse of their product.
-/

import Zkdeal.Library.Barycentric
import Zkdeal.Hosting

namespace Zkdeal

open Words Guard

/-! ### The scalar field -/

/-- The prime factors of the order of the multiplicative group, with their exponents. -/
def groupOrderFactors : List (Nat × Nat) :=
  [(2, 32), (3, 1), (11, 1), (19, 1), (10177, 1), (125527, 1), (859267, 1), (906349, 2),
    (2508409, 1), (2529403, 1), (52437899, 1), (254760293, 2)]

theorem exists_mem_groupOrderFactors {prime : Nat} (isPrime : prime.Prime)
    (divides : prime ∣ blsModulus - 1) : ∃ factor ∈ groupOrderFactors, factor.1 = prime := by
  have factored : blsModulus - 1 = (groupOrderFactors.map fun factor => factor.1 ^ factor.2).prod :=
    by decide +kernel
  have primes : ∀ factor ∈ groupOrderFactors, factor.1.Prime := by
    simp only [groupOrderFactors, List.forall_mem_cons]
    norm_num
  rw [factored] at divides
  obtain ⟨power, member, divides⟩ := (Prime.dvd_prod_iff isPrime.prime).mp divides
  obtain ⟨factor, listed, rfl⟩ := List.mem_map.mp member
  have same := (Nat.prime_dvd_prime_iff_eq isPrime (primes factor listed)).mp
    (isPrime.dvd_of_dvd_pow divides)
  exact ⟨factor, listed, same.symm⟩

theorem seven_pow_groupOrder : (7 : ZMod blsModulus) ^ (blsModulus - 1) = 1 := by
  unfold blsModulus
  norm_num only
  reduce_mod_char

theorem seven_pow_ne_one :
    ∀ factor ∈ groupOrderFactors, (7 : ZMod blsModulus) ^ ((blsModulus - 1) / factor.1) ≠ 1 := by
  unfold blsModulus
  simp only [groupOrderFactors, List.forall_mem_cons, List.not_mem_nil, false_implies,
    implies_true, and_true]
  norm_num only
  reduce_mod_char
  decide +kernel

/-- The order of the scalar field is prime: seven generates the multiplicative group. -/
theorem prime_blsModulus : blsModulus.Prime := by
  refine lucas_primality blsModulus 7 seven_pow_groupOrder fun prime isPrime divides => ?_
  obtain ⟨factor, listed, rfl⟩ := exists_mem_groupOrderFactors isPrime divides
  exact seven_pow_ne_one factor listed

local instance : Fact blsModulus.Prime := ⟨prime_blsModulus⟩

/-! ### The domain -/

/-- The lowest twelve bits of an index in reverse order. -/
def reversal (index : Nat) : Nat := (BitVec.ofNat 12 index).reverse.toNat

theorem reversal_lt (index : Nat) : reversal index < fieldElementsPerBlobV1 :=
  (BitVec.ofNat 12 index).reverse.isLt

theorem reversal_injOn : Set.InjOn reversal (Finset.range fieldElementsPerBlobV1) := by
  intro first firstMember second secondMember same
  have firstBound : first < 2 ^ 12 := Finset.mem_range.mp firstMember
  have secondBound : second < 2 ^ 12 := Finset.mem_range.mp secondMember
  have words : BitVec.ofNat 12 first = BitVec.ofNat 12 second := by
    have reversed := congrArg BitVec.reverse (BitVec.eq_of_toNat_eq same)
    rw [BitVec.reverse_reverse_eq, BitVec.reverse_reverse_eq] at reversed
    exact reversed
  have numbers := congrArg BitVec.toNat words
  rw [BitVec.toNat_ofNat, BitVec.toNat_ofNat, Nat.mod_eq_of_lt firstBound,
    Nat.mod_eq_of_lt secondBound] at numbers
  exact numbers

/-- Reversing a machine word and keeping its top twelve bits reverses the lowest twelve. -/
theorem reversedIndex_eq {primitives : Primitives} (wide : 12 ≤ primitives.usizeBits)
    (index : Nat) : reversedIndex primitives index = reversal index := by
  unfold reversedIndex reversal
  refine Nat.eq_of_testBit_eq fun position => ?_
  rw [← BitVec.getLsbD, ← BitVec.getLsbD, BitVec.getLsbD_ushiftRight, BitVec.getLsbD_reverse,
    BitVec.getLsbD_reverse, BitVec.getMsbD_eq_getLsbD, BitVec.getMsbD_eq_getLsbD,
    BitVec.getLsbD_ofNat, BitVec.getLsbD_ofNat]
  by_cases inside : position < 12
  · have mirrored : primitives.usizeBits - 1 - (primitives.usizeBits - 12 + position) =
        12 - 1 - position := by omega
    have shifted : primitives.usizeBits - 12 + position < primitives.usizeBits := by omega
    have kept : 12 - 1 - position < primitives.usizeBits := by omega
    have low : 12 - 1 - position < 12 := by omega
    simp only [mirrored, shifted, kept, low, inside, decide_true, Bool.true_and]
  · have shifted : ¬ primitives.usizeBits - 12 + position < primitives.usizeBits := by omega
    simp only [shifted, inside, decide_false, Bool.false_and]

section Domain

variable {primitives : Primitives} (hosting : HostingPrimitives)

/-- The point of the domain a field element stands at. -/
def domainPoint (index : Nat) : Scalar := domainGenerator hosting ^ reversal index

theorem domainRoots_eq (wide : 12 ≤ primitives.usizeBits) :
    domainRoots primitives hosting =
      .ok ((List.range fieldElementsPerBlobV1).map (domainPoint hosting)) := by
  refine mapM_eq_ok_map fun index _ => orRefuse_eq_ok.mpr ?_
  rw [reversedIndex_eq wide, List.getElem?_iterate _ _ _ _ (reversal_lt index),
    mul_right_iterate_apply_one, domainPoint]

variable {hosting}

theorem isPrimitiveRoot_domainGenerator
    (primitive : IsPrimitiveRoot hosting.rootOfUnity (2 ^ scalarTwoAdicity)) :
    IsPrimitiveRoot (domainGenerator hosting) fieldElementsPerBlobV1 :=
  primitive.pow (by decide) (by decide)

theorem domainPoint_injOn
    (primitive : IsPrimitiveRoot hosting.rootOfUnity (2 ^ scalarTwoAdicity)) :
    Set.InjOn (domainPoint hosting) (Finset.range fieldElementsPerBlobV1) := by
  intro first firstMember second secondMember same
  have exponents := (isPrimitiveRoot_domainGenerator primitive).pow_inj (reversal_lt first)
    (reversal_lt second) same
  exact reversal_injOn firstMember secondMember exponents

theorem domainPoint_pow
    (primitive : IsPrimitiveRoot hosting.rootOfUnity (2 ^ scalarTwoAdicity)) (index : Nat) :
    domainPoint hosting index ^ fieldElementsPerBlobV1 = 1 := by
  rw [domainPoint, pow_right_comm, (isPrimitiveRoot_domainGenerator primitive).pow_eq_one,
    one_pow]

end Domain

/-! ### The loop -/

theorem runningProducts_concat (denominators : List Scalar) (denominator : Scalar) :
    runningProducts (denominators ++ [denominator]) =
      ((runningProducts denominators).1 ++ [(runningProducts denominators).2],
        (runningProducts denominators).2 * denominator) := by
  unfold runningProducts
  rw [List.foldl_concat]

theorem runningProducts_spec (denominators : List Scalar) :
    (runningProducts denominators).1.length = denominators.length ∧
      (runningProducts denominators).2 = denominators.prod := by
  induction denominators using List.reverseRecOn with
  | nil => exact ⟨rfl, rfl⟩
  | append_singleton rest denominator inductionHypothesis =>
    obtain ⟨lengths, product⟩ := inductionHypothesis
    rw [runningProducts_concat, List.length_append, List.length_append, lengths, product,
      List.prod_append, List.prod_singleton]
    exact ⟨rfl, rfl⟩

theorem prod_denominators_ne_zero {denominatorOf : Scalar × Scalar → Scalar}
    {entries : List (Scalar × Scalar)} (nonzero : ∀ entry ∈ entries, denominatorOf entry ≠ 0) :
    (entries.map denominatorOf).prod ≠ 0 := by
  refine List.prod_ne_zero fun zero => ?_
  obtain ⟨entry, member, vanishes⟩ := List.mem_map.mp zero
  exact nonzero entry member vanishes

/-- The loop over the last part of a blob. What is left of the inverse is the inverse of the
product of the denominators still to come, so every step can take one out of it. -/
theorem foldl_addBarycentricTerm (denominatorOf : Scalar × Scalar → Scalar)
    (entries : List (Scalar × Scalar)) (nonzero : ∀ entry ∈ entries, denominatorOf entry ≠ 0)
    (sum : Scalar) :
    (entries.zip ((entries.map denominatorOf).zip
        (runningProducts (entries.map denominatorOf)).1)).reverse.foldl addBarycentricTerm
        ((entries.map denominatorOf).prod⁻¹, sum) =
      (1, sum + (entries.map fun entry => entry.1 * entry.2 * (denominatorOf entry)⁻¹).sum) := by
  induction entries using List.reverseRecOn generalizing sum with
  | nil => simp
  | append_singleton rest entry inductionHypothesis =>
    obtain ⟨earlier, last⟩ := List.forall_mem_append.mp nonzero
    have own : denominatorOf entry ≠ 0 := last entry (List.mem_singleton_self _)
    obtain ⟨lengths, product⟩ := runningProducts_spec (rest.map denominatorOf)
    have others := prod_denominators_ne_zero earlier
    have zipped : (rest ++ [entry]).zip ((rest.map denominatorOf ++ [denominatorOf entry]).zip
        ((runningProducts (rest.map denominatorOf)).1 ++ [(rest.map denominatorOf).prod])) =
        rest.zip ((rest.map denominatorOf).zip (runningProducts (rest.map denominatorOf)).1) ++
          [(entry, denominatorOf entry, (rest.map denominatorOf).prod)] := by
      rw [List.zip_append lengths.symm, List.zip_append]
      · rfl
      · rw [List.length_zip, lengths, List.length_map, Nat.min_self]
    have step : addBarycentricTerm (((rest.map denominatorOf).prod * denominatorOf entry)⁻¹, sum)
        (entry, denominatorOf entry, (rest.map denominatorOf).prod) =
        ((rest.map denominatorOf).prod⁻¹,
          sum + entry.1 * entry.2 * (denominatorOf entry)⁻¹) := by
      unfold addBarycentricTerm
      dsimp only
      rw [mul_inv]
      congr 1
      · field_simp
      · field_simp
    rw [List.map_append, List.map_singleton, runningProducts_concat, product, zipped,
      List.reverse_concat, List.foldl_cons, List.prod_append, List.prod_singleton, step,
      inductionHypothesis earlier, List.map_append, List.map_singleton, List.sum_append,
      List.sum_singleton]
    congr 1
    ring

/-! ### Evaluation -/

section Evaluation

variable {primitives : Primitives} {hosting : HostingPrimitives}

/-- The polynomials the field elements of a blob can be the values of. -/
def Interpolates (hosting : HostingPrimitives) (values : List Scalar)
    (polynomial : Polynomial Scalar) : Prop :=
  polynomial.degree < fieldElementsPerBlobV1 ∧
    ∀ index value, values[index]? = some value →
      polynomial.eval (domainGenerator hosting ^ reversal index) = value

theorem getElem?_eq_some_getD {values : List Scalar}
    (filled : values.length = fieldElementsPerBlobV1) {index : Nat}
    (bound : index < fieldElementsPerBlobV1) : values[index]? = some (values.getD index 0) := by
  have inside : index < values.length := filled ▸ bound
  rw [List.getElem?_eq_getElem inside, List.getD_eq_getElem _ _ inside]

theorem interpolates_iff
    (primitive : IsPrimitiveRoot hosting.rootOfUnity (2 ^ scalarTwoAdicity))
    {values : List Scalar} (filled : values.length = fieldElementsPerBlobV1)
    {polynomial : Polynomial Scalar} :
    Interpolates hosting values polynomial ↔
      polynomial = Lagrange.interpolate (Finset.range fieldElementsPerBlobV1)
        (domainPoint hosting) fun index => values.getD index 0 := by
  rw [← Lagrange.eq_interpolate_iff _ (domainPoint_injOn primitive), Finset.card_range]
  refine and_congr_right' ⟨fun takes index member => ?_, fun takes index value known => ?_⟩
  · exact takes index _ (getElem?_eq_some_getD filled (Finset.mem_range.mp member))
  · obtain ⟨inside, -⟩ := List.getElem?_eq_some_iff.mp known
    have bound : index < fieldElementsPerBlobV1 := filled ▸ inside
    rw [getElem?_eq_some_getD filled bound, Option.some.injEq] at known
    rw [← known]
    exact takes index (Finset.mem_range.mpr bound)

variable (hosting) in
/-- The barycentric sum over the entries of a blob, as a sum over its indices. -/
theorem sum_entries {values : List Scalar} (filled : values.length = fieldElementsPerBlobV1)
    (term : Scalar × Scalar → Scalar) :
    ((values.zip ((List.range fieldElementsPerBlobV1).map (domainPoint hosting))).map term).sum =
      ∑ index ∈ Finset.range fieldElementsPerBlobV1,
        term (values.getD index 0, domainPoint hosting index) := by
  have listed : values = (List.range fieldElementsPerBlobV1).map fun index =>
      values.getD index 0 := by
    refine List.ext_getElem? fun index => ?_
    rw [List.getElem?_map]
    by_cases bound : index < fieldElementsPerBlobV1
    · rw [getElem?_eq_some_getD filled bound, List.getElem?_range bound, Option.map_some]
    · rw [List.getElem?_eq_none (by omega), List.getElem?_eq_none (by simpa using bound),
        Option.map_none]
  have zipped : values.zip ((List.range fieldElementsPerBlobV1).map (domainPoint hosting)) =
      (List.range fieldElementsPerBlobV1).map fun index =>
        (values.getD index 0, domainPoint hosting index) := by
    nth_rewrite 1 [listed]
    exact List.zip_map'
  rw [zipped, List.map_map]
  rfl

theorem evaluateBlob_eq (wide : 12 ≤ primitives.usizeBits)
    (primitive : IsPrimitiveRoot hosting.rootOfUnity (2 ^ scalarTwoAdicity))
    {values : List Scalar} (filled : values.length = fieldElementsPerBlobV1) (point : Scalar) :
    evaluateBlob primitives hosting values point =
      .ok ((Lagrange.interpolate (Finset.range fieldElementsPerBlobV1) (domainPoint hosting)
        fun index => values.getD index 0).eval point) := by
  have distinct := domainPoint_injOn primitive
  refine bind_eq_ok.mpr ⟨_, domainRoots_eq hosting wide, ?_⟩
  split
  case h_1 index found =>
    obtain ⟨inside, atPoint, -⟩ := List.findIdx?_eq_some_iff_getElem.mp found
    have bound : index < fieldElementsPerBlobV1 := by simpa using inside
    have isPoint : domainPoint hosting index = point := by simpa using atPoint
    rw [orRefuse_eq_ok, ← isPoint,
      Lagrange.eval_interpolate_at_node _ distinct (Finset.mem_range.mpr bound)]
    exact getElem?_eq_some_getD filled bound
  case h_2 missing =>
    have off : ∀ index ∈ Finset.range fieldElementsPerBlobV1,
        point ≠ domainPoint hosting index := by
      intro index member same
      have absent := List.findIdx?_eq_none_iff.mp missing (domainPoint hosting index)
        (List.mem_map_of_mem (List.mem_range.mpr (Finset.mem_range.mp member)))
      rw [same] at absent
      simp at absent
    have sums := sum_entries hosting filled fun entry =>
      entry.1 * entry.2 * (point - entry.2)⁻¹
    have listed : ∀ root ∈ (List.range fieldElementsPerBlobV1).map (domainPoint hosting),
        point - root ≠ 0 := by
      intro root member
      obtain ⟨index, inRange, rfl⟩ := List.mem_map.mp member
      exact sub_ne_zero_of_ne (off index (Finset.mem_range.mpr (List.mem_range.mp inRange)))
    have sameLength : values.length =
        ((List.range fieldElementsPerBlobV1).map (domainPoint hosting)).length := by
      rw [List.length_map, List.length_range, filled]
    generalize (List.range fieldElementsPerBlobV1).map (domainPoint hosting) = roots at *
    have denominators : roots.map (fun root => point - root) =
        (values.zip roots).map fun entry => point - entry.2 := by
      nth_rewrite 1 [← List.map_snd_zip sameLength.ge]
      exact List.map_map
    have nonzero : ∀ entry ∈ values.zip roots, point - entry.2 ≠ 0 :=
      fun entry member => listed entry.2 (List.of_mem_zip member).2
    obtain ⟨-, product⟩ := runningProducts_spec ((values.zip roots).map fun entry =>
      point - entry.2)
    have count : (fieldElementsPerBlobV1 : Scalar) ≠ 0 := by decide +kernel
    rw [denominators]
    refine bind_eq_ok.mpr ⟨_, orRefuse_eq_ok.mpr (if_neg ?_), refuse_bind_eq_ok.mpr
      ⟨filled.not_lt, bind_eq_ok.mpr ⟨_, orRefuse_eq_ok.mpr (if_neg count),
        pure_eq_ok.mpr ?_⟩⟩⟩
    · rw [product]
      exact prod_denominators_ne_zero nonzero
    · rw [product, foldl_addBarycentricTerm _ _ nonzero, zero_add, sums,
        Barycentric.eval_interpolate distinct ⟨0, Finset.mem_range.mpr (by decide)⟩
          ?_ _ off, Finset.card_range]
      rw [Finset.card_range]
      exact fun index _ => domainPoint_pow primitive index

end Evaluation

/-- Blob evaluation is polynomial evaluation. One polynomial below the size of the domain takes
the values of the blob in the reversed order of the domain, and the code returns its value at
every point. -/
theorem evaluateBlob_interpolates (primitives : Primitives) (hosting : HostingPrimitives)
    (wide : 12 ≤ primitives.usizeBits)
    (primitive : IsPrimitiveRoot hosting.rootOfUnity (2 ^ scalarTwoAdicity))
    (values : List Scalar) (filled : values.length = fieldElementsPerBlobV1) (point : Scalar) :
    ∃ polynomial, (∀ other, Interpolates hosting values other ↔ other = polynomial) ∧
      evaluateBlob primitives hosting values point = .ok (polynomial.eval point) :=
  ⟨_, fun _ => interpolates_iff primitive filled, evaluateBlob_eq wide primitive filled point⟩

/-- The hash of the sample room, and a root of unity of the full two-power order. -/
def sampleHosting : HostingPrimitives where
  sha256 := sampleDigest
  rootOfUnity := 7 ^ ((blsModulus - 1) / 2 ^ 32)

theorem isPrimitiveRoot_sampleHosting :
    IsPrimitiveRoot sampleHosting.rootOfUnity (2 ^ scalarTwoAdicity) := by
  rw [IsPrimitiveRoot.iff_orderOf]
  refine orderOf_eq_prime_pow ?_ ?_
  · have half : (blsModulus - 1) / 2 ^ 32 * 2 ^ 31 = (blsModulus - 1) / 2 := by decide
    rw [sampleHosting, ← pow_mul, half]
    exact seven_pow_ne_one (2, 32) (by decide)
  · have whole : (blsModulus - 1) / 2 ^ 32 * 2 ^ (31 + 1) = blsModulus - 1 := by decide
    rw [sampleHosting, ← pow_mul, whole]
    exact seven_pow_groupOrder

/-- A blob that is five everywhere evaluates to five, off the domain and on it. -/
theorem evaluateBlob_interpolates_sample :
    evaluateBlob samplePrimitives sampleHosting (List.replicate fieldElementsPerBlobV1 5) 3 =
        .ok 5 ∧
      evaluateBlob samplePrimitives sampleHosting (List.replicate fieldElementsPerBlobV1 5) 1 =
        .ok 5 := by
  have everywhere : ∀ point : Scalar, evaluateBlob samplePrimitives sampleHosting
      (List.replicate fieldElementsPerBlobV1 5) point = .ok 5 := by
    intro point
    obtain ⟨polynomial, unique, evaluated⟩ := evaluateBlob_interpolates samplePrimitives
      sampleHosting (by decide) isPrimitiveRoot_sampleHosting _ List.length_replicate point
    have constant : Interpolates sampleHosting (List.replicate fieldElementsPerBlobV1 5)
        (Polynomial.C 5) := by
      refine ⟨Polynomial.degree_C_le.trans_lt (by norm_num [fieldElementsPerBlobV1]), ?_⟩
      intro index value known
      obtain ⟨-, rfl⟩ := List.mem_replicate.mp (List.mem_of_getElem? known)
      exact Polynomial.eval_C
    rw [evaluated, ← (unique _).mp constant, Polynomial.eval_C]
  exact ⟨everywhere 3, everywhere 1⟩

end Zkdeal
