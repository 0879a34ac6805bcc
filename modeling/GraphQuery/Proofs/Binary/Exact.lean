import GraphQuery.Binary.Basic
import Mathlib.Algebra.Order.Ring.Nat
import Mathlib.Order.Monotone.Basic
import Mathlib.Tactic.Ring

namespace GraphQuery

namespace BinaryFormat

variable (F : BinaryFormat)

/-- A rank is an exponent field above a fraction. -/
theorem exists_fields (rank : Nat) :
    ∃ field fraction, fraction < 2 ^ F.fractionBits ∧
      rank = 2 ^ F.fractionBits * field + fraction :=
  ⟨_, _, Nat.mod_lt _ (Nat.two_pow_pos _), (Nat.div_add_mod rank (2 ^ F.fractionBits)).symm⟩

theorem units_fields {field fraction : Nat} (hfraction : fraction < 2 ^ F.fractionBits) :
    F.units (2 ^ F.fractionBits * field + fraction) =
      if field = 0 then fraction else (2 ^ F.fractionBits + fraction) * 2 ^ (field - 1) := by
  have hdiv : (2 ^ F.fractionBits * field + fraction) / 2 ^ F.fractionBits = field := by
    rw [Nat.mul_add_div (Nat.two_pow_pos _), Nat.div_eq_of_lt hfraction, Nat.add_zero]
  have hmod : (2 ^ F.fractionBits * field + fraction) % 2 ^ F.fractionBits = fraction := by
    rw [Nat.mul_add_mod, Nat.mod_eq_of_lt hfraction]
  simp only [units, Nat.shiftLeft_eq, Nat.one_mul, Nat.shiftRight_eq_div_pow, hdiv, hmod]

/-- The magnitude of a rank is an integer of at most as many bits as a significand has, scaled by a
    power of two. -/
theorem units_eq_mul (rank : Nat) :
    ∃ significand exponent, significand < 2 ^ (F.fractionBits + 1) ∧
      F.units rank = significand * 2 ^ exponent := by
  obtain ⟨field, fraction, hfraction, rfl⟩ := F.exists_fields rank
  rw [F.units_fields hfraction]
  by_cases hfield : field = 0
  · exact ⟨fraction, 0, by omega, by simp [hfield]⟩
  · exact ⟨2 ^ F.fractionBits + fraction, field - 1, by omega, if_neg hfield⟩

/-- The magnitude of the rank that is made of a significand and the number of bits cut off behind
    it. Where bits were cut off the significand has its full length. -/
theorem units_significand {significand shift : Nat}
    (hshort : significand < 2 ^ (F.fractionBits + 1))
    (hnormal : 2 ^ F.fractionBits ≤ significand ∨ shift = 0) :
    F.units ((shift <<< F.fractionBits) + significand) = significand * 2 ^ shift := by
  rw [Nat.shiftLeft_eq]
  by_cases hfull : 2 ^ F.fractionBits ≤ significand
  · -- The leading bit of the significand is carried into the exponent field.
    obtain ⟨fraction, rfl⟩ := Nat.exists_eq_add_of_le hfull
    have hcarry : shift * 2 ^ F.fractionBits + (2 ^ F.fractionBits + fraction) =
        2 ^ F.fractionBits * (shift + 1) + fraction := by ring
    rw [hcarry, F.units_fields (by omega), if_neg (Nat.succ_ne_zero _), Nat.add_sub_cancel]
  · have hshift : shift = 0 := hnormal.resolve_left hfull
    have hzero : 0 * 2 ^ F.fractionBits + significand = 2 ^ F.fractionBits * 0 + significand := by
      ring
    rw [hshift, hzero, F.units_fields (by omega), if_pos rfl, Nat.pow_zero, Nat.mul_one]

theorem units_lt_units_succ (rank : Nat) : F.units rank < F.units (rank + 1) := by
  obtain ⟨field, fraction, hfraction, rfl⟩ := F.exists_fields rank
  by_cases hnext : fraction + 1 < 2 ^ F.fractionBits
  · rw [Nat.add_assoc, F.units_fields hfraction, F.units_fields hnext]
    by_cases hfield : field = 0
    · simp [hfield]
    · rw [if_neg hfield, if_neg hfield]
      exact Nat.mul_lt_mul_of_pos_right (by omega) (Nat.two_pow_pos _)
  · -- The fraction runs over, and the exponent field is the next one.
    have hcarry : 2 ^ F.fractionBits * field + fraction + 1 =
        2 ^ F.fractionBits * (field + 1) + 0 := by
      rw [Nat.mul_add_one]
      omega
    rw [hcarry, F.units_fields hfraction, F.units_fields (Nat.two_pow_pos _),
      if_neg (Nat.succ_ne_zero _), Nat.add_sub_cancel, Nat.add_zero]
    cases field with
    | zero => simpa using hfraction
    | succ field =>
      rw [if_neg (Nat.succ_ne_zero _), Nat.add_sub_cancel, Nat.pow_succ, Nat.mul_comm (2 ^ field),
        ← Nat.mul_assoc]
      exact Nat.mul_lt_mul_of_pos_right (by omega) (Nat.two_pow_pos _)

theorem units_strictMono : StrictMono F.units :=
  strictMono_nat_of_lt_succ F.units_lt_units_succ

/-- No finite magnitude is above the greatest one, in whatever units they are compared. -/
theorem units_shiftLeft_le {rank : Nat} (hrank : rank < F.infinityRank) (more : Nat) :
    F.units rank <<< more ≤ F.units (F.infinityRank - 1) <<< more := by
  have hbound : F.units rank ≤ F.units (F.infinityRank - 1) :=
    F.units_strictMono.monotone (by omega)
  rw [Nat.shiftLeft_eq, Nat.shiftLeft_eq]
  exact Nat.mul_le_mul_right _ hbound

/-- Where no bits are lost by cutting, the nearest rank is made of the remaining ones. -/
theorem nearestRank_of_dvd {n den quotient : Nat} (hden : 0 < den)
    (hquotient : n = 2 ^ (n.log2 - F.fractionBits) * quotient) :
    F.nearestRank (n * den) den =
      min (((n.log2 - F.fractionBits) <<< F.fractionBits) + quotient) F.infinityRank := by
  have hstep : 0 < den * 2 ^ (n.log2 - F.fractionBits) := Nat.mul_pos hden (Nat.two_pow_pos _)
  have hnum : n * den = den * 2 ^ (n.log2 - F.fractionBits) * quotient := by
    rw [Nat.mul_comm, Nat.mul_assoc, ← hquotient]
  unfold nearestRank
  simp only [Nat.mul_div_cancel n hden, Nat.shiftLeft_eq den]
  rw [hnum, Nat.mul_div_cancel_left _ hstep, Nat.mul_mod_right, if_pos (Or.inl (by simpa))]

/-- What remains of an integer when it is cut to the length of a significand is a significand. -/
theorem significand_of_cut (n : Nat) :
    n / 2 ^ (n.log2 - F.fractionBits) < 2 ^ (F.fractionBits + 1) ∧
      (2 ^ F.fractionBits ≤ n / 2 ^ (n.log2 - F.fractionBits) ∨ n.log2 - F.fractionBits = 0) := by
  have hcut : 0 < 2 ^ (n.log2 - F.fractionBits) := Nat.two_pow_pos _
  constructor
  · rw [Nat.div_lt_iff_lt_mul hcut, ← Nat.pow_add]
    have hlength : n.log2 + 1 ≤ F.fractionBits + 1 + (n.log2 - F.fractionBits) := by omega
    exact Nat.lt_of_lt_of_le Nat.lt_log2_self (Nat.pow_le_pow_right (by omega) hlength)
  · by_cases hwhole : n.log2 - F.fractionBits = 0
    · exact Or.inr hwhole
    · refine Or.inl ((Nat.le_div_iff_mul_le hcut).mpr ?_)
      have hzero : n ≠ 0 := fun hzero => hwhole (by simp [hzero])
      have hlength : F.fractionBits + (n.log2 - F.fractionBits) = n.log2 := by omega
      rw [← Nat.pow_add, hlength]
      exact Nat.log2_self_le hzero

/-- An integer that needs no more bits than a significand has, save for zeros behind them, is the
    magnitude nearest to itself. -/
theorem units_nearestRank {den significand : Nat} (exponent : Nat) (hden : 0 < den)
    (hshort : significand < 2 ^ (F.fractionBits + 1))
    (hfinite : F.nearestRank (significand * 2 ^ exponent * den) den < F.infinityRank) :
    F.units (F.nearestRank (significand * 2 ^ exponent * den) den) =
      significand * 2 ^ exponent := by
  -- The bits cut off are among the zeros.
  have hzeros : (significand * 2 ^ exponent).log2 - F.fractionBits ≤ exponent := by
    by_cases hzero : significand * 2 ^ exponent = 0
    · simp [hzero]
    · have hbound : significand * 2 ^ exponent < 2 ^ (F.fractionBits + 1 + exponent) := by
        rw [Nat.pow_add]
        exact Nat.mul_lt_mul_of_pos_right hshort (Nat.two_pow_pos _)
      have hlength := (Nat.log2_lt hzero).mpr hbound
      omega
  obtain ⟨quotient, hquotient⟩ := Dvd.dvd.mul_left (Nat.pow_dvd_pow 2 hzeros) significand
  have hcut : quotient = significand * 2 ^ exponent /
      2 ^ ((significand * 2 ^ exponent).log2 - F.fractionBits) :=
    (Nat.div_eq_of_eq_mul_right (Nat.two_pow_pos _) hquotient).symm
  obtain ⟨hquotientShort, hnormal⟩ := F.significand_of_cut (significand * 2 ^ exponent)
  rw [← hcut] at hquotientShort hnormal
  have hrank := F.nearestRank_of_dvd hden hquotient
  rw [hrank] at hfinite ⊢
  rw [Nat.min_eq_left (by omega), F.units_significand hquotientShort hnormal, Nat.mul_comm,
    ← hquotient]

/-- Rounding does not lead past a number that is not below. -/
theorem nearestRank_le {num den rank : Nat} (hden : 0 < den) (hle : num ≤ F.units rank * den) :
    F.nearestRank num den ≤ rank := by
  let shift := Nat.log2 (num / den) - F.fractionBits
  have hstep : den <<< shift = den * 2 ^ shift := Nat.shiftLeft_eq ..
  have hunits : F.units ((shift <<< F.fractionBits) + num / den <<< shift) =
      num / den <<< shift * 2 ^ shift := by
    obtain ⟨hshort, hnormal⟩ := F.significand_of_cut (num / den)
    rw [Nat.div_div_eq_div_mul, ← hstep] at hshort hnormal
    exact F.units_significand hshort hnormal
  have hparts := Nat.div_add_mod num (den <<< shift)
  have hscaled : den <<< shift * (num / den <<< shift) = num / den <<< shift * 2 ^ shift * den := by
    rw [hstep]
    ring
  refine (Nat.min_le_left _ _).trans ?_
  by_cases hdown : 2 * (num % den <<< shift) < den <<< shift ∨
      (2 * (num % den <<< shift) = den <<< shift ∧ num / den <<< shift % 2 = 0)
  · rw [if_pos hdown, ← F.units_strictMono.le_iff_le, hunits]
    refine Nat.le_of_mul_le_mul_right ?_ hden
    omega
  · -- What is cut off is not zero, so that the number lies strictly above what remains.
    have hwhole : 0 < den <<< shift := hstep ▸ Nat.mul_pos hden (Nat.two_pow_pos _)
    have hpositive : 0 < num % den <<< shift := by omega
    rw [if_neg hdown, ← Nat.add_assoc, Nat.add_one_le_iff, ← F.units_strictMono.lt_iff_lt, hunits]
    refine Nat.lt_of_mul_lt_mul_right (a := den) ?_
    omega

/-- The rank of a finite magnitude is the nearest one to it. -/
theorem nearestRank_units {den rank : Nat} (hden : 0 < den) (hfinite : rank < F.infinityRank) :
    F.nearestRank (F.units rank * den) den = rank := by
  have hle : F.nearestRank (F.units rank * den) den ≤ rank := F.nearestRank_le hden le_rfl
  obtain ⟨significand, exponent, hshort, hunits⟩ := F.units_eq_mul rank
  apply F.units_strictMono.injective
  rw [hunits] at hle ⊢
  exact F.units_nearestRank exponent hden hshort (by omega)

end BinaryFormat

namespace Binary

open BinaryFormat

variable {F G : BinaryFormat}

/-- What a number becomes in a wider format has the magnitude that it had, if it is finite there. -/
theorem units_convert (hfraction : F.fractionBits ≤ G.fractionBits)
    (hexponent : F.unitExponent ≤ G.unitExponent) (rank : Nat)
    (hfinite : G.nearestRank (F.units rank <<< G.unitExponent) (1 <<< F.unitExponent) <
      G.infinityRank) :
    G.units (G.nearestRank (F.units rank <<< G.unitExponent) (1 <<< F.unitExponent)) <<<
      F.unitExponent = F.units rank <<< G.unitExponent := by
  obtain ⟨significand, exponent, hshort, hunits⟩ := F.units_eq_mul rank
  obtain ⟨more, hmore⟩ := Nat.exists_eq_add_of_le hexponent
  have hscaled : F.units rank <<< G.unitExponent =
      significand * 2 ^ (exponent + more) * 2 ^ F.unitExponent := by
    rw [Nat.shiftLeft_eq, hunits, hmore, Nat.pow_add, Nat.pow_add]
    ring
  have hwide : significand < 2 ^ (G.fractionBits + 1) :=
    Nat.lt_of_lt_of_le hshort (Nat.pow_le_pow_right (by omega) (by omega))
  rw [Nat.shiftLeft_eq 1, Nat.one_mul, hscaled] at hfinite ⊢
  rw [G.units_nearestRank _ (Nat.two_pow_pos _) hwide hfinite, Nat.shiftLeft_eq]

theorem isFinite_ofUnits {negative : Bool} {num den : Nat} (hden : 0 < den)
    (hpositive : 0 < F.infinityRank) (hle : num ≤ F.units (F.infinityRank - 1) * den) :
    (ofUnits negative num den : Binary F).isFinite = true := by
  have hrank := F.nearestRank_le hden hle
  exact decide_eq_true (show F.nearestRank num den < F.infinityRank by omega)

/-- A number in the range of a format is finite there. -/
theorem isFinite_convert (hpositive : 0 < G.infinityRank) {x : Binary F}
    (hrange : x.withinRange G = true) : (x.convert G).isFinite = true := by
  cases x with
  | nan => cases hrange
  | signed negative rank =>
    simp only [withinRange, Bool.and_eq_true, decide_eq_true_eq] at hrange
    obtain ⟨hrank, hle⟩ := hrange
    rw [convert, if_pos hrank, Nat.shiftLeft_eq 1, Nat.one_mul]
    rw [Nat.shiftLeft_eq (G.units _)] at hle
    exact isFinite_ofUnits (Nat.two_pow_pos _) hpositive hle

/-- Every finite number is in the range of a format that the greatest one is in the range of. -/
theorem withinRange_of_isFinite {x : Binary F} (hgreatest : F.units (F.infinityRank - 1) <<<
        G.unitExponent ≤ G.units (G.infinityRank - 1) <<< F.unitExponent)
    (hfinite : x.isFinite = true) : x.withinRange G = true := by
  cases x with
  | nan => cases hfinite
  | signed negative rank =>
    have hrank : rank.val < F.infinityRank := of_decide_eq_true hfinite
    simp [withinRange, hrank, (F.units_shiftLeft_le hrank _).trans hgreatest]

/-- What a finite number becomes in a wider format is in the range of the narrow one. -/
theorem withinRange_convert (hfraction : F.fractionBits ≤ G.fractionBits)
    (hexponent : F.unitExponent ≤ G.unitExponent) {x : Binary F} (hfinite : x.isFinite = true)
    (hwide : (x.convert G).isFinite = true) : (x.convert G).withinRange F = true := by
  cases x with
  | nan => cases hfinite
  | signed negative rank =>
    have hrank : rank.val < F.infinityRank := of_decide_eq_true hfinite
    rw [convert, if_pos hrank] at hwide ⊢
    have hwide : G.nearestRank (F.units rank.val <<< G.unitExponent) (1 <<< F.unitExponent) <
      G.infinityRank := of_decide_eq_true hwide
    simp [ofUnits, withinRange, hwide, units_convert hfraction hexponent _ hwide,
      F.units_shiftLeft_le hrank]

/-- A finite number that is finite in a wider format too is rounded back to itself. -/
theorem convert_convert (hfraction : F.fractionBits ≤ G.fractionBits)
    (hexponent : F.unitExponent ≤ G.unitExponent) {x : Binary F} (hfinite : x.isFinite = true)
    (hwide : (x.convert G).isFinite = true) : (x.convert G).convert F = x := by
  cases x with
  | nan => cases hfinite
  | signed negative rank =>
    have hrank : rank.val < F.infinityRank := of_decide_eq_true hfinite
    have hconvert : (signed negative rank : Binary F).convert G =
        ofUnits negative (F.units rank.val <<< G.unitExponent) (1 <<< F.unitExponent) :=
      if_pos hrank
    rw [hconvert] at hwide ⊢
    have hwide : G.nearestRank (F.units rank.val <<< G.unitExponent) (1 <<< F.unitExponent) <
      G.infinityRank := of_decide_eq_true hwide
    have hback : F.nearestRank (F.units rank.val <<< G.unitExponent) (1 <<< G.unitExponent) =
        rank.val := by
      rw [Nat.shiftLeft_eq, Nat.shiftLeft_eq, Nat.one_mul]
      exact F.nearestRank_units (Nat.two_pow_pos _) hrank
    rw [ofUnits, convert, if_pos hwide, units_convert hfraction hexponent _ hwide, ofUnits]
    congr 1
    exact Fin.ext hback

/-- An infinity stays one when it is converted. -/
theorem isFinite_of_isFinite_convert {x : Binary F} (hfinite : (x.convert G).isFinite = true) :
    x.isFinite = true := by
  cases x with
  | nan => cases hfinite
  | signed negative rank =>
    by_contra hinfinite
    rw [convert, if_neg (by simpa [isFinite] using hinfinite)] at hfinite
    simp [infinity, isFinite] at hfinite

/-- A finite number that is kept when it is rounded to a narrower format and read back is in the
    range of that format. -/
theorem withinRange_of_convert_convert (hfraction : F.fractionBits ≤ G.fractionBits)
    (hexponent : F.unitExponent ≤ G.unitExponent) {x : Binary G} (hfinite : x.isFinite = true)
    (hkept : (x.convert F).convert G = x) : x.withinRange F = true := by
  rw [← hkept] at hfinite
  have hnarrowed := isFinite_of_isFinite_convert hfinite
  have hrange := withinRange_convert hfraction hexponent hnarrowed hfinite
  rwa [hkept] at hrange

/-- A number that is widened is in the range it comes from. -/
theorem withinRange_widen {x : Single} (hfinite : x.isFinite = true) :
    x.widen.isFinite = true ∧ x.widen.withinRange .single = true := by
  have hgreatest : BinaryFormat.single.units (BinaryFormat.single.infinityRank - 1) <<<
        BinaryFormat.double.unitExponent ≤
      BinaryFormat.double.units (BinaryFormat.double.infinityRank - 1) <<<
        BinaryFormat.single.unitExponent := by
    decide +kernel
  have hwide := isFinite_convert (by decide) (withinRange_of_isFinite hgreatest hfinite)
  exact ⟨hwide, withinRange_convert (by decide) (by decide) hfinite hwide⟩

/-- An integer of 64 bits is not rounded to infinity. -/
theorem isFinite_ofInt {n : Int} (hbound : n.natAbs ≤ 2 ^ 64) :
    (ofInt n : Double).isFinite = true := by
  have hgreatest : 2 ^ 64 <<< BinaryFormat.double.unitExponent ≤
      BinaryFormat.double.units (BinaryFormat.double.infinityRank - 1) := by
    decide +kernel
  refine isFinite_ofUnits Nat.one_pos (by decide) ?_
  rw [Nat.mul_one]
  refine le_trans ?_ hgreatest
  rw [Nat.shiftLeft_eq, Nat.shiftLeft_eq]
  exact Nat.mul_le_mul_right _ hbound

end Binary

end GraphQuery
