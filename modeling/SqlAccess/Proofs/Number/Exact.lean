import SqlAccess.Number.Binary

/-!
# Exact conversions

A fraction that is a magnitude of a format is rounded to that magnitude.  So a
number survives the way into a wider format and back.

* `Format.Spells` — the step and the significand behind a rank;
* `Format.nearestRank_of_units` — a magnitude is its own rounding;
* `Format.Widens` — when one format has all magnitudes of another;
* `Binary.toFormat_toFormat` — into a wider format and back.
-/

namespace SqlAccess

/-- A multiple of the divisor needs no rounding. -/
theorem roundHalfEven_mul (m : Nat) {d : Nat} (hd : 0 < d) : roundHalfEven (m * d) d = m := by
  have hmod : m * d % d = 0 := Nat.mul_mod_left m d
  have hdiv : m * d / d = m := Nat.mul_div_cancel m hd
  unfold roundHalfEven
  rw [hmod, hdiv, if_pos (by omega)]

namespace Format

variable {F G : Format}

/-- The rank is that of `significand` steps, each doubled so often; all
significands but the smallest steps' have their first bit. -/
structure Spells (F : Format) (rank doublings significand : Nat) : Prop where
  rank_eq : rank = doublings * 2 ^ F.precision + significand
  significand_lt : significand < 2 ^ (F.precision + 1)
  normal : doublings = 0 ∨ 2 ^ F.precision ≤ significand

/-- Every rank is spelled somehow. -/
theorem exists_spells (F : Format) (rank : Nat) : ∃ k m, F.Spells rank k m ∧
    k ≤ rank / 2 ^ F.precision := by
  have hpos : 0 < 2 ^ F.precision := Nat.two_pow_pos _
  have hsucc : 2 ^ (F.precision + 1) = 2 * 2 ^ F.precision := Nat.pow_succ'
  by_cases hsmall : rank < 2 ^ (F.precision + 1)
  · exact ⟨0, rank, ⟨by simp, hsmall, Or.inl rfl⟩, Nat.zero_le _⟩
  · obtain ⟨k, hk⟩ : ∃ k, rank / 2 ^ F.precision = k + 1 := by
      have hone : 1 ≤ rank / 2 ^ F.precision := by
        rw [Nat.le_div_iff_mul_le hpos]
        omega
      exact ⟨rank / 2 ^ F.precision - 1, by omega⟩
    have hrank := Nat.div_add_mod rank (2 ^ F.precision)
    have hmod := Nat.mod_lt rank hpos
    have hsplit : 2 ^ F.precision * (k + 1) = k * 2 ^ F.precision + 2 ^ F.precision := by grind
    rw [hk] at hrank
    refine ⟨k, 2 ^ F.precision + rank % 2 ^ F.precision, ⟨?_, ?_, Or.inr ?_⟩, ?_⟩
    · omega
    · omega
    · omega
    · omega

namespace Spells

variable {rank k m : Nat}

/-- The magnitude of a spelling. -/
theorem units_eq (h : F.Spells rank k m) : F.units rank = m * 2 ^ k := by
  have hpos : 0 < 2 ^ F.precision := Nat.two_pow_pos _
  have hsucc : 2 ^ (F.precision + 1) = 2 * 2 ^ F.precision := Nat.pow_succ'
  have hlt := h.significand_lt
  have hdoublings : F.doublings rank = k := by
    -- The significand adds 1 to the quotient if it has its first bit, else nothing.
    unfold doublings
    rw [h.rank_eq, Nat.add_comm, Nat.add_mul_div_right _ _ hpos]
    have hquot : m / 2 ^ F.precision < 2 := by
      rw [Nat.div_lt_iff_lt_mul hpos]
      omega
    rcases h.normal with rfl | hm
    · omega
    · have hone : 1 ≤ m / 2 ^ F.precision := by
        rw [Nat.le_div_iff_mul_le hpos]
        omega
      omega
  unfold units significand
  rw [hdoublings, h.rank_eq, Nat.add_sub_cancel_left]

/-- How often its step is doubled can be told from the magnitude. -/
theorem log2_units (h : F.Spells rank k m) : (F.units rank).log2 - F.precision = k := by
  have hlt := h.significand_lt
  rw [h.units_eq]
  by_cases hm : m = 0
  · subst hm
    rcases h.normal with rfl | hle
    · simp
    · exact absurd hle (by have := Nat.two_pow_pos F.precision; omega)
  · have hunits : m * 2 ^ k ≠ 0 := Nat.mul_ne_zero hm (Nat.ne_of_gt (Nat.two_pow_pos k))
    have hupper : (m * 2 ^ k).log2 < F.precision + 1 + k := by
      rw [Nat.log2_lt hunits, Nat.pow_add]
      exact Nat.mul_lt_mul_of_pos_right hlt (Nat.two_pow_pos k)
    rcases h.normal with rfl | hle
    · omega
    · have hlower : F.precision + k ≤ (m * 2 ^ k).log2 := by
        rw [Nat.le_log2 hunits, Nat.pow_add]
        exact Nat.mul_le_mul_right _ hle
      omega

end Spells

/-- **A magnitude is its own rounding.** -/
theorem nearestRank_of_units {rank n d : Nat} (hd : 0 < d)
    (h : n * 2 ^ F.stepExponent = F.units rank * d) : F.nearestRank n d = rank := by
  obtain ⟨k, m, hspells, _⟩ := F.exists_spells rank
  have hdiv : n * 2 ^ F.stepExponent / d = F.units rank := by
    rw [h, Nat.mul_div_cancel _ hd]
  -- So many doublings are read off the quotient, and then nothing is left to round.
  have hscaled : n * 2 ^ F.stepExponent = m * (d * 2 ^ k) := by
    rw [h, hspells.units_eq]
    grind
  simp only [nearestRank, hdiv, hspells.log2_units]
  rw [hscaled, roundHalfEven_mul m (Nat.mul_pos hd (Nat.two_pow_pos k)), ← hspells.rank_eq]

theorem nearest_of_units {rank : F.Rank} {n d : Nat} (hd : 0 < d)
    (h : n * 2 ^ F.stepExponent = F.units rank * d) : F.nearest n d = rank := by
  have hrank := rank.isLt
  apply Fin.ext
  simp only [nearest, nearestRank_of_units hd h]
  omega

/-- Every short significand is a magnitude, however often its step is
doubled. -/
theorem exists_units (F : Format) (k : Nat) {m : Nat} (hm : m < 2 ^ (F.precision + 1)) :
    ∃ rank, F.units rank = m * 2 ^ k ∧ rank < (k + 2) * 2 ^ F.precision := by
  have hsucc : 2 ^ (F.precision + 1) = 2 * 2 ^ F.precision := Nat.pow_succ'
  induction k generalizing m with
  | zero =>
      have hspells : F.Spells m 0 m := ⟨by simp, hm, Or.inl rfl⟩
      exact ⟨m, hspells.units_eq, by omega⟩
  | succ k ih =>
      by_cases hshort : m < 2 ^ F.precision
      · -- A short significand is doubled for one doubling less.
        obtain ⟨rank, hunits, hlt⟩ := ih (by omega : 2 * m < 2 ^ (F.precision + 1))
        refine ⟨rank, ?_, ?_⟩
        · rw [hunits]
          grind
        · calc rank < (k + 2) * 2 ^ F.precision := hlt
            _ ≤ (k + 1 + 2) * 2 ^ F.precision := Nat.mul_le_mul_right _ (by omega)
      · have hspells : F.Spells ((k + 1) * 2 ^ F.precision + m) (k + 1) m :=
          ⟨rfl, hm, Or.inr (by omega)⟩
        refine ⟨_, hspells.units_eq, ?_⟩
        have hsplit : (k + 1 + 2) * 2 ^ F.precision =
            (k + 1) * 2 ^ F.precision + 2 * 2 ^ F.precision := by grind
        omega

/-- `G` has room for all finite magnitudes of `F`. -/
structure Widens (F G : Format) : Prop where
  precision_le : F.precision ≤ G.precision
  step_le : F.stepExponent ≤ G.stepExponent
  room : (F.infinityRank / 2 ^ F.precision + (G.stepExponent - F.stepExponent) + 2) *
    2 ^ G.precision ≤ G.infinityRank

/-- Numbers of 64 bits have room for those of 32 bits. -/
theorem single_widens_double : single.Widens double := by
  exact ⟨by decide, by decide, by decide +kernel⟩

/-- A finite magnitude is one of the wider format, too. -/
theorem Widens.exists_units (h : F.Widens G) {rank : Nat} (hrank : rank < F.infinityRank) :
    ∃ wide < G.infinityRank,
      G.units wide = F.units rank * 2 ^ (G.stepExponent - F.stepExponent) := by
  obtain ⟨k, m, hspells, hk⟩ := F.exists_spells rank
  have hprecision : F.precision + 1 ≤ G.precision + 1 := Nat.succ_le_succ h.precision_le
  have hm : m < 2 ^ (G.precision + 1) :=
    calc m < 2 ^ (F.precision + 1) := hspells.significand_lt
      _ ≤ 2 ^ (G.precision + 1) := Nat.pow_le_pow_right (by decide) hprecision
  obtain ⟨wide, hunits, hwide⟩ := G.exists_units (k + (G.stepExponent - F.stepExponent)) hm
  refine ⟨wide, ?_, ?_⟩
  · have hdiv : rank / 2 ^ F.precision ≤ F.infinityRank / 2 ^ F.precision :=
      Nat.div_le_div_right (Nat.le_of_lt hrank)
    calc wide < (k + (G.stepExponent - F.stepExponent) + 2) * 2 ^ G.precision := hwide
      _ ≤ (F.infinityRank / 2 ^ F.precision + (G.stepExponent - F.stepExponent) + 2) *
          2 ^ G.precision := Nat.mul_le_mul_right _ (by omega)
      _ ≤ G.infinityRank := h.room
  · rw [hunits, hspells.units_eq]
    grind

end Format

namespace Binary

variable {F G : Format}

/-- **A number survives the way into a wider format and back.** -/
theorem toFormat_toFormat (h : F.Widens G) (x : Binary F) : (x.toFormat G).toFormat F = x := by
  cases x with
  | nan => rfl
  | number negative rank =>
      by_cases hinf : rank = F.infinity
      · simp only [toFormat, hinf, if_pos]
      · have hfinite : (rank : Nat) < F.infinityRank := by
          have hne : (rank : Nat) ≠ F.infinityRank := fun heq => hinf (Fin.ext heq)
          have := rank.isLt
          omega
        obtain ⟨wide, hwide, hunits⟩ := h.exists_units hfinite
        have hpow : 2 ^ G.stepExponent =
            2 ^ (G.stepExponent - F.stepExponent) * 2 ^ F.stepExponent := by
          rw [← Nat.pow_add, Nat.sub_add_cancel h.step_le]
        have hinto : G.nearest (F.units rank) (2 ^ F.stepExponent) = ⟨wide, by omega⟩ := by
          apply Format.nearest_of_units (Nat.two_pow_pos _)
          rw [hunits, hpow]
          grind
        have hback : F.nearest (G.units wide) (2 ^ G.stepExponent) = rank := by
          apply Format.nearest_of_units (Nat.two_pow_pos _)
          rw [hunits, hpow]
          grind
        have hne : (⟨wide, by omega⟩ : G.Rank) ≠ G.infinity := fun heq =>
          absurd (congrArg Fin.val heq) (Nat.ne_of_lt hwide)
        simp only [toFormat, if_neg hinf, hinto, if_neg hne, hback]

end Binary

end SqlAccess
