import Blueprint.Number.Literal
import Blueprint.Proofs.Number.Rounding

/-!
# Decimals rounded to doubles

Converting a decimal `d * 10^x` to a double takes one of two paths. When the digits and the power
of ten are both doubles, one multiplication or division rounds the result; otherwise the logical
model multiplies the digits, shifted to 53 bits, by the power, or divides them by it. Either way
the value is rounded once, so the conversion is correct: the decimal becomes the double whose
interval holds it (`unpack_ofScientific_of_rounds`). The reader of decimal literals inherits this,
since its guards for decimals far out of range never apply to such a value
(`unpack_ofDecimal_of_rounds`).

Products round through `mul_of_rounds`. Quotients round through `div_of_rounds`, whose integer
quotient is taken at an exponent low enough to give it 53 bits (`divCore_coarse`).
-/

namespace Blueprint.Number

open Float.Model Float.Model.UnpackedFloat

/-! ## Products and quotients of positive doubles -/

/-- The accuracy of a remainder locates a quotient of naturals from its integer part. -/
theorem locates_fraction (n : ℕ) {d : ℕ} (pos : 0 < d) :
    Locates (accuracyOfFraction (n % d) d) (n / d) ((n : ℚ) / d) := by
  have split : (n : ℚ) / d = (n / d : ℕ) + (n % d : ℕ) / d := by
    have place : (d : ℚ) ≠ 0 := by positivity
    rw [div_eq_iff place, add_mul, div_mul_cancel₀ _ place]
    exact_mod_cast (Nat.div_add_mod' n d).symm
  have below : (n % d : ℕ) < (d : ℚ) := by exact_mod_cast Nat.mod_lt n pos
  have place : (0 : ℚ) < d := by exact_mod_cast pos
  rw [split]
  unfold accuracyOfFraction
  split_ifs with exact
  · simp [Locates, exact]
  · have positive : (0 : ℚ) < (n % d : ℕ) := by exact_mod_cast Nat.pos_of_ne_zero exact
    rcases lt_trichotomy (2 * (n % d)) d with less | same | more
    · rw [(compare_lt_iff_lt).mpr less]
      have less : (2 * (n % d) : ℕ) < (d : ℚ) := by exact_mod_cast less
      push_cast at less
      refine ⟨by simp; positivity, ?_⟩
      rw [add_lt_add_iff_left, div_lt_iff₀ place]
      linarith
    · rw [(compare_eq_iff_eq).mpr same]
      have same : (2 * (n % d) : ℕ) = (d : ℚ) := by exact_mod_cast same
      push_cast at same
      show _ = _
      rw [add_right_inj, div_eq_iff place.ne']
      linarith
    · rw [(compare_gt_iff_gt).mpr more]
      have more : (d : ℚ) < (2 * (n % d) : ℕ) := by exact_mod_cast more
      push_cast at more
      refine ⟨?_, ?_⟩
      · rw [add_lt_add_iff_left, lt_div_iff₀ place]
        linarith
      · rw [add_lt_add_iff_left, div_lt_one place]
        exact below

section Operations

variable {m₁ m₂ m : ℕ} {e₁ e₂ e : ℤ}

/-- A product of positive doubles with at least 53 bits between them rounds correctly. -/
theorem mul_of_rounds (pos₁ : 0 < m₁) (pos₂ : 0 < m₂) (wide : 2 ^ 52 ≤ m₁ * m₂)
    (pos : 0 < m) (canonical : Canonical m e)
    (rounds : (magnitude m e).Rounds (m₁ * 2 ^ e₁ * (m₂ * 2 ^ e₂))) :
    UnpackedFloat.mul Format.binary64 (.finite .positive m₁ e₁ pos₁)
      (.finite .positive m₂ e₂ pos₂) = .finite .positive m e pos := by
  refine roundWithAccuracy_of_rounds .positive ?_ ?_ pos canonical rounds
  · -- the product is exact before rounding
    show _ = _
    rw [zpow_add₀ (by norm_num)]
    push_cast
    field_simp
  · rw [targetExponent_eq]
    have bits : 52 ≤ (m₁ * m₂).log2 := (Nat.le_log2 (by positivity)).mpr wide
    omega

/-- The exponent the quotient of two mantissas is computed at is no higher than the one the
format assigns its magnitude: the quotient has 53 bits unless the exponent is already below
the subnormals. -/
theorem divCore_coarse (pos₁ : 0 < m₁) (pos₂ : 0 < m₂) :
    let core := divCore Format.binary64 m₁ e₁ m₂ e₂
    core.2.1 ≤ Format.binary64.targetExponent (totalExponent core.1 core.2.1) := by
  obtain ⟨t, target⟩ : ∃ t, min (e₁ - e₂) (Format.binary64.targetExponent
      (totalExponent m₁ e₁ - totalExponent m₂ e₂)) = t := ⟨_, rfl⟩
  simp only [divCore, target]
  rw [targetExponent_eq]
  by_cases low : t ≤ -1074
  · exact le_max_of_le_right low
  · -- the exponent is one of the format's own, so the quotient has 53 bits
    have bound : t ≤ (m₁.log2 : ℤ) - m₂.log2 + e₁ - e₂ - 53 := by
      simp only [Format.targetExponent, totalExponent, Format.mantissaBits,
        Format.minExponent] at target
      norm_num at target
      omega
    obtain ⟨k, shift⟩ : ∃ k : ℕ, (e₁ - e₂ - t).toNat = k := ⟨_, rfl⟩
    rw [shift]
    have room : m₂.log2 + 53 ≤ m₁.log2 + k := by omega
    have wide : 2 ^ 52 * m₂ ≤ m₁ <<< k := by
      calc 2 ^ 52 * m₂ ≤ 2 ^ 52 * 2 ^ (m₂.log2 + 1) := by
            gcongr
            exact Nat.lt_log2_self.le
        _ = 2 ^ (m₂.log2 + 53) := by rw [← Nat.pow_add]; congr 1; omega
        _ ≤ 2 ^ (m₁.log2 + k) := Nat.pow_le_pow_right (by decide) room
        _ = 2 ^ m₁.log2 * 2 ^ k := Nat.pow_add _ _ _
        _ ≤ m₁ * 2 ^ k := Nat.mul_le_mul_right _ (Nat.log2_self_le (by omega))
        _ = m₁ <<< k := (Nat.shiftLeft_eq _ _).symm
    have quotient : 2 ^ 52 ≤ (m₁ <<< k) / m₂ := (Nat.le_div_iff_mul_le pos₂).mpr (by linarith)
    have bits : 52 ≤ ((m₁ <<< k) / m₂).log2 := (Nat.le_log2 (by positivity)).mpr quotient
    omega

/-- A quotient of positive doubles rounds correctly. -/
theorem div_of_rounds (pos₁ : 0 < m₁) (pos₂ : 0 < m₂) (pos : 0 < m) (canonical : Canonical m e)
    (rounds : (magnitude m e).Rounds (m₁ * 2 ^ e₁ / (m₂ * 2 ^ e₂))) :
    UnpackedFloat.div Format.binary64 (.finite .positive m₁ e₁ pos₁)
      (.finite .positive m₂ e₂ pos₂) = .finite .positive m e pos := by
  have coarse := @divCore_coarse m₁ m₂ e₁ e₂ pos₁ pos₂
  obtain ⟨t, target⟩ : ∃ t, min (e₁ - e₂) (Format.binary64.targetExponent
      (totalExponent m₁ e₁ - totalExponent m₂ e₂)) = t := ⟨_, rfl⟩
  simp only [divCore, target] at coarse
  simp only [UnpackedFloat.div, divCore, target]
  refine roundWithAccuracy_of_rounds _ ?_ coarse pos canonical rounds
  -- the shifted quotient is the value on the grid of `t`
  have value : (m₁ * 2 ^ e₁ / (m₂ * 2 ^ e₂) : ℚ) / 2 ^ t = ((m₁ <<< (e₁ - e₂ - t).toNat : ℕ) : ℚ) / m₂ := by
    have shift : ((e₁ - e₂ - t).toNat : ℤ) = e₁ - e₂ - t := by omega
    rw [Nat.shiftLeft_eq]
    push_cast
    rw [← zpow_natCast, shift, zpow_sub₀ (by norm_num), zpow_sub₀ (by norm_num)]
    field_simp
  rw [value]
  exact locates_fraction _ pos₂

end Operations

/-! ## Decimals in the logical model -/

/-- A power of ten with a negative exponent is at most the power of two with it. -/
theorem ten_zpow_le_two_zpow {x : ℤ} (nonpos : x ≤ 0) : (10 : ℚ) ^ x ≤ 2 ^ x := by
  obtain ⟨n, rfl⟩ : ∃ n : ℕ, x = -n := ⟨x.natAbs, by omega⟩
  rw [zpow_neg, zpow_neg, zpow_natCast, zpow_natCast]
  exact inv_anti₀ (by positivity) (pow_le_pow_left₀ (by norm_num) (by norm_num) n)

section Model

variable {m : ℕ} {e : ℤ}

/-- A value that rounds to a double is positive, so it has digits. -/
theorem digits_pos {d : ℕ} {x : ℤ} (pos : 0 < m) (canonical : Canonical m e) (high : e ≤ 971)
    (rounds : (magnitude m e).Rounds (d * 10 ^ x)) : 0 < d := by
  obtain ⟨least, -⟩ := rounds.bounds pos canonical high
  rcases Nat.eq_zero_or_pos d with zero | digits
  · subst zero
    rw [Nat.cast_zero, zero_mul] at least
    have : (0 : ℚ) < 2 ^ (-1075 : ℤ) := by positivity
    linarith
  · exact digits

/-- The logical model converts `d * 10^x` to the double whose interval holds it. -/
theorem modelOfScientific_of_rounds {d : ℕ} {x : ℤ} (pos : 0 < m) (canonical : Canonical m e)
    (high : e ≤ 971) (rounds : (magnitude m e).Rounds (d * 10 ^ x)) :
    UnpackedFloat.ofScientific Format.binary64 d x = .finite .positive m e pos := by
  obtain ⟨least, most⟩ := rounds.bounds pos canonical high
  have digits := digits_pos pos canonical high rounds
  unfold UnpackedFloat.ofScientific
  split_ifs with zero huge small nonneg
  · omega
  · -- a huge exponent overflows every double
    exfalso
    have digits : (1 : ℚ) ≤ d := by exact_mod_cast digits
    have power : (2 : ℚ) ^ (1024 : ℤ) ≤ 10 ^ x := by
      calc (2 : ℚ) ^ (1024 : ℤ) ≤ 10 ^ (1024 : ℤ) := zpow_le_zpow_left₀ (by norm_num) (by norm_num) (by norm_num)
        _ ≤ 10 ^ x := zpow_le_zpow_right₀ (by norm_num) (by simp at huge; omega)
    have : (10 : ℚ) ^ x ≤ d * 10 ^ x := le_mul_of_one_le_left (by positivity) digits
    linarith
  · -- a tiny exponent underflows every double
    exfalso
    have digits : (d : ℚ) < 2 ^ ((d.log2 : ℤ) + 1) := by
      rw [← Nat.cast_one, ← Nat.cast_add, zpow_natCast]
      exact_mod_cast Nat.lt_log2_self
    have power : (10 : ℚ) ^ x ≤ 2 ^ x := ten_zpow_le_two_zpow (by simp at small; omega)
    have value : (d : ℚ) * 10 ^ x < 2 ^ ((d.log2 : ℤ) + 1) * 2 ^ x :=
      calc (d : ℚ) * 10 ^ x ≤ d * 2 ^ x := by gcongr
        _ < 2 ^ ((d.log2 : ℤ) + 1) * 2 ^ x := by gcongr
    rw [← zpow_add₀ (by norm_num)] at value
    have below : (2 : ℚ) ^ ((d.log2 : ℤ) + 1 + x) ≤ 2 ^ (-1075 : ℤ) :=
      zpow_le_zpow_right₀ (by norm_num) (by simp at small; omega)
    linarith
  · -- a natural exponent multiplies the digits, shifted to 53 bits, by its power of ten
    refine mul_of_rounds (by simp [Nat.shiftLeft_eq]; omega) (by positivity) ?_ pos canonical ?_
    · rw [Nat.shiftLeft_eq]
      calc 2 ^ 52 ≤ d * 2 ^ 53 := by
            have : 2 ^ 52 ≤ 2 ^ 53 := by decide
            nlinarith
        _ ≤ d * 2 ^ Format.binary64.mantissaBits * 10 ^ x.toNat :=
            Nat.le_mul_of_pos_right _ (by positivity)
    · convert rounds using 1
      rw [Nat.shiftLeft_eq]
      push_cast
      rw [mul_assoc (d : ℚ), ← zpow_natCast, ← zpow_add₀ (by norm_num), add_neg_cancel, zpow_zero,
        mul_one, mul_one, ← zpow_natCast, Int.toNat_of_nonneg nonneg]
  · -- a negative exponent divides the digits by its power of ten
    refine div_of_rounds digits (by positivity) pos canonical ?_
    convert rounds using 1
    push_cast
    rw [← zpow_natCast, show (((-x).toNat : ℕ) : ℤ) = -x by omega, zpow_neg]
    simp [div_eq_mul_inv]

end Model

/-! ## Decimals as doubles -/

/-- Whether a double holds the power of ten `10^i` exactly. -/
def holdsPowerOfTen (x : Float) (i : ℕ) : Bool :=
  match x.toModel.unpack with
  | .finite .positive p f _ => p * 2 ^ f.toNat == 10 ^ i * 2 ^ (-f).toNat
  | _ => false

/-- The table of powers of ten that decimals are multiplied and divided by holds them exactly. -/
theorem holdsPowerOfTen_table :
    ∀ i : Fin 23, holdsPowerOfTen (Float.exactlyRepresentablePowersOfTen[i.val]) i = true := by
  decide

theorem unpack_powerOfTen (i : Fin 23) :
    ∃ p f pos, (Float.exactlyRepresentablePowersOfTen[i.val]).toModel.unpack =
      .finite .positive p f pos ∧ (p : ℚ) * 2 ^ f = 10 ^ i.val := by
  have holds := holdsPowerOfTen_table i
  unfold holdsPowerOfTen at holds
  split at holds
  next p f pos unpacked =>
    refine ⟨p, f, pos, unpacked, ?_⟩
    have same : p * 2 ^ f.toNat = 10 ^ i.val * 2 ^ (-f).toNat := by simpa using holds
    have same : (p : ℚ) * 2 ^ f.toNat = 10 ^ i.val * 2 ^ (-f).toNat := by exact_mod_cast same
    have split : f = f.toNat - (-f).toNat := by omega
    rw [split, zpow_sub₀ (by norm_num), zpow_natCast, zpow_natCast, ← mul_div_assoc, same]
    field_simp
  next => cases holds

section Conversion

variable {m : ℕ} {e : ℤ}

/-- The digits of a natural shifted to 53 bits, at the exponent that undoes the shift, are the
natural. -/
theorem value_gap (n : ℕ) : ((n * 2 ^ gap n : ℕ) : ℚ) * 2 ^ (-(gap n : ℤ)) = n := by
  push_cast
  rw [mul_assoc, ← zpow_natCast, ← zpow_add₀ (by norm_num), add_neg_cancel, zpow_zero, mul_one]

/-- Converting a decimal `d * 10^(±k)` to a double rounds it correctly, on both the fast path
through exact powers of ten and the path through the logical model. -/
theorem unpack_ofScientific_of_rounds {d : ℕ} {negative : Bool} {k : ℕ} (pos : 0 < m)
    (canonical : Canonical m e) (high : e ≤ 971)
    (rounds : (magnitude m e).Rounds (d * 10 ^ (if negative then -(k : ℤ) else k))) :
    (Float.ofScientific d negative k).toModel.unpack = .finite .positive m e pos := by
  have digits := digits_pos pos canonical high rounds
  unfold Float.ofScientific
  split_ifs with fast divides
  · -- the digits and the power of ten are doubles: one division rounds
    obtain ⟨small, few⟩ := fast
    obtain ⟨p, f, ppos, power, value⟩ := unpack_powerOfTen ⟨k, by omega⟩
    show unpack Format.binary64 (pack Format.binary64 (UnpackedFloat.div Format.binary64
      (d.toUInt64.toFloat).toModel.unpack
      (Float.exactlyRepresentablePowersOfTen[(⟨k, by omega⟩ : Fin 23).val]).toModel.unpack)) = _
    rw [toFloat_toUInt64 small, ← ofNat_eq_exactInt small, unpack_ofNat digits small, power,
      div_of_rounds _ ppos pos canonical, unpack_pack_canonical _ pos canonical high]
    convert rounds using 1
    rw [value_gap, value, if_pos divides, zpow_neg, zpow_natCast, div_eq_mul_inv]
  · -- one multiplication rounds
    obtain ⟨small, few⟩ := fast
    obtain ⟨p, f, ppos, power, value⟩ := unpack_powerOfTen ⟨k, by omega⟩
    show unpack Format.binary64 (pack Format.binary64 (UnpackedFloat.mul Format.binary64
      (d.toUInt64.toFloat).toModel.unpack
      (Float.exactlyRepresentablePowersOfTen[(⟨k, by omega⟩ : Fin 23).val]).toModel.unpack)) = _
    have wide : 2 ^ 52 ≤ d * 2 ^ gap d := by
      have bits : (d * 2 ^ gap d).log2 = 52 := by
        rw [log2_mul_pow _ digits, gap]
        have := log2_le_of_small digits small
        omega
      exact (Nat.le_log2 (by positivity)).mp bits.ge
    rw [toFloat_toUInt64 small, ← ofNat_eq_exactInt small, unpack_ofNat digits small, power,
      mul_of_rounds _ ppos (le_trans wide (Nat.le_mul_of_pos_right _ ppos)) pos canonical,
      unpack_pack_canonical _ pos canonical high]
    convert rounds using 1
    rw [value_gap, value, if_neg divides, zpow_natCast]
  all_goals
    -- the logical model rounds once
    show unpack Format.binary64 (pack Format.binary64 (UnpackedFloat.ofScientific Format.binary64 d
      _)) = _
    rw [modelOfScientific_of_rounds pos canonical high, unpack_pack_canonical _ pos canonical high]
    convert rounds using 3
    simp [*, Int.negOfNat_eq]

/-- The number of decimal digits of a positive natural places it between two powers of ten. -/
theorem pow_length_toDigits {n : ℕ} (pos : 0 < n) :
    10 ^ ((Nat.toDigits 10 n).length - 1) ≤ n ∧ n < 10 ^ (Nat.toDigits 10 n).length := by
  have width := Nat.length_toDigits_pos (b := 10) (n := n)
  refine ⟨?_, (Nat.length_toDigits_le_iff (by decide) width).mp le_rfl⟩
  by_cases one : (Nat.toDigits 10 n).length = 1
  · rw [one, Nat.sub_self, pow_zero]
    exact pos
  · by_contra less
    have fewer := (Nat.length_toDigits_le_iff (b := 10) (n := n) (by decide)
      (by omega : 0 < (Nat.toDigits 10 n).length - 1)).mpr (Nat.lt_of_not_le less)
    omega

/-- Reading a decimal `digits * 10^exponent` gives the double whose interval holds it: the
guards for decimals far out of range never apply to it. -/
theorem unpack_ofDecimal_of_rounds {digits : ℕ} {exponent : ℤ} (pos : 0 < m)
    (canonical : Canonical m e) (high : e ≤ 971)
    (rounds : (magnitude m e).Rounds (digits * 10 ^ exponent)) :
    (ofDecimal digits exponent).toModel.unpack = .finite .positive m e pos := by
  obtain ⟨least, most⟩ := rounds.bounds pos canonical high
  have nonzero := digits_pos pos canonical high rounds
  obtain ⟨lead, width⟩ := pow_length_toDigits nonzero
  unfold ofDecimal
  dsimp only
  rw [if_neg nonzero.ne']
  split_ifs with huge tiny
  · -- a leading digit at `10^309` or above is beyond every double
    exfalso
    have lead : (10 : ℚ) ^ (((Nat.toDigits 10 digits).length - 1 : ℕ) : ℤ) ≤ digits := by
      rw [zpow_natCast]
      exact_mod_cast lead
    have beyond : (2 : ℚ) ^ (1024 : ℤ) ≤ digits * 10 ^ exponent :=
      calc (2 : ℚ) ^ (1024 : ℤ) ≤ 10 ^ (309 : ℤ) := by
            have powers := (Nat.cast_le (α := ℚ)).mpr (by decide +kernel : (2 : ℕ) ^ 1024 ≤ 10 ^ 309)
            simp only [Nat.cast_pow, Nat.cast_ofNat] at powers
            rwa [zpow_ofNat, zpow_ofNat]
        _ ≤ 10 ^ ((((Nat.toDigits 10 digits).length - 1 : ℕ) : ℤ) + exponent) :=
            zpow_le_zpow_right₀ (by norm_num) (by omega)
        _ = 10 ^ (((Nat.toDigits 10 digits).length - 1 : ℕ) : ℤ) * 10 ^ exponent :=
            zpow_add₀ (by norm_num) _ _
        _ ≤ digits * 10 ^ exponent := by gcongr
    linarith
  · -- a decimal below `10^-324` is under half the least subnormal
    exfalso
    have width : (digits : ℚ) < 10 ^ (((Nat.toDigits 10 digits).length : ℕ) : ℤ) := by
      rw [zpow_natCast]
      exact_mod_cast width
    have under : (digits * 10 ^ exponent : ℚ) < 2 ^ (-1075 : ℤ) :=
      calc (digits * 10 ^ exponent : ℚ)
          < 10 ^ (((Nat.toDigits 10 digits).length : ℕ) : ℤ) * 10 ^ exponent := by gcongr
        _ = 10 ^ ((((Nat.toDigits 10 digits).length : ℕ) : ℤ) + exponent) :=
            (zpow_add₀ (by norm_num) _ _).symm
        _ ≤ 10 ^ (-324 : ℤ) := zpow_le_zpow_right₀ (by norm_num) (by omega)
        _ < 2 ^ (-1075 : ℤ) := by
            rw [zpow_neg, zpow_neg, zpow_ofNat, zpow_ofNat]
            apply inv_strictAnti₀ (by positivity)
            have powers := (Nat.cast_lt (α := ℚ)).mpr (by decide +kernel : (2 : ℕ) ^ 1075 < 10 ^ 324)
            simpa only [Nat.cast_pow, Nat.cast_ofNat] using powers
    linarith
  · refine unpack_ofScientific_of_rounds pos canonical high ?_
    convert rounds using 3
    split_ifs with negative <;> simp at negative <;> omega

end Conversion

end Blueprint.Number
