import Blueprint.Number.Binary
import Blueprint.Proofs.Number.ExactIntegers

/-!
# Signs of doubles and the absence of NaN

A double other than NaN has a sign: it is a zero, a finite value or an infinity of that sign.
This module names that property (`Signed` for the unpacked form, `HasSign` for doubles) and
follows it through the operations of the logical model: rounding keeps the sign it is given,
multiplying or dividing by a finite value multiplies or divides the signs, adding two numbers of
one sign keeps it, negation flips it, and writing a number to its bits and reading them back
keeps it. NaN only arises where an operation is given NaN or an undefined pair (zero times
infinity, zero over zero, infinity over infinity, infinities of opposite signs added).

The main consequence is that converting any decimal `m * 10^±e` to a double gives a positive
number and never NaN (`hasSign_ofScientific`), on the fast path through the table of exact
powers of ten and on the slow path through the model.
-/

namespace Blueprint.Number

open Float.Model Float.Model.UnpackedFloat

/-- An unpacked double that is a number of sign `s`: a zero, a finite value or an infinity of
that sign. NaN has no sign. -/
inductive Signed (s : Sign) : UnpackedFloat → Prop
  | zero : Signed s (.zero s)
  | finite (m : Nat) (e : Int) (pos : 0 < m) : Signed s (.finite s m e pos)
  | infinity : Signed s (.infinity s)

namespace Signed

variable {s s₁ s₂ : Sign} {u v : UnpackedFloat}

theorem isNaN_eq_false (signed : Signed s u) : u.isNaN = false := by
  cases signed <;> rfl

theorem roundWithAccuracy (spec : Format) (s : Sign) (m : Nat) (e : Int) (acc : Accuracy) :
    Signed s (UnpackedFloat.roundWithAccuracy spec s m e acc) := by
  unfold UnpackedFloat.roundWithAccuracy
  split
  dsimp only
  split
  · exact .zero
  · exact .finite _ _ _

theorem round (spec : Format) (s : Sign) (m : Nat) (e : Int) :
    Signed s (UnpackedFloat.round spec s m e) :=
  roundWithAccuracy spec s _ _ _

/-- A nonzero mantissa with a sign normalizes to a number of that sign. -/
theorem normalize (spec : Format) (s : Sign) {n : Nat} (pos : 0 < n) (e : Int) (zs : Sign) :
    Signed s (UnpackedFloat.normalize spec (s.apply n) e zs) := by
  unfold UnpackedFloat.normalize
  cases s with
  | negative =>
      have below : Sign.negative.apply (n : Int) < 0 := by simp [Sign.apply]; omega
      rw [(compare_lt_iff_lt).mpr below]
      exact round spec _ _ _
  | positive =>
      have above : 0 < Sign.positive.apply (n : Int) := by simp [Sign.apply]; omega
      rw [(compare_gt_iff_gt).mpr above]
      exact round spec _ _ _

theorem mul_finite (spec : Format) (signed : Signed s₁ u) (m : Nat) (e : Int) (pos : 0 < m) :
    Signed (s₁ * s₂) (mul spec u (.finite s₂ m e pos)) := by
  cases signed with
  | zero => exact .zero
  | finite => exact roundWithAccuracy spec _ _ _ _
  | infinity => exact .infinity

theorem div_finite (spec : Format) (signed : Signed s₁ u) (m : Nat) (e : Int) (pos : 0 < m) :
    Signed (s₁ / s₂) (div spec u (.finite s₂ m e pos)) := by
  cases signed with
  | zero => exact .zero
  | finite => exact roundWithAccuracy spec _ _ _ _
  | infinity => exact .infinity

theorem neg (signed : Signed s u) : Signed (-s) u.neg := by
  cases signed with
  | zero => exact .zero
  | finite => exact .finite _ _ _
  | infinity => exact .infinity

theorem add (spec : Format) (left : Signed s u) (right : Signed s v) : Signed s (add spec u v) := by
  cases left with
  | zero =>
      cases right with
      | zero => simp [UnpackedFloat.add]; exact .zero
      | finite => exact .finite _ _ _
      | infinity => exact .infinity
  | finite m₁ e₁ pos₁ =>
      cases right with
      | zero => exact .finite _ _ _
      | finite m₂ e₂ pos₂ =>
          -- both mantissas are shifted up to the smaller exponent and keep their sign
          have shifted : ∀ m e t, 0 < m → 0 < (decreaseExponent m e t).1 := by
            intro m e t pos
            simp only [decreaseExponent, Nat.shiftLeft_eq]
            positivity
          have sum : ∀ a b : Nat, s.apply a + s.apply b = s.apply ((a + b : Nat) : Int) := by
            intro a b
            cases s <;> simp [Sign.apply]
            omega
          simp only [UnpackedFloat.add, sum]
          exact normalize spec s (Nat.add_pos_left (shifted m₁ e₁ _ pos₁) _) _ _
      | infinity => exact .infinity
  | infinity =>
      cases right with
      | zero => exact .infinity
      | finite => exact .infinity
      | infinity => simp [UnpackedFloat.add]; exact .infinity

/-- Bits with a sign, an exponent field and a fraction field read back as a number of that
sign, unless the exponent field is all ones over a nonzero fraction. -/
theorem unpack_packComponents (s : Sign) (x : BitVec 11) (f : BitVec 52)
    (notNaN : x ≠ -1#11 ∨ f = 0#52) :
    Signed s (unpack Format.binary64 (packComponents Format.binary64 s x f)) := by
  simp only [UnpackedFloat.unpack, unpackExponent_packComponents, unpackMantissa_packComponents,
    UnpackedFloat.unpackSign_packComponents, Sign.ofBitVec_toBitVec]
  split_ifs with top empty
  · exact .infinity
  · exact absurd (notNaN.resolve_left (not_not.mpr top)) empty
  · exact .zero
  · exact .finite _ _ _
  · exact .finite _ _ _

/-- Packing a number into its bits and reading them back keeps its sign. -/
theorem unpack_pack (signed : Signed s u) :
    Signed s (unpack Format.binary64 (pack Format.binary64 u)) := by
  cases signed with
  | zero => exact unpack_packComponents s 0 0 (.inr rfl)
  | infinity => exact unpack_packComponents s _ 0 (.inr rfl)
  | finite m e pos =>
      unfold UnpackedFloat.pack
      dsimp only
      split_ifs with overflow
      · exact unpack_packComponents s _ 0 (.inr rfl)
      · -- a normal number: its biased exponent is below the all-ones field
        refine unpack_packComponents s _ _ (.inl ?_)
        generalize (e + Format.binary64.exponentBias + Format.binary64.mantissaBitsWithoutImplicit).toNat
          = biased at overflow ⊢
        have below : biased < 2047 := by
          change ¬ 2 ^ 11 ≤ biased + 1 at overflow
          omega
        intro top
        have same := congrArg BitVec.toNat top
        rw [BitVec.toNat_ofNat, Nat.mod_eq_of_lt (by omega),
          show (-1#11 : BitVec 11).toNat = 2047 by decide] at same
        omega
      · exact unpack_packComponents s 0 _ (.inl (by decide))

end Signed

/-- A double is a number of sign `s`: a zero, a finite value or an infinity of that sign. -/
def HasSign (s : Sign) (x : Float) : Prop :=
  Signed s x.toModel.unpack

namespace HasSign

variable {s s₁ s₂ : Sign} {x y : Float}

theorem isNaN_eq_false (signed : HasSign s x) : x.isNaN = false :=
  Signed.isNaN_eq_false signed

theorem ofModel_pack {u : UnpackedFloat} (signed : Signed s u) :
    HasSign s (Float.ofModel (Float.Model.pack u)) :=
  signed.unpack_pack

theorem mul (left : HasSign s₁ x) {m : Nat} {e : Int} {pos : 0 < m}
    (right : y.toModel.unpack = .finite s₂ m e pos) : HasSign (s₁ * s₂) (x * y) := by
  show Signed _ (unpack Format.binary64 (UnpackedFloat.pack Format.binary64
    (UnpackedFloat.mul Format.binary64 x.toModel.unpack y.toModel.unpack)))
  rw [right]
  exact (Signed.mul_finite _ left m e pos).unpack_pack

theorem div (left : HasSign s₁ x) {m : Nat} {e : Int} {pos : 0 < m}
    (right : y.toModel.unpack = .finite s₂ m e pos) : HasSign (s₁ / s₂) (x / y) := by
  show Signed _ (unpack Format.binary64 (UnpackedFloat.pack Format.binary64
    (UnpackedFloat.div Format.binary64 x.toModel.unpack y.toModel.unpack)))
  rw [right]
  exact (Signed.div_finite _ left m e pos).unpack_pack

theorem add (left : HasSign s x) (right : HasSign s y) : HasSign s (x + y) :=
  (Signed.add Format.binary64 left right).unpack_pack

theorem neg (signed : HasSign s x) : HasSign (-s) (-x) :=
  (Signed.neg signed).unpack_pack

/-- Two signs of one double are the same sign. -/
theorem eq (first : HasSign s₁ x) (second : HasSign s₂ x) : s₁ = s₂ := by
  unfold HasSign at first second
  generalize x.toModel.unpack = u at first second
  cases first <;> cases second <;> rfl

end HasSign

/-- Whether an unpacked double is a finite positive value. -/
def finitePositive : UnpackedFloat → Bool
  | .finite .positive .. => true
  | _ => false

theorem eq_finite_of_finitePositive {u : UnpackedFloat} (finite : finitePositive u = true) :
    ∃ m e pos, u = .finite .positive m e pos := by
  cases u with
  | finite s m e pos =>
      cases s with
      | positive => exact ⟨m, e, pos, rfl⟩
      | negative => cases finite
  | _ => cases finite

/-- The powers of ten that the conversion of decimals multiplies and divides by directly are
finite positive doubles. -/
theorem finitePositive_powerOfTen :
    ∀ i : Fin 23,
      finitePositive (Float.exactlyRepresentablePowersOfTen[i.val]).toModel.unpack = true := by
  decide

theorem signed_ofInt_natCast (n : Nat) : Signed .positive (UnpackedFloat.ofInt Format.binary64 n) := by
  unfold UnpackedFloat.ofInt
  rcases Nat.eq_zero_or_pos n with zero | pos
  · subst zero
    exact .zero
  · exact Signed.normalize Format.binary64 .positive pos 0 .positive

theorem signed_ofScientific (m : Nat) (e : Int) :
    Signed .positive (UnpackedFloat.ofScientific Format.binary64 m e) := by
  unfold UnpackedFloat.ofScientific
  split_ifs
  · exact .zero
  · exact .infinity
  · exact .zero
  · show Signed (.positive * .positive) _
    exact Signed.mul_finite _ (.finite _ _ _) _ _ _
  · show Signed (.positive / .positive) _
    exact Signed.div_finite _ (.finite _ _ _) _ _ _

/-- Every decimal converts to a positive number, never NaN. -/
theorem hasSign_ofScientific (m : Nat) (s : Bool) (e : Nat) :
    HasSign .positive (Float.ofScientific m s e) := by
  unfold Float.ofScientific
  split_ifs with fast negative
  · obtain ⟨pm, pe, ppos, power⟩ := eq_finite_of_finitePositive (finitePositive_powerOfTen ⟨e, by omega⟩)
    exact HasSign.div (HasSign.ofModel_pack (signed_ofInt_natCast _)) power
  · obtain ⟨pm, pe, ppos, power⟩ := eq_finite_of_finitePositive (finitePositive_powerOfTen ⟨e, by omega⟩)
    exact HasSign.mul (HasSign.ofModel_pack (signed_ofInt_natCast _)) power
  · exact HasSign.ofModel_pack (signed_ofScientific _ _)
  · exact HasSign.ofModel_pack (signed_ofScientific _ _)

theorem hasSign_ofNat (n : Nat) : HasSign .positive (Float.ofNat n) :=
  hasSign_ofScientific n false 0

theorem hasSign_zero : HasSign .positive 0.0 := by
  rw [zero_eq_ofInt, ofInt_eq_exactInt (by decide)]
  exact HasSign.ofModel_pack (signed_ofInt_natCast 0)

theorem hasSign_infinity : HasSign .positive infinity :=
  Signed.unpack_pack .infinity

theorem isNaN_nan : nan.isNaN = true := by
  decide

end Blueprint.Number
