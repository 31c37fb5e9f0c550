import Blueprint.Builtin
import Blueprint.Proofs.Text.Utf8
import Blueprint.Proofs.Number.Remainder
import Blueprint.Proofs.Number.Order

/-!
# The text functions of the standard registry

`indexOf`, `slice`, `split` and `length` count positions in characters (Unicode scalar values).
This module says what each of them gives, for every text and every number.

`slice` reads each bound as the slice of JavaScript does (`relativePosition`): NaN is the
start, a number is truncated toward zero, a negative one counts from the end, and the result is
clamped to the text, so that the infinities are its two ends. It never fails on a text and two
numbers, and gives the characters from the first position up to the second
(`slice_between_relative_positions`).

`Builtin.clampPosition` computes a bound on integers. Computed on doubles instead, with the
length converted to a double, the sum and the clamps done on doubles and the result cast to a
machine word (`floatPosition`), it gives the same position on every text shorter than `2^53`
characters, since every double the computation meets then holds an integer exactly
(`clampPosition_eq_floatPosition`).

`indexOf` searches the UTF-8 bytes of the text and counts the characters before the match,
which finds the first occurrence among the characters (`Proofs.Text.Utf8`). So it gives `-1`
exactly when the pattern does not occur, and otherwise the least position, counted in
characters, at which the pattern occurs; that position is also the least from which `slice`
cuts the pattern back out (`indexOf_is_least_matching_slice`). Positions are doubles, which
hold every position of a text shorter than `2^53` exactly, and the part about `slice` speaks
of such texts. Past the bound it fails: every double at or above `2^53` is even, so a pattern
that starts at an odd position there is cut out by no slice (`slice_misses_past_two_pow_53`).

`split` cuts a text into texts that give it back when joined with the separator. None of them
contains a non-empty separator, and the empty separator cuts the text into its characters
(`split_joins_back_to_source`).
-/

namespace Blueprint

open Number Float.Model UnpackedFloat

/-! ## Calls of the standard registry -/

namespace Registry

/-- A call of a registered function with the right number of arguments runs it. -/
theorem call_of_get? {r : Registry} {symbol : String} {b : Builtin}
    (found : r.get? symbol = some b) {args : List Value} (arity : args.length = b.arity) :
    r.call symbol args = b.run args := by
  simp [call, found, arity]

@[simp] theorem standard_indexOf (h t : String) :
    standard.call "indexOf" [.text h, .text t] = Builtin.indexOf.run [.text h, .text t] :=
  call_of_get? rfl rfl

@[simp] theorem standard_slice (s : String) (a b : Float) :
    standard.call "slice" [.text s, .number a, .number b] =
      Builtin.slice.run [.text s, .number a, .number b] :=
  call_of_get? rfl rfl

@[simp] theorem standard_split (s t : String) :
    standard.call "split" [.text s, .text t] = Builtin.split.run [.text s, .text t] :=
  call_of_get? rfl rfl

@[simp] theorem standard_length (v : Value) :
    standard.call "length" [v] = Builtin.length.run [v] :=
  call_of_get? rfl rfl

end Registry

/-! ## What each function gives -/

namespace Builtin

/-- Where the pattern first occurs among the characters, the search on the bytes stops at a
byte before which the bytes hold that many characters. -/
theorem indexOf_of_found {h t : String} {i : Nat}
    (found : Text.findFirst? t.toList h.toList = some i) :
    indexOf.run [.text h, .text t] = .ok (.number i.toFloat) := by
  have bytes := Text.findFirst?_utf8 t.toList h.toList
  rw [found] at bytes
  obtain ⟨byte, search, counted⟩ := Option.map_eq_some_iff.mp bytes
  simp [indexOf, textArg, search, counted]
  rfl

theorem indexOf_of_missing {h t : String} (missing : Text.findFirst? t.toList h.toList = none) :
    indexOf.run [.text h, .text t] = .ok (.number (-1.0)) := by
  have bytes := Text.findFirst?_utf8 t.toList h.toList
  rw [missing, Option.map_eq_none_iff] at bytes
  simp [indexOf, textArg, bytes]
  rfl

-- `llo` starts at byte 3 of `héllo`, after the two bytes of `é`, and at character 2
example : indexOf.run [.text "héllo", .text "llo"] = .ok (.number (2 : Nat).toFloat) := by
  rfl

theorem slice_run (s : String) (a b : Float) :
    slice.run [.text s, .number a, .number b] =
      .ok (.text (String.ofList
        (s.toList.extract (clampPosition s.length a) (clampPosition s.length b)))) := by
  show (Except.ok (Value.text (if clampPosition s.toList.length a < clampPosition s.toList.length b
    then _ else "")) : Except Fault Value) = _
  rw [String.length_toList, List.extract_eq_take_drop]
  split
  · rfl
  · -- bounds out of order give the empty text, as an empty extract does
    next later => simp [Nat.sub_eq_zero_of_le (Nat.le_of_not_lt later)]

@[simp] theorem length_text (s : String) : length.run [.text s] = .ok (.number s.length.toFloat) :=
  rfl

@[simp] theorem length_array (items : List Value) :
    length.run [.array items] = .ok (.number items.length.toFloat) :=
  rfl

theorem split_run (s t : String) :
    split.run [.text s, .text t] =
      .ok (.array ((Text.splitOn t.toList s.toList).map fun p => .text (String.ofList p))) :=
  rfl

end Builtin

/-! ## Bounds of a slice -/

/-- The position a bound of `slice` stands for in a text of `n` characters, as the slice of
JavaScript reads it: NaN is the start; a number is truncated toward zero, a negative one
counts from the end, and the result is clamped to the text, so that minus infinity is the
start and infinity the end. -/
def relativePosition (n : Nat) (x : Float) : Nat :=
  if x.isNaN then 0
  else
    match value? x with
    | some v =>
      let t := truncRat v
      (if t < 0 then max (n + t) 0 else min t n).toNat
    | none => if x < 0 then 0 else n

/-- The clamp to a text of `n` characters, done on naturals as the runtime does it or on
integers as the specification says it. -/
theorem clamp_toNat (n : Nat) (t : Int) :
    (if t < 0 then (n + t).toNat else min t.toNat n) =
      (if t < 0 then max (n + t) 0 else min t n).toNat := by
  split <;> omega

/-- The runtime reads a bound of `slice` from the bits of the double as the specification reads
it from its value. -/
theorem clampPosition_eq_relativePosition (n : Nat) (x : Float) :
    Builtin.clampPosition n x = relativePosition n x := by
  unfold Builtin.clampPosition relativePosition
  rw [shape_eq_ofUnpacked, truncInt?_eq_map_value?]
  have nan : x.isNaN = x.toModel.unpack.isNaN := rfl
  rw [nan]
  unfold value?
  cases unpacked : x.toModel.unpack with
  | notANumber => rfl
  | infinity s =>
    have below := lt_zero_iff_of_unpack_infinity unpacked
    cases s <;> simp_all [Shape.ofUnpacked, signNegative, UnpackedFloat.isNaN]
  | zero s => exact clamp_toNat n _
  | finite s m e pos => exact clamp_toNat n _

/-- `slice` never fails on a text and two numbers: it gives the characters from the position the
first number stands for up to the one the second stands for, and nothing when the second comes
first. -/
theorem slice_between_relative_positions (s : String) (a b : Float) :
    Registry.standard.call "slice" [.text s, .number a, .number b] =
      .ok (.text (String.ofList
        (s.toList.extract (relativePosition s.length a) (relativePosition s.length b)))) := by
  rw [Registry.standard_slice, Builtin.slice_run, clampPosition_eq_relativePosition,
    clampPosition_eq_relativePosition]

/-! ## Bounds computed on doubles -/

/-- The double a bound of `slice` is clamped to, computed on doubles: the length of the text is
converted to a double, NaN is zero and a number is truncated toward zero, a negative one is added
to the length and kept at zero or above, and another is kept at the length or below. -/
def floatClamp (n : Nat) (x : Float) : Float :=
  let length := n.toFloat
  let t := if x.isNaN then 0 else trunc x
  if t < 0 then Builtin.maximum (length + t) 0 else Builtin.minimum t length

/-- The position a bound of `slice` stands for, computed on doubles: the clamped double cast to a
machine word, which truncates and saturates. -/
def floatPosition (n : Nat) (x : Float) : Nat :=
  (floatClamp n x).toUInt64.toNat

section MinMax

open Builtin

variable {a b : Float} {p q : ℚ}

/-- Of two doubles with values, `minimum` gives one worth the smaller value. -/
theorem value?_minimum (valueA : value? a = some p) (valueB : value? b = some q) :
    value? (minimum a b) = some (min p q) := by
  unfold minimum
  simp only [isNaN_eq_false_of_value? valueA, isNaN_eq_false_of_value? valueB,
    Bool.false_eq_true, if_false, lt_iff_of_value? valueA valueB]
  split_ifs with less
  · rw [valueA, min_eq_left less.le]
  · rw [valueB, min_eq_right (not_lt.mp less)]

/-- Of two doubles with values, `maximum` gives one worth the larger value. -/
theorem value?_maximum (valueA : value? a = some p) (valueB : value? b = some q) :
    value? (maximum a b) = some (max p q) := by
  unfold maximum
  simp only [isNaN_eq_false_of_value? valueA, isNaN_eq_false_of_value? valueB,
    Bool.false_eq_true, if_false, lt_iff_of_value? valueB valueA]
  split_ifs with less
  · rw [valueA, max_eq_left less.le]
  · rw [valueB, max_eq_right (not_lt.mp less)]

/-- A number of sign minus gives way to zero in `maximum`, minus infinity and minus zero
included. -/
theorem maximum_zero_of_hasSign (signed : HasSign .negative a) : maximum a 0 = 0 := by
  unfold maximum
  simp only [signed.isNaN_eq_false, isNaN_eq_false_of_value? value?_zero, Bool.false_eq_true,
    if_false, not_zero_lt_of_hasSign signed]

/-- Plus infinity gives way to a double with a value in `minimum`. -/
theorem minimum_of_unpack_infinity (unpacked : a.toModel.unpack = .infinity .positive)
    (valueB : value? b = some q) : minimum a b = b := by
  unfold minimum
  simp only [isNaN_eq_false_of_unpack_infinity unpacked, isNaN_eq_false_of_value? valueB, Bool.false_eq_true, if_false,
    not_lt_of_unpack_infinity unpacked valueB]

end MinMax

section Doubles

variable {n : Nat} {x : Float}

theorem cast_toNat {z : ℤ} (nonneg : 0 ≤ z) : ((z.toNat : ℕ) : ℚ) = z := by
  rw [← Int.cast_natCast, Int.toNat_of_nonneg nonneg]

/-- The clamped double of NaN is zero, the start of the text. -/
theorem value?_floatClamp_of_isNaN (small : n < 2 ^ 53) (nan : x.isNaN = true) :
    value? (floatClamp n x) = some (relativePosition n x : ℚ) := by
  have positive : ¬ (0 : Float) < 0 := by
    rw [lt_iff_of_value? value?_zero value?_zero]
    exact lt_irrefl 0
  unfold floatClamp relativePosition
  simp only [nan, if_true, if_neg positive, value?_minimum value?_zero (value?_ofNat small),
    Nat.cast_zero, min_eq_left (Nat.cast_nonneg n)]

/-- The clamped double of an infinity is an end of the text: minus infinity added to the length
is minus infinity, which gives way to zero, and plus infinity gives way to the length. -/
theorem value?_floatClamp_of_infinity (small : n < 2 ^ 53) {s : Sign}
    (unpacked : x.toModel.unpack = .infinity s) :
    value? (floatClamp n x) = some (relativePosition n x : ℚ) := by
  have none : value? x = none := by
    unfold value?
    rw [unpacked]
  unfold floatClamp relativePosition
  simp only [isNaN_eq_false_of_unpack_infinity unpacked, Bool.false_eq_true, if_false, none,
    trunc_of_unpack_infinity unpacked]
  cases s with
  | negative =>
      have below := (lt_zero_iff_of_unpack_infinity unpacked).mpr rfl
      rw [if_pos below, if_pos below, maximum_zero_of_hasSign
        (hasSign_add_infinity (value?_ofNat small) unpacked), value?_zero, Nat.cast_zero]
  | positive =>
      have above : ¬ x < 0 := fun below => nomatch (lt_zero_iff_of_unpack_infinity unpacked).mp below
      rw [if_neg above, if_neg above, minimum_of_unpack_infinity unpacked
        (value?_ofNat small), value?_ofNat small]

/-- The clamped double of a finite number holds the position exactly. The integer part of the
number is a double, and so is its sum with the length while the sum is at least zero; a sum
below zero is a negative double, which gives way to zero. -/
theorem value?_floatClamp_of_value? (small : n < 2 ^ 53) {q : ℚ} (value : value? x = some q) :
    value? (floatClamp n x) = some (relativePosition n x : ℚ) := by
  have length : value? n.toFloat = some ((n : ℤ) : ℚ) := by
    rw [Int.cast_natCast]
    exact value?_ofNat small
  have truncated := value?_trunc value
  unfold floatClamp relativePosition
  simp only [isNaN_eq_false_of_value? value, Bool.false_eq_true, if_false, value,
    lt_iff_of_value? truncated value?_zero, Int.cast_lt_zero]
  split_ifs with negative
  · by_cases inside : 0 ≤ (n : ℤ) + truncRat q
    · -- the sum is exact: both terms and the sum are integers below `2^53`
      have sum := value?_add_of_int length truncated (by omega) negative.ne (by omega) (by omega)
        (by omega)
      rw [value?_maximum sum value?_zero, cast_toNat (le_max_right _ 0)]
      push_cast
      rfl
    · rw [maximum_zero_of_hasSign (hasSign_add_of_neg length truncated (by
          rw [← Int.cast_add]
          exact_mod_cast not_le.mp inside)), value?_zero, max_eq_right (by omega)]
      rfl
  · rw [value?_minimum truncated (value?_ofNat small),
      cast_toNat (le_min (not_lt.mp negative) (Int.natCast_nonneg n))]
    push_cast
    rfl

/-- Below `2^53` characters, the clamped double holds the position a bound stands for. -/
theorem value?_floatClamp (small : n < 2 ^ 53) (x : Float) :
    value? (floatClamp n x) = some (relativePosition n x : ℚ) := by
  cases value : value? x with
  | some q => exact value?_floatClamp_of_value? small value
  | none =>
      unfold value? at value
      cases unpacked : x.toModel.unpack with
      | notANumber =>
          exact value?_floatClamp_of_isNaN small (by
            show x.toModel.unpack.isNaN = true
            rw [unpacked]
            rfl)
      | infinity s => exact value?_floatClamp_of_infinity small unpacked
      | zero s => rw [unpacked] at value; cases value
      | finite s m e pos => rw [unpacked] at value; cases value

end Doubles

theorem relativePosition_le (n : Nat) (x : Float) : relativePosition n x ≤ n := by
  unfold relativePosition
  split
  · exact Nat.zero_le n
  · cases value? x with
    | some v =>
        dsimp only
        split <;> omega
    | none =>
        dsimp only
        split <;> omega

/-- Below `2^53` characters, computing a bound of `slice` on doubles, from the length converted
to a double to the cast of the result to a machine word, gives the position computed on
integers: every double the computation meets holds an integer exactly. -/
theorem clampPosition_eq_floatPosition {n : Nat} (small : n < 2 ^ 53) (x : Float) :
    Builtin.clampPosition n x = floatPosition n x := by
  have fits : relativePosition n x < 2 ^ 64 := by
    have := relativePosition_le n x
    omega
  rw [clampPosition_eq_relativePosition, floatPosition,
    toUInt64_of_value? (value?_floatClamp small x) fits]

/-! ## Positions as doubles -/

/-- A position below `2^53`, given as a double, is read back as itself, clamped to the text. -/
theorem clampPosition_ofNat (n : Nat) {i : Nat} (small : i < 2 ^ 53) :
    Builtin.clampPosition n i.toFloat = min i n := by
  rw [clampPosition_eq_relativePosition]
  unfold relativePosition
  have number : i.toFloat.isNaN = false := (hasSign_ofNat i).isNaN_eq_false
  simp only [number, Bool.false_eq_true, if_false, value?_ofNat small, truncRat,
    Nat.cast_nonneg, if_true, Int.floor_natCast]
  omega

/-- No position is `-1`. -/
theorem toFloat_ne_neg_one (i : Nat) : i.toFloat ≠ -1.0 := by
  intro same
  have minus : HasSign .negative (-1.0) := (hasSign_ofScientific 10 true 1).neg
  rw [← same] at minus
  cases (hasSign_ofNat i).eq minus

/-! ## Finding a text -/

/-- `indexOf` gives `-1` exactly when the pattern does not occur. -/
theorem indexOf_eq_neg_one_iff (h t : String) :
    Registry.standard.call "indexOf" [.text h, .text t] = .ok (.number (-1.0)) ↔
      ¬ t.toList <:+: h.toList := by
  rw [Registry.standard_indexOf, ← Text.findFirst?_eq_none_iff]
  cases found : Text.findFirst? t.toList h.toList with
  | none => simp [Builtin.indexOf_of_missing found]
  | some i =>
    rw [Builtin.indexOf_of_found found]
    simp [toFloat_ne_neg_one]

/-- In a text shorter than `2^53`, the slice from a position `i` to `i + L`, for the length `L`
of a pattern that fits there, is the pattern exactly when the pattern occurs at `i`. -/
theorem slice_eq_iff_occursAt {s t : String} {i : Nat} (fits : i + t.length ≤ s.length)
    (small : s.length < 2 ^ 53) :
    Registry.standard.call "slice"
        [.text s, .number i.toFloat, .number (i.toFloat + t.length.toFloat)] = .ok (.text t) ↔
      Text.OccursAt t.toList s.toList i := by
  have sum : i.toFloat + t.length.toFloat = (i + t.length).toFloat :=
    ofNat_add_ofNat (by omega) (by omega) (by omega)
  rw [Registry.standard_slice, Builtin.slice_run, sum, clampPosition_ofNat _ (by omega),
    clampPosition_ofNat _ (by omega), Nat.min_eq_left (by omega), Nat.min_eq_left fits,
    List.extract_eq_take_drop, Nat.add_sub_cancel_left]
  simp only [Except.ok.injEq, Value.text.injEq, ← String.toList_inj, String.toList_ofList,
    Text.OccursAt, List.prefix_iff_eq_take, String.length_toList]
  exact ⟨fun cut => ⟨by omega, cut.symm⟩, fun occurs => occurs.2.symm⟩

/-- `indexOf` gives `-1` exactly when the pattern does not occur in the text, and the empty
pattern at position zero. When the pattern occurs, it gives the least position, counted in
characters, at which it occurs. In a text shorter than `2^53` characters that is also the least
position `i` at which `slice` from `i` to `i + L` gives the pattern back, where `L` is the
length of the pattern. -/
theorem indexOf_is_least_matching_slice (h t : String) :
    (Registry.standard.call "indexOf" [.text h, .text t] = .ok (.number (-1.0)) ↔
      ¬ t.toList <:+: h.toList) ∧
    Registry.standard.call "indexOf" [.text h, .text ""] = .ok (.number 0) ∧
    (t.toList <:+: h.toList →
      ∃ i : Nat, Registry.standard.call "indexOf" [.text h, .text t] = .ok (.number i.toFloat) ∧
        Text.OccursAt t.toList h.toList i ∧ (∀ j < i, ¬ Text.OccursAt t.toList h.toList j) ∧
        (h.length < 2 ^ 53 → ∀ L, Registry.standard.call "length" [.text t] = .ok (.number L) →
          Registry.standard.call "slice" [.text h, .number i.toFloat, .number (i.toFloat + L)] =
            .ok (.text t) ∧
          ∀ j < i, Registry.standard.call "slice"
            [.text h, .number j.toFloat, .number (j.toFloat + L)] ≠ .ok (.text t))) := by
  refine ⟨indexOf_eq_neg_one_iff h t, ?empty, ?least⟩
  case empty =>
    rw [Registry.standard_indexOf]
    exact Builtin.indexOf_of_found (Text.findFirst?_nil_pattern _)
  case least =>
    intro occurs
    -- the first occurrence is where `indexOf` stops, and no earlier position matches
    obtain ⟨i, found⟩ := Option.ne_none_iff_exists'.mp
      (mt (Text.findFirst?_eq_none_iff h.toList).mp (not_not.mpr occurs))
    obtain ⟨at_i, before⟩ := (Text.findFirst?_eq_some_iff h.toList i).mp found
    refine ⟨i, by rw [Registry.standard_indexOf, Builtin.indexOf_of_found found], at_i, before, ?_⟩
    intro small L length
    have counted : L = t.length.toFloat := by
      simpa using length.symm
    subst counted
    have fits : i + t.length ≤ h.length := by
      have inside := at_i.1
      have within := at_i.2.length_le
      simp only [List.length_drop, String.length_toList] at inside within
      omega
    refine ⟨(slice_eq_iff_occursAt fits small).mpr at_i, ?_⟩
    intro j earlier
    rw [Ne, slice_eq_iff_occursAt (by omega) small]
    exact before j earlier

/-- In `héllo`, the text `llo` starts at byte 3 but at character 2; `indexOf` gives the
position at which it occurs among the characters, and `slice` cuts it back out there. -/
theorem indexOf_llo_in_hello :
    "llo".toList <:+: "héllo".toList ∧ "héllo".length < 2 ^ 53 ∧
    Registry.standard.call "length" [.text "llo"] = .ok (.number (3 : Nat).toFloat) ∧
    ∃ i : Nat, Registry.standard.call "indexOf" [.text "héllo", .text "llo"] =
        .ok (.number i.toFloat) ∧
      Text.OccursAt "llo".toList "héllo".toList i ∧
      Registry.standard.call "slice"
        [.text "héllo", .number i.toFloat, .number (i.toFloat + (3 : Nat).toFloat)] =
        .ok (.text "llo") ∧
      ∀ j < i, Registry.standard.call "slice"
        [.text "héllo", .number j.toFloat, .number (j.toFloat + (3 : Nat).toFloat)] ≠
        .ok (.text "llo") := by
  have occurs : "llo".toList <:+: "héllo".toList := ⟨['h', 'é'], [], rfl⟩
  have small : "héllo".length < 2 ^ 53 := by decide
  have counted : Registry.standard.call "length" [.text "llo"] =
      .ok (.number (3 : Nat).toFloat) := rfl
  obtain ⟨i, found, at_i, -, slices⟩ := (indexOf_is_least_matching_slice "héllo" "llo").2.2 occurs
  obtain ⟨cut, others⟩ := slices small _ counted
  exact ⟨occurs, small, counted, i, found, at_i, cut, others⟩

/-! ## Past `2^53` characters -/

/-- A double at or above `2^53` is an even integer: its mantissa has fewer than 53 bits, so its
exponent is positive. -/
theorem even_of_two_pow_53_le {x : Float} {v : ℚ} (value : value? x = some v)
    (above : 2 ^ 53 ≤ v) : ∃ k : ℤ, v = 2 * k := by
  unfold value? at value
  cases unpacked : x.toModel.unpack with
  | notANumber => simp [unpacked] at value
  | infinity s => simp [unpacked] at value
  | zero s =>
    simp only [unpacked, Option.some.injEq] at value
    subst value
    norm_num at above
  | finite s m e pos =>
    simp only [unpacked, Option.some.injEq] at value
    subst value
    have narrow : (m : ℚ) < 2 ^ 53 := by
      exact_mod_cast ((canonical_iff_fits pos).mp (canonical_of_unpack unpacked).1).1
    cases s with
    | negative =>
      have nonpos : ((Sign.negative.apply m : ℤ) : ℚ) * 2 ^ e ≤ 0 := by
        simp only [Sign.apply, Int.cast_neg, Int.cast_natCast, neg_mul, Left.neg_nonpos_iff]
        positivity
      linarith
    | positive =>
      simp only [Sign.apply, Int.cast_natCast] at above ⊢
      -- below exponent one the value would not reach past the mantissa
      obtain ⟨k, rfl⟩ : ∃ k : ℕ, e = k + 1 := by
        refine ⟨(e - 1).toNat, ?_⟩
        by_contra low
        have scale : (2 : ℚ) ^ e ≤ 1 := zpow_le_one_of_nonpos₀ (by norm_num) (by omega)
        have within : (m : ℚ) * 2 ^ e ≤ m := mul_le_of_le_one_right (by positivity) scale
        linarith
      refine ⟨m * 2 ^ k, ?_⟩
      rw [zpow_add₀ two_ne_zero, zpow_natCast, zpow_one]
      push_cast
      ring

/-- The value of a double of the positive sign is not negative. -/
theorem value_nonneg {x : Float} {v : ℚ} (signed : HasSign .positive x)
    (value : value? x = some v) : 0 ≤ v := by
  unfold value? at value
  unfold HasSign at signed
  generalize x.toModel.unpack = u at signed value
  cases signed with
  | zero => simp only [Option.some.injEq] at value; simp [← value]
  | finite m e pos =>
    simp only [Option.some.injEq] at value
    rw [← value]
    simp only [Sign.apply, Int.cast_natCast]
    positivity
  | infinity => cases value

/-- A position given as a double never stands for an odd position at or above `2^53` inside the
text. -/
theorem relativePosition_toFloat_ne_odd {n k : Nat} (i : Nat) (odd : k % 2 = 1)
    (above : 2 ^ 53 ≤ k) (inside : k < n) : relativePosition n i.toFloat ≠ k := by
  unfold relativePosition
  have number : i.toFloat.isNaN = false := (hasSign_ofNat i).isNaN_eq_false
  simp only [number, Bool.false_eq_true, if_false]
  cases value : value? i.toFloat with
  | none =>
    -- an infinity stands for an end of the text
    dsimp only
    split <;> omega
  | some v =>
    dsimp only
    have nonneg := value_nonneg (hasSign_ofNat i) value
    simp only [truncRat, if_pos nonneg]
    have floor_nonneg : 0 ≤ ⌊v⌋ := Int.floor_nonneg.mpr nonneg
    rw [if_neg (by omega)]
    intro at_k
    have floor_eq : ⌊v⌋ = k := by omega
    have reaches : (2 : ℚ) ^ 53 ≤ v := by
      have : ((k : ℤ) : ℚ) ≤ v := by rw [← floor_eq]; exact Int.floor_le v
      have : (2 : ℚ) ^ 53 ≤ ((k : ℤ) : ℚ) := by exact_mod_cast above
      linarith
    obtain ⟨z, rfl⟩ := even_of_two_pow_53_le value reaches
    have floor_even : ⌊(2 : ℚ) * z⌋ = 2 * z := by exact_mod_cast Int.floor_intCast (2 * z)
    omega

/-- In a run of one letter closed by another, only the last position starts a slice that is
that other letter alone. -/
theorem extract_replicate_eq_singleton {a b : Char} (differ : a ≠ b) {k p q : Nat}
    (cut : (List.replicate k a ++ [b]).extract p q = [b]) : p = k := by
  rw [List.extract_eq_take_drop] at cut
  rcases Nat.lt_trichotomy p k with before | here | after
  · -- the slice would start with the letter of the run
    rw [List.drop_append_of_le_length (by simp; omega), List.drop_replicate] at cut
    obtain ⟨r, run⟩ : ∃ r, k - p = r + 1 := ⟨k - p - 1, by omega⟩
    rw [run, List.replicate_succ, List.cons_append] at cut
    cases h : q - p with
    | zero => simp [h] at cut
    | succ c => simp [h] at cut; exact absurd cut.1 differ
  · exact here
  · -- the slice would start past the end
    rw [List.drop_eq_nil_of_le (by simp; omega)] at cut
    simp at cut

/-- Past `2^53` characters a position is no longer exact. In a text of `k` letters `a` followed
by `b`, for an odd `k` at or above `2^53`, the `b` stands at position `k`, which no double holds,
since every double at or above `2^53` is even. So the text holds `b`, but no slice from a
position given as a double cuts it out: the least-position law of `indexOf` needs its bound. -/
theorem slice_misses_past_two_pow_53 {k : Nat} (odd : k % 2 = 1) (above : 2 ^ 53 ≤ k) :
    "b".toList <:+: (String.ofList (List.replicate k 'a' ++ ['b'])).toList ∧
      ∀ i : Nat, Registry.standard.call "slice"
        [.text (String.ofList (List.replicate k 'a' ++ ['b'])), .number i.toFloat,
          .number (i.toFloat + (1 : Nat).toFloat)] ≠ .ok (.text "b") := by
  have text : (String.ofList (List.replicate k 'a' ++ ['b'])).toList =
      List.replicate k 'a' ++ ['b'] := String.toList_ofList
  have letter : "b".toList = ['b'] := by decide
  refine ⟨⟨List.replicate k 'a', [], by rw [text, letter, List.append_nil]⟩, ?_⟩
  intro i cut
  rw [Registry.standard_slice, Builtin.slice_run, clampPosition_eq_relativePosition,
    clampPosition_eq_relativePosition] at cut
  simp only [Except.ok.injEq, Value.text.injEq, ← String.toList_inj] at cut
  rw [text, letter, String.toList_ofList] at cut
  have start := extract_replicate_eq_singleton (by decide : 'a' ≠ 'b') cut
  have length : (String.ofList (List.replicate k 'a' ++ ['b'])).length = k + 1 := by
    rw [← String.length_toList, text, List.length_append, List.length_replicate,
      List.length_singleton]
  rw [length] at start
  exact relativePosition_toFloat_ne_odd i odd above (Nat.lt_succ_self k) start

/-! ## Splitting a text -/

/-- `split` gives texts that give the source back when joined with the separator. None of them
contains a non-empty separator; the empty separator gives the characters of the source, one
text each, so as many texts as the source has characters. -/
theorem split_joins_back_to_source (s t : String) :
    ∃ parts : List String,
      Registry.standard.call "split" [.text s, .text t] = .ok (.array (parts.map .text)) ∧
      t.intercalate parts = s ∧
      (t ≠ "" → ∀ p ∈ parts, ¬ t.toList <:+: p.toList) ∧
      (t = "" → parts = s.toList.map String.singleton ∧
        Registry.standard.call "length" [.array (parts.map .text)] =
          Registry.standard.call "length" [.text s]) := by
  refine ⟨(Text.splitOn t.toList s.toList).map String.ofList, ?call, ?joined, ?free, ?chars⟩
  case call =>
    rw [Registry.standard_split, Builtin.split_run, List.map_map]
    rfl
  case joined =>
    apply String.ext
    rw [String.toList_intercalate, List.map_map]
    simpa [Function.comp_def] using Text.intercalate_splitOn s.toList
  case free =>
    intro nonempty p member
    obtain ⟨q, cut, rfl⟩ := List.mem_map.mp member
    rw [String.toList_ofList]
    exact Text.not_infix_of_mem_splitOn (by simpa using nonempty) s.toList q cut
  case chars =>
    intro empty
    subst empty
    -- a piece of one character is the text of that character
    have pieces : (Text.splitOn "".toList s.toList).map String.ofList =
        s.toList.map String.singleton := by
      rw [String.toList_empty, Text.splitOn_nil_separator, List.map_map]
      exact List.map_congr_left fun c _ => String.ext (by simp)
    refine ⟨pieces, ?_⟩
    simp [Text.splitOn_nil_separator, String.length_toList]

end Blueprint
