import BatteryWatch.Decimal
import BatteryWatch.Proofs.Rounding

/-!
# Seconds as durations

What the bits of a floating point number stand for as a rational number (`Binary64.rational`) or one
of the infinities (`Binary64.extended?`), and which duration such a number of seconds is: a number
is a duration if it is not negative and below `2 ^ 64` (`Binary64.IsSpan`), and it is the nearest
one in nanoseconds, a tie going to the even one (`Duration.Measures`).
`Duration.converts_ofSeconds` says that for all bits, together with the order of durations.
-/

namespace BatteryWatch

namespace Binary64

/-! ## The numbers that bits stand for -/

/-- The number that finite bits stand for: the sign, the fraction in units of `2 ^ (-52)` with a one
before it unless the exponent bits are zero, and the exponent with a bias of 1023. -/
def rational (x : Binary64) : ℚ :=
  (if x.negative then -1 else 1) *
    if x.exponent = 0 then (x.fraction : ℚ) / 2 ^ 52 * 2 ^ (-1022 : ℤ)
    else (1 + (x.fraction : ℚ) / 2 ^ 52) * 2 ^ ((x.exponent : ℤ) - 1023)

/-- The number that bits stand for, with the infinities at both ends; none if it is undefined. -/
def extended? (x : Binary64) : Option (WithBot (WithTop ℚ)) :=
  if x.isNaN then none
  else some (if x.isFinite then (x.rational : WithTop ℚ) else if x.negative then ⊥ else ⊤)

/-- The order of the numbers that bits stand for. Nothing that is undefined takes part in it, and
the two zeros are alike. -/
instance : LE Binary64 :=
  ⟨fun x y => ∃ v w, x.extended? = some v ∧ y.extended? = some w ∧ v ≤ w⟩

/-- A number of seconds that is a duration: it is defined, not below zero and below `2 ^ 64`. -/
def IsSpan (x : Binary64) : Prop :=
  ∃ v, x.extended? = some v ∧ 0 ≤ v ∧ v < ((2 ^ 64 : ℚ) : WithTop ℚ)

/-- Bits whose exponent is not the highest are finite. -/
theorem extended?_of_exponent {x : Binary64} (h : x.exponent ≠ 2047) :
    x.extended? = some ((x.rational : WithTop ℚ) : WithBot (WithTop ℚ)) := by
  have hnumber : x.isNaN = false := by simp [isNaN, h]
  have hfinite : x.isFinite = true := by simp [isFinite, h]
  rw [extended?, hnumber, hfinite]
  rfl

/-- Finite bits are a duration if their number is not below zero and below `2 ^ 64`. -/
theorem isSpan_iff_of_exponent {x : Binary64} (h : x.exponent ≠ 2047) :
    x.IsSpan ↔ 0 ≤ x.rational ∧ x.rational < 2 ^ 64 := by
  have hlow : (0 : WithBot (WithTop ℚ)) ≤ (x.rational : WithTop ℚ) ↔ 0 ≤ x.rational := by
    norm_cast
  have hhigh : ((x.rational : WithTop ℚ) : WithBot (WithTop ℚ)) < ((2 ^ 64 : ℚ) : WithTop ℚ) ↔
      x.rational < 2 ^ 64 := by
    rw [WithBot.coe_lt_coe, WithTop.coe_lt_coe]
  rw [IsSpan, extended?_of_exponent h, ← hlow, ← hhigh]
  simp only [Option.some.injEq, exists_eq_left']

/-- Bits with the highest exponent are no duration. -/
theorem not_isSpan_of_exponent {x : Binary64} (h : x.exponent = 2047) : ¬x.IsSpan := by
  rintro ⟨v, hv, hlow, hhigh⟩
  have hfinite : x.isFinite = false := by simp [isFinite, h]
  rw [extended?, hfinite] at hv
  cases hnumber : x.isNaN with
  | true => simp [hnumber] at hv
  | false =>
    cases hsign : x.negative with
    | true =>
      have hbottom : v = ⊥ := by simpa [hnumber, hsign] using hv.symm
      rw [hbottom] at hlow
      exact absurd hlow (by decide)
    | false =>
      have htop : v = ⊤ := by simpa [hnumber, hsign] using hv.symm
      rw [htop] at hhigh
      exact not_top_lt hhigh

/-- The order of numbers that are durations is that of the rational numbers. -/
theorem rational_le_of_le {x y : Binary64} (hx : x.IsSpan) (hy : y.IsSpan) (h : x ≤ y) :
    x.rational ≤ y.rational := by
  have hfinite {z : Binary64} (hz : z.IsSpan) : z.exponent ≠ 2047 :=
    fun hexponent => not_isSpan_of_exponent hexponent hz
  obtain ⟨v, w, hv, hw, hle⟩ := h
  rw [extended?_of_exponent (hfinite hx)] at hv
  rw [extended?_of_exponent (hfinite hy)] at hw
  obtain rfl := Option.some.inj hv
  obtain rfl := Option.some.inj hw
  exact_mod_cast hle

/-- How many of the smallest positive number make one, as a rational number. -/
theorem cast_unit : (unit : ℚ) = 2 ^ (1074 : ℤ) := by
  have hpower (k : ℕ) : ((1 <<< k : ℕ) : ℚ) = 2 ^ (k : ℤ) := by
    rw [Nat.one_shiftLeft, Nat.cast_pow, Nat.cast_ofNat, zpow_natCast]
  exact hpower 1074

/-- What finite bits say is the number that they stand for, and their mantissa is below
`2 ^ 53`. -/
theorem value_of_exponent {x : Binary64} (h : x.exponent ≠ 2047) :
    ∃ mantissa scale, x.value = .finite x.negative mantissa scale ∧ mantissa < 2 ^ 53 ∧
      x.rational = (if x.negative then -1 else 1) * (((mantissa <<< scale : ℕ) : ℚ) / unit) := by
  have hfraction : x.fraction < 2 ^ 52 := Nat.mod_lt _ (by decide)
  by_cases hzero : x.exponent = 0
  · refine ⟨x.fraction, 0, ?_, by omega, ?_⟩
    · rw [value, if_neg h, if_pos hzero]
    · have hscale : (2 : ℚ) ^ (-1022 : ℤ) = 2 ^ 52 / 2 ^ (1074 : ℤ) := by
        rw [eq_div_iff (by positivity), ← zpow_add₀ two_ne_zero, ← zpow_natCast]
        norm_num
      rw [rational, if_pos hzero, Nat.shiftLeft_zero, cast_unit, hscale]
      congr 1
      field_simp
  · refine ⟨exponentUnit + x.fraction, x.exponent - 1, ?_, ?_, ?_⟩
    · rw [value, if_neg h, if_neg hzero]
    · have hunit : exponentUnit = 2 ^ 52 := by decide
      omega
    · have hunit : (exponentUnit : ℚ) = 2 ^ 52 := by norm_num [exponentUnit]
      have hscale : (2 : ℚ) ^ ((x.exponent : ℤ) - 1023) =
          2 ^ 52 * 2 ^ (x.exponent - 1) / 2 ^ (1074 : ℤ) := by
        rw [eq_div_iff (by positivity), ← zpow_add₀ two_ne_zero, ← zpow_natCast, ← zpow_natCast,
          ← zpow_add₀ two_ne_zero]
        congr 1
        omega
      rw [rational, if_neg hzero, Nat.shiftLeft_eq, cast_unit, hscale, Nat.cast_mul, Nat.cast_add,
        hunit, Nat.cast_pow, Nat.cast_ofNat]
      congr 1
      field_simp

/-- Below `2 ^ 64` the next number with a mantissa of 53 bits is at least one away. -/
theorem units_le {mantissa scale k : ℕ} (hmantissa : mantissa < 2 ^ 53)
    (h : mantissa <<< scale < UInt64.size * 1 <<< k) :
    mantissa <<< scale ≤ (UInt64.size - 1) * 1 <<< k := by
  have hsize : UInt64.size = 2 ^ 64 := rfl
  rw [Nat.shiftLeft_eq, Nat.one_shiftLeft] at *
  rcases Nat.le_total scale k with hlow | hhigh
  · have hpower : 2 ^ scale ≤ 2 ^ k := Nat.pow_le_pow_right two_pos hlow
    exact Nat.mul_le_mul (by omega) hpower
  · -- the number is a whole one
    obtain ⟨more, rfl⟩ := Nat.exists_eq_add_of_le hhigh
    have hwhole : mantissa * 2 ^ (k + more) = mantissa * 2 ^ more * 2 ^ k := by
      rw [Nat.pow_add, Nat.mul_left_comm, Nat.mul_comm]
    rw [hwhole] at h ⊢
    have hless : mantissa * 2 ^ more < UInt64.size := Nat.lt_of_mul_lt_mul_right h
    exact Nat.mul_le_mul_right _ (Nat.le_sub_one_of_lt hless)

end Binary64

namespace Duration

/-! ## Durations -/

/-- Durations are ordered by their seconds and then by their nanoseconds. -/
instance : LE Duration :=
  ⟨fun d e => d.seconds < e.seconds ∨ d.seconds = e.seconds ∧ d.nanos ≤ e.nanos⟩

/-- A duration is at most as long as another one if it has at most as many nanoseconds. -/
theorem le_iff_toNanos_le {d e : Duration} : d ≤ e ↔ d.toNanos ≤ e.toNanos := by
  have hd := d.nanos_lt
  have he := e.nanos_lt
  change d.seconds < e.seconds ∨ d.seconds = e.seconds ∧ d.nanos ≤ e.nanos ↔ _
  unfold toNanos
  omega

/-- A duration is a number of seconds rounded to the nearest nanosecond, a tie going to the even
one. -/
structure Measures (d : Duration) (x : Binary64) : Prop where
  seconds_lt : d.seconds < 2 ^ 64
  nanos_lt : d.nanos < 10 ^ 9
  rounded : RoundsTo (x.rational * 10 ^ 9) (d.seconds * 10 ^ 9 + d.nanos)

/-- How numbers of seconds become durations, for all bits: those are accepted that are a duration,
they become the one that is nearest in nanoseconds, and larger numbers do not become shorter
durations. -/
structure Converts {ε : Type} (convert : Binary64 → Except ε Duration) : Prop where
  accepted : ∀ x, (∃ d, convert x = .ok d) ↔ x.IsSpan
  measured : ∀ x d, convert x = .ok d ↔ x.IsSpan ∧ d.Measures x
  ordered : ∀ x y d e, convert x = .ok d → convert y = .ok e → x ≤ y → d ≤ e

/-- A number is measured by one duration only. -/
theorem Measures.unique {d e : Duration} {x : Binary64} (hd : d.Measures x) (he : e.Measures x) :
    d = e := by
  have hnanos := hd.rounded.unique he.rounded
  obtain ⟨seconds, nanos, hlt⟩ := d
  obtain ⟨seconds', nanos', hlt'⟩ := e
  dsimp only at hnanos
  have hseconds : seconds = seconds' := by omega
  have hrest : nanos = nanos' := by omega
  subst hseconds hrest
  rfl

/-- Larger numbers are not measured by shorter durations. -/
theorem Measures.mono {d e : Duration} {x y : Binary64} (hd : d.Measures x) (he : e.Measures y)
    (h : x.rational ≤ y.rational) : d ≤ e := by
  have hscaled : x.rational * 10 ^ 9 ≤ y.rational * 10 ^ 9 :=
    mul_le_mul_of_nonneg_right h (by positivity)
  have hnanos := hd.rounded.mono he.rounded hscaled
  rw [le_iff_toNanos_le]
  unfold toNanos
  omega

/-- The duration of a number of the smallest positive numbers measures it. -/
theorem measures_ofNanos {x : Binary64} {units : ℕ} (hx : x.rational = (units : ℚ) / Binary64.unit)
    (hunits : units ≤ (UInt64.size - 1) * Binary64.unit) :
    (ofNanos (Binary64.roundDiv (units * 1000000000) Binary64.unit)).Measures x := by
  have hunit : 0 < Binary64.unit := by
    rw [Binary64.unit, Nat.one_shiftLeft]
    positivity
  have hunit' : (0 : ℚ) < Binary64.unit := by exact_mod_cast hunit
  generalize hn : Binary64.roundDiv (units * 1000000000) Binary64.unit = n
  have hrounds : RoundsTo (x.rational * 10 ^ 9) n := by
    have hscaled : x.rational * 10 ^ 9 = ((units * 1000000000 : ℕ) : ℚ) / Binary64.unit := by
      rw [hx, Nat.cast_mul, Nat.cast_ofNat, div_mul_eq_mul_div]
      norm_num
    rw [hscaled, ← hn]
    exact Binary64.roundsTo_roundDiv _ hunit
  -- as the next number below `2 ^ 64` is a whole one, nothing is rounded up to `2 ^ 64`
  have hbound : (n : ℤ) ≤ (2 ^ 64 - 1) * 10 ^ 9 := by
    refine hrounds.mono (.intCast _) ?_
    have hunits' : (units : ℚ) ≤ (2 ^ 64 - 1) * Binary64.unit := by
      have hsize : ((UInt64.size - 1 : ℕ) : ℚ) = 2 ^ 64 - 1 := by norm_num [UInt64.size]
      rw [← hsize]
      exact_mod_cast hunits
    have hrational : x.rational ≤ 2 ^ 64 - 1 := by
      rw [hx, div_le_iff₀ hunit']
      exact hunits'
    push_cast
    linarith
  refine ⟨?_, (ofNanos n).nanos_lt, ?_⟩
  · change n / 1000000000 < 2 ^ 64
    omega
  · have hnanos : ((ofNanos n).seconds : ℤ) * 10 ^ 9 + (ofNanos n).nanos = n := by
      exact_mod_cast toNanos_ofNanos n
    rw [hnanos]
    exact hrounds

/-- Bits with the highest exponent are refused. -/
theorem exists_ofSeconds_eq_error {x : Binary64} (h : x.exponent = 2047) :
    ∃ e, ofSeconds x = .error e := by
  unfold ofSeconds Binary64.value
  rw [if_pos h]
  by_cases hfraction : x.fraction = 0
  · rw [if_pos hfraction]
    exact ⟨_, rfl⟩
  · rw [if_neg hfraction]
    exact ⟨_, rfl⟩

/-- Without a sign, or if they are zero, finite bits stand for the number of the smallest positive
numbers that they say. -/
theorem rational_eq_of_nonnegative {x : Binary64} {units : ℕ}
    (hrational : x.rational = (if x.negative then -1 else 1) * ((units : ℚ) / Binary64.unit))
    (h : ¬(x.negative = true ∧ units ≠ 0)) : x.rational = (units : ℚ) / Binary64.unit := by
  cases hnegative : x.negative with
  | false => simpa [hnegative] using hrational
  | true =>
    have hzero : units = 0 := by
      by_contra hunits
      exact h ⟨hnegative, hunits⟩
    rw [hrational, hzero]
    simp

/-- A number of seconds is a duration that measures it, or it is none and is refused. -/
theorem ofSeconds_cases (x : Binary64) :
    (x.IsSpan ∧ ∃ d, ofSeconds x = .ok d ∧ d.Measures x) ∨
      (¬x.IsSpan ∧ ∃ e, ofSeconds x = .error e) := by
  by_cases hexponent : x.exponent = 2047
  · exact .inr ⟨Binary64.not_isSpan_of_exponent hexponent, exists_ofSeconds_eq_error hexponent⟩
  · obtain ⟨mantissa, scale, hvalue, hmantissa, hrational⟩ :=
      Binary64.value_of_exponent hexponent
    have hnext : mantissa <<< scale < UInt64.size * Binary64.unit →
        mantissa <<< scale ≤ (UInt64.size - 1) * Binary64.unit := Binary64.units_le hmantissa
    have hunit : (0 : ℚ) < Binary64.unit := by
      rw [Binary64.cast_unit]
      positivity
    rw [Binary64.isSpan_iff_of_exponent hexponent]
    unfold ofSeconds
    rw [hvalue]
    dsimp only
    generalize mantissa <<< scale = units at hrational hnext ⊢
    split
    · next hbelow =>
      obtain ⟨hnegative, hunits⟩ := hbelow
      have hpositive : (0 : ℚ) < units := by exact_mod_cast Nat.pos_of_ne_zero hunits
      have hquotient : 0 < (units : ℚ) / Binary64.unit := div_pos hpositive hunit
      rw [if_pos hnegative] at hrational
      refine .inr ⟨?_, _, rfl⟩
      rintro ⟨hnonnegative, -⟩
      linarith
    · next hnotBelow =>
      have hquotient := rational_eq_of_nonnegative hrational hnotBelow
      have hsmall : x.rational < 2 ^ 64 ↔ units < UInt64.size * Binary64.unit := by
        rw [hquotient, div_lt_iff₀ hunit]
        exact_mod_cast Iff.rfl
      rw [hsmall]
      split
      · next hlarge =>
        refine .inr ⟨?_, _, rfl⟩
        rintro ⟨-, hless⟩
        exact absurd hless (Nat.not_lt.mpr hlarge)
      · next hless =>
        have hnonnegative : 0 ≤ x.rational := by
          rw [hquotient]
          exact div_nonneg (Nat.cast_nonneg _) hunit.le
        have hless := Nat.lt_of_not_le hless
        exact .inl ⟨⟨hnonnegative, hless⟩, _, rfl, measures_ofNanos hquotient (hnext hless)⟩

/-- What is converted to the same durations is converted as well. -/
theorem Converts.congr {ε ε' : Type} {convert : Binary64 → Except ε Duration}
    {convert' : Binary64 → Except ε' Duration} (h : Converts convert)
    (hsame : ∀ x d, convert' x = .ok d ↔ convert x = .ok d) : Converts convert' where
  accepted x := (exists_congr (hsame x)).trans (h.accepted x)
  measured x d := (hsame x d).trans (h.measured x d)
  ordered x y d e hd he := h.ordered x y d e ((hsame x d).mp hd) ((hsame y e).mp he)

/-- Numbers of seconds become durations as they should. -/
theorem converts_ofSeconds : Converts ofSeconds := by
  have hspan {x : Binary64} {d : Duration} (h : ofSeconds x = .ok d) : x.IsSpan ∧ d.Measures x := by
    rcases ofSeconds_cases x with ⟨hspan, d', hd', hmeasures⟩ | ⟨-, e, he⟩
    · rw [h] at hd'
      obtain rfl := Except.ok.inj hd'
      exact ⟨hspan, hmeasures⟩
    · rw [h] at he
      cases he
  refine ⟨?_, ?_, ?_⟩
  · intro x
    constructor
    · rintro ⟨d, hd⟩
      exact (hspan hd).1
    · intro hx
      rcases ofSeconds_cases x with ⟨-, d, hd, -⟩ | ⟨hnone, -⟩
      · exact ⟨d, hd⟩
      · exact absurd hx hnone
  · intro x d
    refine ⟨hspan, ?_⟩
    rintro ⟨hx, hd⟩
    rcases ofSeconds_cases x with ⟨-, d', hd', hmeasures⟩ | ⟨hnone, -⟩
    · rw [hd.unique hmeasures]
      exact hd'
    · exact absurd hx hnone
  · intro x y d e hd he hle
    obtain ⟨hx, hdx⟩ := hspan hd
    obtain ⟨hy, hey⟩ := hspan he
    exact hdx.mono hey (Binary64.rational_le_of_le hx hy hle)

-- `2 ^ (-10)` seconds are 976562.5 nanoseconds
example : ofSeconds ⟨0x3F50000000000000⟩ = .ok (ofNanos 976562) := by decide +kernel

end Duration

end BatteryWatch
