import InvertedPendulum.Arithmetic.Float

namespace InvertedPendulum

/-- This number domain adds the special values of `float` to the rationals. -/
inductive Extended where
  | notANumber
  | minusInfinity
  | finite (value : ℚ)
  | plusInfinity
  deriving DecidableEq

namespace Extended

/-- No comparison holds of a NaN. -/
def below : Extended → Extended → Bool
  | .notANumber, _ | _, .notANumber => false
  | .minusInfinity, second => decide (second ≠ .minusInfinity)
  | .finite first, .finite second => decide (first < second)
  | .finite _, second => decide (second = .plusInfinity)
  | .plusInfinity, _ => false

/-- This is `<=`, which holds of equal values but not of a NaN and itself. -/
def atMost (first second : Extended) : Bool :=
  first.below second || decide (first = second ∧ first ≠ .notANumber)

def negate : Extended → Extended
  | .notANumber => .notANumber
  | .minusInfinity => .plusInfinity
  | .finite value => .finite (-value)
  | .plusInfinity => .minusInfinity

/-- Opposite infinities have no sum. -/
def sum : Extended → Extended → Extended
  | .finite first, .finite second => .finite (first + second)
  | .notANumber, _ | _, .notANumber => .notANumber
  | .minusInfinity, .plusInfinity | .plusInfinity, .minusInfinity => .notANumber
  | .minusInfinity, _ | _, .minusInfinity => .minusInfinity
  | .plusInfinity, _ | _, .plusInfinity => .plusInfinity

/-- An infinity takes the sign of the other factor, and zero gives it none. -/
def scaled (infinity : Extended) (factor : ℚ) : Extended :=
  if factor = 0 then .notANumber else if 0 < factor then infinity else infinity.negate

def product : Extended → Extended → Extended
  | .finite first, .finite second => .finite (first * second)
  | .notANumber, _ | _, .notANumber => .notANumber
  | .finite factor, infinity | infinity, .finite factor => scaled infinity factor
  | .minusInfinity, infinity => infinity.negate
  | .plusInfinity, infinity => infinity

/-- Division by zero gives the infinity of the dividend's sign. -/
def quotient : Extended → Extended → Extended
  | .finite first, .finite second =>
      if second = 0 then scaled .plusInfinity first else .finite (first / second)
  | .notANumber, _ | _, .notANumber => .notANumber
  | .finite _, _ => .finite 0
  | infinity, .finite second => if second = 0 then infinity else scaled infinity second
  | _, _ => .notANumber

instance : FloatArithmetic Extended where
  zero := .finite 0
  one := .finite 1
  neg := negate
  add := sum
  sub first second := sum first second.negate
  mul := product
  div := quotient
  ratCast := .finite
  lt first second := first.below second = true
  le first second := first.atMost second = true
  decidableLT first second := inferInstanceAs (Decidable (first.below second = true))
  decidableLE first second := inferInstanceAs (Decidable (first.atMost second = true))

instance : FloatRounding Extended where
  isFinite
    | .finite _ => true
    | _ => false
  lround
    | .finite value => FloatRounding.lround value
    | _ => 0

theorem lt_iff {first second : Extended} : first < second ↔ first.below second = true := Iff.rfl

theorem le_iff {first second : Extended} : first ≤ second ↔ first.atMost second = true := Iff.rfl

theorem neg_eq (value : Extended) : -value = value.negate := rfl

@[simp] theorem finite_lt_iff {first second : ℚ} :
    Extended.finite first < .finite second ↔ first < second := decide_eq_true_iff

@[simp] theorem finite_le_iff {first second : ℚ} :
    Extended.finite first ≤ .finite second ↔ first ≤ second := by
  rw [le_iff, le_iff_lt_or_eq]
  simp [atMost, below]

/-- Clamping a rational between rationals is exact. -/
theorem clamp_finite (value low high : ℚ) :
    clamp (Extended.finite value) (.finite low) (.finite high) = .finite (clamp value low high) := by
  unfold clamp
  simp only [finite_lt_iff]
  split
  · rfl
  · split <;> rfl

/-- The magnitude of a rational is exact. -/
theorem fabs_finite (value : ℚ) : fabs (Extended.finite value) = .finite (fabs value) := by
  unfold fabs
  have zero : (0 : Extended) = .finite 0 := rfl
  rw [zero]
  simp only [finite_lt_iff]
  split <;> rfl

/-- The extended rationals compare as an IEEE format does. -/
instance : IeeeOrder Extended where
  total {a b} := by
    cases a <;> cases b <;> simp [Ordinary, le_iff, lt_iff, atMost, below]
    exact fun above => lt_or_eq_of_le above
  exclusive {a b} := by
    cases a <;> cases b <;> simp [le_iff, lt_iff, atMost, below]
    rintro (above | equal)
    · exact above.le
    · exact equal.le
  weaken {a b} := by
    intro above
    simp only [le_iff, atMost, lt_iff.mp above, Bool.true_or]
  ordinaryLeft {a b} := by
    cases a <;> cases b <;> simp [Ordinary, le_iff, atMost, below]
  ordinaryRight {a b} := by
    cases a <;> cases b <;> simp [Ordinary, le_iff, atMost, below]
  chain {a b c} := by
    cases a <;> cases b <;> cases c <;> simp [le_iff, atMost, below, ← le_iff_lt_or_eq]
    exact le_trans
  mirror {a b} := by
    cases a <;> cases b <;> simp [le_iff, neg_eq, negate, atMost, below, ← le_iff_lt_or_eq]
    exact fun ordered => (lt_or_eq_of_le ordered).imp_right Eq.symm
  mirrorTwice a := by
    cases a <;> simp [neg_eq, negate]
  zeroLow := by decide
  zeroHigh := by decide
  unit := by decide
  constant value := by
    change (Extended.finite value).atMost (.finite value) = true
    simp [atMost]

end Extended
end InvertedPendulum
