/-!
# Statistics

Sums, means and outliers of floating-point numbers.  Sums run from left to right and start with the
negative zero, which leaves every number that is added to it as it is.
-/

namespace Querent.Statistics

/-- The sum of numbers from left to right. -/
def sum (values : List Float) : Float :=
  values.foldl (· + ·) (-0.0)

/-- The mean of numbers. -/
def mean (values : List Float) : Float :=
  sum values / Float.ofNat values.length

/-- The smallest of numbers, and infinity if there are none. -/
def least (values : List Float) : Float :=
  values.foldl (fun low value => if value < low then value else low) (1 / 0)

/-- The largest of numbers, and negative infinity if there are none. -/
def greatest (values : List Float) : Float :=
  values.foldl (fun high value => if value > high then value else high) (-1 / 0)

/-- The mean of the squared distances from the mean. -/
def variance (values : List Float) : Float :=
  let average := mean values
  sum (values.map fun value => (value - average) * (value - average)) / Float.ofNat values.length

/-- How many standard deviations from the mean are still usual. -/
def usualDeviations : Float := 2

/-- The numbers that are farther from the mean than usual, in their order. -/
def outliers (values : List Float) : List Float :=
  let average := mean values
  let limit := usualDeviations * (variance values).sqrt
  values.filter fun value => (value - average).abs > limit

/--
The place of a number in the order of all floating-point numbers, in which the negative zero comes
before the positive one.
-/
def rank (value : Float) : Int :=
  let bits := value.toBits.toNat
  if bits < Nat.pow 2 63 then bits else Nat.pow 2 63 - 1 - bits

/-- The change from one number to another, relative to the size of the first. -/
def relativeChange (before after : Float) : Float :=
  (after - before) / before.abs

@[simp]
theorem outliers_nil : outliers [] = [] := rfl

end Querent.Statistics
