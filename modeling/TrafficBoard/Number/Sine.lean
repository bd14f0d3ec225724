import TrafficBoard.Number.Double

/-!
# The sine

The sine that the machine computes. Nothing is proved about it; what depends on
a sine takes it as a parameter.
-/

namespace TrafficBoard.Double

/-- The sine of a double, as the machine computes it. -/
def sine (value : Double) : Double := ofFloat value.toFloat.sin

end TrafficBoard.Double
