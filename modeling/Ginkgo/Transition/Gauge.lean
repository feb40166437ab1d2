import Ginkgo.Transition.Run
import Mathlib.Order.Monotone.Defs

/-!
# Gauges

A gauge shows a value. The value is read off a scale while there is a live reading, and is
estimated in some other way while there is none. A live reading outranks every estimate, and it
lasts until the next one or until the gauge is cleared.

A gauge carries the fact that it shows its live reading, so the gauges with one scale can be
compared: on a monotone scale a higher reading shows no lower value
(`Transition.Gauge.shown_mono`).
-/

namespace Transition

variable {Reading Shown : Type*}

/-- A gauge: the last valid reading, if one is live, and what is shown, which then is the
scale's. -/
structure Gauge (scale : Reading → Shown) (valid : Reading → Prop) where
  live : Option {reading // valid reading}
  shown : Shown
  measured : ∀ reading ∈ live, shown = scale reading

namespace Gauge

variable {scale : Reading → Shown} {valid : Reading → Prop}

/-- A gauge without a live reading. -/
def blind (shown : Shown) : Gauge scale valid := ⟨none, shown, nofun⟩

/-- What happens to a gauge. -/
inductive Act (Shown : Type*) (valid : Reading → Prop) where
  | measure (reading : {reading // valid reading})
  | estimate (shown : Shown)
  | clear

/-- An estimate is shown only while there is no live reading. Clearing leaves the value. -/
def act (gauge : Gauge scale valid) : Act Shown valid → Gauge scale valid
  | .measure reading => ⟨some reading, scale reading, by rintro _ ⟨⟩; rfl⟩
  | .estimate shown => if gauge.live = none then blind shown else gauge
  | .clear => blind gauge.shown

/-- An estimate is shown when no reading is live. -/
theorem act_estimate {gauge : Gauge scale valid} (unread : gauge.live = none) (shown : Shown) :
    gauge.act (.estimate shown) = blind shown := if_pos unread

/-- **A higher reading shows no lower value.** -/
theorem shown_mono [Preorder Reading] [Preorder Shown] (monotone : Monotone scale)
    {first second : Gauge scale valid} {low high : {reading // valid reading}}
    (lower : low ∈ first.live) (higher : high ∈ second.live) (le : low ≤ high) :
    first.shown ≤ second.shown := by
  rw [first.measured low lower, second.measured high higher]
  exact monotone le

end Gauge

end Transition
