import Qualify.Number.Binary64

/-!
# Scorecards

A team's scoring configuration: point ceilings for the positive signals, magnitudes of the
penalties, point tables for company size and industry, and the thresholds of the bands. Every
section may be missing, and its category then scores zero.
-/

namespace Qualify

/-- A point table by tier, in the order in which the tiers were given. -/
abbrev PointTable := List (String × Binary64)

namespace PointTable

/-- The table with a tier's points set; a tier that is there keeps its place. -/
def insert (t : PointTable) (tier : String) (points : Binary64) : PointTable :=
  if t.any (·.1 == tier) then t.map fun e => if e.1 == tier then (tier, points) else e
  else t ++ [(tier, points)]

def get? (t : PointTable) (tier : String) : Option Binary64 := t.lookup tier

end PointTable

/-- Point ceilings of the positive signals, none of them negative. -/
structure Weights where
  jobRole : Binary64
  urgency : Binary64
  engagement : Binary64
  nonnegative : Binary64.zero.le jobRole ∧ Binary64.zero.le urgency ∧ Binary64.zero.le engagement
deriving DecidableEq

/-- Penalty magnitudes. Their sign does not matter. -/
structure Penalties where
  competitor : Binary64
  freeEmail : Binary64
  invalidDomain : Binary64
  spam : Binary64
deriving DecidableEq

/-- Points by tier of company size and of industry. -/
structure Enrichment where
  companySize : PointTable
  industry : PointTable
deriving DecidableEq

/-- Thresholds between the bands, in ascending order. -/
structure Thresholds where
  high : Binary64
  medium : Binary64
  low : Binary64
  ascending : low.le medium ∧ medium.le high
deriving DecidableEq

structure Scorecard where
  id : Option String := none
  teamId : Option String := none
  version : Int := 1
  weights : Option Weights := none
  penalties : Option Penalties := none
  enrichment : Option Enrichment := none
  bands : Option Thresholds := none
  competitorDomains : List String := []
deriving DecidableEq

namespace Scorecard

/-- Are all four sections there? -/
def isComplete (c : Scorecard) : Bool :=
  c.weights.isSome && c.penalties.isSome && c.enrichment.isSome && c.bands.isSome

end Scorecard

end Qualify
