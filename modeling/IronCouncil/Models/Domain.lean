import Mathlib.Data.List.Basic

/-!
# Domain enumerations

The value types of the domain: resources, match statuses, upgrade tracks and their tiers. A tier is one of three, so an order or a queue item outside them cannot be written.
-/

namespace IronCouncil

def maxUpgradeTier : Nat := 3

inductive ResourceType
  | food
  | production
  | money
deriving DecidableEq, Repr

def ResourceType.value : ResourceType → String
  | .food => "food"
  | .production => "production"
  | .money => "money"

inductive MatchStatus
  | lobby
  | active
  | paused
  | completed
deriving DecidableEq, Repr

def MatchStatus.value : MatchStatus → String
  | .lobby => "lobby"
  | .active => "active"
  | .paused => "paused"
  | .completed => "completed"

inductive UpgradeTrack
  | economy
  | military
  | fortification
deriving DecidableEq, Repr

def UpgradeTrack.value : UpgradeTrack → String
  | .economy => "economy"
  | .military => "military"
  | .fortification => "fortification"

inductive FortificationTier
  | trenches
  | bunkers
  | fortress
deriving DecidableEq, Repr

def FortificationTier.toNat : FortificationTier → Nat
  | .trenches => 1
  | .bunkers => 2
  | .fortress => 3

theorem FortificationTier.toNat_le (tier : FortificationTier) : tier.toNat ≤ maxUpgradeTier := by
  cases tier <;> decide

/-- A level indexes a table of four. Parsed and upgraded cities have levels in `0..3`, so the last entry stands for nothing beyond it. -/
def tierEntry (table : List Nat) (tier : Nat) : Nat := table.getD tier (table.getLastD 0)

/-- What a tick can raise. -/
inductive TickError
  | keyError (key : String)
  | validationError
deriving DecidableEq, Repr

end IronCouncil
