import IronCouncil.Models.State

/-!
# What a player is shown

The projected city and army. A field that is kept from the viewer reads `unknown`, and an army's own constraints are checked again when the projection is built.
-/

namespace IronCouncil

inductive FogVisibility
  | full
  | partly
deriving DecidableEq, Repr

/-- A field that is shown or kept from the viewer. -/
inductive Veiled (α : Type)
  | known (value : α)
  | unknown
deriving DecidableEq, Repr

structure VisibleCityState where
  owner : Option String
  visibility : FogVisibility
  population : Veiled Nat
  resources : Veiled ResourceState
  upgrades : Veiled CityUpgradeState
  garrison : Veiled Nat
  buildingQueue : Veiled (List BuildingQueueItem)
deriving DecidableEq, Repr

structure VisibleArmyState where
  id : String
  owner : String
  visibility : FogVisibility
  troops : Veiled Nat
  location : Option String
  destination : Option String
  path : Option (Veiled (List String))
  ticksRemaining : Int
deriving DecidableEq, Repr

structure AgentStateProjection where
  matchId : String
  tick : Nat
  playerId : String
  resources : ResourceState
  cities : OrdDict String VisibleCityState
  visibleArmies : List VisibleArmyState
  allianceId : Option String
  allianceMembers : List String
  victory : VictoryState
deriving DecidableEq

inductive ProjectionError
  | valueError (message : String)
  | validationError
deriving DecidableEq, Repr

namespace VisibleArmyState

def FieldsValid (army : VisibleArmyState) : Prop := army.troops ≠ .known 0 ∧ 0 ≤ army.ticksRemaining

instance (army : VisibleArmyState) : Decidable army.FieldsValid := inferInstanceAs (Decidable (_ ∧ _))

def modelValidate (army : VisibleArmyState) : Except ProjectionError VisibleArmyState :=
  if army.FieldsValid then .ok army else .error .validationError

end VisibleArmyState

end IronCouncil
