import IronCouncil.Base.OrdDict
import IronCouncil.Models.Domain

/-!
# The match state

The records of the canonical state. The field constraints are checked when a state is parsed and not when a field is assigned, so they are a predicate here, `MatchState.FieldsValid`, and `modelValidate` is the parser's check. A resource total is an `Int`: an assignment can take it below zero.
-/

namespace IronCouncil

structure ResourceState where
  food : Int
  production : Int
  money : Int
deriving DecidableEq, Repr

namespace ResourceState

def get (resources : ResourceState) : ResourceType → Int
  | .food => resources.food
  | .production => resources.production
  | .money => resources.money

def add (resources : ResourceState) : ResourceType → Int → ResourceState
  | .food, amount => { resources with food := resources.food + amount }
  | .production, amount => { resources with production := resources.production + amount }
  | .money, amount => { resources with money := resources.money + amount }

theorem get_add (resources : ResourceState) (resource posted : ResourceType) (amount : Int) :
    (resources.add posted amount).get resource =
      resources.get resource + if resource = posted then amount else 0 := by
  cases resource <;> cases posted <;> simp [add, get]

theorem ext_get {first second : ResourceState} (h : ∀ resource, first.get resource = second.get resource) :
    first = second := by
  obtain ⟨food, production, money⟩ := first
  obtain ⟨food', production', money'⟩ := second
  have hfood : food = food' := h .food
  have hproduction : production = production' := h .production
  have hmoney : money = money' := h .money
  rw [hfood, hproduction, hmoney]

theorem add_comm (resources : ResourceState) (first second : ResourceType) (amount amount' : Int) :
    (resources.add first amount).add second amount' = (resources.add second amount').add first amount := by
  apply ext_get
  intro resource
  simp only [get_add]
  omega

def FieldsValid (resources : ResourceState) : Prop :=
  0 ≤ resources.food ∧ 0 ≤ resources.production ∧ 0 ≤ resources.money

instance (resources : ResourceState) : Decidable resources.FieldsValid :=
  inferInstanceAs (Decidable (_ ∧ _ ∧ _))

def modelValidate (resources : ResourceState) : Except TickError ResourceState :=
  if resources.FieldsValid then .ok resources else .error .validationError

end ResourceState

structure CityUpgradeState where
  economy : Nat
  military : Nat
  fortification : Nat
deriving DecidableEq, Repr

namespace CityUpgradeState

def get (upgrades : CityUpgradeState) : UpgradeTrack → Nat
  | .economy => upgrades.economy
  | .military => upgrades.military
  | .fortification => upgrades.fortification

def set (upgrades : CityUpgradeState) : UpgradeTrack → Nat → CityUpgradeState
  | .economy, level => { upgrades with economy := level }
  | .military, level => { upgrades with military := level }
  | .fortification, level => { upgrades with fortification := level }

def FieldsValid (upgrades : CityUpgradeState) : Prop := ∀ track, upgrades.get track ≤ maxUpgradeTier

instance (upgrades : CityUpgradeState) : Decidable upgrades.FieldsValid :=
  decidable_of_iff (upgrades.economy ≤ maxUpgradeTier ∧ upgrades.military ≤ maxUpgradeTier ∧
      upgrades.fortification ≤ maxUpgradeTier)
    ⟨fun h track => by cases track; exacts [h.1, h.2.1, h.2.2],
      fun h => ⟨h .economy, h .military, h .fortification⟩⟩

end CityUpgradeState

structure BuildingQueueItem where
  type : UpgradeTrack
  tier : FortificationTier
  ticksRemaining : Int
deriving DecidableEq, Repr

structure CityState where
  owner : Option String
  population : Nat
  resources : ResourceState
  upgrades : CityUpgradeState
  garrison : Nat
  buildingQueue : List BuildingQueueItem
deriving DecidableEq, Repr

def CityState.FieldsValid (city : CityState) : Prop :=
  city.resources.FieldsValid ∧ city.upgrades.FieldsValid ∧
    ∀ item ∈ city.buildingQueue, 0 < item.ticksRemaining

instance (city : CityState) : Decidable city.FieldsValid := inferInstanceAs (Decidable (_ ∧ _ ∧ _))

structure ArmyState where
  id : String
  owner : String
  troops : Nat
  location : Option String
  destination : Option String
  path : Option (List String)
  ticksRemaining : Int
deriving DecidableEq, Repr

namespace ArmyState

/-- The model validator on an army's position: no path at rest, a path and time left in transit. -/
def PositioningValid (army : ArmyState) : Prop :=
  if army.destination = none then army.path = none
  else army.path ≠ none ∧ army.path ≠ some [] ∧ army.ticksRemaining ≠ 0

instance (army : ArmyState) : Decidable army.PositioningValid := by
  unfold PositioningValid
  infer_instance

def FieldsValid (army : ArmyState) : Prop :=
  0 < army.troops ∧ 0 ≤ army.ticksRemaining ∧ army.PositioningValid

instance (army : ArmyState) : Decidable army.FieldsValid := inferInstanceAs (Decidable (_ ∧ _ ∧ _))

def stationedAt (army : ArmyState) (cityId : String) : Bool :=
  army.location = some cityId ∧ army.destination = none

end ArmyState

structure PlayerState where
  resources : ResourceState
  citiesOwned : List String
  allianceId : Option String
  isEliminated : Bool
deriving DecidableEq, Repr

structure VictoryState where
  leadingAlliance : Option String
  citiesHeld : Nat
  threshold : Nat
  countdownTicksRemaining : Option Nat
deriving DecidableEq, Repr

structure MatchState where
  tick : Nat
  cities : OrdDict String CityState
  armies : List ArmyState
  players : OrdDict String PlayerState
  victory : VictoryState
deriving DecidableEq

namespace MatchState

def FieldsValid (state : MatchState) : Prop :=
  (∀ city ∈ state.cities.values, city.FieldsValid) ∧ (∀ army ∈ state.armies, army.FieldsValid) ∧
    ∀ player ∈ state.players.values, player.resources.FieldsValid

instance (state : MatchState) : Decidable state.FieldsValid := inferInstanceAs (Decidable (_ ∧ _ ∧ _))

def modelValidate (state : MatchState) : Except TickError MatchState :=
  if state.FieldsValid then .ok state else .error .validationError

def cityOwner (state : MatchState) (cityId : String) : Option String :=
  (state.cities.get? cityId).bind (·.owner)

theorem cityOwner_eq_some {state : MatchState} {cityId owner : String} :
    state.cityOwner cityId = some owner ↔ ∃ city, state.cities.get? cityId = some city ∧ city.owner = some owner := by
  simp only [cityOwner, Option.bind_eq_some_iff]

def modifyCity (state : MatchState) (cityId : String) (f : CityState → CityState) : MatchState :=
  { state with cities := state.cities.modify cityId f }

def modifyPlayer (state : MatchState) (playerId : String) (f : PlayerState → PlayerState) : MatchState :=
  { state with players := state.players.modify playerId f }

/-- Add an amount, which may be negative, to one of a player's resources. -/
def credit (state : MatchState) (playerId : String) (resource : ResourceType) (amount : Int) : MatchState :=
  state.modifyPlayer playerId fun player =>
    { player with resources := player.resources.add resource amount }

@[simp] theorem modifyCity_players (state : MatchState) (cityId : String) (f : CityState → CityState) :
    (state.modifyCity cityId f).players = state.players := rfl

@[simp] theorem modifyCity_armies (state : MatchState) (cityId : String) (f : CityState → CityState) :
    (state.modifyCity cityId f).armies = state.armies := rfl

@[simp] theorem modifyPlayer_cities (state : MatchState) (playerId : String) (f : PlayerState → PlayerState) :
    (state.modifyPlayer playerId f).cities = state.cities := rfl

@[simp] theorem modifyPlayer_armies (state : MatchState) (playerId : String) (f : PlayerState → PlayerState) :
    (state.modifyPlayer playerId f).armies = state.armies := rfl

@[simp] theorem modifyPlayer_keys (state : MatchState) (playerId : String) (f : PlayerState → PlayerState) :
    (state.modifyPlayer playerId f).players.keys = state.players.keys := OrdDict.keys_modify _ _ _

@[simp] theorem credit_cities (state : MatchState) (playerId : String) (resource : ResourceType) (amount : Int) :
    (state.credit playerId resource amount).cities = state.cities := rfl

@[simp] theorem credit_armies (state : MatchState) (playerId : String) (resource : ResourceType) (amount : Int) :
    (state.credit playerId resource amount).armies = state.armies := rfl

@[simp] theorem credit_keys (state : MatchState) (playerId : String) (resource : ResourceType) (amount : Int) :
    (state.credit playerId resource amount).players.keys = state.players.keys := OrdDict.keys_modify _ _ _

theorem cityOwner_congr {state state' : MatchState} (h : state'.cities = state.cities) :
    state'.cityOwner = state.cityOwner := by
  unfold cityOwner
  rw [h]

theorem cityOwner_modifyCity {f : CityState → CityState} (hf : ∀ city, (f city).owner = city.owner)
    (state : MatchState) (cityId : String) : (state.modifyCity cityId f).cityOwner = state.cityOwner := by
  funext key
  unfold cityOwner modifyCity
  rw [OrdDict.get?_modify]
  split
  · cases state.cities.get? key with
    | none => rfl
    | some city => exact hf city
  · rfl

/-- Who plays, and in which alliance. -/
def memberships (state : MatchState) : List (String × Option String) :=
  state.players.entries.map fun entry => (entry.1, entry.2.allianceId)

theorem keys_eq_memberships (state : MatchState) : state.players.keys = state.memberships.map Prod.fst := by
  unfold memberships OrdDict.keys
  rw [List.map_map]
  rfl

theorem mem_memberships {state : MatchState} {playerId : String} {allianceId : Option String} :
    (playerId, allianceId) ∈ state.memberships ↔
      ∃ player, state.players.get? playerId = some player ∧ player.allianceId = allianceId := by
  unfold memberships
  simp only [List.mem_map, Prod.mk.injEq, Prod.exists, OrdDict.get?_eq_some]
  constructor
  · rintro ⟨key, player, hentry, rfl, rfl⟩
    exact ⟨player, hentry, rfl⟩
  · rintro ⟨player, hentry, rfl⟩
    exact ⟨playerId, player, hentry, rfl, rfl⟩

theorem memberships_mapVals {state : MatchState} {f : String → PlayerState → PlayerState}
    (hf : ∀ playerId player, (f playerId player).allianceId = player.allianceId) :
    memberships { state with players := state.players.mapVals f } = state.memberships := by
  unfold memberships OrdDict.mapVals
  rw [List.map_map]
  apply List.map_congr_left
  intro entry _
  exact Prod.ext rfl (hf entry.1 entry.2)

theorem memberships_modifyPlayer {f : PlayerState → PlayerState} (hf : ∀ player, (f player).allianceId = player.allianceId)
    (state : MatchState) (playerId : String) : (state.modifyPlayer playerId f).memberships = state.memberships := by
  apply memberships_mapVals
  intro key player
  split
  · exact hf player
  · rfl

@[simp] theorem memberships_credit (state : MatchState) (playerId : String) (resource : ResourceType) (amount : Int) :
    (state.credit playerId resource amount).memberships = state.memberships := by
  unfold credit
  rw [memberships_modifyPlayer]
  exact fun _ => rfl

/-- The cities that each player lists as owned. -/
def holdings (state : MatchState) : List (String × List String) :=
  state.players.entries.map fun entry => (entry.1, entry.2.citiesOwned)

theorem keys_eq_holdings (state : MatchState) : state.players.keys = state.holdings.map Prod.fst := by
  unfold holdings OrdDict.keys
  rw [List.map_map]
  rfl

theorem mem_holdings {state : MatchState} {playerId : String} {citiesOwned : List String} :
    (playerId, citiesOwned) ∈ state.holdings ↔
      ∃ player, state.players.get? playerId = some player ∧ player.citiesOwned = citiesOwned := by
  unfold holdings
  simp only [List.mem_map, Prod.mk.injEq, Prod.exists, OrdDict.get?_eq_some]
  constructor
  · rintro ⟨key, player, hentry, rfl, rfl⟩
    exact ⟨player, hentry, rfl⟩
  · rintro ⟨player, hentry, rfl⟩
    exact ⟨playerId, player, hentry, rfl, rfl⟩

theorem holdings_mapVals {state : MatchState} {f : String → PlayerState → PlayerState}
    (hf : ∀ playerId player, (f playerId player).citiesOwned = player.citiesOwned) :
    holdings { state with players := state.players.mapVals f } = state.holdings := by
  unfold holdings OrdDict.mapVals
  rw [List.map_map]
  apply List.map_congr_left
  intro entry _
  exact Prod.ext rfl (hf entry.1 entry.2)

theorem holdings_modifyPlayer {f : PlayerState → PlayerState} (hf : ∀ player, (f player).citiesOwned = player.citiesOwned)
    (state : MatchState) (playerId : String) : (state.modifyPlayer playerId f).holdings = state.holdings := by
  apply holdings_mapVals
  intro key player
  split
  · exact hf player
  · rfl

@[simp] theorem holdings_credit (state : MatchState) (playerId : String) (resource : ResourceType) (amount : Int) :
    (state.credit playerId resource amount).holdings = state.holdings := by
  unfold credit
  rw [holdings_modifyPlayer]
  exact fun _ => rfl

theorem cityOwner_mapVals {state : MatchState} {f : String → CityState → CityState}
    (hf : ∀ cityId city, (f cityId city).owner = city.owner) :
    cityOwner { state with cities := state.cities.mapVals f } = state.cityOwner := by
  funext key
  unfold cityOwner
  simp only [OrdDict.get?_mapVals]
  cases state.cities.get? key with
  | none => rfl
  | some city => exact hf key city

/-- Credits only add, so their order does not matter. -/
theorem credit_comm (state : MatchState) (playerId playerId' : String) (resource resource' : ResourceType)
    (amount amount' : Int) :
    (state.credit playerId resource amount).credit playerId' resource' amount' =
      (state.credit playerId' resource' amount').credit playerId resource amount := by
  have hplayers := state.players.modify_comm (k := playerId) (l := playerId')
    (f := fun player => { player with resources := player.resources.add resource amount })
    (g := fun player => { player with resources := player.resources.add resource' amount' })
    fun _ player => by rw [ResourceState.add_comm]
  unfold credit modifyPlayer
  rw [hplayers]

end MatchState

end IronCouncil
