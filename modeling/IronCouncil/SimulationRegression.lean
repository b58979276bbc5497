import IronCouncil.OrderValidation
import IronCouncil.Registry.Diplomacy
import IronCouncil.Simulation

/-!
# The regression harness

A batch of scenarios is run through the offline engine, and every state on the way is checked against what a state should always satisfy. A scenario whose initial state fails is not run.
-/

namespace IronCouncil

structure RegressionScenario where
  scenarioId : String
  mapDefinition : MapDefinition
  initialState : MatchState
  ticks : Nat
  ordersByTick : OrdDict Nat (List OrderEnvelope)

structure RegressionFailure where
  scenarioId : String
  tick : Nat
  invariant : String
  detail : String
deriving DecidableEq, Repr

structure RegressionScenarioResult where
  scenarioId : String
  ticks : Nat
  outcomeDigest : String
deriving DecidableEq, Repr

structure RegressionBatchResult where
  totalRuns : Nat
  scenarioResults : List RegressionScenarioResult
  failures : List RegressionFailure
deriving DecidableEq, Repr

/-- How lists of ids and raised errors are printed, and the digest of what a scenario came to. -/
structure RegressionPrinting where
  ids : List String → String
  raised : TickError → String
  outcomeDigest : SimulationResult → OrdDict Nat (List RejectedOrder) → String

namespace RegressionScenario

variable (scenario : RegressionScenario)

def failure (tick : Nat) (invariant detail : String) : RegressionFailure :=
  ⟨scenario.scenarioId, tick, invariant, detail⟩

/-! ### Orders -/

def envelopesAt (tick : Nat) : List OrderEnvelope := (scenario.ordersByTick.get? tick).getD []

/-- Envelopes are validated one by one, each with the whole budget of its player. -/
def orderProvider (tick : Nat) (state : MatchState) : OrderBatch :=
  ((scenario.envelopesAt tick).map fun envelope =>
    (validateOrderEnvelope envelope state scenario.mapDefinition).accepted).foldl OrderBatch.append OrderBatch.empty

def rejections (tick : Nat) (state : MatchState) : List RejectedOrder :=
  (scenario.envelopesAt tick).flatMap fun envelope =>
    (validateOrderEnvelope envelope state scenario.mapDefinition).rejected

/-- The provider is asked at the initial state and at every snapshot but the last. -/
def rejectedOrdersByTick (simulation : SimulationResult) : OrdDict Nat (List RejectedOrder) :=
  OrdDict.ofList ((scenario.initialState :: simulation.ticks.map (·.snapshot)).dropLast.filterMap fun state =>
    if scenario.rejections state.tick state = [] then none
    else some (state.tick, scenario.rejections state.tick state))

/-! ### Checks -/

section Checks

variable (printing : RegressionPrinting) (tick : Nat) (state : MatchState)

def resourceFailures (invariantPrefix : String) (resources : ResourceState) : List RegressionFailure :=
  [ResourceType.food, .production, .money].flatMap fun resource =>
    if resources.get resource < 0 then
      [scenario.failure tick s!"{invariantPrefix}:{resource.value}-non-negative"
        s!"{invariantPrefix} has negative {resource.value}={resources.get resource}"]
    else []

def mapFailures : List RegressionFailure :=
  let missing := scenario.mapDefinition.cities.keys.filter (· ∉ state.cities.keys)
  let extra := state.cities.keys.filter (· ∉ scenario.mapDefinition.cities.keys)
  if missing = [] ∧ extra = [] then []
  else
    [scenario.failure tick "state-cities-match-map"
      s!"map/state mismatch missing={printing.ids (missing.insertionSort (· ≤ ·))} extra={printing.ids (extra.insertionSort (· ≤ ·))}"]

/-- The counts of a city cannot be negative here; they are checked all the same. -/
def cityFailures (cityId : String) (city : CityState) : List RegressionFailure :=
  (match city.owner with
    | none => []
    | some owner =>
        if owner ∈ state.players.keys then []
        else [scenario.failure tick "city-owner-exists" s!"city '{cityId}' references unknown owner '{owner}'"]) ++
    (if (city.population : Int) < 0 then
      [scenario.failure tick "city-population-non-negative" s!"city '{cityId}' has negative population {city.population}"]
    else []) ++
    (if (city.garrison : Int) < 0 then
      [scenario.failure tick "city-garrison-non-negative" s!"city '{cityId}' has negative garrison {city.garrison}"]
    else []) ++
    scenario.resourceFailures tick s!"city-resource:{cityId}" city.resources

/-- A place of an army that is not on the board. -/
def placeFailures (army : ArmyState) (invariant place : String) : Option String → List RegressionFailure
  | none => []
  | some cityId =>
      if cityId ∈ state.cities.keys then []
      else [scenario.failure tick invariant s!"army '{army.id}' references unknown {place} '{cityId}'"]

def armyFailures (army : ArmyState) : List RegressionFailure :=
  (if army.owner ∈ state.players.keys then []
    else [scenario.failure tick "army-owner-exists" s!"army '{army.id}' references unknown owner '{army.owner}'"]) ++
    (if army.troops ≤ 0 then
      [scenario.failure tick "army-troops-positive" s!"army '{army.id}' has non-positive troops {army.troops}"]
    else []) ++
    scenario.placeFailures tick state army "army-location-exists" "location" army.location ++
    scenario.placeFailures tick state army "army-destination-exists" "destination" army.destination ++
    match army.path with
    | none => []
    | some path =>
        let invalidPathCities := path.filter (· ∉ state.cities.keys)
        if invalidPathCities = [] then []
        else
          [scenario.failure tick "army-path-cities-exist"
            s!"army '{army.id}' path includes unknown cities {printing.ids invalidPathCities}"]

def ownedCityIds (playerId : String) : List String :=
  (state.cities.entries.filter fun entry => entry.2.owner = some playerId).map Prod.fst

/-- A truth value as it is printed. -/
def printedBool : Bool → String
  | true => "True"
  | false => "False"

def playerFailures (playerId : String) (player : PlayerState) : List RegressionFailure :=
  let unknownCities := player.citiesOwned.filter (· ∉ state.cities.keys)
  let expectedOwned := (ownedCityIds state playerId).insertionSort (· ≤ ·)
  let actualOwned := player.citiesOwned.insertionSort (· ≤ ·)
  let hasPresence : Bool := expectedOwned ≠ [] ∨ 0 < (state.armies.filter fun army => army.owner = playerId).length
  scenario.resourceFailures tick s!"player-resource:{playerId}" player.resources ++
    (if unknownCities = [] then []
    else
      [scenario.failure tick "player-city-reference-exists"
        s!"player '{playerId}' references unknown cities {printing.ids unknownCities}"]) ++
    (if actualOwned = expectedOwned then []
    else
      [scenario.failure tick "player-city-ownership-consistent"
        s!"player '{playerId}' cities_owned={printing.ids actualOwned} but owned cities are {printing.ids expectedOwned}"]) ++
    if player.isEliminated = hasPresence then
      let stateLabel := if hasPresence then "still has" else "has no"
      [scenario.failure tick "player-elimination-consistent"
        s!"player '{playerId}' elimination={printedBool player.isEliminated} but {stateLabel} cities/armies"]
    else []

def thresholdFailures : List RegressionFailure :=
  if state.cities.keys.length < state.victory.threshold then
    [scenario.failure tick "victory-threshold-in-range"
      s!"victory threshold {state.victory.threshold} exceeds total cities {state.cities.keys.length}"]
  else []

/-- A recorded leader is checked against the counts. Nothing says that a sole leader is recorded. -/
def leaderFailures (coalitionCityCounts : OrdDict String Nat) : List RegressionFailure :=
  let victory := state.victory
  let leaders := (leadersOf coalitionCityCounts).insertionSort (· ≤ ·)
  match victory.leadingAlliance with
  | none =>
      if victory.countdownTicksRemaining = none then []
      else
        [scenario.failure tick "victory-countdown-requires-leader"
          "victory countdown is set without a unique leading alliance"]
  | some leadingAlliance =>
      let expectedLeader := if leaders.length = 1 then leaders.head? else none
      let printedLeader := expectedLeader.getD "None"
      (if some leadingAlliance = expectedLeader then []
        else
          [scenario.failure tick "victory-leader-consistent"
            s!"victory leading_alliance='{leadingAlliance}' but expected '{printedLeader}'"]) ++
        (if leadingAlliance ∈ coalitionCityCounts.keys then []
        else
          [scenario.failure tick "victory-leader-exists"
            s!"victory leading_alliance '{leadingAlliance}' has no owned cities"]) ++
        if victory.countdownTicksRemaining ≠ none ∧ victory.citiesHeld < victory.threshold then
          [scenario.failure tick "victory-countdown-threshold-consistent"
            s!"victory countdown is active with cities_held={victory.citiesHeld} below threshold={victory.threshold}"]
        else []

def victoryFailures (coalitionCityCounts : OrdDict String Nat) : List RegressionFailure :=
  scenario.thresholdFailures tick state ++
    (if state.victory.citiesHeld = largestCount coalitionCityCounts then []
    else
      [scenario.failure tick "victory-cities-held-consistent"
        s!"victory cities_held={state.victory.citiesHeld} but max coalition holds {largestCount coalitionCityCounts}"]) ++
    scenario.leaderFailures tick state coalitionCityCounts

def checkStateInvariants (checkVictory : Bool) : List RegressionFailure :=
  scenario.mapFailures printing tick state ++
    state.cities.entries.flatMap (fun entry => scenario.cityFailures tick state entry.1 entry.2) ++
    state.armies.flatMap (scenario.armyFailures printing tick state) ++
    state.players.entries.flatMap (fun entry => scenario.playerFailures printing tick state entry.1 entry.2) ++
    if checkVictory then scenario.victoryFailures tick state (plainCityCounts state) else []

end Checks

/-! ### Runs -/

variable (printing : RegressionPrinting)

/-- The victory state of a scenario need not be up to date before the first tick. -/
def initialFailures : List RegressionFailure :=
  scenario.checkStateInvariants printing scenario.initialState.tick scenario.initialState false

def simulation : Except TickError SimulationResult :=
  simulateTicks (.provider scenario.orderProvider) (some scenario.mapDefinition) scenario.ticks scenario.initialState

def run : Option RegressionScenarioResult × List RegressionFailure :=
  if scenario.initialFailures printing ≠ [] then (none, scenario.initialFailures printing)
  else
    match scenario.simulation with
    | .error error =>
        (none, [scenario.failure scenario.initialState.tick "simulation-executes" (printing.raised error)])
    | .ok simulation =>
        (some ⟨scenario.scenarioId, scenario.ticks, printing.outcomeDigest simulation (scenario.rejectedOrdersByTick simulation)⟩,
          simulation.ticks.flatMap fun simulated =>
            scenario.checkStateInvariants printing simulated.tick simulated.snapshot true)

end RegressionScenario

def runSimulationRegressionBatch (printing : RegressionPrinting) (scenarios : List RegressionScenario) :
    RegressionBatchResult where
  totalRuns := scenarios.length
  scenarioResults := scenarios.filterMap fun scenario => (scenario.run printing).1
  failures := scenarios.flatMap fun scenario => (scenario.run printing).2

end IronCouncil
