import IronCouncil.Proof.TickRuns

/-!
# The progress of upgrades

An upgrade is checked when it is ordered and carried out as many ticks later as its tier says. Its track rises in no other way, but a fortification may lose levels in the meantime, and then the upgrade still sets the tier that was ordered.
-/

namespace IronCouncil

def MatchState.level (state : MatchState) (cityId : String) (track : UpgradeTrack) : Nat :=
  (cityView (fun city => city.upgrades.get track) state cityId).getD 0

/-- The board of a tick between the build phase and movement. -/
def builtBoard (mapDefinition : MapDefinition) (state : MatchState) (submissions : List OrderEnvelope) :
    Except TickError MatchState :=
  match resolveResourcePhase state ⟨mapDefinition, [], []⟩ with
  | .error error => .error error
  | .ok (supplied, _) => .ok (resolveBuildPhase supplied (validatedOrders mapDefinition state submissions))

def builtLevel (mapDefinition : MapDefinition) (state : MatchState) (submissions : List OrderEnvelope) (cityId : String)
    (track : UpgradeTrack) : Nat :=
  match builtBoard mapDefinition state submissions with
  | .error _ => 0
  | .ok built => built.level cityId track

/-- The tick completes an upgrade of the track. -/
def Completing (state : MatchState) (cityId : String) (item : BuildingQueueItem) : Prop :=
  item ∈ buildingQueueOf state cityId ∧ item.ticksRemaining = 1

/-! ### Levels -/

section Levels

@[simp] theorem get_set_self (upgrades : CityUpgradeState) (track : UpgradeTrack) (level : Nat) :
    (upgrades.set track level).get track = level := by
  cases track <;> rfl

@[simp] theorem get_set_of_ne {track other : UpgradeTrack} (h : other ≠ track) (upgrades : CityUpgradeState) (level : Nat) :
    (upgrades.set track level).get other = upgrades.get other := by
  cases track <;> cases other <;> first | rfl | exact absurd rfl h

theorem get_completed_of_not_mem {track : UpgradeTrack} {items : List BuildingQueueItem}
    (h : ∀ item ∈ items, item.type ≠ track) (upgrades : CityUpgradeState) :
    (items.foldl completeQueueItem upgrades).get track = upgrades.get track := by
  induction items generalizing upgrades with
  | nil => rfl
  | cons item items ih =>
      obtain ⟨hitem, hitems⟩ := List.forall_mem_cons.1 h
      rw [List.foldl_cons, ih hitems]
      exact get_set_of_ne hitem.symm _ _

/-- Of items for different tracks, each sets its own. -/
theorem get_completed_of_mem {items : List BuildingQueueItem} (hnodup : (items.map (·.type)).Nodup)
    {item : BuildingQueueItem} (hitem : item ∈ items) (upgrades : CityUpgradeState) :
    (items.foldl completeQueueItem upgrades).get item.type = item.tier.toNat := by
  induction items generalizing upgrades with
  | nil => exact absurd hitem List.not_mem_nil
  | cons first items ih =>
      rw [List.map_cons, List.nodup_cons] at hnodup
      obtain ⟨hfirst, hnodup⟩ := hnodup
      rw [List.foldl_cons]
      rcases List.mem_cons.1 hitem with rfl | hlater
      · rw [get_completed_of_not_mem]
        · exact get_set_self _ _ _
        · exact fun other hother heq => hfirst (heq ▸ List.mem_map_of_mem hother)
      · exact ih hnodup hlater _

theorem level_congr {state state' : MatchState} {track : UpgradeTrack}
    (h : cityView (fun city => city.upgrades.get track) state' = cityView (fun city => city.upgrades.get track) state)
    (cityId : String) : state'.level cityId track = state.level cityId track := by
  unfold MatchState.level
  rw [h]

theorem buildingQueueOf_eq (state : MatchState) (cityId : String) :
    buildingQueueOf state cityId = (cityView (·.buildingQueue) state cityId).getD [] := rfl

theorem buildingQueueOf_advanceBuildQueues (state : MatchState) (cityId : String) :
    buildingQueueOf (advanceBuildQueues state) cityId =
      ((buildingQueueOf state cityId).map advanceQueueItem).filter (·.ticksRemaining ≠ 0) := by
  unfold buildingQueueOf advanceBuildQueues
  rw [OrdDict.get?_mapVals]
  cases state.cities.get? cityId with
  | none => rfl
  | some city => rfl

/-- The items that the advance of a queue completes. -/
def completedItems (queue : List BuildingQueueItem) : List BuildingQueueItem :=
  (queue.map advanceQueueItem).filter (·.ticksRemaining = 0)

theorem mem_completedItems {queue : List BuildingQueueItem} {item : BuildingQueueItem} :
    item ∈ completedItems queue ↔ ∃ queued ∈ queue, queued.ticksRemaining = 1 ∧ advanceQueueItem queued = item := by
  unfold completedItems
  rw [List.mem_filter, List.mem_map]
  constructor
  · intro h
    obtain ⟨⟨queued, hqueued, rfl⟩, hdone⟩ := h
    have hdone : queued.ticksRemaining - 1 = 0 := of_decide_eq_true hdone
    exact ⟨queued, hqueued, by omega, rfl⟩
  · intro h
    obtain ⟨queued, hqueued, hlast, rfl⟩ := h
    have hdone : queued.ticksRemaining - 1 = 0 := by omega
    exact ⟨⟨queued, hqueued, rfl⟩, decide_eq_true hdone⟩

theorem completedItems_nodup {queue : List BuildingQueueItem} (h : (queue.map (·.type)).Nodup) :
    ((completedItems queue).map (·.type)).Nodup := by
  have htypes : (queue.map advanceQueueItem).map (·.type) = queue.map (·.type) := by
    rw [List.map_map]
    rfl
  rw [← htypes] at h
  exact h.sublist (List.filter_sublist.map _)

theorem level_advanceBuildQueues {state : MatchState} {cityId : String} {city : CityState}
    (h : state.cities.get? cityId = some city) (track : UpgradeTrack) :
    (advanceBuildQueues state).level cityId track =
      ((completedItems city.buildingQueue).foldl completeQueueItem city.upgrades).get track := by
  unfold MatchState.level cityView advanceBuildQueues
  rw [OrdDict.get?_mapVals, h]
  rfl

theorem level_advance_of_completing {state : MatchState} {cityId : String}
    (hnodup : ((buildingQueueOf state cityId).map (·.type)).Nodup) {item : BuildingQueueItem}
    (h : Completing state cityId item) : (advanceBuildQueues state).level cityId item.type = item.tier.toNat := by
  obtain ⟨hitem, hlast⟩ := h
  unfold buildingQueueOf at hnodup hitem
  cases hcity : state.cities.get? cityId with
  | none =>
      rw [hcity] at hitem
      exact absurd hitem List.not_mem_nil
  | some city =>
      rw [hcity] at hnodup hitem
      rw [level_advanceBuildQueues hcity]
      have hcompleted := mem_completedItems.2 ⟨item, hitem, hlast, rfl⟩
      exact get_completed_of_mem (completedItems_nodup hnodup) hcompleted city.upgrades

theorem level_advance_of_idle {state : MatchState} {cityId : String} {track : UpgradeTrack}
    (h : ∀ item, Completing state cityId item → item.type ≠ track) :
    (advanceBuildQueues state).level cityId track = state.level cityId track := by
  cases hcity : state.cities.get? cityId with
  | none =>
      unfold MatchState.level cityView advanceBuildQueues
      rw [OrdDict.get?_mapVals, hcity]
      rfl
  | some city =>
      rw [level_advanceBuildQueues hcity, get_completed_of_not_mem]
      · unfold MatchState.level cityView
        rw [hcity]
        rfl
      · intro item hitem
        obtain ⟨queued, hqueued, hlast, rfl⟩ := mem_completedItems.1 hitem
        refine h queued ⟨?_, hlast⟩
        unfold buildingQueueOf
        rw [hcity]
        exact hqueued

theorem level_degradeFortification_le (state : MatchState) (worn cityId : String) (track : UpgradeTrack) :
    (degradeFortification state worn).level cityId track ≤ state.level cityId track := by
  unfold MatchState.level cityView degradeFortification MatchState.modifyCity
  rw [OrdDict.get?_modify]
  cases state.cities.get? cityId with
  | none => simp
  | some city =>
      split
      · cases track with
        | economy => exact le_rfl
        | military => exact le_rfl
        | fortification => exact Nat.sub_le _ _
      · exact le_rfl

theorem level_degradeBesiegedFortifications_le {mapDefinition : MapDefinition} {state : MatchState}
    {degradedCityIds : List String} {besieged : MatchState × List String}
    (h : degradeBesiegedFortifications mapDefinition state degradedCityIds = .ok besieged) (cityId : String)
    (track : UpgradeTrack) : besieged.1.level cityId track ≤ state.level cityId track := by
  apply degradeBesiegedFortifications_invariant (I := fun board => board.level cityId track ≤ state.level cityId track) _ h
    le_rfl
  exact fun board worn hboard => (level_degradeFortification_le board worn cityId track).trans hboard

theorem level_resolveAttritionPhase_le (state : MatchState) (phaseState : ResolverPhaseState) (cityId : String)
    (track : UpgradeTrack) : (resolveAttritionPhase state phaseState).1.level cityId track ≤ state.level cityId track := by
  have hsuffered : (sufferAttrition state).level cityId track = state.level cityId track := rfl
  have hworn := degradeUnpaidFortifications_invariant
    (I := fun board => board.level cityId track ≤ (sufferAttrition state).level cityId track)
    (fun board worn hboard => (level_degradeFortification_le board worn cityId track).trans hboard) le_rfl
    phaseState.unpaidFortificationCityIds phaseState.degradedFortificationCityIds
  rw [hsuffered] at hworn
  exact hworn

end Levels

/-! ### One tick -/

section Tick

variable {mapDefinition : MapDefinition} {state next : MatchState} {submissions : List OrderEnvelope}

theorem level_of_accepted {order : UpgradeOrder} (horder : order ∈ (validatedOrders mapDefinition state submissions).upgrades) :
    state.level order.city order.track + 1 = order.targetTier.toNat := by
  rw [validatedOrders_upgrades] at horder
  obtain ⟨submission, -, haccepted⟩ := List.mem_flatMap.1 horder
  obtain ⟨city, hcity, -, htier⟩ := accepted_upgrade haccepted
  unfold MatchState.level cityView
  rw [hcity, htier]
  rfl

/-- What the tick queues, and for which accepted orders. -/
theorem buildingQueueOf_follows (h : Follows mapDefinition state submissions next) (cityId : String) :
    buildingQueueOf next cityId = ((buildingQueueOf state cityId).map advanceQueueItem).filter (·.ticksRemaining ≠ 0) ++
      ((startedOrders state (validatedOrders mapDefinition state submissions)).upgrades.filter (·.city = cityId)).map
        upgradeItem := by
  obtain ⟨resolution, hresolution, -, hcities⟩ := h
  obtain ⟨settled, hsettled, rfl⟩ := resolveTick_eq_ok hresolution
  obtain ⟨supplied, phaseState, hresource, hview⟩ := cityView_resolveThroughDiplomacy (g := (·.buildingQueue))
    (fun _ _ => rfl) (fun _ _ => rfl) hsettled
  have hboard := resolveResourcePhase_board hresource
  have hkeys := keys_of_tickFrame (tickFrame_resolveResourcePhase hresource)
  have hnext : buildingQueueOf next cityId = buildingQueueOf settled cityId := congrFun (buildingQueueOf_congr hcities) cityId
  rw [hnext, buildingQueueOf_eq, hview, ← buildingQueueOf_eq, buildingQueueOf_validated hboard.1 hkeys,
    buildingQueueOf_advanceBuildQueues]

/-- After the build phase a track is where the advance of the queues leaves it, and no tick raises it any more. -/
theorem builtLevel_follows (h : Follows mapDefinition state submissions next) (cityId : String) (track : UpgradeTrack) :
    builtLevel mapDefinition state submissions cityId track = (advanceBuildQueues state).level cityId track ∧
      next.level cityId track ≤ builtLevel mapDefinition state submissions cityId track ∧
      (track ≠ .fortification → next.level cityId track = builtLevel mapDefinition state submissions cityId track) := by
  obtain ⟨resolution, hresolution, -, hcities⟩ := h
  obtain ⟨settled, hsettled, rfl⟩ := resolveTick_eq_ok hresolution
  obtain ⟨besieged, phaseState, hsiege, rfl⟩ := resolveThroughDiplomacy_eq_ok hsettled
  obtain ⟨supplied, phaseState', hresource, hbesieged, -⟩ := resolveThroughSiege_eq_ok hsiege
  have hlevel : builtLevel mapDefinition state submissions cityId track =
      (resolveBuildPhase supplied (validatedOrders mapDefinition state submissions)).level cityId track := by
    unfold builtLevel builtBoard
    change resolveResourcePhase state ⟨mapDefinition, [], []⟩ = _ at hresource
    rw [hresource]
  have hadvanced : (advanceBuildQueues supplied).cities = (advanceBuildQueues state).cities := by
    unfold advanceBuildQueues
    rw [(resolveResourcePhase_board hresource).1]
  have hnext : next.level cityId track = _ := level_congr (cityView_congr hcities) cityId
  refine ⟨?_, ?_, ?_⟩
  · rw [hlevel, ← level_congr (cityView_congr hadvanced) cityId]
    apply level_congr
    exact cityView_resolveBuildPhase (fun _ _ => rfl) supplied _
  · have hfought : (resolveCombatPhase (resolveMovementPhase mapDefinition
        (resolveBuildPhase supplied (validatedOrders mapDefinition state submissions))
        (validatedOrders mapDefinition state submissions))).level cityId track =
          (resolveBuildPhase supplied (validatedOrders mapDefinition state submissions)).level cityId track := by
      apply level_congr
      rw [cityView_resolveCombatPhase fun _ _ => rfl, cityView_congr (cities_resolveMovementPhase _ _ _)]
    rw [hnext, hlevel, ← hfought]
    exact (level_resolveAttritionPhase_le _ _ cityId track).trans
      (level_degradeBesiegedFortifications_le hbesieged cityId track)
  · intro htrack
    have hkept : ∀ (city : CityState) (level : Nat),
        ({ city.upgrades with fortification := level } : CityUpgradeState).get track = city.upgrades.get track := by
      intro city level
      cases track with
      | economy => rfl
      | military => rfl
      | fortification => exact absurd rfl htrack
    obtain ⟨supplied', phaseState'', hresource', hview⟩ := cityView_resolveThroughDiplomacy
      (g := fun city => city.upgrades.get track) hkept (fun _ _ => rfl) hsettled
    rw [hresource] at hresource'
    cases hresource'
    rw [hnext, hlevel]
    exact level_congr hview cityId

theorem queuedTracksAtPhaseStart_eq (state : MatchState) (cityId : String) :
    queuedTracksAtPhaseStart state cityId = (buildingQueueOf state cityId).map (·.type) := by
  unfold queuedTracksAtPhaseStart buildingQueueOf
  cases state.cities.get? cityId with
  | none => rfl
  | some city => rfl

/-- One item for each track stays so: a track that is queued when the tick begins is not queued again. -/
theorem types_nodup_follows (h : Follows mapDefinition state submissions next) {cityId : String}
    (hnodup : ((buildingQueueOf state cityId).map (·.type)).Nodup) :
    ((buildingQueueOf next cityId).map (·.type)).Nodup := by
  have htypes : ((buildingQueueOf state cityId).map advanceQueueItem).map (·.type) =
      (buildingQueueOf state cityId).map (·.type) := by
    rw [List.map_map]
    rfl
  rw [buildingQueueOf_follows h, List.map_append]
  apply List.Nodup.append
  · rw [← htypes] at hnodup
    exact hnodup.sublist (List.filter_sublist.map _)
  · rw [List.map_map]
    apply List.Nodup.of_map fun track => (cityId, track)
    rw [List.map_map]
    have hpairs : ((startedOrders state (validatedOrders mapDefinition state submissions)).upgrades.filter
        (·.city = cityId)).map (fun order => (order.city, order.track)) =
          ((startedOrders state (validatedOrders mapDefinition state submissions)).upgrades.filter (·.city = cityId)).map
            ((fun track => (cityId, track)) ∘ (fun item => item.type) ∘ upgradeItem) := by
      apply List.map_congr_left
      intro order horder
      have hcity : order.city = cityId := of_decide_eq_true (List.mem_filter.1 horder).2
      simp [upgradeItem, hcity]
    rw [← hpairs]
    have hunique := upgrades_nodup mapDefinition state submissions
    exact hunique.sublist ((List.filter_sublist.trans List.filter_sublist).map _)
  · intro track hkept hstarted
    have hqueued : track ∈ (buildingQueueOf state cityId).map (·.type) := by
      rw [← htypes]
      exact (List.filter_sublist.map _).subset hkept
    rw [List.map_map] at hstarted
    obtain ⟨order, horder, rfl⟩ := List.mem_map.1 hstarted
    obtain ⟨horder, hcity⟩ := List.mem_filter.1 horder
    have hcity : order.city = cityId := of_decide_eq_true hcity
    have hfree := of_decide_eq_true (List.mem_filter.1 horder).2
    rw [queuedTracksAtPhaseStart_eq, hcity] at hfree
    exact hfree hqueued

end Tick

/-! ### Runs -/

section Runs

variable (mapDefinition : MapDefinition) (boards : Nat → MatchState) (submissions : Nat → List OrderEnvelope)

/-- The levels that a number of ticks take off a track after their build phases. -/
def lost (cityId : String) (track : UpgradeTrack) (start ticks : Nat) : Nat :=
  ((List.range ticks).map fun k =>
    builtLevel mapDefinition (boards (start + k)) (submissions (start + k)) cityId track -
      (boards (start + k + 1)).level cityId track).sum

/-- An upgrade that was accepted so many ticks ago, and whose tier was then the next of its track. -/
structure Underway (cityId : String) (track : UpgradeTrack) (tier : FortificationTier) (start ticks : Nat) : Prop where
  accepted : (⟨cityId, track, tier⟩ : UpgradeOrder) ∈
    (validatedOrders mapDefinition (boards start) (submissions start)).upgrades
  ordered : (boards start).level cityId track + 1 = tier.toNat
  level : (boards (start + ticks)).level cityId track + 1 + lost mapDefinition boards submissions cityId track start ticks =
    tier.toNat

/-- What the next tick does to the levels of a city. -/
structure UpgradeProgress (n : Nat) (cityId : String) : Prop where
  completed : ∀ item, Completing (boards n) cityId item →
    builtLevel mapDefinition (boards n) (submissions n) cityId item.type = item.tier.toNat ∧
      ∃ start, start + item.tier.toNat = n ∧
        Underway mapDefinition boards submissions cityId item.type item.tier start item.tier.toNat
  unfortified : ∀ item, Completing (boards n) cityId item → item.type ≠ .fortification →
    (boards n).level cityId item.type + 1 = item.tier.toNat
  idle : ∀ track, (∀ item, Completing (boards n) cityId item → item.type ≠ track) →
    builtLevel mapDefinition (boards n) (submissions n) cityId track = (boards n).level cityId track
  worn : ∀ track, (boards (n + 1)).level cityId track ≤ builtLevel mapDefinition (boards n) (submissions n) cityId track
  kept : ∀ track, track ≠ .fortification →
    (boards (n + 1)).level cityId track = builtLevel mapDefinition (boards n) (submissions n) cityId track

/-- Every queued item is the only one of its track, and so far on its way as its remaining ticks say. -/
structure QueueInOrder (n : Nat) (cityId : String) : Prop where
  single : ((buildingQueueOf (boards n) cityId).map (·.type)).Nodup
  underway : ∀ item ∈ buildingQueueOf (boards n) cityId, ∃ start ticks : Nat, start + ticks = n ∧
    item.ticksRemaining + ticks = item.tier.toNat + 1 ∧
      Underway mapDefinition boards submissions cityId item.type item.tier start ticks

variable {mapDefinition boards submissions}

theorem lost_succ (cityId : String) (track : UpgradeTrack) (start ticks : Nat) :
    lost mapDefinition boards submissions cityId track start (ticks + 1) =
      lost mapDefinition boards submissions cityId track start ticks +
        (builtLevel mapDefinition (boards (start + ticks)) (submissions (start + ticks)) cityId track -
          (boards (start + ticks + 1)).level cityId track) := by
  unfold lost
  rw [List.range_succ, List.map_append, List.sum_append, List.map_singleton, List.sum_singleton]

theorem tierEntry_upgradeBuildDurations (tier : FortificationTier) :
    tierEntry upgradeBuildDurations tier.toNat = tier.toNat := by
  cases tier <;> rfl

section Follows

variable {n : Nat} {cityId : String} (hnext : Follows mapDefinition (boards n) (submissions n) (boards (n + 1)))

include hnext

theorem builtLevel_of_idle {track : UpgradeTrack} (hidle : ∀ item, Completing (boards n) cityId item → item.type ≠ track) :
    builtLevel mapDefinition (boards n) (submissions n) cityId track = (boards n).level cityId track := by
  rw [(builtLevel_follows hnext cityId track).1, level_advance_of_idle hidle]

/-- What an idle track has at the end of the tick and what it loses in it are what it had. -/
theorem Underway.succ {track : UpgradeTrack} {tier : FortificationTier} {start ticks : Nat} (hn : start + ticks = n)
    (hunderway : Underway mapDefinition boards submissions cityId track tier start ticks)
    (hidle : ∀ item, Completing (boards n) cityId item → item.type ≠ track) :
    Underway mapDefinition boards submissions cityId track tier start (ticks + 1) := by
  subst hn
  refine ⟨hunderway.accepted, hunderway.ordered, ?_⟩
  have hlevel := hunderway.level
  have hbuilt := builtLevel_of_idle hnext hidle
  have hworn := (builtLevel_follows hnext cityId track).2.1
  show (boards (start + ticks + 1)).level cityId track + 1 +
    lost mapDefinition boards submissions cityId track start (ticks + 1) = tier.toNat
  rw [lost_succ]
  omega

theorem QueueInOrder.succ (h : QueueInOrder mapDefinition boards submissions n cityId) :
    QueueInOrder mapDefinition boards submissions (n + 1) cityId := by
  refine ⟨types_nodup_follows hnext h.single, ?_⟩
  intro item hitem
  rw [buildingQueueOf_follows hnext, List.mem_append] at hitem
  rcases hitem with hkept | hstarted
  · obtain ⟨hmem, hleft⟩ := List.mem_filter.1 hkept
    obtain ⟨queued, hqueued, rfl⟩ := List.mem_map.1 hmem
    have hleft : queued.ticksRemaining - 1 ≠ 0 := of_decide_eq_true hleft
    obtain ⟨start, ticks, hn, hremaining, hunderway⟩ := h.underway queued hqueued
    have hidle : ∀ item, Completing (boards n) cityId item → item.type ≠ queued.type := by
      intro other hcompleting hsame
      have heq : other = queued := List.inj_on_of_nodup_map h.single hcompleting.1 hqueued hsame
      have hlast := hcompleting.2
      rw [heq] at hlast
      omega
    refine ⟨start, ticks + 1, by omega, ?_, hunderway.succ hnext hn hidle⟩
    have hadvanced : (advanceQueueItem queued).ticksRemaining = queued.ticksRemaining - 1 := rfl
    have htier : (advanceQueueItem queued).tier = queued.tier := rfl
    rw [hadvanced, htier]
    push_cast
    omega
  · obtain ⟨order, horder, rfl⟩ := List.mem_map.1 hstarted
    obtain ⟨horder, hcity⟩ := List.mem_filter.1 horder
    have hcity : order.city = cityId := of_decide_eq_true hcity
    obtain ⟨haccepted, hfree⟩ := List.mem_filter.1 horder
    have hfree := of_decide_eq_true hfree
    rw [queuedTracksAtPhaseStart_eq, hcity] at hfree
    have hlevel := level_of_accepted haccepted
    subst hcity
    have hidle : ∀ item, Completing (boards n) order.city item → item.type ≠ order.track := by
      intro item hcompleting hsame
      exact hfree (hsame ▸ List.mem_map_of_mem hcompleting.1)
    have hstart : Underway mapDefinition boards submissions order.city order.track order.targetTier n 0 :=
      ⟨haccepted, hlevel, hlevel⟩
    refine ⟨n, 1, rfl, ?_, hstart.succ hnext rfl hidle⟩
    have hduration := tierEntry_upgradeBuildDurations order.targetTier
    have hremaining : (upgradeItem order).ticksRemaining = tierEntry upgradeBuildDurations order.targetTier.toNat := rfl
    have htier : (upgradeItem order).tier = order.targetTier := rfl
    rw [hremaining, htier]
    omega

end Follows

section Run

variable {ticks : Nat} (hrun : ∀ n < ticks, Follows mapDefinition (boards n) (submissions n) (boards (n + 1)))

include hrun

theorem queueInOrder_run (hempty : ∀ cityId, buildingQueueOf (boards 0) cityId = []) (cityId : String) :
    ∀ n ≤ ticks, QueueInOrder mapDefinition boards submissions n cityId := by
  intro n hn
  induction n with
  | zero =>
      refine ⟨?_, ?_⟩
      · rw [hempty]
        exact List.nodup_nil
      · intro item hitem
        rw [hempty] at hitem
        exact absurd hitem List.not_mem_nil
  | succ n ih => exact (ih (by omega)).succ (hrun n hn)

/-- Only fortifications lose levels. -/
theorem lost_eq_zero {track : UpgradeTrack} (htrack : track ≠ .fortification) (cityId : String) {start n : Nat}
    (hn : start + n ≤ ticks) : lost mapDefinition boards submissions cityId track start n = 0 := by
  induction n with
  | zero => rfl
  | succ n ih =>
      have hkept := (builtLevel_follows (hrun (start + n) (by omega)) cityId track).2.2 htrack
      rw [lost_succ, ih (by omega), hkept]
      omega

/-- In every run of ticks a city has at most one item for each track in its queue, and an item that completes sets its track to the tier that followed when it was accepted, whatever the fortification has lost since. -/
theorem upgrade_progress (hempty : ∀ cityId, buildingQueueOf (boards 0) cityId = []) (cityId : String) :
    (∀ n ≤ ticks, ((buildingQueueOf (boards n) cityId).map (·.type)).Nodup) ∧
      ∀ n < ticks, UpgradeProgress mapDefinition boards submissions n cityId := by
  have hqueue := queueInOrder_run hrun hempty cityId
  refine ⟨fun n hn => (hqueue n hn).single, ?_⟩
  intro n hn
  have hspec := fun track => builtLevel_follows (hrun n hn) cityId track
  have hunderway : ∀ item, Completing (boards n) cityId item → ∃ start, start + item.tier.toNat = n ∧
      Underway mapDefinition boards submissions cityId item.type item.tier start item.tier.toNat := by
    intro item hcompleting
    obtain ⟨start, elapsed, hstart, hremaining, hunderway⟩ := (hqueue n hn.le).underway item hcompleting.1
    have helapsed : elapsed = item.tier.toNat := by
      rw [hcompleting.2] at hremaining
      omega
    subst helapsed
    exact ⟨start, hstart, hunderway⟩
  refine ⟨?_, ?_, ?_, fun track => (hspec track).2.1, fun track => (hspec track).2.2⟩
  · intro item hcompleting
    refine ⟨?_, hunderway item hcompleting⟩
    rw [(hspec item.type).1, level_advance_of_completing (hqueue n hn.le).single hcompleting]
  · intro item hcompleting htrack
    obtain ⟨start, hstart, hitem⟩ := hunderway item hcompleting
    have hlevel := hitem.level
    rw [lost_eq_zero hrun htrack cityId (by omega), hstart] at hlevel
    exact hlevel
  · intro track hidle
    rw [(hspec track).1, level_advance_of_idle hidle]

end Run

end Runs

/-! ### A skipped tier -/

/-- The duel with trenches around London, which the enemy's port besieges. -/
def trenchState : MatchState :=
  { duelState with
    cities := OrdDict.ofList
      [("london", { duelCity "p1" with upgrades := ⟨0, 0, 1⟩ }), ("southampton", duelCity "p2")]
    players := OrdDict.ofList
      [("p1", { duelPlayer "london" with resources := ⟨50, 50, 50⟩ }), ("p2", duelPlayer "southampton")] }

def bunkerOrders : List OrderEnvelope :=
  [{ matchId := "duel", playerId := "p1", tick := 0,
     orders := { OrderBatch.empty with upgrades := [⟨"london", .fortification, .bunkers⟩] } }]

/-- The boards of a simulation in which the first player orders bunkers for London, again and again. -/
def trenchBoards : Nat → MatchState
  | 0 => trenchState
  | n + 1 =>
      match simulateTick (.provider fun _ board => validatedOrders loadUk1900Map board bunkerOrders) (some loadUk1900Map)
          (trenchBoards n) with
      | .error _ => trenchBoards n
      | .ok simulated => simulated.snapshot

theorem follows_trenchBoards : ∀ n < 3, Follows loadUk1900Map (trenchBoards n) bunkerOrders (trenchBoards (n + 1)) := by
  have hok : ∀ n < 3, (simulateTick (.provider fun _ board => validatedOrders loadUk1900Map board bunkerOrders)
      (some loadUk1900Map) (trenchBoards n)).toOption.isSome := by decide +kernel
  intro n hn
  obtain ⟨simulated, hsimulated⟩ := Option.isSome_iff_exists.1 (hok n hn)
  have hsimulated := eq_ok_of_toOption hsimulated
  have hnext : trenchBoards (n + 1) = simulated.snapshot := by
    rw [trenchBoards, hsimulated]
  rw [hnext]
  exact follows_simulateTick hsimulated

theorem buildingQueueOf_trenchBoards_zero (cityId : String) : buildingQueueOf (trenchBoards 0) cityId = [] := by
  have hall : ∀ city ∈ trenchState.cities.values, city.buildingQueue = [] := by decide +kernel
  show ((trenchState.cities.get? cityId).map (·.buildingQueue)).getD [] = []
  cases hcity : trenchState.cities.get? cityId with
  | none => rfl
  | some city => exact hall city (OrdDict.mem_values.2 ⟨cityId, hcity⟩)

theorem upgrade_progress_trench :
    (∀ n ≤ 3, ((buildingQueueOf (trenchBoards n) "london").map (·.type)).Nodup) ∧
      ∀ n < 3, UpgradeProgress loadUk1900Map trenchBoards (fun _ => bunkerOrders) n "london" :=
  upgrade_progress follows_trenchBoards buildingQueueOf_trenchBoards_zero "london"

/-- London's trenches fall in the first tick, and in the third the bunkers rise from open ground. -/
theorem upgrade_skips_tier :
    ¬ ∀ (mapDefinition : MapDefinition) (boards : Nat → MatchState) (submissions : Nat → List OrderEnvelope) (ticks : Nat),
      (∀ n < ticks, Follows mapDefinition (boards n) (submissions n) (boards (n + 1))) →
        (∀ cityId, buildingQueueOf (boards 0) cityId = []) → ∀ n < ticks, ∀ cityId item, Completing (boards n) cityId item →
          (boards n).level cityId item.type + 1 = item.tier.toNat ∧
            builtLevel mapDefinition (boards n) (submissions n) cityId item.type = item.tier.toNat := by
  intro h
  have hlast : (⟨.fortification, .bunkers, 1⟩ : BuildingQueueItem) ∈ buildingQueueOf (trenchBoards 2) "london" := by
    decide +kernel
  have hstep := (h loadUk1900Map trenchBoards (fun _ => bunkerOrders) 3 follows_trenchBoards
    buildingQueueOf_trenchBoards_zero 2 (by decide) "london" _ ⟨hlast, rfl⟩).1
  have hground : (trenchBoards 2).level "london" .fortification = 0 := by decide +kernel
  rw [hground] at hstep
  exact absurd hstep (by decide)

end IronCouncil
