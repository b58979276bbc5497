import IronCouncil.OrderValidation
import IronCouncil.Proof.AllianceAgreement

/-!
# Land routes

A transfer asks for a land route between two players. The search for one answers whether a chain of land edges leads from a city of the one to a city of the other through ground that is open to both.
-/

namespace IronCouncil

/-! ### Connectivity -/

def LandEdge (mapDefinition : MapDefinition) (cityA cityB : String) : Prop :=
  ∃ edge ∈ mapDefinition.edges, edge.traversalMode = .land ∧ edge.joins cityA cityB

/-- Two players let each other pass, and allies of each other their whole alliance. -/
def LetsPass (state : MatchState) (senderId recipientId owner : String) : Prop :=
  owner = senderId ∨ owner = recipientId ∨
    ∃ allianceId, allianceOf state senderId = some allianceId ∧ allianceOf state recipientId = some allianceId ∧
      allianceOf state owner = some allianceId

def OpenCity (state : MatchState) (senderId recipientId cityId : String) : Prop :=
  ∃ owner, state.cityOwner cityId = some owner ∧ LetsPass state senderId recipientId owner

def LandStep (mapDefinition : MapDefinition) (state : MatchState) (senderId recipientId cityA cityB : String) : Prop :=
  LandEdge mapDefinition cityA cityB ∧ OpenCity state senderId recipientId cityA ∧
    OpenCity state senderId recipientId cityB

def LandConnected (mapDefinition : MapDefinition) (state : MatchState) (senderId recipientId : String) : Prop :=
  ∃ start goal, state.cityOwner start = some senderId ∧ state.cityOwner goal = some recipientId ∧
    Relation.ReflTransGen (LandStep mapDefinition state senderId recipientId) start goal

theorem LetsPass.symm {state : MatchState} {senderId recipientId owner : String}
    (h : LetsPass state senderId recipientId owner) : LetsPass state recipientId senderId owner := by
  rcases h with h | h | ⟨allianceId, hsender, hrecipient, howner⟩
  · exact Or.inr (Or.inl h)
  · exact Or.inl h
  · exact Or.inr (Or.inr ⟨allianceId, hrecipient, hsender, howner⟩)

theorem LandStep.reverse {mapDefinition : MapDefinition} {state : MatchState}
    {senderId recipientId cityA cityB : String} (h : LandStep mapDefinition state senderId recipientId cityA cityB) :
    LandStep mapDefinition state recipientId senderId cityB cityA := by
  obtain ⟨⟨edge, hedge, hland, hjoins⟩, ⟨ownerA, hownerA, hpassA⟩, ownerB, hownerB, hpassB⟩ := h
  exact ⟨⟨edge, hedge, hland, MapEdge.joins_comm.1 hjoins⟩, ⟨ownerB, hownerB, hpassB.symm⟩, ownerA, hownerA,
    hpassA.symm⟩

theorem LandConnected.symm {mapDefinition : MapDefinition} {state : MatchState} {senderId recipientId : String}
    (h : LandConnected mapDefinition state senderId recipientId) :
    LandConnected mapDefinition state recipientId senderId := by
  obtain ⟨start, goal, hstart, hgoal, hpath⟩ := h
  refine ⟨goal, start, hgoal, hstart, ?_⟩
  clear hgoal
  induction hpath with
  | refl => exact Relation.ReflTransGen.refl
  | tail _ hstep ih => exact (Relation.ReflTransGen.single hstep.reverse).trans ih

/-- Dictionaries with the same entries in another order, and edges listed in another order. -/
structure MapReordered (mapDefinition mapDefinition' : MapDefinition) (state state' : MatchState) : Prop where
  cities : ∀ cityId, state'.cities.get? cityId = state.cities.get? cityId
  players : ∀ playerId, state'.players.get? playerId = state.players.get? playerId
  edges : ∀ edge, edge ∈ mapDefinition'.edges ↔ edge ∈ mapDefinition.edges

theorem MapReordered.landConnected {mapDefinition mapDefinition' : MapDefinition} {state state' : MatchState}
    (h : MapReordered mapDefinition mapDefinition' state state') (senderId recipientId : String) :
    LandConnected mapDefinition' state' senderId recipientId ↔
      LandConnected mapDefinition state senderId recipientId := by
  have howner : state'.cityOwner = state.cityOwner := by
    funext cityId
    simp only [MatchState.cityOwner, h.cities]
  have halliance : allianceOf state' = allianceOf state := by
    funext playerId
    simp only [allianceOf, h.players]
  have hstep : LandStep mapDefinition' state' senderId recipientId = LandStep mapDefinition state senderId recipientId := by
    funext cityA cityB
    simp only [LandStep, LandEdge, OpenCity, LetsPass, howner, halliance, h.edges]
  simp only [LandConnected, howner, hstep]

/-! ### The search's own sets -/

section Search

variable {state : MatchState} {senderId recipientId : String} {sender recipient : PlayerState}

theorem mem_citiesOwnedBy {owners : List String} {cityId : String} :
    cityId ∈ citiesOwnedBy state owners ↔ ∃ owner ∈ owners, state.cityOwner cityId = some owner := by
  simp only [citiesOwnedBy, List.mem_map, List.mem_filter, Option.any_eq_true, decide_eq_true_eq, Prod.exists,
    MatchState.cityOwner_eq_some, OrdDict.get?_eq_some]
  grind

theorem nodup_citiesOwnedBy (owners : List String) : (citiesOwnedBy state owners).Nodup :=
  state.cities.keys_nodup.sublist (List.filter_sublist.map Prod.fst)

theorem mem_connectedRouteOwnerIds (hsender : state.players.get? senderId = some sender)
    (hrecipient : state.players.get? recipientId = some recipient) {owner : String} :
    owner ∈ connectedRouteOwnerIds state senderId recipientId sender recipient ↔
      LetsPass state senderId recipientId owner := by
  unfold connectedRouteOwnerIds LetsPass
  rw [allianceOf_self hsender, allianceOf_self hrecipient]
  split
  · rename_i hallied
    obtain ⟨allianceId, hid⟩ := Option.ne_none_iff_exists'.1 hallied.1
    have hmembers : owner ∈ (state.players.entries.filter fun entry => entry.2.allianceId = sender.allianceId).map Prod.fst ↔
        allianceOf state owner = some allianceId := by
      simp only [List.mem_map, List.mem_filter, decide_eq_true_eq, Prod.exists, allianceOf, Option.bind_eq_some_iff,
        OrdDict.get?_eq_some, hid]
      grind
    rw [List.mem_cons, List.mem_cons, hmembers, ← hallied.2, hid]
    simp
  · rename_i hallied
    rw [List.mem_cons, List.mem_singleton]
    refine or_congr_right (or_iff_left ?_).symm
    rintro ⟨allianceId, hsenderId, hrecipientId, _⟩
    exact hallied ⟨by simp [hsenderId], hsenderId.trans hrecipientId.symm⟩

def openNeighbors (landAdjacency : OrdDict String (List String)) (traversable : List String) (cityId : String) :
    List String :=
  ((neighborsIn landAdjacency cityId).insertionSort (· ≤ ·)).filter (· ∈ traversable)

/-- The model's search is the library's, with a search that is cut off read as a failure. -/
theorem landRouteSearch_eq (landAdjacency : OrdDict String (List String)) (traversable goals : List String)
    (turns : Nat) (queue visited : List String) :
    landRouteSearch landAdjacency traversable goals turns queue visited =
      (Graph.search (openNeighbors landAdjacency traversable) goals turns queue visited).getD false := by
  induction turns generalizing queue visited with
  | zero => rfl
  | succ turns ih =>
      cases queue with
      | nil => rfl
      | cons cityId queue =>
          rw [landRouteSearch, Graph.search]
          split
          · rfl
          · simp only [openNeighbors, List.filter_filter, ih, Bool.decide_and]

end Search

/-! ### The answer -/

section Answer

variable (mapDefinition : MapDefinition) (state : MatchState) (senderId recipientId : String)
  (sender recipient : PlayerState)

def traversableCities : List String :=
  citiesOwnedBy state (connectedRouteOwnerIds state senderId recipientId sender recipient)

def routeStarts : List String :=
  ((citiesOwnedBy state [senderId]).filter
    (· ∈ traversableCities state senderId recipientId sender recipient)).insertionSort (· ≤ ·)

def routeGoals : List String :=
  (citiesOwnedBy state [recipientId]).filter (· ∈ traversableCities state senderId recipientId sender recipient)

def landNeighbors : String → List String :=
  openNeighbors (buildAdjacencyIndex mapDefinition (some .land))
    (traversableCities state senderId recipientId sender recipient)

/-- The search between two players, with as many turns as it is given in the model. -/
def landRouteRun : Option Bool :=
  Graph.search (landNeighbors mapDefinition state senderId recipientId sender recipient)
    (routeGoals state senderId recipientId sender recipient)
    ((traversableCities state senderId recipientId sender recipient).length + 1)
    (routeStarts state senderId recipientId sender recipient) (routeStarts state senderId recipientId sender recipient)

variable {mapDefinition state senderId recipientId sender recipient}

theorem mem_traversableCities (hsender : state.players.get? senderId = some sender)
    (hrecipient : state.players.get? recipientId = some recipient) {cityId : String} :
    cityId ∈ traversableCities state senderId recipientId sender recipient ↔
      OpenCity state senderId recipientId cityId := by
  rw [traversableCities, mem_citiesOwnedBy]
  simp only [mem_connectedRouteOwnerIds hsender hrecipient, OpenCity, and_comm]

theorem mem_routeStarts (hsender : state.players.get? senderId = some sender)
    (hrecipient : state.players.get? recipientId = some recipient) {cityId : String} :
    cityId ∈ routeStarts state senderId recipientId sender recipient ↔ state.cityOwner cityId = some senderId := by
  rw [routeStarts, List.mem_insertionSort, List.mem_filter, decide_eq_true_eq,
    mem_traversableCities hsender hrecipient, mem_citiesOwnedBy]
  simp only [List.mem_singleton, exists_eq_left, and_iff_left_iff_imp]
  exact fun hcity => ⟨senderId, hcity, Or.inl rfl⟩

theorem mem_routeGoals (hsender : state.players.get? senderId = some sender)
    (hrecipient : state.players.get? recipientId = some recipient) {cityId : String} :
    cityId ∈ routeGoals state senderId recipientId sender recipient ↔ state.cityOwner cityId = some recipientId := by
  rw [routeGoals, List.mem_filter, decide_eq_true_eq, mem_traversableCities hsender hrecipient, mem_citiesOwnedBy]
  simp only [List.mem_singleton, exists_eq_left, and_iff_left_iff_imp]
  exact fun hcity => ⟨recipientId, hcity, Or.inr (Or.inl rfl)⟩

theorem mem_landNeighbors (hsender : state.players.get? senderId = some sender)
    (hrecipient : state.players.get? recipientId = some recipient) {cityA cityB : String} :
    cityB ∈ landNeighbors mapDefinition state senderId recipientId sender recipient cityA ↔
      LandEdge mapDefinition cityA cityB ∧ OpenCity state senderId recipientId cityB := by
  rw [landNeighbors, openNeighbors, List.mem_filter, List.mem_insertionSort, decide_eq_true_eq,
    mem_neighborsIn_buildAdjacencyIndex, mem_traversableCities hsender hrecipient]
  simp [LandEdge]

theorem reaches_landNeighbors (hsender : state.players.get? senderId = some sender)
    (hrecipient : state.players.get? recipientId = some recipient) {start goal : String}
    (hstart : OpenCity state senderId recipientId start) :
    Graph.Reaches (landNeighbors mapDefinition state senderId recipientId sender recipient) start goal ↔
      Relation.ReflTransGen (LandStep mapDefinition state senderId recipientId) start goal := by
  constructor
  · intro hreach
    suffices h : Relation.ReflTransGen (LandStep mapDefinition state senderId recipientId) start goal ∧
      OpenCity state senderId recipientId goal from h.1
    induction hreach with
    | refl => exact ⟨Relation.ReflTransGen.refl, hstart⟩
    | tail _ hstep ih =>
        obtain ⟨hedge, hcity⟩ := (mem_landNeighbors hsender hrecipient).1 hstep
        exact ⟨ih.1.tail ⟨hedge, ih.2, hcity⟩, hcity⟩
  · intro hpath
    induction hpath with
    | refl => exact Relation.ReflTransGen.refl
    | tail _ hstep ih => exact ih.tail ((mem_landNeighbors hsender hrecipient).2 ⟨hstep.1, hstep.2.2⟩)

/-- The search ends before its turns are used up, and finds a route when there is one. -/
theorem landRouteRun_eq_some (hsender : state.players.get? senderId = some sender)
    (hrecipient : state.players.get? recipientId = some recipient) :
    ∃ found, landRouteRun mapDefinition state senderId recipientId sender recipient = some found ∧
      (found = true ↔ LandConnected mapDefinition state senderId recipientId) := by
  have hsearch : ∃ found, landRouteRun mapDefinition state senderId recipientId sender recipient = some found ∧
      (found = true ↔ ∃ start ∈ routeStarts state senderId recipientId sender recipient,
        ∃ goal ∈ routeGoals state senderId recipientId sender recipient,
          Graph.Reaches (landNeighbors mapDefinition state senderId recipientId sender recipient) start goal) := by
    refine Graph.search_eq_some ?_ ?_ ?_ ?_
    · exact fun cityId neighbor hneighbor => of_decide_eq_true (List.mem_filter.1 hneighbor).2
    · exact fun cityId => ((List.perm_insertionSort _ _).nodup_iff.2
        (nodup_neighborsIn_buildAdjacencyIndex mapDefinition (some .land) cityId)).filter _
    · exact (List.perm_insertionSort _ _).nodup_iff.2 ((nodup_citiesOwnedBy _).filter _)
    · exact fun cityId hcity => of_decide_eq_true (List.mem_filter.1 ((List.mem_insertionSort _).1 hcity)).2
  obtain ⟨found, hfound, hiff⟩ := hsearch
  refine ⟨found, hfound, hiff.trans ⟨?_, ?_⟩⟩
  · intro ⟨start, hstart, goal, hgoal, hreach⟩
    have hsent : state.cityOwner start = some senderId := (mem_routeStarts hsender hrecipient).1 hstart
    exact ⟨start, goal, hsent, (mem_routeGoals hsender hrecipient).1 hgoal,
      (reaches_landNeighbors hsender hrecipient ⟨senderId, hsent, Or.inl rfl⟩).1 hreach⟩
  · intro ⟨start, goal, hstart, hgoal, hpath⟩
    exact ⟨start, (mem_routeStarts hsender hrecipient).2 hstart, goal, (mem_routeGoals hsender hrecipient).2 hgoal,
      (reaches_landNeighbors hsender hrecipient ⟨senderId, hstart, Or.inl rfl⟩).2 hpath⟩

theorem hasConnectedLandRoute_eq (hsender : state.players.get? senderId = some sender)
    (hrecipient : state.players.get? recipientId = some recipient) :
    landRouteRun mapDefinition state senderId recipientId sender recipient =
      some (hasConnectedLandRoute state (buildAdjacencyIndex mapDefinition (some .land)) senderId recipientId sender
        recipient) := by
  have hends : ∃ found, landRouteRun mapDefinition state senderId recipientId sender recipient = some found ∧
      (found = true ↔ LandConnected mapDefinition state senderId recipientId) := landRouteRun_eq_some hsender hrecipient
  obtain ⟨found, hfound, hiff⟩ := hends
  rw [hfound]
  unfold hasConnectedLandRoute
  dsimp only
  split
  · rename_i hnone
    cases found with
    | false => rfl
    | true =>
        obtain ⟨start, goal, hstart, hgoal, -⟩ := hiff.1 rfl
        have hsent : start ∈ citiesOwnedBy state [senderId] := mem_citiesOwnedBy.2 ⟨senderId, by simp, hstart⟩
        have hreceived : goal ∈ citiesOwnedBy state [recipientId] := mem_citiesOwnedBy.2 ⟨recipientId, by simp, hgoal⟩
        rcases hnone with hnone | hnone
        · simp [hnone] at hsent
        · simp [hnone] at hreceived
  · rw [landRouteSearch_eq]
    have hrun : landRouteRun mapDefinition state senderId recipientId sender recipient = some found := hfound
    unfold landRouteRun landNeighbors routeGoals routeStarts traversableCities at hrun
    rw [hrun, Option.getD_some]

theorem hasConnectedLandRoute_iff (hsender : state.players.get? senderId = some sender)
    (hrecipient : state.players.get? recipientId = some recipient) :
    hasConnectedLandRoute state (buildAdjacencyIndex mapDefinition (some .land)) senderId recipientId sender
      recipient = true ↔ LandConnected mapDefinition state senderId recipientId := by
  obtain ⟨found, hfound, hiff⟩ := landRouteRun_eq_some hsender hrecipient
  rw [hasConnectedLandRoute_eq hsender hrecipient] at hfound
  rw [Option.some_inj.1 hfound, hiff]

end Answer

/-- Two players have a land route exactly when open land connects a city of the one with a city of the other. So the answer is the same for both and does not depend on the order of any list, and the search for it comes to an end. -/
theorem landRoute_iff_connected (mapDefinition : MapDefinition) {state : MatchState} {senderId recipientId : String}
    {sender recipient : PlayerState} (hsender : state.players.get? senderId = some sender)
    (hrecipient : state.players.get? recipientId = some recipient) :
    (hasConnectedLandRoute state (buildAdjacencyIndex mapDefinition (some .land)) senderId recipientId sender recipient =
        true ↔ LandConnected mapDefinition state senderId recipientId) ∧
      hasConnectedLandRoute state (buildAdjacencyIndex mapDefinition (some .land)) recipientId senderId recipient sender =
        hasConnectedLandRoute state (buildAdjacencyIndex mapDefinition (some .land)) senderId recipientId sender
          recipient ∧
      (∀ mapDefinition' state', MapReordered mapDefinition mapDefinition' state state' →
        hasConnectedLandRoute state' (buildAdjacencyIndex mapDefinition' (some .land)) senderId recipientId sender
            recipient =
          hasConnectedLandRoute state (buildAdjacencyIndex mapDefinition (some .land)) senderId recipientId sender
            recipient) ∧
      landRouteRun mapDefinition state senderId recipientId sender recipient ≠ none := by
  refine ⟨hasConnectedLandRoute_iff hsender hrecipient, ?_, ?_, ?_⟩
  · rw [Bool.eq_iff_iff, hasConnectedLandRoute_iff hrecipient hsender, hasConnectedLandRoute_iff hsender hrecipient]
    exact ⟨LandConnected.symm, LandConnected.symm⟩
  · intro mapDefinition' state' hsame
    rw [Bool.eq_iff_iff, hasConnectedLandRoute_iff ((hsame.players senderId).trans hsender) ((hsame.players recipientId).trans hrecipient),
      hasConnectedLandRoute_iff hsender hrecipient]
    exact hsame.landConnected senderId recipientId
  · rw [hasConnectedLandRoute_eq hsender hrecipient]
    exact Option.some_ne_none _

theorem landRoute_iff_connected_duel :
    hasConnectedLandRoute duelState (buildAdjacencyIndex loadUk1900Map (some .land)) "p1" "p2" (duelPlayer "london")
        (duelPlayer "southampton") = true ∧
      landRouteRun loadUk1900Map duelState "p1" "p2" (duelPlayer "london") (duelPlayer "southampton") ≠ none := by
  have hedge : LandEdge loadUk1900Map "london" "southampton" :=
    ⟨⟨"london", "southampton", 1, by decide, .land⟩, by decide, rfl, Or.inl ⟨rfl, rfl⟩⟩
  have hsender : duelState.players.get? "p1" = some (duelPlayer "london") := rfl
  have hrecipient : duelState.players.get? "p2" = some (duelPlayer "southampton") := rfl
  have hroute := landRoute_iff_connected loadUk1900Map hsender hrecipient
  exact ⟨hroute.1.2 ⟨"london", "southampton", rfl, rfl, Relation.ReflTransGen.single
    ⟨hedge, ⟨"p1", rfl, Or.inl rfl⟩, "p2", rfl, Or.inr (Or.inl rfl)⟩⟩, hroute.2.2.2⟩

end IronCouncil
