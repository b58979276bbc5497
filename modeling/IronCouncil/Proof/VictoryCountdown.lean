import IronCouncil.Proof.LiveOffline
import IronCouncil.Resolver.Frames

/-!
# The victory countdown over whole runs

A match goes through ticks and alliance actions. Both update the victory state, by different rules, and share the countdown. The history of tick ends ties the countdown to the leader: a countdown of `c` says that the leader has led at the threshold at the last `threshold - c` tick ends.
-/

namespace IronCouncil

/-! ### Standings -/

section Standings

variable (state : MatchState)

def coalitionIdOfCity (city : CityState) : Option String :=
  city.owner.bind fun owner => (state.players.get? owner).map fun player => player.allianceId.getD owner

/-- The number of cities that the members of a coalition own. -/
def holding (coalitionId : String) : Nat := (state.cities.values.filterMap (coalitionIdOfCity state)).count coalitionId

def LeadsAlone (coalitionId : String) : Prop :=
  0 < holding state coalitionId ∧ ∀ other, other ≠ coalitionId → holding state other < holding state coalitionId

/-- The recorded leader is the unique top coalition, and the recorded count is the largest holding. -/
structure StandingsCorrect : Prop where
  leader : ∀ coalitionId, state.victory.leadingAlliance = some coalitionId ↔ LeadsAlone state coalitionId
  largest : ∀ coalitionId, holding state coalitionId ≤ state.victory.citiesHeld
  attained : ∃ coalitionId, holding state coalitionId = state.victory.citiesHeld

/-- The coalition leads alone and holds the threshold. -/
def LeadsAt (threshold : Nat) (coalitionId : String) : Prop :=
  LeadsAlone state coalitionId ∧ threshold ≤ holding state coalitionId

end Standings

theorem coalitionIdOfCity_eq_plain {state : MatchState} (hapart : CoalitionIdsApart state) :
    plainCoalitionOfOwner state = coalitionIdOfCity state := by
  funext city
  unfold plainCoalitionOfOwner coalitionIdOfCity
  cases city.owner with
  | none => rfl
  | some owner =>
      simp only [Option.bind_some]
      cases hplayer : state.players.get? owner with
      | none => rfl
      | some player =>
          cases halliance : player.allianceId with
          | none => simp [plainCoalitionId, halliance]
          | some allianceId => simp [plainCoalitionId, halliance, (hapart owner player hplayer allianceId halliance).1]

theorem plainLeading_fst {state : MatchState} (hapart : CoalitionIdsApart state) (coalitionId : String) :
    (plainLeading state).1 = some coalitionId ↔ LeadsAlone state coalitionId := by
  unfold plainLeading plainCityCounts
  rw [coalitionIdOfCity_eq_plain hapart]
  exact soleLeader_tally_eq_some

theorem holding_le_plainLeading {state : MatchState} (hapart : CoalitionIdsApart state) (coalitionId : String) :
    holding state coalitionId ≤ (plainLeading state).2 := by
  unfold plainLeading plainCityCounts
  rw [coalitionIdOfCity_eq_plain hapart]
  exact count_le_largestCount _ coalitionId

theorem exists_holding_eq_plainLeading {state : MatchState} (hapart : CoalitionIdsApart state) :
    ∃ coalitionId, holding state coalitionId = (plainLeading state).2 := by
  unfold plainLeading plainCityCounts
  rw [coalitionIdOfCity_eq_plain hapart]
  by_cases hne : state.cities.values.filterMap (coalitionIdOfCity state) = []
  · refine ⟨"", ?_⟩
    unfold holding
    rw [hne]
    rfl
  · obtain ⟨coalitionId, -, hcount⟩ := exists_count_eq_largestCount hne
    exact ⟨coalitionId, hcount⟩

/-- A sole leader's holding is the largest one. -/
theorem holding_leader {state : MatchState} (hapart : CoalitionIdsApart state) {coalitionId : String}
    (hleads : LeadsAlone state coalitionId) : holding state coalitionId = (plainLeading state).2 := by
  obtain ⟨top, htop⟩ := exists_holding_eq_plainLeading hapart
  have hle := holding_le_plainLeading hapart coalitionId
  by_cases h : top = coalitionId
  · rw [← h, htop]
  · have := hleads.2 top h
    omega

theorem leadsAt_iff {state : MatchState} (hapart : CoalitionIdsApart state) {threshold : Nat} {coalitionId : String} :
    LeadsAt state threshold coalitionId ↔
      (plainLeading state).1 = some coalitionId ∧ threshold ≤ (plainLeading state).2 := by
  rw [plainLeading_fst hapart, LeadsAt]
  constructor
  · rintro ⟨hleads, hle⟩
    exact ⟨hleads, holding_leader hapart hleads ▸ hle⟩
  · rintro ⟨hleads, hle⟩
    exact ⟨hleads, (holding_leader hapart hleads).symm ▸ hle⟩

/-- Bringing the victory state up to date records the standings. -/
theorem standingsCorrect_syncVictoryState {state : MatchState} (hapart : CoalitionIdsApart state) :
    StandingsCorrect (syncVictoryState state) where
  leader := plainLeading_fst hapart
  largest := holding_le_plainLeading hapart
  attained := exists_holding_eq_plainLeading hapart

/-! ### The countdown's two rules -/

/-- A coalition that is recorded as leader and starts or keeps leading at the threshold. -/
theorem syncedVictoryCountdown_of_leads (victory : VictoryState) {leading : Option String × Nat}
    {coalitionId : String} (hleader : leading.1 = some coalitionId) (hheld : victory.threshold ≤ leading.2)
    (hrecorded : victory.leadingAlliance = some coalitionId) :
    syncedVictoryCountdown victory leading.1 leading.2 =
      some (victory.countdownTicksRemaining.getD victory.threshold) := by
  unfold syncedVictoryCountdown
  rw [if_neg (by simp [hleader, hheld]), if_neg (by simp [hrecorded]), if_neg (by simp [hrecorded, hleader])]
  cases victory.countdownTicksRemaining <;> rfl

theorem syncedVictoryCountdown_eq_some (victory : VictoryState) {leading : Option String × Nat} {countdown : Nat}
    (h : syncedVictoryCountdown victory leading.1 leading.2 = some countdown) :
    leading.1 ≠ none ∧ victory.threshold ≤ leading.2 ∧ (countdown = victory.threshold ∨
      (victory.leadingAlliance = leading.1 ∧ victory.countdownTicksRemaining = some countdown)) := by
  unfold syncedVictoryCountdown at h
  split at h
  · cases h
  · rename_i hout
    obtain ⟨hleader, hheld⟩ := not_or.1 hout
    refine ⟨hleader, Nat.le_of_not_lt hheld, ?_⟩
    split at h
    · cases h
      exact Or.inl rfl
    · split at h
      · cases h
      · rename_i hrecorded
        split at h
        · cases h
          exact Or.inl rfl
        · rename_i remaining hremaining
          cases h
          exact Or.inr ⟨not_not.1 hrecorded, hremaining⟩

/-- The victory state a live tick ends with: the resolver's rule, then the second one. -/
def tickedVictory (victory : VictoryState) (leading : Option String × Nat) : VictoryState :=
  syncedVictory (updatedVictory victory leading) leading

theorem tickedVictory_countdown_of_leads {victory : VictoryState} {leading : Option String × Nat} {coalitionId : String}
    (hleader : leading.1 = some coalitionId) (hheld : victory.threshold ≤ leading.2) :
    (tickedVictory victory leading).countdownTicksRemaining =
      some (if victory.leadingAlliance = some coalitionId then
        (victory.countdownTicksRemaining.map (· - 1)).getD victory.threshold else victory.threshold) := by
  have hsynced := syncedVictoryCountdown_of_leads (updatedVictory victory leading) hleader hheld hleader
  change syncedVictoryCountdown (updatedVictory victory leading) leading.1 leading.2 = _
  rw [hsynced]
  change some ((updatedVictoryCountdown victory leading.1 leading.2).getD victory.threshold) = _
  unfold updatedVictoryCountdown
  rw [if_neg (by simp [hleader, hheld])]
  by_cases hnone : victory.leadingAlliance = none
  · simp [hnone]
  · by_cases hkept : victory.leadingAlliance = some coalitionId
    · rw [if_neg hnone, if_neg (by simp [hkept, hleader]), if_pos hkept]
      cases victory.countdownTicksRemaining <;> rfl
    · rw [if_neg hnone, if_pos (by rw [hleader]; exact hkept), if_neg hkept]
      rfl

theorem tickedVictory_countdown_eq_some {victory : VictoryState} {leading : Option String × Nat} {countdown : Nat}
    (h : (tickedVictory victory leading).countdownTicksRemaining = some countdown) :
    ∃ coalitionId, leading.1 = some coalitionId ∧ victory.threshold ≤ leading.2 ∧
      (countdown = victory.threshold ∨ ∃ before, victory.leadingAlliance = some coalitionId ∧
        victory.countdownTicksRemaining = some before ∧ countdown = before - 1) := by
  obtain ⟨hleader, hheld, -⟩ := syncedVictoryCountdown_eq_some (updatedVictory victory leading) h
  change victory.threshold ≤ leading.2 at hheld
  obtain ⟨coalitionId, hleader⟩ := Option.ne_none_iff_exists'.1 hleader
  refine ⟨coalitionId, hleader, hheld, ?_⟩
  rw [tickedVictory_countdown_of_leads hleader hheld, Option.some.injEq] at h
  split at h
  · rename_i hkept
    cases hbefore : victory.countdownTicksRemaining with
    | none =>
        rw [hbefore] at h
        exact Or.inl h.symm
    | some before =>
        rw [hbefore] at h
        exact Or.inr ⟨before, hkept, rfl, h.symm⟩
  · exact Or.inl h.symm

/-! ### Runs of ticks and alliance actions -/

/-- A tick, with the queue it finds, or an alliance action. -/
inductive VictoryEvent
  | tick (submissions : List OrderEnvelope)
  | alliance (playerId : String) (action : AllianceActionRequest)

/-- A record and the states at the ends of the ticks so far, the latest first. -/
structure Watch where
  record : MatchRecord
  tickEnds : List MatchState

def watchStep (watch : Watch) : VictoryEvent → Watch
  | .tick submissions =>
      let advanced := advanceMatchTick (withSubmissions watch.record submissions)
      match advanced.2 with
      | .error _ => ⟨advanced.1, watch.tickEnds⟩
      | .ok result => ⟨advanced.1, result.nextState :: watch.tickEnds⟩
  | .alliance playerId action =>
      match applyAllianceAction watch.record watch.record.matchId action playerId with
      | .error _ => watch
      | .ok (next, _) => ⟨next, watch.tickEnds⟩

/-- The tick did not raise, or the action was accepted. -/
def Accepted (watch : Watch) : VictoryEvent → Prop
  | .tick submissions => ∃ result, (advanceMatchTick (withSubmissions watch.record submissions)).2 = .ok result
  | .alliance playerId action =>
      ∃ next, applyAllianceAction watch.record watch.record.matchId action playerId = .ok next

/-- Alliance ids, stored, worn by a player or still to be minted, are neither empty nor a player's id. -/
structure AllianceIdsApart (record : MatchRecord) : Prop where
  worn : CoalitionIdsApart record.state
  stored : ∀ alliance ∈ record.alliances, alliance.allianceId ≠ "" ∧ alliance.allianceId ∉ record.state.players.keys
  minted : ∀ n, numberedName "alliance-" n ∉ record.state.players.keys

theorem coalitionIdsApart_of_memberships {state state' : MatchState} (h : state'.memberships = state.memberships)
    (hapart : CoalitionIdsApart state) : CoalitionIdsApart state' := by
  intro playerId player hplayer allianceId halliance
  have hmem : (playerId, some allianceId) ∈ state.memberships := by
    rw [← h, MatchState.mem_memberships]
    exact ⟨player, hplayer, halliance⟩
  obtain ⟨player', hplayer', halliance'⟩ := MatchState.mem_memberships.1 hmem
  rw [MatchState.keys_eq_memberships, h, ← MatchState.keys_eq_memberships]
  exact hapart playerId player' hplayer' allianceId halliance'

theorem numberedName_ne_empty (n : Nat) : numberedName "alliance-" n ≠ "" := by
  intro h
  have hlen := congrArg String.length h
  simp [numberedName, String.length_append] at hlen

theorem AllianceIdsApart.known {record : MatchRecord} (hapart : AllianceIdsApart record) {allianceId : String}
    (h : KnownAllianceId record.alliances allianceId) :
    allianceId ≠ "" ∧ allianceId ∉ record.state.players.keys := by
  rcases h with ⟨n, rfl⟩ | ⟨alliance, halliance, rfl⟩
  · exact ⟨numberedName_ne_empty n, hapart.minted n⟩
  · exact hapart.stored alliance halliance

/-- Every successful tick ends in a state with the same members, whose victory state follows the live rule. -/
theorem tick_state {record : MatchRecord} {settled : MatchState} (h : settledBoard record = .ok settled)
    (hapart : CoalitionIdsApart record.state) :
    (advanceMatchTick record).1.state.memberships = record.state.memberships ∧
      StandingsCorrect (advanceMatchTick record).1.state ∧
      (advanceMatchTick record).1.state.victory =
        tickedVictory record.state.victory (plainLeading (advanceMatchTick record).1.state) := by
  have hframe := tickFrame_resolveThroughDiplomacy h
  have hvictory : settled.victory = record.state.victory := congrArg (fun frame => frame.2.1) hframe
  have hmembers : settled.memberships = record.state.memberships := congrArg (fun frame => frame.2.2) hframe
  have hsettled := coalitionIdsApart_of_memberships hmembers hapart
  have hticked : CoalitionIdsApart (tickedState record settled) := hsettled
  rw [(advanceMatchTick_of_settled h).1]
  refine ⟨hmembers, standingsCorrect_syncVictoryState hticked, ?_⟩
  change syncedVictory (updatedVictory settled.victory (leadingCoalition (coalitionCityCounts settled)))
    (plainLeading settled) = tickedVictory record.state.victory (plainLeading settled)
  rw [← plainLeading_eq_leadingCoalition hsettled, hvictory]
  rfl

theorem memberships_setAlliance {state : MatchState} {playerId member : String} {allianceId worn : Option String}
    (h : (member, worn) ∈ (setAlliance state playerId allianceId).memberships) :
    worn = allianceId ∨ (member, worn) ∈ state.memberships := by
  obtain ⟨player, hplayer, rfl⟩ := MatchState.mem_memberships.1 h
  change (state.players.modify playerId _).get? member = some player at hplayer
  rw [OrdDict.get?_modify] at hplayer
  split at hplayer
  · obtain ⟨before, -, rfl⟩ := Option.map_eq_some_iff.1 hplayer
    exact Or.inl rfl
  · exact Or.inr (MatchState.mem_memberships.2 ⟨player, hplayer, rfl⟩)

theorem keys_setAlliance (state : MatchState) (playerId : String) (allianceId : Option String) :
    (setAlliance state playerId allianceId).players.keys = state.players.keys := MatchState.modifyPlayer_keys _ _ _

/-- An accepted alliance action keeps the ids apart and brings the victory state up to date. -/
theorem alliance_state {record next : MatchRecord} {matchId playerId : String} {action : AllianceActionRequest}
    {response : Option MatchAlliance} (h : applyAllianceAction record matchId action playerId = .ok (next, response))
    (hapart : AllianceIdsApart record) :
    AllianceIdsApart next ∧ StandingsCorrect next.state ∧
      next.state.victory = syncedVictory record.state.victory (plainLeading next.state) := by
  obtain ⟨alliances, allianceId, rfl, hworn, hstored⟩ := applyAllianceAction_eq_ok h
  have hmembers : CoalitionIdsApart (setAlliance record.state playerId allianceId) := by
    intro member player hplayer id hid
    rw [keys_setAlliance]
    rcases memberships_setAlliance (MatchState.mem_memberships.2 ⟨player, hplayer, hid⟩) with hset | hbefore
    · exact hapart.known (hworn id hset.symm)
    · obtain ⟨player', hplayer', hid'⟩ := MatchState.mem_memberships.1 hbefore
      exact hapart.worn member player' hplayer' id hid'
  refine ⟨⟨hmembers, ?_, ?_⟩, standingsCorrect_syncVictoryState hmembers, rfl⟩
  · intro alliance halliance
    change _ ∧ _ ∉ (setAlliance record.state playerId allianceId).players.keys
    rw [keys_setAlliance]
    exact hapart.known (hstored alliance halliance)
  · intro n
    change _ ∉ (setAlliance record.state playerId allianceId).players.keys
    rw [keys_setAlliance]
    exact hapart.minted n

/-! ### The history behind a countdown -/

/-- What a countdown says about the tick ends so far. -/
structure CountdownJustified (threshold : Nat) (watch : Watch) : Prop where
  apart : AllianceIdsApart watch.record
  threshold_eq : watch.record.state.victory.threshold = threshold
  justified : ∀ countdown, watch.record.state.victory.countdownTicksRemaining = some countdown →
    ∃ coalitionId, watch.record.state.victory.leadingAlliance = some coalitionId ∧
      LeadsAt watch.record.state threshold coalitionId ∧ countdown ≤ threshold ∧
      threshold - countdown ≤ watch.tickEnds.length ∧
      ∀ state ∈ watch.tickEnds.take (threshold - countdown), LeadsAt state threshold coalitionId

/-- A step raises or is rejected and leaves the state alone, or ends a tick, or carries out an alliance action. -/
theorem watchStep_cases (watch : Watch) (event : VictoryEvent) :
    (¬ Accepted watch event ∧ (watchStep watch event).record.state = watch.record.state ∧
        (watchStep watch event).record.alliances = watch.record.alliances ∧
        (watchStep watch event).tickEnds = watch.tickEnds) ∨
      (∃ submissions settled, event = .tick submissions ∧
        settledBoard (withSubmissions watch.record submissions) = .ok settled ∧
        watchStep watch event =
          ⟨(advanceMatchTick (withSubmissions watch.record submissions)).1,
            (advanceMatchTick (withSubmissions watch.record submissions)).1.state :: watch.tickEnds⟩) ∨
      ∃ playerId action next response, event = .alliance playerId action ∧
        applyAllianceAction watch.record watch.record.matchId action playerId = .ok (next, response) ∧
        watchStep watch event = ⟨next, watch.tickEnds⟩ := by
  cases event with
  | tick submissions =>
      cases hboard : settledBoard (withSubmissions watch.record submissions) with
      | error error =>
          obtain ⟨hstate, hresult⟩ := advanceMatchTick_of_error hboard
          refine Or.inl ⟨?_, ?_, ?_, ?_⟩
          · rintro ⟨result, hok⟩
            rw [hresult] at hok
            cases hok
          · simp only [watchStep, hresult]
            exact hstate
          · simp only [watchStep, hresult]
            exact advanceMatchTick_alliances _
          · simp only [watchStep, hresult]
      | ok settled =>
          obtain ⟨hstate, hresult⟩ := advanceMatchTick_of_settled hboard
          refine Or.inr (Or.inl ⟨submissions, settled, rfl, hboard, ?_⟩)
          simp only [watchStep, hresult, hstate]
  | alliance playerId action =>
      cases happly : applyAllianceAction watch.record watch.record.matchId action playerId with
      | error error =>
          refine Or.inl ⟨?_, ?_, ?_, ?_⟩
          · rintro ⟨next, hok⟩
            rw [happly] at hok
            cases hok
          · simp only [watchStep, happly]
          · simp only [watchStep, happly]
          · simp only [watchStep, happly]
      | ok applied =>
          refine Or.inr (Or.inr ⟨playerId, action, applied.1, applied.2, rfl, happly, ?_⟩)
          simp only [watchStep, happly]

theorem allianceIdsApart_of_state {record record' : MatchRecord} (hmembers : record'.state.memberships = record.state.memberships)
    (halliances : record'.alliances = record.alliances) (hapart : AllianceIdsApart record) : AllianceIdsApart record' where
  worn := coalitionIdsApart_of_memberships hmembers hapart.worn
  stored := by
    rw [halliances, MatchState.keys_eq_memberships, hmembers, ← MatchState.keys_eq_memberships]
    exact hapart.stored
  minted := by
    rw [MatchState.keys_eq_memberships, hmembers, ← MatchState.keys_eq_memberships]
    exact hapart.minted

theorem allianceIdsApart_step {watch : Watch} (hapart : AllianceIdsApart watch.record) (event : VictoryEvent) :
    AllianceIdsApart (watchStep watch event).record := by
  rcases watchStep_cases watch event with ⟨-, hstate, halliances, -⟩ | ⟨submissions, settled, -, hboard, hstep⟩ |
    ⟨playerId, action, next, response, -, happly, hstep⟩
  · exact allianceIdsApart_of_state (by rw [hstate]) halliances hapart
  · rw [hstep]
    have hworn : CoalitionIdsApart (withSubmissions watch.record submissions).state := hapart.worn
    have hqueued : AllianceIdsApart (withSubmissions watch.record submissions) :=
      ⟨hapart.worn, hapart.stored, hapart.minted⟩
    exact allianceIdsApart_of_state (tick_state hboard hworn).1 (advanceMatchTick_alliances _) hqueued
  · rw [hstep]
    exact (alliance_state happly hapart).1

/-- After every accepted event the standings are recorded. -/
theorem standingsCorrect_step {watch : Watch} (hapart : AllianceIdsApart watch.record) {event : VictoryEvent}
    (haccepted : Accepted watch event) : StandingsCorrect (watchStep watch event).record.state := by
  rcases watchStep_cases watch event with ⟨hrejected, -⟩ | ⟨submissions, settled, -, hboard, hstep⟩ |
    ⟨playerId, action, next, response, -, happly, hstep⟩
  · exact absurd haccepted hrejected
  · rw [hstep]
    have hworn : CoalitionIdsApart (withSubmissions watch.record submissions).state := hapart.worn
    exact (tick_state hboard hworn).2.1
  · rw [hstep]
    exact (alliance_state happly hapart).2.1

/-- A tick that keeps the leader takes one off the countdown and puts one more tick end behind it. -/
theorem countdownJustified_tick {threshold : Nat} {watch : Watch} (h : CountdownJustified threshold watch)
    {submissions : List OrderEnvelope} {settled : MatchState}
    (hboard : settledBoard (withSubmissions watch.record submissions) = .ok settled) {next : MatchRecord}
    (hnext : next = (advanceMatchTick (withSubmissions watch.record submissions)).1) (hapart : AllianceIdsApart next) :
    CountdownJustified threshold ⟨next, next.state :: watch.tickEnds⟩ := by
  have hworn : CoalitionIdsApart (withSubmissions watch.record submissions).state := h.apart.worn
  obtain ⟨-, -, hvictory⟩ := tick_state hboard hworn
  rw [← hnext] at hvictory
  change next.state.victory = tickedVictory watch.record.state.victory (plainLeading next.state) at hvictory
  refine ⟨hapart, ?_, ?_⟩
  · show next.state.victory.threshold = threshold
    rw [hvictory]
    exact h.threshold_eq
  · intro countdown hcountdown
    change next.state.victory.countdownTicksRemaining = some countdown at hcountdown
    rw [hvictory] at hcountdown
    obtain ⟨coalitionId, hleader, hheld, hcase⟩ := tickedVictory_countdown_eq_some hcountdown
    rw [h.threshold_eq] at hheld hcase
    have hleads : LeadsAt next.state threshold coalitionId := (leadsAt_iff hapart.worn).2 ⟨hleader, hheld⟩
    have hrecorded : next.state.victory.leadingAlliance = some coalitionId := by
      rw [hvictory]
      exact hleader
    refine ⟨coalitionId, hrecorded, hleads, ?_⟩
    rcases hcase with rfl | ⟨before, hkept, hbefore, rfl⟩
    · refine ⟨le_refl countdown, by simp, ?_⟩
      simp
    · obtain ⟨coalitionId', hkept', -, hle, hlength, hends⟩ := h.justified before hbefore
      have hsame : coalitionId' = coalitionId := Option.some.inj (hkept'.symm.trans hkept)
      rw [hsame] at hends
      refine ⟨by omega, ?_, ?_⟩
      · simp only [List.length_cons]
        omega
      · intro state hstate
        rcases Nat.eq_zero_or_pos (threshold - (before - 1)) with hzero | hpos
        · rw [hzero] at hstate
          exact absurd hstate List.not_mem_nil
        · rw [show threshold - (before - 1) = (threshold - (before - 1) - 1) + 1 by omega,
            List.take_succ_cons] at hstate
          rcases List.mem_cons.1 hstate with rfl | hstate
          · exact hleads
          · exact hends state (List.take_subset_take_left _ (by omega) hstate)

theorem countdownJustified_alliance {threshold : Nat} {watch : Watch} (h : CountdownJustified threshold watch)
    {playerId : String} {action : AllianceActionRequest} {next : MatchRecord} {response : Option MatchAlliance}
    (happly : applyAllianceAction watch.record watch.record.matchId action playerId = .ok (next, response)) :
    CountdownJustified threshold ⟨next, watch.tickEnds⟩ := by
  obtain ⟨hapart, -, hvictory⟩ := alliance_state happly h.apart
  refine ⟨hapart, ?_, ?_⟩
  · show next.state.victory.threshold = threshold
    rw [hvictory]
    exact h.threshold_eq
  · intro countdown hcountdown
    change next.state.victory.countdownTicksRemaining = some countdown at hcountdown
    rw [hvictory] at hcountdown
    obtain ⟨hleader, hheld, hcase⟩ := syncedVictoryCountdown_eq_some watch.record.state.victory hcountdown
    obtain ⟨coalitionId, hleader⟩ := Option.ne_none_iff_exists'.1 hleader
    rw [h.threshold_eq] at hheld hcase
    have hleads : LeadsAt next.state threshold coalitionId := (leadsAt_iff hapart.worn).2 ⟨hleader, hheld⟩
    have hrecorded : next.state.victory.leadingAlliance = some coalitionId := by
      rw [hvictory]
      exact hleader
    refine ⟨coalitionId, hrecorded, hleads, ?_⟩
    rcases hcase with rfl | ⟨hkept, hremaining⟩
    · refine ⟨le_refl countdown, by simp, ?_⟩
      simp
    · obtain ⟨coalitionId', hkept', -, hle, hlength, hends⟩ := h.justified countdown hremaining
      have hsame : coalitionId' = coalitionId := Option.some.inj (hkept'.symm.trans (hkept.trans hleader))
      rw [hsame] at hends
      exact ⟨hle, hlength, hends⟩

theorem countdownJustified_step {threshold : Nat} (watch : Watch) (event : VictoryEvent)
    (h : CountdownJustified threshold watch) : CountdownJustified threshold (watchStep watch event) := by
  have hapart := allianceIdsApart_step h.apart event
  rcases watchStep_cases watch event with ⟨-, hstate, -, htickEnds⟩ | ⟨submissions, settled, -, hboard, hstep⟩ |
    ⟨playerId, action, next, response, -, happly, hstep⟩
  · refine ⟨hapart, by rw [hstate]; exact h.threshold_eq, ?_⟩
    rw [hstate, htickEnds]
    exact h.justified
  · rw [hstep] at hapart ⊢
    exact countdownJustified_tick h hboard rfl hapart
  · rw [hstep]
    exact countdownJustified_alliance h happly

/-! ### A leader that stays -/

/-- What a streak of tick ends with one leader says about the countdown. -/
def StreakCounted (threshold : Nat) (start watch : Watch) : Prop :=
  ∀ streak coalitionId, start.tickEnds.length + (streak + 1) ≤ watch.tickEnds.length →
    (∀ state ∈ watch.tickEnds.take (streak + 1), LeadsAt state threshold coalitionId) →
    watch.record.state.victory.leadingAlliance = some coalitionId ∧
      ∃ countdown, watch.record.state.victory.countdownTicksRemaining = some countdown ∧
        countdown ≤ threshold - streak

theorem streakCounted_tick {threshold : Nat} {start watch : Watch} (hjustified : CountdownJustified threshold watch)
    (h : StreakCounted threshold start watch) (submissions : List OrderEnvelope) :
    StreakCounted threshold start (watchStep watch (.tick submissions)) := by
  have hapart := allianceIdsApart_step hjustified.apart (.tick submissions)
  rcases watchStep_cases watch (.tick submissions) with ⟨-, hstate, -, htickEnds⟩ |
    ⟨submissions', settled, heq, hboard, hstep⟩ | ⟨_, _, _, _, heq, -⟩
  · unfold StreakCounted
    rw [hstate, htickEnds]
    exact h
  · cases heq
    rw [hstep] at hapart ⊢
    have hworn : CoalitionIdsApart (withSubmissions watch.record submissions).state := hjustified.apart.worn
    obtain ⟨-, -, hvictory⟩ := tick_state hboard hworn
    generalize (advanceMatchTick (withSubmissions watch.record submissions)).1 = next at hvictory hapart
    change next.state.victory = tickedVictory watch.record.state.victory (plainLeading next.state) at hvictory
    intro streak coalitionId hlength hends
    have hleads : LeadsAt next.state threshold coalitionId := hends next.state (by simp)
    obtain ⟨hleader, hheld⟩ := (leadsAt_iff hapart.worn).1 hleads
    have hheld' : watch.record.state.victory.threshold ≤ (plainLeading next.state).2 := by
      rw [hjustified.threshold_eq]
      exact hheld
    refine ⟨by rw [hvictory]; exact hleader, ?_⟩
    show ∃ countdown, next.state.victory.countdownTicksRemaining = some countdown ∧ countdown ≤ threshold - streak
    rw [hvictory, tickedVictory_countdown_of_leads hleader hheld']
    refine ⟨_, rfl, ?_⟩
    cases streak with
    | zero =>
        split
        · cases hbefore : watch.record.state.victory.countdownTicksRemaining with
          | none => simp [hjustified.threshold_eq]
          | some before =>
              obtain ⟨_, -, -, hle, -⟩ := hjustified.justified before hbefore
              show before - 1 ≤ threshold - 0
              omega
        · simp [hjustified.threshold_eq]
    | succ streak =>
        obtain ⟨hkept, before, hbefore, hle⟩ := h streak coalitionId (by simp at hlength; omega) fun state hstate =>
          hends state (by
            rw [List.take_succ_cons]
            exact List.mem_cons_of_mem _ hstate)
        rw [if_pos hkept, hbefore]
        show before - 1 ≤ threshold - (streak + 1)
        omega
  · cases heq

/-! ### The countdown over a run -/

/-- The countdown of a run is sound and complete. After every accepted event the standings are recorded. A countdown that is set has a leader at the threshold and never exceeds it, and at zero that leader has led at the last `threshold` tick ends. After `threshold + 1` tick ends in a row with one leader, and no alliance action in between, it is zero. -/
structure CountdownFaithful (record : MatchRecord) (events : List VictoryEvent) : Prop where
  standings : ∀ step ∈ Run.steps watchStep ⟨record, []⟩ events, Accepted step.1 step.2 →
    StandingsCorrect (watchStep step.1 step.2).record.state
  sound : ∀ watch ∈ Run.states watchStep ⟨record, []⟩ events, ∀ countdown,
    watch.record.state.victory.countdownTicksRemaining = some countdown →
      ∃ coalitionId, watch.record.state.victory.leadingAlliance = some coalitionId ∧
        LeadsAt watch.record.state record.state.victory.threshold coalitionId ∧
        countdown ≤ record.state.victory.threshold ∧
        (countdown = 0 → record.state.victory.threshold ≤ watch.tickEnds.length ∧
          ∀ state ∈ watch.tickEnds.take record.state.victory.threshold,
            LeadsAt state record.state.victory.threshold coalitionId)
  complete : ∀ start ∈ Run.states watchStep ⟨record, []⟩ events, ∀ (queues : List (List OrderEnvelope)) coalitionId,
    start.tickEnds.length + (record.state.victory.threshold + 1) ≤
        ((queues.map VictoryEvent.tick).foldl watchStep start).tickEnds.length →
      (∀ state ∈ ((queues.map VictoryEvent.tick).foldl watchStep start).tickEnds.take (record.state.victory.threshold + 1),
        LeadsAt state record.state.victory.threshold coalitionId) →
      ((queues.map VictoryEvent.tick).foldl watchStep start).record.state.victory.countdownTicksRemaining = some 0

theorem streakCounted_foldl {threshold : Nat} {start : Watch} (hstart : CountdownJustified threshold start)
    (queues : List (List OrderEnvelope)) :
    StreakCounted threshold start ((queues.map VictoryEvent.tick).foldl watchStep start) := by
  have hboth : CountdownJustified threshold ((queues.map VictoryEvent.tick).foldl watchStep start) ∧
      StreakCounted threshold start ((queues.map VictoryEvent.tick).foldl watchStep start) := by
    rw [List.foldl_map]
    apply Run.invariant_foldl (I := fun watch => CountdownJustified threshold watch ∧ StreakCounted threshold start watch)
    · rintro watch submissions ⟨hjustified, hstreak⟩
      exact ⟨countdownJustified_step watch _ hjustified, streakCounted_tick hjustified hstreak submissions⟩
    · refine ⟨hstart, fun streak coalitionId hlength => ?_⟩
      omega
  exact hboth.2

theorem countdownFaithful (record : MatchRecord) (events : List VictoryEvent) (hapart : AllianceIdsApart record)
    (hstart : record.state.victory.countdownTicksRemaining = none) : CountdownFaithful record events := by
  have hinit : CountdownJustified record.state.victory.threshold ⟨record, []⟩ := by
    refine ⟨hapart, rfl, fun countdown hcountdown => ?_⟩
    rw [hstart] at hcountdown
    cases hcountdown
  have hstates := Run.invariant (fun watch event => countdownJustified_step watch event) hinit events
  refine ⟨?_, ?_, ?_⟩
  · intro step hstep haccepted
    exact standingsCorrect_step (hstates step.1 (Run.fst_mem_states hstep)).apart haccepted
  · intro watch hwatch countdown hcountdown
    obtain ⟨coalitionId, hleader, hleads, hle, hlength, hends⟩ := (hstates watch hwatch).justified countdown hcountdown
    refine ⟨coalitionId, hleader, hleads, hle, ?_⟩
    rintro rfl
    exact ⟨hlength, hends⟩
  · intro start hstart queues coalitionId hlength hends
    have hstreak := streakCounted_foldl (hstates start hstart) queues
    obtain ⟨-, countdown, hcountdown, hle⟩ := hstreak record.state.victory.threshold coalitionId hlength hends
    rw [Nat.sub_self, Nat.le_zero] at hle
    rw [hcountdown, hle]

theorem allianceIdsApart_duel : AllianceIdsApart duelRecord where
  worn := by
    intro playerId player hplayer allianceId halliance
    have hmem : (playerId, some allianceId) ∈ duelRecord.state.memberships :=
      MatchState.mem_memberships.2 ⟨player, hplayer, halliance⟩
    rw [show duelRecord.state.memberships = [("p1", none), ("p2", none)] by decide] at hmem
    simp at hmem
  stored := by simp [duelRecord, MatchRecord.ofState]
  minted := by
    intro n hmem
    rw [show duelRecord.state.players.keys = ["p1", "p2"] by decide] at hmem
    have hlen : (numberedName "alliance-" n).length = 2 := by
      rcases List.mem_pair.1 hmem with h | h <;> rw [h] <;> decide
    rw [numberedName] at hlen
    simp only [String.length_append, toString] at hlen
    have : "alliance-".length = 9 := by decide
    omega

theorem countdownFaithful_duel :
    CountdownFaithful duelRecord [.tick [], .alliance "p1" (.create "Reds"), .tick [duelMarch "p1" "a1" "southampton"]] :=
  countdownFaithful duelRecord _ allianceIdsApart_duel (by decide)

end IronCouncil
