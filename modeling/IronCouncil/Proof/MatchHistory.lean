import IronCouncil.Db.PublicReads
import IronCouncil.Proof.MatchLog

/-!
# The history pages

The history of a match lists the ticks from the first to the current one, each of them can be replayed, and the last replays the state of the match's row. What a page has shown of a tick it shows for good.
-/

namespace IronCouncil

theorem find?_tickLogs (db : Database) (matchId : String) (tick : Nat) :
    (db.tickLogs.find? fun tickLog => tickLog.matchId = matchId ∧ tickLog.tick = tick) =
      (db.ticksOf matchId).find? fun tickLog => tickLog.tick = tick := by
  unfold Database.ticksOf
  rw [List.find?_filter]
  congr 1
  funext tickLog
  simp

section Log

variable {start last : MatchState} {log : List TickLogRow}

/-- A log that leads on from a state has the ticks after it, and no others. -/
theorem Played.find?_isSome (h : Played start log last) (tick : Nat) :
    (log.find? fun tickLog => tickLog.tick = tick).isSome = true ↔ start.tick < tick ∧ tick ≤ last.tick := by
  obtain ⟨hticks, hlast⟩ := h.ticks
  have hmem : (∃ entry ∈ log, entry.tick = tick) ↔ tick ∈ log.map (·.tick) := List.mem_map.symm
  rw [List.find?_isSome]
  simp only [decide_eq_true_eq]
  rw [hmem, hticks, List.mem_range'_1]
  omega

/-- The last tick of a log is the state that the log ends in. -/
theorem Played.find?_last (h : Played start log last) {entry : TickLogRow}
    (hfound : (log.find? fun tickLog => tickLog.tick = last.tick) = some entry) : entry.stateSnapshot = last := by
  induction log generalizing start with
  | nil => cases hfound
  | cons first log ih =>
      obtain ⟨hfirst, hrest⟩ := h
      by_cases htick : first.tick = last.tick
      · rw [List.find?_cons_of_pos (by simpa using htick)] at hfound
        cases hfound
        have hlength := hrest.ticks.2
        rw [hfirst.snapshot_tick] at hlength
        have hnil : log = [] := List.eq_nil_of_length_eq_zero (by omega)
        subst hnil
        exact hrest.symm
      · rw [List.find?_cons_of_neg (by simpa using htick)] at hfound
        exact ih hrest hfound

end Log

section Pages

variable {hashApiKey casefold : String → String} {variant : StorageVariant} {server : Server}

theorem getMatchReplayTick_eq {db : Database} {matchId : String} {row : MatchRow}
    (hrow : sessionGet variant db.matchRows matchId = .ok (some row)) (tick : Nat) :
    getMatchReplayTick variant db matchId tick =
      ((db.ticksOf matchId).find? fun tickLog => tickLog.tick = tick).elim (.error (.tickHistoryNotFound matchId tick))
        fun tickRow => .ok (buildMatchReplayTickResponse row tickRow) := by
  rw [← find?_tickLogs]
  unfold getMatchReplayTick
  rw [hrow]
  dsimp only
  cases db.tickLogs.find? fun tickLog => tickLog.matchId = matchId ∧ tickLog.tick = tick with
  | none => rfl
  | some tickRow => rfl

theorem getMatchReplayTick_eq_ok {db : Database} {matchId : String} {tick : Nat} {response : MatchReplayTickResponse}
    (h : getMatchReplayTick variant db matchId tick = .ok response) :
    ∃ row tickRow, sessionGet variant db.matchRows matchId = .ok (some row) ∧
      ((db.ticksOf matchId).find? fun tickLog => tickLog.tick = tick) = some tickRow ∧
      response = buildMatchReplayTickResponse row tickRow := by
  have hopened := h
  unfold getMatchReplayTick at hopened
  split at hopened
  · cases hopened
  · cases hopened
  · rename_i row hrow
    rw [getMatchReplayTick_eq hrow] at h
    cases hfound : (db.ticksOf matchId).find? fun tickLog => tickLog.tick = tick with
    | none =>
        rw [hfound] at h
        cases h
    | some tickRow =>
        rw [hfound] at h
        cases h
        exact ⟨row, tickRow, hrow, rfl, rfl⟩

/-- In every reachable state the history of a match is complete: its ticks are those from the first to the current one, they and no others can be replayed, and the current one replays the state of the match's row. -/
theorem matchHistory_complete (hempty : server.HoldsNoMatch) (hlogs : server.database.tickLogs = [])
    (events : List ServerEvent) :
    ∀ reached ∈ Run.states (serverStep hashApiKey variant) server events, ∀ matchId row,
      sessionGet variant reached.database.matchRows matchId = .ok (some row) →
      (∃ history, getMatchHistory hashApiKey casefold variant reached.database matchId = .ok history ∧
        history.FieldsValid ∧ history.currentTick = row.state.tick ∧
        history.history = List.range' 1 row.state.tick) ∧
      (∀ tick, (∃ replay, getMatchReplayTick variant reached.database matchId tick = .ok replay ∧ replay.tick = tick) ↔
        1 ≤ tick ∧ tick ≤ row.state.tick) ∧
      ∀ replay, getMatchReplayTick variant reached.database matchId row.state.tick = .ok replay →
        replay.stateSnapshot = row.state := by
  intro reached hreached matchId row hrow
  have hlogged := hempty.logged_run hlogs events reached hreached
  have hget : reached.database.matchRows.get? matchId = some row := (sessionGet_eq_ok hrow).symm
  obtain ⟨request, initial, creator, hstate, hconfig, hplayed⟩ := hlogged.played matchId row hget
  obtain ⟨hticks, hlast⟩ := hplayed.ticks
  rw [tick_of_initialized hstate, Nat.zero_add] at hticks hlast
  refine ⟨?_, ?_, ?_⟩
  · refine ⟨_, by unfold getMatchHistory; rw [hrow], ⟨?_, ?_⟩, hlogged.current matchId row hget, ?_⟩
    · change 0 < row.config.turnSeconds.getD 0
      rw [hconfig]
      exact request.tickIntervalSeconds_pos
    · exact fieldsValid_buildPublicCompetitorSummaries hashApiKey casefold
    · change ((reached.database.ticksOf matchId).map (·.tick)).insertionSort (· ≤ ·) = _
      rw [hticks, hlast]
      exact List.Pairwise.insertionSort_eq (List.pairwise_le_range' 1)
  · intro tick
    rw [Nat.succ_le_iff, ← tick_of_initialized hstate, ← hplayed.find?_isSome, getMatchReplayTick_eq hrow]
    constructor
    · rintro ⟨replay, hreplay, -⟩
      cases hfound : (reached.database.ticksOf matchId).find? fun tickLog => tickLog.tick = tick with
      | none =>
          rw [hfound] at hreplay
          cases hreplay
      | some tickRow => rfl
    · intro hsome
      obtain ⟨tickRow, hfound⟩ := Option.isSome_iff_exists.1 hsome
      have htick : tickRow.tick = tick := by simpa using List.find?_some hfound
      rw [hfound]
      exact ⟨_, rfl, htick⟩
  · intro replay hreplay
    obtain ⟨found, tickRow, -, hfound, rfl⟩ := getMatchReplayTick_eq_ok hreplay
    exact hplayed.find?_last hfound

/-- What a page has shown of a tick it shows in every later state. -/
theorem replayTick_stable (hempty : server.HoldsNoMatch) (hlogs : server.database.tickLogs = [])
    (events more : List ServerEvent) :
    ∀ reached ∈ Run.states (serverStep hashApiKey variant) server events,
      ∀ later ∈ Run.states (serverStep hashApiKey variant) reached more, ∀ matchId tick replay,
        getMatchReplayTick variant reached.database matchId tick = .ok replay →
          getMatchReplayTick variant later.database matchId tick = .ok replay := by
  intro reached hreached later hlater matchId tick replay hreplay
  obtain ⟨row, tickRow, hrow, hfound, rfl⟩ := getMatchReplayTick_eq_ok hreplay
  have hget : reached.database.matchRows.get? matchId = some row := (sessionGet_eq_ok hrow).symm
  obtain ⟨row', rest, hget', -, hlog, -, -⟩ := server_continues hempty hlogs hreached more later hlater matchId row hget
  have hrow' : sessionGet variant later.database.matchRows matchId = .ok (some row') := by
    unfold sessionGet at hrow ⊢
    split
    · rename_i hrefused
      rw [if_pos hrefused] at hrow
      cases hrow
    · rw [hget']
  rw [getMatchReplayTick_eq hrow', hlog, List.find?_append, hfound]
  unfold buildMatchReplayTickResponse
  rw [Option.some_or, Table.key_of_get? hget, Table.key_of_get? hget']
  rfl

end Pages

theorem deployedServer_sessionGet (ticks : Nat) {row : MatchRow}
    (h : (deployedServer ticks).database.matchRows.get? deploymentMatchId = some row) :
    sessionGet .sqlite (deployedServer ticks).database.matchRows deploymentMatchId = .ok (some row) := by
  unfold sessionGet
  rw [if_neg (by simp), h]

theorem matchHistory_complete_deployed :
    ∃ history, getMatchHistory deploymentHash id .sqlite (deployedServer 2).database deploymentMatchId = .ok history ∧
      history.history = [1, 2] := by
  obtain ⟨row, hrow, htick⟩ := Option.map_eq_some_iff.1
    (show ((deployedServer 2).database.matchRows.get? deploymentMatchId).map (fun row => row.state.tick) = some 2 by
      decide +kernel)
  obtain ⟨history, hhistory, -, -, hticks⟩ := (matchHistory_complete deployment_holdsNoMatch rfl (deployedTicks 2)
    (deployedServer 2) (deployedServer_reached 2) deploymentMatchId row (deployedServer_sessionGet 2 hrow)).1
  rw [htick] at hticks
  exact ⟨history, hhistory, hticks⟩

theorem replayTick_stable_deployed :
    ∃ replay, getMatchReplayTick .sqlite (deployedServer 1).database deploymentMatchId 1 = .ok replay ∧
      getMatchReplayTick .sqlite (serverStep deploymentHash .sqlite (deployedServer 1)
        (.tick deploymentMatchId deployedIds 0)).database deploymentMatchId 1 = .ok replay := by
  obtain ⟨row, hrow⟩ := Option.isSome_iff_exists.1
    (show ((deployedServer 1).database.matchRows.get? deploymentMatchId).isSome = true by decide +kernel)
  obtain ⟨tickRow, hfound⟩ := Option.isSome_iff_exists.1
    (show (((deployedServer 1).database.ticksOf deploymentMatchId).find? fun tickLog => tickLog.tick = 1).isSome = true by
      decide +kernel)
  have hreplay := getMatchReplayTick_eq (deployedServer_sessionGet 1 hrow) 1
  rw [hfound] at hreplay
  refine ⟨_, hreplay, ?_⟩
  exact replayTick_stable deployment_holdsNoMatch rfl (deployedTicks 1) [.tick deploymentMatchId deployedIds 0]
    (deployedServer 1) (deployedServer_reached 1) _ (Run.step_mem_states _ _) deploymentMatchId 1 _ hreplay

end IronCouncil
