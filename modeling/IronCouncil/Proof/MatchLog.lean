import IronCouncil.Models.OrdersJson
import IronCouncil.Proof.MatchSteps
import IronCouncil.Proof.ServerBoards

/-!
# The tick log of a match

The log of a match is the whole of its play: it leads from the state the lobby was made with to the state of the match's row, one tick after another, each entry with the orders that resolved in it. A live record is at most some alliance changes ahead of its row. From then on the log only grows, until the match completes.
-/

namespace IronCouncil

/-! ### Logs -/

/-- A logged tick of a match in a state: alliances may change, and then the logged orders resolve. -/
structure LoggedTick (state : MatchState) (entry : TickLogRow) : Prop where
  resolved : ∃ before submissions, Negotiated state before ∧
    (∃ result, resolveTick before (validateQueuedOrders before submissions) none = .ok result) ∧
    entry.stateSnapshot = boardStep before (.tick submissions) ∧
    entry.orders = (validateQueuedOrders before submissions).modelDump
  next_tick : entry.tick = state.tick + 1
  snapshot_tick : entry.stateSnapshot.tick = entry.tick

/-- A log that leads from one state to another. -/
def Played : MatchState → List TickLogRow → MatchState → Prop
  | start, [], last => last = start
  | start, entry :: log, last => LoggedTick start entry ∧ Played entry.stateSnapshot log last

variable {start last : MatchState} {log : List TickLogRow}

theorem Played.append {entry : TickLogRow} (h : Played start log last) (hentry : LoggedTick last entry) :
    Played start (log ++ [entry]) entry.stateSnapshot := by
  induction log generalizing start with
  | nil =>
      obtain rfl : last = start := h
      exact ⟨hentry, rfl⟩
  | cons first log ih => exact ⟨h.1, ih h.2⟩

/-- The log counts the ticks one by one. -/
theorem Played.ticks (h : Played start log last) :
    log.map (·.tick) = List.range' (start.tick + 1) log.length ∧ last.tick = start.tick + log.length := by
  induction log generalizing start with
  | nil =>
      obtain rfl : last = start := h
      exact ⟨rfl, rfl⟩
  | cons first log ih =>
      obtain ⟨hfirst, hrest⟩ := h
      obtain ⟨hticks, hlast⟩ := ih hrest
      rw [hfirst.snapshot_tick, hfirst.next_tick] at hticks hlast
      refine ⟨?_, ?_⟩
      · rw [List.map_cons, List.length_cons, List.range'_succ, hfirst.next_tick, hticks]
      · rw [List.length_cons]
        omega

/-- What alliance changes and ticks keep holds of every snapshot, and of the state the log ends in. -/
theorem Played.keeps {I : MatchState → Prop} (hstep : ∀ state event, I state → I (boardStep state event))
    (h : Played start log last) (hstart : I start) : (∀ entry ∈ log, I entry.stateSnapshot) ∧ I last := by
  induction log generalizing start with
  | nil =>
      obtain rfl : last = start := h
      exact ⟨fun _ hmem => absurd hmem List.not_mem_nil, hstart⟩
  | cons first log ih =>
      obtain ⟨hfirst, hrest⟩ := h
      obtain ⟨before, submissions, hnegotiated, -, hsnapshot, -⟩ := hfirst.resolved
      have hbefore : I before := hnegotiated.keeps (fun state _ _ hkept => hstep state _ hkept) hstart
      have hnext : I first.stateSnapshot := hsnapshot ▸ hstep before _ hbefore
      obtain ⟨hentries, hlast⟩ := ih hrest hnext
      exact ⟨List.forall_mem_cons.2 ⟨hnext, hentries⟩, hlast⟩

/-- A tick of a live record logs what it has done. -/
theorem loggedTick_of_advanced {state : MatchState} {record : MatchRecord} {advancedTick : AdvancedMatchTick}
    (hnegotiated : Negotiated state record.state) (h : (advanceRegistryTick record).2 = .ok advancedTick) :
    LoggedTick state (tickLogRow advancedTick) := by
  have htick := hnegotiated.tick_eq
  cases hsettled : settledBoard record with
  | error error =>
      have hraised : (advanceRegistryTick record).2 = .error error :=
        congrArg (Except.map _) (advanceMatchTick_of_error hsettled).2
      rw [hraised] at h
      cases h
  | ok settled =>
      have hresult : (advanceRegistryTick record).2 = .ok _ :=
        congrArg (Except.map _) (advanceMatchTick_of_settled hsettled).2
      rw [hresult] at h
      cases h
      have hresolve : ∃ result, resolveTick record.state (validateQueuedOrders record.state (queuedForTick record)) none =
          .ok result := by
        unfold resolveTick
        rw [show resolveThroughDiplomacy record.state _ (resolveMapDefinition none) = .ok settled from hsettled]
        exact ⟨_, rfl⟩
      refine ⟨⟨record.state, queuedForTick record, hnegotiated, hresolve, ?_, rfl⟩, congrArg (· + 1) htick, rfl⟩
      exact (boardStep_of_settled hsettled).symm

theorem tick_of_initialized {config : MatchConfig} {roster : List MatchRosterEntry} {mapDefinition : Option MapDefinition}
    {state : MatchState} (h : initializeMatchState config roster mapDefinition = .ok state) : state.tick = 0 := by
  obtain ⟨assignments, -, rfl⟩ := initializeMatchState_eq_ok h
  rfl

/-! ### The log of every match -/

/-- The rows, the logs and the live records of a server tell of one play for each match. -/
structure Server.Logged (server : Server) : Prop where
  live : ∀ matchId record, server.registry.getMatch matchId = some record →
    ∃ row, server.database.matchRows.get? matchId = some row ∧ Negotiated row.state record.state
  current : ∀ matchId row, server.database.matchRows.get? matchId = some row → row.currentTick = row.state.tick
  played : ∀ matchId row, server.database.matchRows.get? matchId = some row → ∃ request initial creator,
    initializeMatchState (lobbyConfig request) (lobbyRoster request) none = .ok initial ∧
      row.config = (lobbyMatchRow matchId request initial creator).config ∧
      Played initial (server.database.ticksOf matchId) row.state
  unborn : ∀ matchId, server.database.matchRows.get? matchId = none → server.database.ticksOf matchId = []

section Runs

variable {hashApiKey : String → String} {variant : StorageVariant} {server next : Server}

theorem Server.Logged.of_steps (h : server.Logged) (hsteps : ∀ matchId, MatchStep server next matchId) :
    next.Logged where
  live := by
    intro matchId record hrecord
    cases hsteps matchId with
    | kept hrow hlog hlive =>
        obtain ⟨before, hbefore, hnegotiated⟩ := hlive record hrecord
        obtain ⟨row, hfound, hbehind⟩ := h.live matchId before hbefore
        exact ⟨row, hrow ▸ hfound, hbehind.trans hnegotiated⟩
    | created hnone hstate hrow hlog hlive => exact ⟨_, hrow, hlive record hrecord ▸ .refl _⟩
    | loaded hrow hstatus hrow' hlog hlive => exact ⟨_, hrow', hlive record hrecord ▸ .refl _⟩
    | ticked hbefore hactive htick hrow hrunning hrow' hlog hlive => exact ⟨_, hrow', hlive record hrecord ▸ .refl _⟩
  current := by
    intro matchId row hfound
    cases hsteps matchId with
    | kept hrow hlog hlive => exact h.current matchId row (hrow ▸ hfound)
    | created hnone hstate hrow hlog hlive =>
        cases hrow.symm.trans hfound
        rfl
    | loaded hrow hstatus hrow' hlog hlive =>
        cases hrow'.symm.trans hfound
        have hcurrent := h.current matchId _ hrow
        exact hcurrent
    | ticked hbefore hactive htick hrow hrunning hrow' hlog hlive =>
        cases hrow'.symm.trans hfound
        obtain ⟨-, hstate, hresolved, -⟩ := advanceRegistryTick_eq_ok htick
        exact hresolved.trans (congrArg MatchState.tick hstate).symm
  played := by
    intro matchId row hfound
    cases hsteps matchId with
    | kept hrow hlog hlive =>
        rw [hlog]
        exact h.played matchId row (hrow ▸ hfound)
    | created hnone hstate hrow hlog hlive =>
        cases hrow.symm.trans hfound
        rw [hlog, h.unborn matchId hnone]
        exact ⟨_, _, _, hstate, rfl, rfl⟩
    | loaded hrow hstatus hrow' hlog hlive =>
        cases hrow'.symm.trans hfound
        rw [hlog]
        have hplayed := h.played matchId _ hrow
        exact hplayed
    | ticked hbefore hactive htick hrow hrunning hrow' hlog hlive =>
        cases hrow'.symm.trans hfound
        obtain ⟨request, initial, creator, hstate, hconfig, hplayed⟩ := h.played matchId _ hrow
        obtain ⟨behind, hbehind, hnegotiated⟩ := h.live matchId _ hbefore
        cases hrow.symm.trans hbehind
        rw [hlog]
        exact ⟨request, initial, creator, hstate, hconfig, hplayed.append (loggedTick_of_advanced hnegotiated htick)⟩
  unborn := by
    intro matchId hfound
    cases hsteps matchId with
    | kept hrow hlog hlive =>
        rw [hlog]
        exact h.unborn matchId (hrow ▸ hfound)
    | created hnone hstate hrow hlog hlive => cases hrow.symm.trans hfound
    | loaded hrow hstatus hrow' hlog hlive => cases hrow'.symm.trans hfound
    | ticked hbefore hactive htick hrow hrunning hrow' hlog hlive => cases hrow'.symm.trans hfound

theorem Server.HoldsNoMatch.logged (h : server.HoldsNoMatch) (hlogs : server.database.tickLogs = []) : server.Logged where
  live := by
    intro matchId record hrecord
    unfold InMemoryMatchRegistry.getMatch at hrecord
    rw [h.records] at hrecord
    cases hrecord
  current := by
    intro matchId row hrow
    have hmem := Table.mem_rows_of_get? hrow
    rw [h.matchRows] at hmem
    cases hmem
  played := by
    intro matchId row hrow
    have hmem := Table.mem_rows_of_get? hrow
    rw [h.matchRows] at hmem
    cases hmem
  unborn := by
    intro matchId _
    unfold Database.ticksOf
    rw [hlogs]
    rfl

/-- Every match of a server is played as its log says: in every state of every run. -/
theorem Server.HoldsNoMatch.logged_run (hempty : server.HoldsNoMatch) (hlogs : server.database.tickLogs = []) (events : List ServerEvent) :
    ∀ reached ∈ Run.states (serverStep hashApiKey variant) server events, reached.Logged := by
  have hholds : ∀ reached ∈ Run.states (serverStep hashApiKey variant) server events,
      reached.Holds (fun _ _ => True) fun _ => True := hempty.holds_run events
  refine Run.invariant_of_steps (C := fun reached _ => reached.Holds (fun _ _ => True) fun _ => True)
    (fun reached event hkept hlogged => hlogged.of_steps (matchStep_serverStep hkept event)) (hempty.logged hlogs) ?_
  exact fun taken htaken => hholds taken.1 (Run.fst_mem_states htaken)

/-- In every reachable state the log of a match is its play: the ticks one by one from the state the lobby was made with to the state of the row, which the live record has left behind by alliance changes at most. -/
theorem match_played_as_logged (hempty : server.HoldsNoMatch) (hlogs : server.database.tickLogs = [])
    (events : List ServerEvent) :
    ∀ reached ∈ Run.states (serverStep hashApiKey variant) server events, ∀ matchId row,
      reached.database.matchRows.get? matchId = some row →
        (∃ request initial, initializeMatchState (lobbyConfig request) (lobbyRoster request) none = .ok initial ∧
          Played initial (reached.database.ticksOf matchId) row.state) ∧
        (reached.database.ticksOf matchId).map (·.tick) = List.range' 1 row.currentTick ∧
        row.state.tick = row.currentTick ∧
        ∀ record, reached.registry.getMatch matchId = some record → Negotiated row.state record.state := by
  intro reached hreached matchId row hrow
  have hlogged := hempty.logged_run hlogs events reached hreached
  obtain ⟨request, initial, -, hstate, -, hplayed⟩ := hlogged.played matchId row hrow
  have hcurrent := hlogged.current matchId row hrow
  obtain ⟨hticks, hlast⟩ := hplayed.ticks
  rw [tick_of_initialized hstate, Nat.zero_add] at hticks hlast
  refine ⟨⟨request, initial, hstate, hplayed⟩, ?_, hcurrent.symm, ?_⟩
  · rw [hticks, hcurrent, hlast]
  · intro record hrecord
    obtain ⟨behind, hbehind, hnegotiated⟩ := hlogged.live matchId record hrecord
    cases hrow.symm.trans hbehind
    exact hnegotiated

/-! ### What follows -/

/-- Every match goes on from its row by the ticks that its log gains; a completed match does not go on. -/
def Server.Continues (server later : Server) : Prop :=
  ∀ matchId row, server.database.matchRows.get? matchId = some row → ∃ row' rest,
    later.database.matchRows.get? matchId = some row' ∧ row'.config = row.config ∧
      later.database.ticksOf matchId = server.database.ticksOf matchId ++ rest ∧ Played row.state rest row'.state ∧
      (row.status = .completed → row' = row ∧ rest = [])

theorem Server.Continues.refl (server : Server) : server.Continues server := fun _ row hrow =>
  ⟨row, [], hrow, rfl, (List.append_nil _).symm, rfl, fun _ => ⟨rfl, rfl⟩⟩

theorem Server.Continues.of_steps {later : Server} (h : server.Continues later) (hlogged : later.Logged)
    (hsteps : ∀ matchId, MatchStep later next matchId) : server.Continues next := by
  intro matchId row hrow
  obtain ⟨row', rest, hrow', hconfig, hlog, hplayed, hover⟩ := h matchId row hrow
  cases hsteps matchId with
  | kept hsame hsameLog hlive => exact ⟨row', rest, hsame.trans hrow', hconfig, hsameLog.trans hlog, hplayed, hover⟩
  | created hnone hstate hcreated hsameLog hlive => cases hnone.symm.trans hrow'
  | @loaded found status hfound hstatus hloaded hsameLog hlive =>
      cases hfound.symm.trans hrow'
      refine ⟨{ row' with status }, rest, hloaded, hconfig, hsameLog.trans hlog, hplayed, fun hcompleted => ?_⟩
      obtain ⟨rfl, hrest⟩ := hover hcompleted
      rcases hstatus with rfl | hlobby
      · exact ⟨rfl, hrest⟩
      · rw [hlobby] at hcompleted
        cases hcompleted
  | @ticked record found advancedTick winnerAlliance hrecord hactive htick hfound hrunning hticked hgrown hlive =>
      cases hfound.symm.trans hrow'
      obtain ⟨behind, hbehind, hnegotiated⟩ := hlogged.live matchId record hrecord
      cases hfound.symm.trans hbehind
      refine ⟨_, rest ++ [tickLogRow advancedTick], hticked, hconfig, ?_,
        hplayed.append (loggedTick_of_advanced hnegotiated htick), fun hcompleted => ?_⟩
      · rw [hgrown, hlog, List.append_assoc]
      · obtain ⟨rfl, -⟩ := hover hcompleted
        rw [hcompleted] at hrunning
        cases hrunning

theorem server_continues (hempty : server.HoldsNoMatch) (hlogs : server.database.tickLogs = [])
    {events : List ServerEvent} {reached : Server}
    (hreached : reached ∈ Run.states (serverStep hashApiKey variant) server events) (more : List ServerEvent) :
    ∀ later ∈ Run.states (serverStep hashApiKey variant) reached more, reached.Continues later := by
  have hrun : ∀ later ∈ Run.states (serverStep hashApiKey variant) reached more,
      later.Logged ∧ reached.Continues later := by
    refine Run.invariant_of_steps (C := fun later _ => later.Holds (fun _ _ => True) fun _ => True) ?_
      ⟨hempty.logged_run hlogs events reached hreached, Server.Continues.refl reached⟩ ?_
    · rintro later event hkept ⟨hlogged, hcontinues⟩
      exact ⟨hlogged.of_steps (matchStep_serverStep hkept event),
        hcontinues.of_steps hlogged (matchStep_serverStep hkept event)⟩
    · intro taken htaken
      obtain ⟨all, hall⟩ := Run.mem_states_trans hreached (Run.fst_mem_states htaken)
      exact hempty.holds_run all taken.1 hall
  exact fun later hlater => (hrun later hlater).2

/-- Whoever is eliminated in a match stays so, in every entry that its log gains and in its row, over restarts too. -/
theorem eliminated_for_good (hempty : server.HoldsNoMatch) (hlogs : server.database.tickLogs = [])
    (events : List ServerEvent) :
    ∀ reached ∈ Run.states (serverStep hashApiKey variant) server events, ∀ more,
      ∀ later ∈ Run.states (serverStep hashApiKey variant) reached more, ∀ matchId row,
        reached.database.matchRows.get? matchId = some row → ∃ row' rest,
          later.database.matchRows.get? matchId = some row' ∧
            later.database.ticksOf matchId = reached.database.ticksOf matchId ++ rest ∧
            ∀ playerId, Eliminated row.state playerId →
              Eliminated row'.state playerId ∧ ∀ entry ∈ rest, Eliminated entry.stateSnapshot playerId := by
  intro reached hreached more later hlater matchId row hrow
  obtain ⟨row', rest, hrow', -, hlog, hplayed, hover⟩ :=
    server_continues hempty hlogs hreached more later hlater matchId row hrow
  refine ⟨row', rest, hrow', hlog, fun playerId heliminated => ?_⟩
  by_cases hcompleted : row.status = .completed
  · obtain ⟨rfl, rfl⟩ := hover hcompleted
    exact ⟨heliminated, fun entry hentry => absurd hentry List.not_mem_nil⟩
  · have hboard : BoardRecorded row.state :=
      ((soundBoards_run hempty events reached hreached).persisted matchId row hrow hcompleted).recorded
    have hkept := hplayed.keeps (I := fun state => BoardRecorded state ∧ Eliminated state playerId)
      (fun state event hstate => ⟨(boardRecorded_step hstate.1 event).1,
        (boardRecorded_step hstate.1 event).2 playerId hstate.2⟩) ⟨hboard, heliminated⟩
    exact ⟨hkept.2.2, fun entry hentry => (hkept.1 entry hentry).2⟩

end Runs

theorem match_played_as_logged_deployed :
    ∃ row, (deployedServer 2).database.matchRows.get? deploymentMatchId = some row ∧ row.state.tick = 2 ∧
      ∃ request initial, initializeMatchState (lobbyConfig request) (lobbyRoster request) none = .ok initial ∧
        Played initial ((deployedServer 2).database.ticksOf deploymentMatchId) row.state := by
  obtain ⟨row, hrow, htick⟩ := Option.map_eq_some_iff.1
    (show ((deployedServer 2).database.matchRows.get? deploymentMatchId).map (fun row => row.state.tick) = some 2 by
      decide +kernel)
  exact ⟨row, hrow, htick, (match_played_as_logged deployment_holdsNoMatch rfl (deployedTicks 2) (deployedServer 2)
    (deployedServer_reached 2) deploymentMatchId row hrow).1⟩

/-- The owner's agent recruits in bradford and marches by sheffield to the two cities of the guest. -/
def conquest : List ApiEvent :=
  let march (tick : Nat) (destination : String) : ApiEvent :=
    .write ownersAgent deploymentMatchId deploymentMatchId
      (.orders tick { OrderBatch.empty with movements := [⟨"recruitment:player-1:bradford:1", destination⟩] })
  .write ownersAgent deploymentMatchId deploymentMatchId
      (.orders 0 { OrderBatch.empty with recruitment := [⟨"bradford", 5, Nat.succ_pos 4⟩] }) ::
    matchTicks deploymentMatchId deployedIds 1 ++ march 1 "sheffield" :: matchTicks deploymentMatchId deployedIds 2 ++
    march 3 "birmingham" :: matchTicks deploymentMatchId deployedIds 2 ++
    march 5 "bristol" :: matchTicks deploymentMatchId deployedIds 3

/-- With nine cities to hold, the match is not over when the guest has lost both of its own. -/
def conqueredPair : List ServerEvent :=
  deploymentReceives .sqlite (agentKeys ++ pairOpens 8 deploymentMatchId ++ conquest)

def conqueredServer : Server := conqueredPair.foldl (serverStep deploymentHash .sqlite) deployment

/-- The guest is eliminated in the eighth tick and stays so in the ninth. -/
theorem eliminated_for_good_conquered :
    ∃ row row' entry, conqueredServer.database.matchRows.get? deploymentMatchId = some row ∧
      Eliminated row.state "player-2" ∧
      (serverStep deploymentHash .sqlite conqueredServer (.tick deploymentMatchId deployedIds 0)).database.matchRows.get?
        deploymentMatchId = some row' ∧
      (serverStep deploymentHash .sqlite conqueredServer (.tick deploymentMatchId deployedIds 0)).database.ticksOf
        deploymentMatchId = conqueredServer.database.ticksOf deploymentMatchId ++ [entry] ∧
      Eliminated row'.state "player-2" ∧ Eliminated entry.stateSnapshot "player-2" := by
  have hrun : (conqueredServer.database.matchRows.get? deploymentMatchId).any (fun row =>
      (row.state.players.get? "player-2").any (·.isEliminated)) = true ∧
      ((serverStep deploymentHash .sqlite conqueredServer (.tick deploymentMatchId deployedIds 0)).database.ticksOf
        deploymentMatchId).length = (conqueredServer.database.ticksOf deploymentMatchId).length + 1 := by
    decide +kernel
  obtain ⟨row, hrow, hplayer⟩ := (Option.any_eq_true _ _).1 hrun.1
  have heliminated : Eliminated row.state "player-2" := (Option.any_eq_true _ _).1 hplayer
  obtain ⟨row', rest, hrow', hlog, hkept⟩ := eliminated_for_good deployment_holdsNoMatch rfl conqueredPair
    conqueredServer (Run.foldl_mem_states _ _) [.tick deploymentMatchId deployedIds 0] _ (Run.step_mem_states _ _)
    deploymentMatchId row hrow
  obtain ⟨entry, rfl⟩ : ∃ entry, rest = [entry] := by
    apply List.length_eq_one_iff.1
    have hone := hrun.2
    rw [hlog, List.length_append] at hone
    omega
  obtain ⟨hlater, hentries⟩ := hkept "player-2" heliminated
  exact ⟨row, row', entry, hrow, heliminated, hrow', hlog, hlater, hentries entry List.mem_cons_self⟩

end IronCouncil
