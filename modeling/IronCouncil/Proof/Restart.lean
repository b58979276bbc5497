import IronCouncil.Proof.AllianceAgreement
import IronCouncil.Proof.ApiSteps
import IronCouncil.Proof.OrderQueue
import IronCouncil.Proof.ServerRuns

/-!
# Restarts and alliance history

Alliances are written to their rows when a match completes and at no other time. A restart before that derives them again from the state, as if all of them had been formed, by all their members, at the tick of the restart.
-/

namespace IronCouncil

/-! ### What a live record holds of its alliances -/

/-- What a record's commands, ticks and settlement go by: all but its treaties, messages and members' data. -/
def MatchRecord.core (record : MatchRecord) :
    (String × MatchStatus) × MatchState × List MatchAlliance × List OrderEnvelope :=
  (record.identity, record.state, record.alliances, record.orderSubmissions)

/-- An alliance action reads the state and the alliances, and writes them. -/
theorem applyAllianceAction_congr {record other : MatchRecord} (hstate : other.state = record.state)
    (halliances : other.alliances = record.alliances) (matchId playerId : String) (action : AllianceActionRequest) :
    applyAllianceAction other matchId action playerId =
      (applyAllianceAction record matchId action playerId).map fun applied =>
        ({ other with alliances := applied.1.alliances, state := applied.1.state }, applied.2) := by
  unfold applyAllianceAction
  rw [hstate]
  cases record.state.players.get? playerId with
  | none => rfl
  | some player =>
      cases action with
      | create name =>
          simp only [createAlliance, halliances, hstate]
          cases player.allianceId with
          | none => simp only [storeAlliances, hstate]; rfl
          | some current => rfl
      | join allianceId =>
          simp only [joinAlliance, halliances, hstate]
          cases player.allianceId with
          | some current => rfl
          | none =>
              cases findAlliance record.alliances allianceId with
              | none => rfl
              | some alliance => simp only [storeAlliances, hstate]; rfl
      | leave =>
          simp only [leaveAlliance, halliances]
          cases player.allianceId with
          | none => rfl
          | some current =>
              dsimp only
              cases findAlliance record.alliances current with
              | none => rfl
              | some alliance =>
                  dsimp only
                  split
                  · simp only [storeAlliances, hstate]; rfl
                  · simp only [storeAlliances, hstate]; rfl

theorem core_ext {record other : MatchRecord} (hidentity : other.identity = record.identity)
    (hstate : other.state = record.state) (halliances : other.alliances = record.alliances)
    (hsubmissions : other.orderSubmissions = record.orderSubmissions) : other.core = record.core :=
  Prod.ext hidentity (Prod.ext hstate (Prod.ext halliances hsubmissions))

section Core

variable {record other next next' : MatchRecord} (hcore : other.core = record.core)
include hcore

theorem core_identity : other.identity = record.identity := congrArg (fun core => core.1) hcore

theorem core_state : other.state = record.state := congrArg (fun core => core.2.1) hcore

theorem core_alliances : other.alliances = record.alliances := congrArg (fun core => core.2.2.1) hcore

theorem core_submissions : other.orderSubmissions = record.orderSubmissions := congrArg (fun core => core.2.2.2) hcore

theorem core_applyAllianceAction {matchId playerId : String} {action : AllianceActionRequest}
    {response response' : Option MatchAlliance}
    (h : applyAllianceAction record matchId action playerId = .ok (next, response))
    (h' : applyAllianceAction other matchId action playerId = .ok (next', response')) : next'.core = next.core := by
  rw [applyAllianceAction_congr (core_state hcore) (core_alliances hcore), h] at h'
  obtain ⟨alliances, allianceId, rfl, -⟩ := applyAllianceAction_eq_ok h
  cases h'
  have hidentity := core_identity hcore
  have hsubmissions := core_submissions hcore
  exact core_ext hidentity rfl rfl hsubmissions

omit hcore in
theorem core_posted (h : Posted record next) : next.core = record.core := by
  obtain ⟨messages, groupChats, rfl⟩ := h
  rfl

omit hcore in
theorem core_applyTreatyAction {playerId : String} {action : TreatyActionRequest} {stored : MatchTreaty}
    (h : applyTreatyAction record action playerId = .ok (next, stored)) : next.core = record.core := by
  obtain ⟨treaties, messages, rfl⟩ := applyTreatyAction_frame h
  rfl

theorem core_recordSubmission (envelope : OrderEnvelope) :
    (recordSubmission other envelope).1.core = (recordSubmission record envelope).1.core := by
  have hidentity := core_identity hcore
  have hstate := core_state hcore
  have halliances := core_alliances hcore
  have hsubmissions := core_submissions hcore
  exact core_ext hidentity hstate halliances (congrArg (· ++ [envelope]) hsubmissions)

/-- What an accepted envelope makes of the core is settled by the core. -/
theorem core_applyCommandEnvelope {playerId : String} {command : AgentCommandEnvelopeRequest}
    {response response' : AgentCommandEnvelopeResponse}
    (h : applyCommandEnvelope record record.matchId command playerId = .ok (next, response))
    (h' : applyCommandEnvelope other other.matchId command playerId = .ok (next', response')) :
    next'.core = next.core := by
  have hmatch : other.matchId = record.matchId := congrArg Prod.fst (core_identity hcore)
  rw [hmatch] at h'
  have hordered : (recordCommandOrders other record.matchId command playerId).1.core =
      (recordCommandOrders record record.matchId command playerId).1.core := by
    unfold recordCommandOrders
    split
    · exact core_recordSubmission hcore _
    · exact hcore
  have hkept : ∀ start posted negotiated, Relation.ReflTransGen Posted start posted →
      Relation.ReflTransGen (Treated playerId) posted negotiated → negotiated.core = start.core := by
    intro start posted negotiated hposted htreated
    have hfirst : posted.core = start.core := keeps_reached (I := fun reached => reached.core = start.core)
      (fun _ _ hpart hkept => (core_posted hpart).trans hkept) hposted rfl
    refine keeps_reached (I := fun reached => reached.core = start.core) ?_ htreated hfirst
    rintro before after ⟨action, stored, -, haction⟩ hbefore
    exact (core_applyTreatyAction haction).trans hbefore
  obtain ⟨posted, negotiated, hposted, htreated, hallied⟩ := applyCommandEnvelope_eq_ok h
  obtain ⟨posted', negotiated', hposted', htreated', hallied'⟩ := applyCommandEnvelope_eq_ok h'
  have hnegotiated : negotiated'.core = negotiated.core :=
    (hkept _ _ _ hposted' htreated').trans (hordered.trans (hkept _ _ _ hposted htreated).symm)
  rcases hallied with ⟨hnone, rfl⟩ | ⟨action, alliance, hsome, haction⟩
  · rcases hallied' with ⟨-, rfl⟩ | ⟨action', alliance', hsome', -⟩
    · exact hnegotiated
    · rw [hnone] at hsome'
      cases hsome'
  · rcases hallied' with ⟨hnone', -⟩ | ⟨action', alliance', hsome', haction'⟩
    · rw [hsome] at hnone'
      cases hnone'
    · cases hsome.symm.trans hsome'
      exact core_applyAllianceAction hnegotiated haction haction'

theorem core_applyMatchCommand {playerId : String} {command : MatchCommand} {accepted accepted' : CommandAcceptance}
    (h : applyMatchCommand record playerId command = .ok (next, accepted))
    (h' : applyMatchCommand other playerId command = .ok (next', accepted')) : next'.core = next.core := by
  have hmatch : other.matchId = record.matchId := congrArg Prod.fst (core_identity hcore)
  cases command with
  | orders orders =>
      cases h
      cases h'
      rw [hmatch, core_state hcore]
      exact core_recordSubmission hcore _
  | message request =>
      obtain ⟨posted, hposted, heq⟩ := Except.map_eq_ok h
      obtain ⟨posted', hposted', heq'⟩ := Except.map_eq_ok h'
      cases heq
      cases heq'
      exact (core_posted (recordMessage_posted hposted')).trans
        (hcore.trans (core_posted (recordMessage_posted hposted)).symm)
  | groupChat request =>
      cases h
      cases h'
      exact hcore
  | groupChatMessage groupChatId request =>
      obtain ⟨posted, hposted, heq⟩ := Except.map_eq_ok h
      obtain ⟨posted', hposted', heq'⟩ := Except.map_eq_ok h'
      cases heq
      cases heq'
      exact (core_posted (recordGroupChatMessage_posted hposted')).trans
        (hcore.trans (core_posted (recordGroupChatMessage_posted hposted)).symm)
  | treaty action =>
      obtain ⟨applied, happlied, heq⟩ := Except.map_eq_ok h
      obtain ⟨applied', happlied', heq'⟩ := Except.map_eq_ok h'
      cases heq
      cases heq'
      exact (core_applyTreatyAction happlied').trans (hcore.trans (core_applyTreatyAction happlied).symm)
  | alliance action =>
      obtain ⟨applied, happlied, heq⟩ := Except.map_eq_ok h
      obtain ⟨applied', happlied', heq'⟩ := Except.map_eq_ok h'
      cases heq
      cases heq'
      rw [hmatch] at happlied'
      exact core_applyAllianceAction hcore happlied happlied'
  | envelope command =>
      obtain ⟨response, happlied⟩ := applyMatchCommand_envelope h
      obtain ⟨response', happlied'⟩ := applyMatchCommand_envelope h'
      exact core_applyCommandEnvelope hcore happlied happlied'

/-- A tick resolves records of one core alike. -/
theorem core_advanceRegistryTick :
    (advanceRegistryTick other).2 = (advanceRegistryTick record).2 ∧
      (advanceRegistryTick other).1.core = (advanceRegistryTick record).1.core := by
  have hstate := core_state hcore
  have hidentity := core_identity hcore
  have hmatch : other.matchId = record.matchId := congrArg Prod.fst hidentity
  have halliances := core_alliances hcore
  have hqueued : queuedForTick other = queuedForTick record := by
    unfold queuedForTick
    rw [hstate, core_submissions hcore]
  have hdrained : (drainQueue other).core = (drainQueue record).core := by
    refine core_ext hidentity hstate halliances ?_
    change other.orderSubmissions.filter _ = record.orderSubmissions.filter _
    rw [hstate, core_submissions hcore]
  have hreconciled : ∀ orders,
      (reconcileHostileTreatyBreaks (drainQueue other) record.state orders).core =
        (reconcileHostileTreatyBreaks (drainQueue record) record.state orders).core := by
    intro orders
    rw [reconcileHostileTreatyBreaks_frame (g := MatchRecord.core) (fun _ _ _ => rfl),
      reconcileHostileTreatyBreaks_frame (g := MatchRecord.core) (fun _ _ _ => rfl), hdrained]
  unfold advanceRegistryTick advanceMatchTick
  dsimp only
  rw [hqueued, hstate, hmatch]
  cases resolveTick record.state (validateQueuedOrders record.state (queuedForTick record)) none with
  | error error => exact ⟨rfl, hreconciled _⟩
  | ok resolution =>
      have hsettled := hreconciled (validateQueuedOrders record.state (queuedForTick record))
      generalize reconcileHostileTreatyBreaks (drainQueue other) record.state _ = broken' at hsettled ⊢
      generalize reconcileHostileTreatyBreaks (drainQueue record) record.state _ = broken at hsettled ⊢
      have hidentity := core_identity hsettled
      have halliances := core_alliances hsettled
      have hsubmissions := core_submissions hsettled
      have hnext : (settleTick broken' resolution).state = (settleTick broken resolution).state := by
        unfold settleTick
        rw [core_state hsettled]
      refine ⟨?_, core_ext hidentity hnext halliances hsubmissions⟩
      simp only [Except.map, hnext]
      rw [show (settleTick broken' resolution).alliances = (settleTick broken resolution).alliances from halliances]

end Core

/-! ### Two servers on one match -/

/-- What a match goes on with. -/
inductive MatchEvent
  | command (playerId : String) (command : MatchCommand)
  | tick (newId : Nat → String) (elapsed : Nat)

def MatchEvent.toServerEvent (matchId : String) : MatchEvent → ServerEvent
  | .command playerId issued => .command matchId playerId issued
  | .tick newId elapsed => .tick matchId newId elapsed

def MatchEvent.TakenBy (matchId : String) (server : Server) : MatchEvent → Prop
  | .command playerId issued => ∃ accepted, server.command matchId playerId issued = .ok accepted
  | .tick _ _ => True

section Lockstep

variable (hashApiKey : String → String) (variant : StorageVariant) (matchId : String)

def matchStep (server : Server) (event : MatchEvent) : Server :=
  serverStep hashApiKey variant server (event.toServerEvent matchId)

/-- The servers take and refuse the same events of the match. -/
def TakenAlike : Server → Server → List MatchEvent → Prop
  | _, _, [] => True
  | server, other, event :: events =>
      (event.TakenBy matchId server ↔ event.TakenBy matchId other) ∧
        TakenAlike (matchStep hashApiKey variant matchId server event) (matchStep hashApiKey variant matchId other event)
          events

/-- The servers have one database and one clock, and go on from records of one core. -/
structure SameMatch (server other : Server) : Prop where
  database : other.database = server.database
  clock : other.clock = server.clock
  core : (other.registry.getMatch matchId).map MatchRecord.core = (server.registry.getMatch matchId).map MatchRecord.core

variable {hashApiKey variant matchId} {server other : Server}

theorem getMatch_storeMatch_self (registry : InMemoryMatchRegistry) (record : MatchRecord) :
    (registry.storeMatch matchId record).getMatch matchId = some record := OrdDict.get?_insert_self _ _ _

theorem SameMatch.records (h : SameMatch matchId server other) :
    (server.registry.getMatch matchId = none ∧ other.registry.getMatch matchId = none) ∨
      ∃ record record', server.registry.getMatch matchId = some record ∧
        other.registry.getMatch matchId = some record' ∧ record'.core = record.core := by
  have hcore := h.core
  cases hserver : server.registry.getMatch matchId with
  | none =>
      rw [hserver] at hcore
      exact Or.inl ⟨rfl, Option.map_eq_none_iff.1 hcore⟩
  | some record =>
      rw [hserver] at hcore
      obtain ⟨record', hrecord', heq⟩ := Option.map_eq_some_iff.1 hcore
      exact Or.inr ⟨record, record', rfl, hrecord', heq⟩

theorem SameMatch.command (h : SameMatch matchId server other) (playerId : String) (command : MatchCommand)
    (halike : (MatchEvent.command playerId command).TakenBy matchId server ↔
      (MatchEvent.command playerId command).TakenBy matchId other) :
    SameMatch matchId (server.after (server.command matchId playerId command))
      (other.after (other.command matchId playerId command)) := by
  simp only [MatchEvent.TakenBy] at halike
  cases hserver : server.command matchId playerId command with
  | error error =>
      have hrefused : ∀ accepted, other.command matchId playerId command ≠ .ok accepted := by
        intro accepted hother
        obtain ⟨taken, htaken⟩ := halike.2 ⟨accepted, hother⟩
        rw [hserver] at htaken
        cases htaken
      cases hother : other.command matchId playerId command with
      | error error' => exact h
      | ok accepted => exact absurd hother (hrefused accepted)
  | ok accepted =>
      obtain ⟨accepted', hother⟩ := halike.1 ⟨accepted, hserver⟩
      rw [hother]
      rcases h.records with ⟨hnone, -⟩ | ⟨record, record', hrecord, hrecord', hcore⟩
      · simp only [Server.command, hnone] at hserver
        cases hserver
      · simp only [Server.command, hrecord] at hserver
        simp only [Server.command, hrecord'] at hother
        split at hserver
        · cases hserver
        · rename_i next result happly
          split at hother
          · cases hother
          · rename_i next' result' happly'
            cases hserver
            cases hother
            refine ⟨h.database, h.clock, ?_⟩
            change Option.map _ ((other.registry.storeMatch matchId next').getMatch matchId) =
              Option.map _ ((server.registry.storeMatch matchId next).getMatch matchId)
            rw [getMatch_storeMatch_self, getMatch_storeMatch_self]
            exact congrArg some (core_applyMatchCommand hcore happly happly')

theorem SameMatch.tick (h : SameMatch matchId server other) (newId : Nat → String) (elapsed : Nat) :
    SameMatch matchId (server.tick variant matchId newId elapsed).1 (other.tick variant matchId newId elapsed).1 := by
  rcases h.records with ⟨hnone, hnone'⟩ | ⟨record, record', hrecord, hrecord', hcore⟩
  · simp only [Server.tick, hnone, hnone']
    exact h
  · obtain ⟨houtcome, hnext⟩ := core_advanceRegistryTick hcore
    have hstatus : record'.status = record.status := congrArg Prod.snd (core_identity hcore)
    have hclock : other.readClock elapsed = server.readClock elapsed := congrArg (fun clock => clock + 1 + elapsed) h.clock
    simp only [Server.tick, hrecord, hrecord', runMatchTick, hstatus, h.database, hclock, houtcome]
    split
    · refine ⟨rfl, rfl, ?_⟩
      simp only [getMatch_storeMatch_self, Option.map_some, hcore]
    · split
      · refine ⟨rfl, rfl, ?_⟩
        simp only [getMatch_storeMatch_self, Option.map_some, hnext]
      · rename_i advancedTick _
        split
        · refine ⟨rfl, rfl, ?_⟩
          simp only [getMatch_storeMatch_self, Option.map_some, hcore]
        · refine ⟨rfl, rfl, ?_⟩
          simp only [getMatch_storeMatch_self, Option.map_some]
          have hidentity := core_identity hnext
          have hmatch : (advanceRegistryTick record').1.matchId = (advanceRegistryTick record).1.matchId :=
            congrArg Prod.fst hidentity
          have hkept : (advanceRegistryTick record').1.status = (advanceRegistryTick record).1.status :=
            congrArg Prod.snd hidentity
          have hcompleted : (completeRecord advancedTick (advanceRegistryTick record').1).identity =
              (completeRecord advancedTick (advanceRegistryTick record).1).identity := by
            unfold MatchRecord.identity completeRecord
            dsimp only
            rw [hmatch, hkept]
          have hstates := core_state hnext
          have halliances := core_alliances hnext
          have hsubmissions := core_submissions hnext
          exact congrArg some (core_ext hcompleted hstates halliances hsubmissions)

/-- Servers that go on from one core and take the same events keep one database. -/
theorem SameMatch.run (h : SameMatch matchId server other) {events : List MatchEvent}
    (halike : TakenAlike hashApiKey variant matchId server other events) :
    SameMatch matchId (events.foldl (matchStep hashApiKey variant matchId) server)
      (events.foldl (matchStep hashApiKey variant matchId) other) := by
  induction events generalizing server other with
  | nil => exact h
  | cons event events ih =>
      obtain ⟨hfirst, hrest⟩ := halike
      apply ih _ hrest
      cases event with
      | command playerId command => exact h.command playerId command hfirst
      | tick newId elapsed => exact h.tick newId elapsed

end Lockstep

/-! ### A restart -/

section Restart

variable {hashApiKey : String → String} {variant : StorageVariant}

end Restart

/-! ### An alliance with a late member -/

def ownersAgent : Credentials := ⟨some (rawApiKey deploymentToken), none⟩
def guestsAgent : Credentials := ⟨some (rawApiKey guestToken), none⟩

def ownersKey : ApiEvent := .host ⟨.createApiKey deploymentOwner [deploymentToken] deploymentKeyId 1, rfl⟩

/-- Both users make a key for an agent. -/
def agentKeys : List ApiEvent :=
  [ownersKey, .host ⟨.createApiKey deploymentGuest [guestToken] guestKeyId 2, rfl⟩]

/-- The agents make a lobby of two and start to play. -/
def pairOpens (victoryCityThreshold : Nat) (matchId : String) : List ApiEvent :=
  [ .host ⟨.createLobby ownersAgent (deploymentRequest victoryCityThreshold) matchId, rfl⟩,
    .host ⟨.join guestsAgent matchId matchId, rfl⟩, .host ⟨.start ownersAgent matchId, rfl⟩ ]

def pairStarts (matchId : String) : List ApiEvent := pairOpens 2 matchId

def deployedIds (drawn : Nat) : String := s!"{drawn}9c4f7d2-5b08-4e61-9a3c-d7f1028b6e55"

def matchTicks (matchId : String) (newId : Nat → String) (ticks : Nat) : List ApiEvent :=
  List.replicate ticks (.host ⟨.tick matchId newId 0, rfl⟩)

def formsAlliance (matchId : String) : ApiEvent := .write ownersAgent matchId matchId (.alliance (.create "north"))
def joinsAlliance (matchId : String) : ApiEvent := .write guestsAgent matchId matchId (.alliance (.join "alliance-1"))

/-- The agents play as allies for some ticks; with three cities to hold, the third tick ends the match. -/
def playsAllied (matchId : String) (newId : Nat → String) (ticks : Nat) : List ApiEvent :=
  formsAlliance matchId :: joinsAlliance matchId :: matchTicks matchId newId ticks

/-- The guest's agent recruits thirteen troops, which cost thirteen of its food. -/
def guestRecruits (matchId : String) (tick : Nat) : ApiEvent :=
  .write guestsAgent matchId matchId
    (.orders tick { OrderBatch.empty with recruitment := [⟨"birmingham", 13, Nat.succ_pos 12⟩] })

/-- What the deployment receives of a run of requests. -/
def deploymentReceives (variant : StorageVariant) (requests : List ApiEvent) : List ServerEvent :=
  deployment.receivedRun deploymentHash variant requests

def deployedPair : List ServerEvent := deploymentReceives .sqlite (agentKeys ++ pairStarts deploymentMatchId)

/-- The allies' match up to its last tick. -/
def alliedPair (variant : StorageVariant) : List ServerEvent :=
  deploymentReceives variant
    (agentKeys ++ pairStarts deploymentMatchId ++ playsAllied deploymentMatchId deployedIds 2)

/-- The allies' match with a second player who is short of food on its last tick. -/
def hungryAllies : List ServerEvent :=
  deploymentReceives .sqlite
    (agentKeys ++ pairStarts deploymentMatchId ++ matchTicks deploymentMatchId deployedIds 3 ++
      playsAllied deploymentMatchId deployedIds 2 ++ [guestRecruits deploymentMatchId 5])

def hungryServer : Server := hungryAllies.foldl (serverStep deploymentHash .sqlite) deployment

theorem deployment_holdsNoMatch : deployment.HoldsNoMatch := ⟨rfl, rfl, rfl, rfl, rfl⟩

end IronCouncil
