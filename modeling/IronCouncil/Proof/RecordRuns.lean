import IronCouncil.Api.Server
import Mathlib.Logic.Relation

/-!
# Runs of a record

An accepted command is a sequence of parts: a submission, posts, treaty actions and an alliance action, each applied to the record the part before it left. A record goes through commands, ticks and seedings, and what every part, every tick and every seeding keeps holds throughout.
-/

theorem Except.map_eq_ok {ε α β : Type} {f : α → β} {outcome : Except ε α} {b : β} (h : outcome.map f = .ok b) :
    ∃ a, outcome = .ok a ∧ f a = b := by
  cases outcome with
  | error error => cases h
  | ok a =>
      cases h
      exact ⟨a, rfl, rfl⟩

namespace IronCouncil

/-! ### The parts of a command -/

/-- The parts of a player's commands whose treaty actions are allowed. -/
inductive CommandPart (allowed : TreatyActionRequest → Prop) (playerId : String) : MatchRecord → MatchRecord → Prop
  | submitted (record : MatchRecord) (envelope : OrderEnvelope) :
      CommandPart allowed playerId record (recordSubmission record envelope).1
  | posted (record : MatchRecord) (messages : List MatchMessage) (groupChats : List MatchGroupChat) :
      CommandPart allowed playerId record { record with messages, groupChats }
  | treaty {record next : MatchRecord} {action : TreatyActionRequest} {stored : MatchTreaty} (hallowed : allowed action)
      (h : applyTreatyAction record action playerId = .ok (next, stored)) : CommandPart allowed playerId record next
  | alliance {record next : MatchRecord} {matchId : String} {action : AllianceActionRequest}
      {response : Option MatchAlliance} (h : applyAllianceAction record matchId action playerId = .ok (next, response)) :
      CommandPart allowed playerId record next

/-- The posting parts alone. -/
def Posted (record next : MatchRecord) : Prop :=
  ∃ messages groupChats, next = { record with messages := messages, groupChats := groupChats }

theorem recordMessage_posted {record next : MatchRecord} {matchId senderId : String}
    {request : MatchMessageCreateRequest} {stored : MatchMessage}
    (h : recordMessage record matchId request senderId = .ok (next, stored)) : Posted record next := by
  unfold recordMessage at h
  split at h
  · cases h
  · cases h
    exact ⟨_, record.groupChats, rfl⟩

theorem createGroupChat_posted (record : MatchRecord) (request : GroupChatCreateRequest) (creatorId : String) :
    Posted record (createGroupChat record request creatorId).1 := ⟨record.messages, _, rfl⟩

theorem recordGroupChatMessage_posted {record next : MatchRecord} {groupChatId senderId : String}
    {request : GroupChatMessageCreateRequest} {stored : MatchGroupChatMessage}
    (h : recordGroupChatMessage record groupChatId request senderId = .ok (next, stored)) : Posted record next := by
  unfold recordGroupChatMessage at h
  split at h
  · cases h
  · cases h
    exact ⟨record.messages, _, rfl⟩

theorem postCommandMessage_posted {matchId playerId : String} {tick : Nat} {record next : MatchRecord}
    {message : AgentCommandMessage} {acceptance : MessageAcceptance}
    (h : postCommandMessage matchId playerId tick record message = .ok (next, acceptance)) : Posted record next := by
  unfold postCommandMessage at h
  split at h
  · cases h
  · dsimp only at h
    split at h
    · obtain ⟨posted, hposted, heq⟩ := Except.map_eq_ok h
      cases heq
      exact recordGroupChatMessage_posted hposted
    · obtain ⟨posted, hposted, heq⟩ := Except.map_eq_ok h
      cases heq
      exact recordMessage_posted hposted
    · obtain ⟨posted, hposted, heq⟩ := Except.map_eq_ok h
      cases heq
      exact recordMessage_posted hposted

theorem applyCommandTreaty_eq_ok {matchId playerId : String} {record next : MatchRecord} {action : TreatyActionRequest}
    {stored : MatchTreaty} (h : applyCommandTreaty matchId playerId record action = .ok (next, stored)) :
    action.counterpartyId ≠ playerId ∧ applyTreatyAction record action playerId = .ok (next, stored) := by
  unfold applyCommandTreaty validateCommandTreaty at h
  split at h
  · cases h
  · rename_i hvalid
    split at hvalid
    · cases hvalid
    · split at hvalid
      · cases hvalid
      · rename_i hdistinct
        exact ⟨fun heq => hdistinct heq.symm, h⟩

/-- An accepted treaty action changes treaties and messages only. -/
theorem applyTreatyAction_frame {record next : MatchRecord} {action : TreatyActionRequest} {playerId : String}
    {stored : MatchTreaty} (h : applyTreatyAction record action playerId = .ok (next, stored)) :
    ∃ treaties messages, next = { record with treaties := treaties, messages := messages } := by
  unfold applyTreatyAction at h
  dsimp only at h
  split at h
  · unfold proposeTreaty at h
    split at h
    · cases h
    · cases h
      exact ⟨_, record.messages, rfl⟩
  · cases h
  · cases h
  · unfold acceptTreaty at h
    split at h
    · cases h
    · cases h
      exact ⟨_, _, rfl⟩
  · unfold withdrawTreaty at h
    split at h
    · cases h
    · cases h
      exact ⟨_, _, rfl⟩

theorem applyEach_reaches {ι ρ : Type} {operation : MatchRecord → ι → Except RegistryError (MatchRecord × ρ)}
    {R : MatchRecord → MatchRecord → Prop}
    (hoperation : ∀ record item next response, operation record item = .ok (next, response) → R record next)
    {record last : MatchRecord} {items : List ι} {responses : List ρ}
    (h : applyEach operation record items = .ok (last, responses)) : Relation.ReflTransGen R record last := by
  induction items generalizing record responses with
  | nil =>
      cases h
      exact .refl
  | cons item items ih =>
      unfold applyEach at h
      split at h
      · cases h
      · rename_i next response hfirst
        split at h
        · cases h
        · rename_i reached rest hrest
          cases h
          exact .head (hoperation record item next response hfirst) (ih hrest)

/-- A treaty action of an envelope is between distinct players. -/
def Treated (playerId : String) (record next : MatchRecord) : Prop :=
  ∃ action stored, action.counterpartyId ≠ playerId ∧ applyTreatyAction record action playerId = .ok (next, stored)

/-- An accepted envelope submits its orders, posts its messages, and takes its treaty actions and its alliance action. -/
theorem applyCommandEnvelope_eq_ok {record last : MatchRecord} {matchId playerId : String}
    {command : AgentCommandEnvelopeRequest} {response : AgentCommandEnvelopeResponse}
    (h : applyCommandEnvelope record matchId command playerId = .ok (last, response)) :
    ∃ posted negotiated,
      Relation.ReflTransGen Posted (recordCommandOrders record matchId command playerId).1 posted ∧
      Relation.ReflTransGen (Treated playerId) posted negotiated ∧
      ((command.alliance = none ∧ last = negotiated) ∨ ∃ action alliance, command.alliance = some action ∧
        applyAllianceAction negotiated matchId action playerId = .ok (last, alliance)) := by
  unfold applyCommandEnvelope at h
  split at h
  · cases h
  · unfold applyCommandEnvelopeMutations at h
    dsimp only at h
    split at h
    · cases h
    · rename_i posted messages hmessages
      split at h
      · cases h
      · rename_i negotiated treaties htreaties
        split at h
        · cases h
        · rename_i allied alliance halliance
          cases h
          refine ⟨posted, negotiated, applyEach_reaches ?_ hmessages, applyEach_reaches ?_ htreaties, ?_⟩
          · intro record message next acceptance hposted
            exact postCommandMessage_posted hposted
          · intro record action next stored hstored
            exact ⟨action, stored, applyCommandTreaty_eq_ok hstored⟩
          · unfold applyCommandAlliance at halliance
            split at halliance
            · rename_i hnone
              cases halliance
              exact Or.inl ⟨hnone, rfl⟩
            · rename_i action hsome
              obtain ⟨⟨allied, result⟩, hallied, heq⟩ := Except.map_eq_ok halliance
              cases heq
              exact Or.inr ⟨action, result, hsome, hallied⟩

/-- A command's direct treaty action, if it is one, is allowed. -/
def MatchCommand.Allowed (allowed : TreatyActionRequest → Prop) : MatchCommand → Prop
  | .treaty action => allowed action
  | _ => True

section Parts

variable {allowed : TreatyActionRequest → Prop} {playerId : String}

theorem Posted.commandPart {record next : MatchRecord} (h : Posted record next) :
    CommandPart allowed playerId record next := by
  obtain ⟨messages, groupChats, rfl⟩ := h
  exact .posted record messages groupChats

/-- A command that is no envelope is one part. -/
theorem applyMatchCommand_part {record next : MatchRecord} {command : MatchCommand} {accepted : CommandAcceptance}
    (hdirect : ∀ envelope, command ≠ .envelope envelope) (hallowed : command.Allowed allowed)
    (h : applyMatchCommand record playerId command = .ok (next, accepted)) : CommandPart allowed playerId record next := by
  cases command with
  | orders orders =>
      cases h
      exact .submitted record _
  | message request =>
      obtain ⟨posted, hposted, heq⟩ := Except.map_eq_ok h
      cases heq
      exact (recordMessage_posted hposted).commandPart
  | groupChat request =>
      cases h
      exact (createGroupChat_posted record request playerId).commandPart
  | groupChatMessage groupChatId request =>
      obtain ⟨posted, hposted, heq⟩ := Except.map_eq_ok h
      cases heq
      exact (recordGroupChatMessage_posted hposted).commandPart
  | treaty action =>
      obtain ⟨applied, happlied, heq⟩ := Except.map_eq_ok h
      cases heq
      exact .treaty hallowed happlied
  | alliance action =>
      obtain ⟨applied, happlied, heq⟩ := Except.map_eq_ok h
      cases heq
      exact .alliance happlied
  | envelope command => exact absurd rfl (hdirect command)

theorem applyMatchCommand_envelope {record next : MatchRecord} {command : AgentCommandEnvelopeRequest}
    {accepted : CommandAcceptance} (h : applyMatchCommand record playerId (.envelope command) = .ok (next, accepted)) :
    ∃ response, applyCommandEnvelope record record.matchId command playerId = .ok (next, response) := by
  obtain ⟨⟨last, response⟩, happlied, heq⟩ := Except.map_eq_ok h
  cases heq
  exact ⟨response, happlied⟩

theorem applyMatchCommand_parts (henvelope : ∀ action : TreatyActionRequest, action.counterpartyId ≠ playerId → allowed action)
    {record next : MatchRecord} {command : MatchCommand} {accepted : CommandAcceptance}
    (hallowed : command.Allowed allowed) (h : applyMatchCommand record playerId command = .ok (next, accepted)) :
    Relation.ReflTransGen (CommandPart allowed playerId) record next := by
  by_cases hdirect : ∀ envelope, command ≠ .envelope envelope
  · exact .single (applyMatchCommand_part hdirect hallowed h)
  · obtain ⟨envelope, hcommand⟩ := not_forall.1 hdirect
    rw [not_not.1 hcommand] at h
    obtain ⟨response, happlied⟩ := applyMatchCommand_envelope h
    obtain ⟨posted, negotiated, hposted, htreated, hallied⟩ := applyCommandEnvelope_eq_ok happlied
    have hordered : Relation.ReflTransGen (CommandPart allowed playerId) record
        (recordCommandOrders record record.matchId envelope playerId).1 := by
      unfold recordCommandOrders
      split
      · exact .single (.submitted record _)
      · exact .refl
    have hmessages := Relation.ReflTransGen.mono (p := CommandPart allowed playerId)
      (fun _ _ => Posted.commandPart) _ _ hposted
    have hnegotiated : Relation.ReflTransGen (CommandPart allowed playerId) record negotiated := by
      refine (hordered.trans hmessages).trans (Relation.ReflTransGen.mono ?_ _ _ htreated)
      rintro before after ⟨action, stored, hdistinct, haction⟩
      exact .treaty (henvelope action hdistinct) haction
    rcases hallied with ⟨-, rfl⟩ | ⟨action, alliance, -, halliance⟩
    · exact hnegotiated
    · exact hnegotiated.tail (.alliance halliance)

end Parts

/-! ### Runs of a record -/

/-- A command of a player, a tick, or a seeding of the registry with the record. -/
inductive RecordEvent
  | command (playerId : String) (command : MatchCommand)
  | tick
  | seed
deriving DecidableEq, Repr

/-- A rejected command leaves the record as it was. -/
def recordStep (record : MatchRecord) : RecordEvent → MatchRecord
  | .command playerId command =>
      match applyMatchCommand record playerId command with
      | .error _ => record
      | .ok (next, _) => next
  | .tick => (advanceRegistryTick record).1
  | .seed => InMemoryMatchRegistry.storedRecord record

/-- The direct treaty actions of a run are between distinct players, as the route demands. -/
def RecordEvent.BetweenDistinct : RecordEvent → Prop
  | .command playerId issued => issued.Allowed fun action => action.counterpartyId ≠ playerId
  | .tick => True
  | .seed => True

section Runs

variable {I : MatchRecord → Prop}

theorem keeps_reached {R : MatchRecord → MatchRecord → Prop} (hstep : ∀ record next, R record next → I record → I next)
    {record next : MatchRecord} (h : Relation.ReflTransGen R record next) (hI : I record) : I next := by
  induction h with
  | refl => exact hI
  | tail _ hlast ih => exact hstep _ _ hlast ih

/-- A predicate of the state that an alliance action keeps is kept by every command. -/
theorem state_applyMatchCommand {P : MatchState → Prop}
    (halliance : ∀ state playerId allianceId, P state → P (syncVictoryState (setAlliance state playerId allianceId)))
    {record next : MatchRecord} {playerId : String} {command : MatchCommand} {accepted : CommandAcceptance}
    (h : applyMatchCommand record playerId command = .ok (next, accepted)) (hP : P record.state) : P next.state := by
  have hpart : ∀ record next, CommandPart (fun _ => True) playerId record next → P record.state → P next.state := by
    intro record next hpart hP
    cases hpart with
    | submitted envelope => exact hP
    | posted messages groupChats => exact hP
    | treaty hallowed haction =>
        obtain ⟨treaties, messages, rfl⟩ := applyTreatyAction_frame haction
        exact hP
    | alliance haction =>
        obtain ⟨alliances, allianceId, rfl, -⟩ := applyAllianceAction_eq_ok haction
        exact halliance _ _ _ hP
  have hparts : Relation.ReflTransGen (CommandPart (fun _ => True) playerId) record next :=
    applyMatchCommand_parts (fun _ _ => trivial) (by cases command <;> trivial) h
  exact keeps_reached (I := fun reached => P reached.state) hpart hparts hP

theorem keeps_command {allowed : TreatyActionRequest → Prop} {playerId : String}
    (henvelope : ∀ action : TreatyActionRequest, action.counterpartyId ≠ playerId → allowed action)
    (hpart : ∀ record next, CommandPart allowed playerId record next → I record → I next)
    {record : MatchRecord} {command : MatchCommand} (hallowed : command.Allowed allowed) (hI : I record) :
    I (recordStep record (.command playerId command)) := by
  dsimp only [recordStep]
  split
  · exact hI
  · rename_i next accepted happly
    exact keeps_reached hpart (applyMatchCommand_parts henvelope hallowed happly) hI

/-- What every part of a command, every tick and every seeding keeps, a run of any commands keeps. -/
theorem keeps_run (hpart : ∀ playerId record next, CommandPart (fun _ => True) playerId record next → I record → I next)
    (htick : ∀ record, I record → I (advanceMatchTick record).1)
    (hseed : ∀ record, I record → I (InMemoryMatchRegistry.storedRecord record)) {record : MatchRecord} (hI : I record)
    (events : List RecordEvent) : ∀ reached ∈ Run.states recordStep record events, I reached := by
  apply Run.invariant _ hI
  intro record event hrecord
  cases event with
  | command playerId command =>
      apply keeps_command (fun _ _ => trivial) (hpart playerId) _ hrecord
      cases command <;> trivial
  | tick => exact htick record hrecord
  | seed => exact hseed record hrecord

end Runs

end IronCouncil
