import IronCouncil.Registry.Commands

/-!
# The registry

The live records of all matches, the agents' profiles, and the table of key hashes that authenticates an agent. Seeding a match puts a record in the place of the one under its id.
-/

namespace IronCouncil

structure InMemoryMatchRegistry where
  matchRecords : OrdDict String MatchRecord
  agentProfiles : OrdDict String AgentProfileResponse
  authenticatedAgentsByKeyHash : OrdDict String AuthenticatedAgentContext
deriving DecidableEq

namespace InMemoryMatchRegistry

def empty : InMemoryMatchRegistry := ⟨OrdDict.empty, OrdDict.empty, OrdDict.empty⟩

def getMatch (registry : InMemoryMatchRegistry) (matchId : String) : Option MatchRecord :=
  registry.matchRecords.get? matchId

def storeMatch (registry : InMemoryMatchRegistry) (matchId : String) (record : MatchRecord) :
    InMemoryMatchRegistry :=
  { registry with matchRecords := registry.matchRecords.insert matchId record }

def seedAgentProfile (registry : InMemoryMatchRegistry) (profile : AgentProfileResponse) : InMemoryMatchRegistry :=
  { registry with agentProfiles := registry.agentProfiles.insert profile.agentId profile }

/-- An inactive key is not entered, and an entry that is there already stays. -/
def seedAuthenticatedAgentKey (registry : InMemoryMatchRegistry) (agent : AuthenticatedAgentContext)
    (keyHash : String) (isActive : Bool) : InMemoryMatchRegistry :=
  if isActive then
    { registry with authenticatedAgentsByKeyHash := registry.authenticatedAgentsByKeyHash.insert keyHash agent }
  else registry

/-- A key whose agent has no profile is passed over. -/
def seedRecordKey (registry : InMemoryMatchRegistry) (authenticatedKey : AuthenticatedAgentKeyRecord) :
    InMemoryMatchRegistry :=
  match registry.agentProfiles.get? authenticatedKey.agentId with
  | none => registry
  | some profile =>
      registry.seedAuthenticatedAgentKey ⟨profile.agentId, profile.displayName, profile.isSeeded⟩
        authenticatedKey.keyHash authenticatedKey.isActive

/-- What is stored of a seeded record: no profiles, and alliances derived from the state if it brings none. -/
def storedRecord (record : MatchRecord) : MatchRecord :=
  { record with
    agentProfiles := []
    alliances := if record.alliances = [] then deriveAlliancesFromState record.state else record.alliances }

def seedMatch (registry : InMemoryMatchRegistry) (record : MatchRecord) : InMemoryMatchRegistry :=
  (record.authenticatedAgentKeys.foldl seedRecordKey (record.agentProfiles.foldl seedAgentProfile registry)).storeMatch
    record.matchId (storedRecord record)

def resolveAuthenticatedAgent (registry : InMemoryMatchRegistry) (hashApiKey : String → String) (apiKey : String) :
    Option AuthenticatedAgentContext :=
  registry.authenticatedAgentsByKeyHash.get? (hashApiKey apiKey)

/-! ### What seeding does -/

theorem seedAgentProfiles_frame (registry : InMemoryMatchRegistry) (profiles : List AgentProfileResponse) :
    (profiles.foldl seedAgentProfile registry).matchRecords = registry.matchRecords ∧
      (profiles.foldl seedAgentProfile registry).authenticatedAgentsByKeyHash =
        registry.authenticatedAgentsByKeyHash := by
  constructor
  · apply Run.frame_foldl
    exact fun _ _ => rfl
  · apply Run.frame_foldl
    exact fun _ _ => rfl

theorem seedRecordKey_matchRecords (registry : InMemoryMatchRegistry) (key : AuthenticatedAgentKeyRecord) :
    (registry.seedRecordKey key).matchRecords = registry.matchRecords := by
  unfold seedRecordKey seedAuthenticatedAgentKey
  split
  · rfl
  · split
    · rfl
    · rfl

theorem getMatch_seedMatch (registry : InMemoryMatchRegistry) (record : MatchRecord) (matchId : String) :
    (registry.seedMatch record).getMatch matchId =
      if matchId = record.matchId then some (storedRecord record) else registry.getMatch matchId := by
  have hkeys := Run.frame_foldl (g := matchRecords) seedRecordKey_matchRecords
    (record.agentProfiles.foldl seedAgentProfile registry) record.authenticatedAgentKeys
  rw [(seedAgentProfiles_frame registry record.agentProfiles).1] at hkeys
  unfold seedMatch storeMatch getMatch
  rw [hkeys, OrdDict.get?_insert]

/-- A key's seeding enters at most its own hash, and that only while it is active. -/
theorem mem_seedRecordKey {registry : InMemoryMatchRegistry} {key : AuthenticatedAgentKeyRecord} {keyHash : String}
    (h : keyHash ∈ (registry.seedRecordKey key).authenticatedAgentsByKeyHash.keys) :
    keyHash ∈ registry.authenticatedAgentsByKeyHash.keys ∨ (key.keyHash = keyHash ∧ key.isActive = true) := by
  unfold seedRecordKey seedAuthenticatedAgentKey at h
  split at h
  · exact Or.inl h
  · split at h
    · rename_i hactive
      rcases OrdDict.mem_keys_insert.1 h with rfl | h
      · exact Or.inr ⟨rfl, hactive⟩
      · exact Or.inl h
    · exact Or.inl h

/-- Seeding a match enters hashes of active keys of its record only. -/
theorem mem_seedMatch {registry : InMemoryMatchRegistry} {record : MatchRecord} {keyHash : String}
    (h : keyHash ∈ (registry.seedMatch record).authenticatedAgentsByKeyHash.keys) :
    keyHash ∈ registry.authenticatedAgentsByKeyHash.keys ∨
      ∃ key ∈ record.authenticatedAgentKeys, key.keyHash = keyHash ∧ key.isActive = true := by
  rw [← (seedAgentProfiles_frame registry record.agentProfiles).2]
  change keyHash ∈ (record.authenticatedAgentKeys.foldl seedRecordKey _).authenticatedAgentsByKeyHash.keys at h
  generalize record.agentProfiles.foldl seedAgentProfile registry = seeded at h ⊢
  generalize record.authenticatedAgentKeys = keys at h ⊢
  induction keys generalizing seeded with
  | nil => exact Or.inl h
  | cons key keys ih =>
      rcases ih _ h with h | ⟨found, hfound, hactive⟩
      · rcases mem_seedRecordKey h with h | hactive
        · exact Or.inl h
        · exact Or.inr ⟨key, List.mem_cons_self, hactive⟩
      · exact Or.inr ⟨found, List.mem_cons_of_mem key hfound, hactive⟩

end InMemoryMatchRegistry

end IronCouncil
