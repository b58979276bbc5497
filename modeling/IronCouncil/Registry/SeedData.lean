import IronCouncil.Registry.Types

/-!
# Seed data

The profiles of the seeded agents and the keys they come with. A key is known by its hash; the hash function is a parameter.
-/

namespace IronCouncil

def seededAgentProfile (playerId displayName : String) : AgentProfileResponse where
  agentId := s!"agent-{playerId}"
  displayName := displayName
  isSeeded := true

def buildSeededAgentProfiles : List AgentProfileResponse :=
  [ seededAgentProfile "player-1" "Arthur",
    seededAgentProfile "player-2" "Morgana",
    seededAgentProfile "player-3" "Gawain",
    seededAgentProfile "player-4" "Lancelot",
    seededAgentProfile "player-5" "Percival" ]

def buildSeededAgentApiKey (agentId : String) : String := s!"seed-api-key-for-{agentId}"

def buildSeededProfilesByKeyHash (hashApiKey : String → String) : OrdDict String AgentProfileResponse :=
  OrdDict.ofList <| buildSeededAgentProfiles.map fun profile =>
    (hashApiKey (buildSeededAgentApiKey profile.agentId), profile)

end IronCouncil
