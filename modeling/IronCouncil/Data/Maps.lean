import IronCouncil.Base.OrdDict
import IronCouncil.Models.Domain

/-!
# Maps

A map's cities and the edges between them. The parser rejects an edge to a city the map does not list, which is the field `edges_known`; a distance is positive. `loadUk1900Map` is the map the server plays on.
-/

namespace IronCouncil

inductive TraversalMode
  | land
  | sea
deriving DecidableEq, Repr

structure CityDefinition where
  region : String
  primaryResource : ResourceType
  spawnAllowed : Bool
deriving DecidableEq, Repr

structure MapEdge where
  cityA : String
  cityB : String
  distanceTicks : Nat
  distance_pos : 0 < distanceTicks
  traversalMode : TraversalMode
deriving Repr

instance : DecidableEq MapEdge := fun edge other =>
  decidable_of_iff (edge.cityA = other.cityA ∧ edge.cityB = other.cityB ∧ edge.distanceTicks = other.distanceTicks ∧
    edge.traversalMode = other.traversalMode) (by cases edge; cases other; simp)

structure MapDefinition where
  mapId : String
  cities : OrdDict String CityDefinition
  edges : List MapEdge
  edges_known : ∀ edge ∈ edges, edge.cityA ∈ cities.keys ∧ edge.cityB ∈ cities.keys

def MapEdge.joins (edge : MapEdge) (cityA cityB : String) : Prop :=
  (edge.cityA = cityA ∧ edge.cityB = cityB) ∨ (edge.cityA = cityB ∧ edge.cityB = cityA)

instance (edge : MapEdge) (cityA cityB : String) : Decidable (edge.joins cityA cityB) :=
  inferInstanceAs (Decidable (_ ∨ _))

theorem MapEdge.joins_comm {edge : MapEdge} {cityA cityB : String} :
    edge.joins cityA cityB ↔ edge.joins cityB cityA := Or.comm

def uk1900Cities : List (String × CityDefinition) :=
  [ ("london", ⟨"Southeast", .money, true⟩),
    ("birmingham", ⟨"Midlands", .production, true⟩),
    ("manchester", ⟨"Northwest", .production, true⟩),
    ("liverpool", ⟨"Northwest", .money, true⟩),
    ("leeds", ⟨"Yorkshire", .production, true⟩),
    ("sheffield", ⟨"Yorkshire", .production, true⟩),
    ("bristol", ⟨"Southwest", .money, true⟩),
    ("edinburgh", ⟨"Scotland", .money, true⟩),
    ("glasgow", ⟨"Scotland", .production, true⟩),
    ("newcastle", ⟨"Northeast", .production, true⟩),
    ("nottingham", ⟨"Midlands", .food, true⟩),
    ("leicester", ⟨"Midlands", .food, true⟩),
    ("cardiff", ⟨"Wales", .production, true⟩),
    ("swansea", ⟨"Wales", .production, true⟩),
    ("plymouth", ⟨"Southwest", .food, true⟩),
    ("southampton", ⟨"South", .money, true⟩),
    ("portsmouth", ⟨"South", .production, true⟩),
    ("bradford", ⟨"Yorkshire", .production, true⟩),
    ("aberdeen", ⟨"Scotland", .food, true⟩),
    ("dundee", ⟨"Scotland", .food, true⟩),
    ("inverness", ⟨"Highlands", .food, true⟩),
    ("belfast", ⟨"Ireland", .production, false⟩),
    ("dublin", ⟨"Ireland", .money, false⟩),
    ("cork", ⟨"Ireland", .food, false⟩),
    ("galway", ⟨"Ireland", .food, false⟩) ]

def uk1900Edges : List MapEdge :=
  [ ⟨"london", "birmingham", 2, by decide, .land⟩,
    ⟨"london", "nottingham", 2, by decide, .land⟩,
    ⟨"london", "leicester", 2, by decide, .land⟩,
    ⟨"london", "southampton", 1, by decide, .land⟩,
    ⟨"london", "portsmouth", 1, by decide, .land⟩,
    ⟨"london", "bristol", 2, by decide, .land⟩,
    ⟨"birmingham", "bristol", 2, by decide, .land⟩,
    ⟨"birmingham", "cardiff", 2, by decide, .land⟩,
    ⟨"birmingham", "liverpool", 2, by decide, .land⟩,
    ⟨"birmingham", "manchester", 2, by decide, .land⟩,
    ⟨"birmingham", "leeds", 2, by decide, .land⟩,
    ⟨"birmingham", "sheffield", 1, by decide, .land⟩,
    ⟨"birmingham", "nottingham", 1, by decide, .land⟩,
    ⟨"birmingham", "leicester", 1, by decide, .land⟩,
    ⟨"manchester", "liverpool", 1, by decide, .land⟩,
    ⟨"manchester", "leeds", 1, by decide, .land⟩,
    ⟨"manchester", "sheffield", 1, by decide, .land⟩,
    ⟨"manchester", "bradford", 1, by decide, .land⟩,
    ⟨"manchester", "glasgow", 3, by decide, .land⟩,
    ⟨"liverpool", "bristol", 3, by decide, .land⟩,
    ⟨"liverpool", "belfast", 4, by decide, .sea⟩,
    ⟨"leeds", "bradford", 1, by decide, .land⟩,
    ⟨"leeds", "sheffield", 1, by decide, .land⟩,
    ⟨"leeds", "nottingham", 2, by decide, .land⟩,
    ⟨"leeds", "newcastle", 2, by decide, .land⟩,
    ⟨"sheffield", "bradford", 1, by decide, .land⟩,
    ⟨"sheffield", "nottingham", 1, by decide, .land⟩,
    ⟨"sheffield", "leicester", 2, by decide, .land⟩,
    ⟨"bristol", "cardiff", 1, by decide, .land⟩,
    ⟨"bristol", "plymouth", 2, by decide, .land⟩,
    ⟨"bristol", "southampton", 2, by decide, .land⟩,
    ⟨"edinburgh", "glasgow", 1, by decide, .land⟩,
    ⟨"edinburgh", "newcastle", 2, by decide, .land⟩,
    ⟨"edinburgh", "dundee", 1, by decide, .land⟩,
    ⟨"glasgow", "inverness", 3, by decide, .land⟩,
    ⟨"newcastle", "dundee", 3, by decide, .land⟩,
    ⟨"newcastle", "sheffield", 2, by decide, .land⟩,
    ⟨"nottingham", "leicester", 1, by decide, .land⟩,
    ⟨"cardiff", "swansea", 1, by decide, .land⟩,
    ⟨"cardiff", "plymouth", 2, by decide, .land⟩,
    ⟨"southampton", "portsmouth", 1, by decide, .land⟩,
    ⟨"bradford", "newcastle", 2, by decide, .land⟩,
    ⟨"aberdeen", "dundee", 1, by decide, .land⟩,
    ⟨"aberdeen", "inverness", 2, by decide, .land⟩,
    ⟨"dundee", "inverness", 2, by decide, .land⟩,
    ⟨"belfast", "dublin", 2, by decide, .land⟩,
    ⟨"dublin", "cork", 2, by decide, .land⟩,
    ⟨"dublin", "galway", 2, by decide, .land⟩,
    ⟨"cork", "galway", 3, by decide, .land⟩ ]

def loadUk1900Map : MapDefinition where
  mapId := "uk_1900"
  cities := ⟨uk1900Cities, by decide⟩
  edges := uk1900Edges
  edges_known := by decide

end IronCouncil
