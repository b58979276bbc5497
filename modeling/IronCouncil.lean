import IronCouncil.Base.Run
import IronCouncil.Base.Interleave
import IronCouncil.Base.ListUpdate
import IronCouncil.Models.State
import IronCouncil.Models.Orders
import IronCouncil.Data.Maps
import IronCouncil.OrderValidation
import IronCouncil.Resolver.Build
import IronCouncil.Resolver.Resource
import IronCouncil.Resolver.Tick
import IronCouncil.Registry.Commands
import IronCouncil.Proof.SubmissionOrder
import IronCouncil.Base.Latch
import IronCouncil.Proof.TreatyBlame
import IronCouncil.Proof.LiveOffline
import IronCouncil.Resolver.Frames
import IronCouncil.Proof.VictoryCountdown
import IronCouncil.Proof.Ledger
import IronCouncil.Proof.Board
import IronCouncil.Proof.BoardRuns
import IronCouncil.Proof.Validity
import IronCouncil.MatchInitialization
import IronCouncil.Base.Table
import IronCouncil.Db.Models
import IronCouncil.Db.PlayerIds
import IronCouncil.Db.RatingSettlement
import IronCouncil.Registry.SeedData
import IronCouncil.Db.Identity
import IronCouncil.Registry.Seeding
import IronCouncil.Db.Hydration
import IronCouncil.Db.TickPersistence
import IronCouncil.Db.ApiKeyLifecycle
import IronCouncil.Db.LobbyRegistry
import IronCouncil.Runtime
import IronCouncil.Api.Server
import IronCouncil.Proof.KeyRevocation
import IronCouncil.Proof.RecordRuns
import IronCouncil.Base.Register
import IronCouncil.Proof.AllianceAgreement
import IronCouncil.Proof.TreatyLedger
import IronCouncil.Api.OrderQueue
import IronCouncil.Proof.OrderQueue
import IronCouncil.Base.Json
import IronCouncil.Models.OrdersJson
import IronCouncil.Proof.TickReplay
import IronCouncil.Proof.OrderEffects
import IronCouncil.Base.Observer
import IronCouncil.Proof.PrivateTalk
import IronCouncil.Base.KeyOrder
import IronCouncil.Models.Fog
import IronCouncil.Fog
import IronCouncil.Websocket
import IronCouncil.Proof.FogOfWar
import IronCouncil.Proof.Hostilities
import IronCouncil.Proof.ServerRuns
import IronCouncil.Proof.Restart
import IronCouncil.Db.PublicReadAssembly
import IronCouncil.Proof.StartingShares
import IronCouncil.Proof.JoinedPlayers
import IronCouncil.Proof.PlayerRows
import IronCouncil.Proof.PersistedTick
import IronCouncil.Proof.WinnerAgreement
import IronCouncil.Proof.OrderAccounting
import IronCouncil.Proof.TreatyBreaks
import IronCouncil.Base.Apportionment
import IronCouncil.Base.KeyedSum
import IronCouncil.Proof.CombatCasualties
import IronCouncil.Proof.SharedVision
import IronCouncil.Proof.CityFrames
import IronCouncil.Proof.FortificationUpkeep
import IronCouncil.Proof.TickLedger
import IronCouncil.Proof.CityOrder
import IronCouncil.Proof.FortificationWear
import IronCouncil.Proof.TickRuns
import IronCouncil.Proof.ArmyTravel
import IronCouncil.Proof.UpgradeRuns
import IronCouncil.Base.InPlace
import IronCouncil.Registry.LiveCommands
import IronCouncil.Proof.CommandAtomicity
import IronCouncil.Proof.JoinSlots
import IronCouncil.Proof.TerminalTick
import IronCouncil.Base.Graph
import IronCouncil.Base.Backtrack
import IronCouncil.Base.SlidingWindow
import IronCouncil.Proof.LandRoutes
import IronCouncil.Proof.StartingCities
import IronCouncil.Api.Abuse
import IronCouncil.Proof.RateWindows
import IronCouncil.Proof.AllianceHydration
import IronCouncil.Proof.HydratedTreaties
import IronCouncil.Db.IdentityHydration
import IronCouncil.Proof.LeaderboardProfiles
import IronCouncil.Proof.SeatedRuns
import IronCouncil.Base.Linked
import IronCouncil.Proof.RatingChain
import IronCouncil.Proof.RatingRuns
import IronCouncil.Proof.WinnersSettled
import IronCouncil.Proof.JoinReplaces
import IronCouncil.Proof.ServerBoards
import IronCouncil.Proof.MatchSteps
import IronCouncil.Proof.MatchLog
import IronCouncil.Db.PublicReads
import IronCouncil.Proof.MatchHistory
import IronCouncil.Proof.PublicPages
import IronCouncil.Proof.CompletedMatches
import IronCouncil.Proof.Occupancy
import IronCouncil.Api.PlayerAccess
import IronCouncil.Api.MatchRoutes
import IronCouncil.Proof.ApiSteps
import IronCouncil.Proof.PlayerCallers
import IronCouncil.Proof.Authorship
import IronCouncil.Api.MatchReads
import IronCouncil.Proof.SeatReads
import IronCouncil.Proof.GuidanceDelivery
import IronCouncil.Proof.BriefingPolls
import IronCouncil.SimulationRegression
import IronCouncil.Proof.RegressionChecks
import IronCouncil.Base.Fanout
import IronCouncil.Api.Realtime
import IronCouncil.Proof.RealtimeSteps
import IronCouncil.Proof.RealtimeViews
import IronCouncil.Proof.RealtimeUpdates
