import ForgottenEngine.Library.Fallible
import ForgottenEngine.Library.Run
import ForgottenEngine.Library.PartialFold
import ForgottenEngine.Item
import ForgottenEngine.Container
import ForgottenEngine.World
import ForgottenEngine.Transfers
import ForgottenEngine.GenericMove
import ForgottenEngine.TransferEffects
import ForgottenEngine.Trade
import ForgottenEngine.TradeEffects
import ForgottenEngine.TradeSessions
import ForgottenEngine.TradeWindows
import ForgottenEngine.TradeExchange
import ForgottenEngine.TradeConservation
import ForgottenEngine.TransferAtomicity
import ForgottenEngine.TransferConservation
import ForgottenEngine.WorldEvents
import ForgottenEngine.TradeSnapshots
import ForgottenEngine.GenericAgreement
import ForgottenEngine.ContainerDeltas
import ForgottenEngine.HostLocks
import ForgottenEngine.Occupancy
import ForgottenEngine.ItemBounds
import ForgottenEngine.Library.Table
import ForgottenEngine.Database
import ForgottenEngine.InventorySaves
import ForgottenEngine.SharedMap
import ForgottenEngine.MapTransfers
import ForgottenEngine.MapEffects
import ForgottenEngine.MapAlignment
import ForgottenEngine.Progression
import ForgottenEngine.CreatureMoves
import ForgottenEngine.Party
import ForgottenEngine.Game
import ForgottenEngine.PlayerLife
import ForgottenEngine.InventoryFrame
import ForgottenEngine.GameEvents
import ForgottenEngine.Upkeep
import ForgottenEngine.CreatureUpkeep
import ForgottenEngine.Overwrites
import ForgottenEngine.Registration
import ForgottenEngine.PartyInvariants
import ForgottenEngine.PartyRuns
import ForgottenEngine.PlayerTraces
import ForgottenEngine.DeadPlayers
import ForgottenEngine.GodMode
import ForgottenEngine.CreatureRuns
import ForgottenEngine.PolicyMoves
import ForgottenEngine.Dormancy
import ForgottenEngine.RestartSnapshots
import ForgottenEngine.LevelGains
import ForgottenEngine.ClientActions
import ForgottenEngine.CreatureRecords
import ForgottenEngine.ViewportReading
import ForgottenEngine.ViewportCreatures
import ForgottenEngine.MapSteps
import ForgottenEngine.FollowPass
import ForgottenEngine.BankServices
import ForgottenEngine.WalkPacing
import ForgottenEngine.Library.Relations
import ForgottenEngine.Guilds
import ForgottenEngine.GuildInvariants
import ForgottenEngine.MapSnapshots
import ForgottenEngine.SessionTurnover
import ForgottenEngine.LoginHydration
import ForgottenEngine.SessionPosition
import ForgottenEngine.Migrations
import ForgottenEngine.DeathLosses
import ForgottenEngine.ExperienceLevels
import ForgottenEngine.Library.Ladder
import ForgottenEngine.PartySnapshots
import ForgottenEngine.TrainingProgress
import ForgottenEngine.Library.Bisection
import ForgottenEngine.CreatureRestores
import ForgottenEngine.CreatureStrikes
import ForgottenEngine.Summons
import ForgottenEngine.Detours
import ForgottenEngine.ConsumptionBooks
import ForgottenEngine.RefusedTransfers
import ForgottenEngine.CommandBatches
import ForgottenEngine.LootRolls
import ForgottenEngine.SourceRemovals
import ForgottenEngine.RevisionBytes
import ForgottenEngine.XteaPackets
import ForgottenEngine.NodeTrees
import ForgottenEngine.OtbmMaps
import ForgottenEngine.Regeneration
import ForgottenEngine.ConditionTicks
import ForgottenEngine.ManualMoves
import ForgottenEngine.UnitPlacement
import ForgottenEngine.UnitRemovals
import ForgottenEngine.ActionRegistry
import ForgottenEngine.SharedAwards
import ForgottenEngine.RuntimeItemTables
import ForgottenEngine.SpellCasts
import ForgottenEngine.LootSplits
import ForgottenEngine.PartialRegistrations
import ForgottenEngine.ExperienceStages
import ForgottenEngine.FrameStreams
import ForgottenEngine.SharedChat
import ForgottenEngine.VipPresence
import ForgottenEngine.Restarts
import ForgottenEngine.ShopServices
import ForgottenEngine.TradingRuns
import ForgottenEngine.ThrowRuns
