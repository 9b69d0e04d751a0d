import KasGraph.IngestionConservation
import KasGraph.IngestionFinality
import KasGraph.IngestionRedelivery
import KasGraph.PublishedChain
import KasGraph.BlockEffect
import KasGraph.BlockProgress
import KasGraph.PoiCommitment
import KasGraph.Reapply
import KasGraph.UnwindFrame
import KasGraph.BlockDispatch
import KasGraph.CellLedger
import KasGraph.CovenantIdentity
import KasGraph.DeliveredBlocks
import KasGraph.HonestIndexers
import KasGraph.JournalReplay
import KasGraph.Krc20Holders
import KasGraph.LegacyReplay
import KasGraph.LineageHead
import KasGraph.LineageRun
import KasGraph.SpendOperation
import KasGraph.ArrivalOrder
import KasGraph.GapDetection
import KasGraph.InPlaceLedger
import KasGraph.InterruptedReorg
import KasGraph.JournalTenants
import KasGraph.Krc721Uniqueness
import KasGraph.LiveSet
import KasGraph.PoiHistory
import KasGraph.Recovery
import KasGraph.ReorgInverse
import KasGraph.StreamPublication
import KasGraph.TablesExist
import KasGraph.EntityReads
import KasGraph.EventTypes
import KasGraph.ListenSource
import KasGraph.LogSanitizer
import KasGraph.Manifest
import KasGraph.ManifestDescriptor
import KasGraph.PoiEncoding
import KasGraph.RelationFields
import KasGraph.PatternLocality
import KasGraph.SanitizedAssignments
import KasGraph.LeadingAssignment
import KasGraph.DerivedFingerprint
import KasGraph.EnvelopeReading
import KasGraph.Kcc20Exactness
import KasGraph.KrcTrichotomy
import KasGraph.NotificationSafety
import KasGraph.RecordOrder
import KasGraph.Reload
import KasGraph.SpentOutpoints
import KasGraph.TextLines
import KasGraph.WireFrames
import KasGraph.Broadcast
import KasGraph.FilePaths
import KasGraph.FileSystem
import KasGraph.FilterDelivery
import KasGraph.Materialize
import KasGraph.MaterializeEscape
import KasGraph.Interference
import KasGraph.SubgraphIsolation
import KasGraph.EntityInvariants
import KasGraph.GuestDispatch
import KasGraph.MappingSdk
import KasGraph.SdkLowering
import KasGraph.SdkRefinement
import KasGraph.ContinuousLoop
import KasGraph.ContinuousRefinement
import KasGraph.GatewayRuns
import KasGraph.Base64
import KasGraph.DeployCommands
import KasGraph.DeployTransports
import KasGraph.DeployedRow
