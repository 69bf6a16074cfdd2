import EventfoldDb.AcceptedFiles
import EventfoldDb.AccessControl
import EventfoldDb.Acknowledgement
import EventfoldDb.AnswerSegments
import EventfoldDb.AppendContract
import EventfoldDb.CallProgress
import EventfoldDb.ConsoleSession
import EventfoldDb.CrashAtomicity
import EventfoldDb.DamagedByte
import EventfoldDb.DecoderStability
import EventfoldDb.Durability
import EventfoldDb.EndToEnd
import EventfoldDb.FanOut
import EventfoldDb.IoFaults
import EventfoldDb.Linearizability
import EventfoldDb.LiveTail
import EventfoldDb.Metrics
import EventfoldDb.MidFileDamage
import EventfoldDb.OptimisticConcurrency
import EventfoldDb.Paging
import EventfoldDb.PublicationOrder
import EventfoldDb.RecordSequences
import EventfoldDb.Resubscription
import EventfoldDb.RetryAfterRestart
import EventfoldDb.SeedWindow
import EventfoldDb.ServiceReads
import EventfoldDb.Shutdown
import EventfoldDb.StoreRuns
import EventfoldDb.StreamIsolation
import EventfoldDb.StreamSummaries
import EventfoldDb.SubscriptionStart
import EventfoldDb.Restarts
