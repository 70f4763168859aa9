import EventBatching.Main
import EventBatching.Proofs.Collector.Conservation
import EventBatching.Proofs.Collector.Lateness
import EventBatching.Proofs.Pipeline.EndToEnd
import EventBatching.Rehearsal
import EventBatching.Rehearsal.Peer
import EventBatching.Proofs.Wire.Codec
import EventBatching.Proofs.Wire.Stream
import EventBatching.Proofs.Connection.Answers
import EventBatching.Proofs.Json.Place
import EventBatching.Proofs.Connection.Refusals
import EventBatching.Proofs.Collector.Chunks
import EventBatching.Proofs.Collector.Holding
import EventBatching.Proofs.Pipeline.Operations
import EventBatching.Proofs.Journal.Accepted
import EventBatching.Proofs.Collector.Panics
import EventBatching.Proofs.Pool.Overload
import EventBatching.Proofs.Pipeline.KeyOrder
import EventBatching.Proofs.Wire.Truncation
import EventBatching.Proofs.Wire.Rewriting
import EventBatching.Proofs.Reception
import EventBatching.Proofs.Client.Exchange
import EventBatching.Proofs.Collector.NextLook
import EventBatching.Proofs.OpenBatches.Histories
import EventBatching.Proofs.Daemon.Options
import EventBatching.Proofs.Journal.Breaks
