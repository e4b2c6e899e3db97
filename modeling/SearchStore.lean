import SearchStore.Config.Uri
import SearchStore.Engine.Script
import SearchStore.Proofs.Aggregation.Agreement
import SearchStore.Proofs.Aggregation.Closure
import SearchStore.Proofs.Aggregation.Groups
import SearchStore.Proofs.Aggregation.Interval
import SearchStore.Proofs.Aggregation.Rendering
import SearchStore.Proofs.Aggregation.RoundTrip
import SearchStore.Proofs.Aggregation.Truncation
import SearchStore.Proofs.Bulk.Framing
import SearchStore.Proofs.Bulk.Packing
import SearchStore.Proofs.Config.File
import SearchStore.Proofs.Config.Uri
import SearchStore.Proofs.Index.Expression
import SearchStore.Proofs.Index.Fields
import SearchStore.Proofs.Index.Isolation
import SearchStore.Proofs.Index.Templates
import SearchStore.Proofs.Number.Bits
import SearchStore.Proofs.Query.Comparison
import SearchStore.Proofs.Query.History
import SearchStore.Proofs.Query.Requests
import SearchStore.Proofs.Query.Scope
import SearchStore.Proofs.Query.Sharing
import SearchStore.Proofs.Store.Accounts
import SearchStore.Proofs.Store.Chunks
import SearchStore.Proofs.Store.Completeness
import SearchStore.Proofs.Store.Target
import SearchStore.Proofs.Url.Destination
import SearchStore.Proofs.Url.Lossless
import SearchStore.Query.Builder
