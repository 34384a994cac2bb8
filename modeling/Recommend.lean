import Recommend.Bulk.Builder
import Recommend.Bulk.Format
import Recommend.Feature.Basic
import Recommend.Feature.Codec
import Recommend.Feature.Text
import Recommend.Files.Error
import Recommend.Files.Path
import Recommend.Files.Tree
import Recommend.Http.Address
import Recommend.Http.Domain
import Recommend.Http.DomainMapping
import Recommend.Http.MediaType
import Recommend.Http.Message
import Recommend.Http.Origin
import Recommend.Http.Percent
import Recommend.Http.Punycode
import Recommend.Http.Url
import Recommend.Index.Basic
import Recommend.Index.Search
import Recommend.Indexer.Command
import Recommend.Indexer.Run
import Recommend.Indexer.Stamp
import Recommend.Json.Basic
import Recommend.Json.Body
import Recommend.Json.Codec
import Recommend.Json.Record
import Recommend.Json.Scan
import Recommend.Json.Skip
import Recommend.Json.Tagged
import Recommend.Json.Tree
import Recommend.Json.Variant
import Recommend.Json.Writer
import Recommend.Main
import Recommend.Message.Basic
import Recommend.Message.Codec
import Recommend.Number.Binary64
import Recommend.Number.Decimal
import Recommend.Number.Numeral
import Recommend.Number.Rounding
import Recommend.Number.Single
import Recommend.Pipeline.Config
import Recommend.Pipeline.Node
import Recommend.Pipeline.Service
import Recommend.Proofs.Bulk.LoadOrder
import Recommend.Proofs.Http.Percent
import Recommend.Proofs.Index.Postings
import Recommend.Proofs.Index.Projection
import Recommend.Proofs.Index.Scan
import Recommend.Proofs.Json.Codec
import Recommend.Proofs.Json.Record
import Recommend.Proofs.Json.Scan
import Recommend.Proofs.Message.Codec
import Recommend.Proofs.Pipeline.Rewiring
import Recommend.Proofs.Pipeline.Service
import Recommend.Proofs.Recommender.Completion
import Recommend.Proofs.Remote.Exchange
import Recommend.Proofs.SortedMap
import Recommend.Proofs.Stage.Agreement
import Recommend.Recommender
import Recommend.Remote.Channel
import Recommend.Remote.Client
import Recommend.Snapshot.Basic
import Recommend.Snapshot.Layout
import Recommend.SortedMap
import Recommend.Stage.Client
import Recommend.Stage.ContentRetrieval
import Recommend.Stage.KeyedContext
import Recommend.Status
import Recommend.Text.Blank
import Recommend.Text.Bytes
import Recommend.Text.CombiningClass
import Recommend.Text.Composed
import Recommend.Text.Composition
import Recommend.Text.Direction
import Recommend.Text.Extender
import Recommend.Text.Joining
import Recommend.Text.Quoted
import Recommend.Text.SpacingMark
import Recommend.Text.Split
import Recommend.Text.Table
import Recommend.Text.Unprintable
import Recommend.Proofs.Bulk.FirstWrite
import Recommend.Proofs.Snapshot.Layout
import Recommend.Proofs.Message.Lossless
import Recommend.Proofs.Files.Tree
import Recommend.Proofs.Bulk.Volume
import Recommend.Proofs.Snapshot.Serving
import Recommend.Proofs.Recommender.Enrichment
import Recommend.Proofs.Recommender.Calls
import Recommend.Proofs.Stage.SeedMatch
import Recommend.Proofs.Number.Rounding
import Recommend.Proofs.Number.Shortest
import Recommend.Proofs.Number.Separation
import Recommend.Proofs.Number.Numeral
import Recommend.Proofs.Json.Refusal
import Recommend.Proofs.Number.ReadBack
import Recommend.Proofs.Message.Finite
import Recommend.Proofs.Pipeline.Relay
import Recommend.Proofs.Index.Cap
import Recommend.Proofs.Pipeline.Acceptance
import Recommend.Proofs.Pipeline.NamedFeatures
import Recommend.Proofs.Json.Grammar
import Recommend.Proofs.Json.Spelling
import Recommend.Proofs.Message.Tolerant
import Recommend.Proofs.Json.Reading
import Recommend.Proofs.Text.Blank
import Recommend.Proofs.Bulk.Alignment
import Recommend.Proofs.Stage.Candidates
import Recommend.Proofs.Pipeline.StageOrder
import Recommend.Proofs.Bulk.Seam
import Recommend.Proofs.Bulk.Account
import Recommend.Proofs.Bulk.Reload
import Recommend.Proofs.Bulk.RowOrder
import Recommend.Proofs.Bulk.Written
import Recommend.Proofs.Bulk.Balance
import Recommend.Proofs.Files.Listing
import Recommend.Proofs.Number.FixedText
