import ProxyFeed.Number.Saturating
import ProxyFeed.Number.Shortest
import ProxyFeed.Text.Blank
import ProxyFeed.Text.RoundTrip
import ProxyFeed.Text.Replace
import ProxyFeed.Json.Search
import ProxyFeed.Json.Writer
import ProxyFeed.Json.Record
import ProxyFeed.Converter.Basic
import ProxyFeed.Settings.Basic
import ProxyFeed.Settings.DatabaseUrl
import ProxyFeed.Toml.Document
import ProxyFeed.Http.Router
import ProxyFeed.Service.Backend
import ProxyFeed.Clash.Basic
import ProxyFeed.Subscription.Basic
import ProxyFeed.Store.Memory
import ProxyFeed.Store.Database
import ProxyFeed.Link.Basic
import ProxyFeed.Link.Reader
import ProxyFeed.Random.Spider
import ProxyFeed.Digest.Sha256
import ProxyFeed.Remark.Basic
import ProxyFeed.Subscription.Summary
import ProxyFeed.Proofs.Json.WrittenNumber
import ProxyFeed.Proofs.Json.ReadBack
import ProxyFeed.Proofs.Keyed
import ProxyFeed.Proofs.Json.Value
import ProxyFeed.Proofs.Json.Record
import ProxyFeed.Proofs.Json.StoredRecords
import ProxyFeed.Proofs.RelaxedJson.Written
import ProxyFeed.Proofs.RelaxedJson.ReadBack
import ProxyFeed.Proofs.Link.ExternalProxy
import ProxyFeed.Proofs.Link.ParamSet
import ProxyFeed.Proofs.Link.ParamOrder
import ProxyFeed.Proofs.Link.Fields
import ProxyFeed.Proofs.Link.Branches
import ProxyFeed.Proofs.Link.UriReadBack
import ProxyFeed.Proofs.Link.VmessReadBack
import ProxyFeed.Proofs.Link.ParamHistory
import ProxyFeed.Proofs.Link.TransportFields
import ProxyFeed.Proofs.Link.Shown
import ProxyFeed.Proofs.Text.Replace
import ProxyFeed.Proofs.Text.Blank
import ProxyFeed.Proofs.Toml.Document
import ProxyFeed.Proofs.Settings.Sources
import ProxyFeed.Proofs.Clash.Keeps
import ProxyFeed.Proofs.Clash.Serve
import ProxyFeed.Proofs.Clash.Freshness
import ProxyFeed.Proofs.Clash.Interleaving
import ProxyFeed.Proofs.Clash.Retention
import ProxyFeed.Proofs.Store.Writes
import ProxyFeed.Proofs.Subscription.Unreadable
import ProxyFeed.Proofs.Subscription.OwnRecord
import ProxyFeed.Proofs.Store.JsonColumn
import ProxyFeed.Proofs.Store.Agreement
import ProxyFeed.Proofs.Clash.Interchange
import ProxyFeed.Proofs.Clash.Enabled
import ProxyFeed.Proofs.Link.Draft
import ProxyFeed.Proofs.Link.Spider
import ProxyFeed.Proofs.Subscription.Summary
import ProxyFeed.Proofs.Subscription.Order
import ProxyFeed.Proofs.Link.Endpoint
import ProxyFeed.Proofs.Link.Place
import ProxyFeed.Proofs.Link.Identity
import ProxyFeed.Proofs.Clash.Placeholder
import ProxyFeed.Proofs.Fallback.Inherit
import ProxyFeed.Proofs.Link.Override
import ProxyFeed.Proofs.Clash.NoTrace
import ProxyFeed.Proofs.Fallback.Merge
import ProxyFeed.Proofs.Link.Relevant
import ProxyFeed.Proofs.Link.FanOut
import ProxyFeed.Proofs.Http.Host
import ProxyFeed.Proofs.Subscription.RequestHost
import ProxyFeed.Proofs.Link.ShortId
import ProxyFeed.Proofs.Link.QueryKeys
import ProxyFeed.Proofs.Json.Search
import ProxyFeed.Proofs.Link.ShortIdList
import ProxyFeed.Proofs.Number.Rounding
import ProxyFeed.Proofs.Remark.ByteSize
