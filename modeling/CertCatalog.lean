import CertCatalog.Action
import CertCatalog.Attributes
import CertCatalog.Bytes.Base64
import CertCatalog.Bytes.Hex
import CertCatalog.Bytes.Utf8
import CertCatalog.Cache
import CertCatalog.Cache.Run
import CertCatalog.Catalog
import CertCatalog.CatalogError
import CertCatalog.Certificate
import CertCatalog.CertificateId
import CertCatalog.CommandLine.Arguments
import CertCatalog.CommandLine.Run
import CertCatalog.CommandLine.VariableFile
import CertCatalog.Config.Load
import CertCatalog.Config.LogFilter
import CertCatalog.Config.Normal
import CertCatalog.Config.Settings
import CertCatalog.Config.Sources
import CertCatalog.Config.Trust
import CertCatalog.Config.Variables
import CertCatalog.Config.VaultEntry
import CertCatalog.Der.Element
import CertCatalog.Der.Primitive
import CertCatalog.Digest.Sha1
import CertCatalog.Digest.Sha256
import CertCatalog.Digest.Words
import CertCatalog.Distinct
import CertCatalog.Files
import CertCatalog.Fleet.Basic
import CertCatalog.Fleet.Client
import CertCatalog.Fleet.Scripted
import CertCatalog.Http.Exchange
import CertCatalog.Http.Network
import CertCatalog.Http.Status
import CertCatalog.Http.TrustBundle
import CertCatalog.Instant.Basic
import CertCatalog.Instant.Calendar
import CertCatalog.Instant.Text
import CertCatalog.IpAddress
import CertCatalog.Json.Decoder
import CertCatalog.Json.Number
import CertCatalog.Json.Printer
import CertCatalog.Json.Reader
import CertCatalog.Json.Value
import CertCatalog.Main
import CertCatalog.Pem
import CertCatalog.Proofs.Action
import CertCatalog.Proofs.AlternativeNames
import CertCatalog.Proofs.Bytes
import CertCatalog.Proofs.Bytes.Utf8
import CertCatalog.Proofs.Cache
import CertCatalog.Proofs.Cache.History
import CertCatalog.Proofs.Catalog.Addressing
import CertCatalog.Proofs.Catalog.Agreement
import CertCatalog.Proofs.Catalog.Broadcasts
import CertCatalog.Proofs.Catalog.Checks
import CertCatalog.Proofs.Catalog.DistinctIds
import CertCatalog.Proofs.Catalog.Enumeration
import CertCatalog.Proofs.Catalog.FailFast
import CertCatalog.Proofs.Catalog.FanOut
import CertCatalog.Proofs.Catalog.ListedIds
import CertCatalog.Proofs.Catalog.Listing
import CertCatalog.Proofs.Catalog.MissingClients
import CertCatalog.Proofs.Catalog.Revocation
import CertCatalog.Proofs.Catalog.Runs
import CertCatalog.Proofs.Catalog.Schedule
import CertCatalog.Proofs.Catalog.SharedCaches
import CertCatalog.Proofs.Catalog.SteadyListing
import CertCatalog.Proofs.Catalog.VaultOrder
import CertCatalog.Proofs.Certificate
import CertCatalog.Proofs.Certificate.Expiry
import CertCatalog.Proofs.CertificateId
import CertCatalog.Proofs.CertificateId.Language
import CertCatalog.Proofs.Config.AddressList
import CertCatalog.Proofs.Config.Load
import CertCatalog.Proofs.Config.Normal
import CertCatalog.Proofs.Config.NormalForm
import CertCatalog.Proofs.Config.Scalars
import CertCatalog.Proofs.Config.SettingsPath
import CertCatalog.Proofs.Config.Sources
import CertCatalog.Proofs.Config.Tokens
import CertCatalog.Proofs.Config.Words
import CertCatalog.Proofs.Files
import CertCatalog.Proofs.Fleet.Answers
import CertCatalog.Proofs.Fleet.CachedListings
import CertCatalog.Proofs.Fleet.Calls
import CertCatalog.Proofs.Fleet.Checks
import CertCatalog.Proofs.Fleet.Continuity
import CertCatalog.Proofs.Fleet.Deadlines
import CertCatalog.Proofs.Fleet.Invariants
import CertCatalog.Proofs.History
import CertCatalog.Proofs.Http.Agreement
import CertCatalog.Proofs.Http.Network
import CertCatalog.Proofs.Instant.Calendar
import CertCatalog.Proofs.Instant.Distance
import CertCatalog.Proofs.Instant.ReadBack
import CertCatalog.Proofs.Json.Numbers
import CertCatalog.Proofs.Json.ReadBack
import CertCatalog.Proofs.Json.Records
import CertCatalog.Proofs.Json.RoundTrips
import CertCatalog.Proofs.Pem
import CertCatalog.Proofs.Registry
import CertCatalog.Proofs.Registry.Views
import CertCatalog.Proofs.Source
import CertCatalog.Proofs.Text.Blank
import CertCatalog.Proofs.Text.Decimal
import CertCatalog.Proofs.Text.Order
import CertCatalog.Proofs.Text.Split
import CertCatalog.Proofs.Url.Path
import CertCatalog.Proofs.Url.Percent
import CertCatalog.Proofs.Url.Reader
import CertCatalog.Proofs.Url.Text
import CertCatalog.Proofs.Vault.CallHistory
import CertCatalog.Proofs.Vault.Calls
import CertCatalog.Proofs.Vault.CertificateChains
import CertCatalog.Proofs.Vault.CheckRequests
import CertCatalog.Proofs.Vault.CompleteListing
import CertCatalog.Proofs.Vault.Details
import CertCatalog.Proofs.Vault.DistinctIds
import CertCatalog.Proofs.Vault.Exchanges
import CertCatalog.Proofs.Vault.Invariants
import CertCatalog.Proofs.Vault.LeastPrivilege
import CertCatalog.Proofs.Vault.Listing
import CertCatalog.Proofs.Vault.ListingCache
import CertCatalog.Proofs.Vault.LongRequests
import CertCatalog.Proofs.Vault.Memory
import CertCatalog.Proofs.Vault.RemoteReading
import CertCatalog.Proofs.Vault.Rendering
import CertCatalog.Proofs.Vault.Replies
import CertCatalog.Proofs.Vault.RequestPaths
import CertCatalog.Proofs.Vault.Requests
import CertCatalog.Proofs.Vault.Revocation
import CertCatalog.Proofs.Vault.RevokedListings
import CertCatalog.Proofs.Vault.Servers
import CertCatalog.Proofs.Vault.Session
import CertCatalog.Proofs.Vault.Steps
import CertCatalog.Proofs.Vault.Sweeping
import CertCatalog.Registry
import CertCatalog.Secret
import CertCatalog.Source
import CertCatalog.Table
import CertCatalog.Text.Blank
import CertCatalog.Text.Column
import CertCatalog.Text.Decimal
import CertCatalog.Text.Duration
import CertCatalog.Text.Printable
import CertCatalog.Text.Quoted
import CertCatalog.Text.Split
import CertCatalog.Unicode.Alphanumeric
import CertCatalog.Unicode.Bidi
import CertCatalog.Unicode.CombiningClass
import CertCatalog.Unicode.Composition
import CertCatalog.Unicode.Composition.Pairs
import CertCatalog.Unicode.DomainMapping
import CertCatalog.Unicode.DomainMapping.Targets
import CertCatalog.Unicode.Joining
import CertCatalog.Unicode.Mark
import CertCatalog.Unicode.Ranges
import CertCatalog.Url.Address
import CertCatalog.Url.Basic
import CertCatalog.Url.Domain
import CertCatalog.Url.Percent
import CertCatalog.Url.Punycode
import CertCatalog.Url.Reader
import CertCatalog.Vault.Client
import CertCatalog.Vault.Memory
import CertCatalog.Vault.Remote
import CertCatalog.Vault.Server
import CertCatalog.Vault.Session
import CertCatalog.X509.Algorithm
import CertCatalog.X509.AttributeType
import CertCatalog.X509.Certificate
import CertCatalog.X509.Extension
import CertCatalog.X509.Name
import CertCatalog.X509.PublicKey
import CertCatalog.X509.Validity
