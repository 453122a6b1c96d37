import Advisory.Dict
import Advisory.Id
import Advisory.Json.Reader
import Advisory.Json.Writer
import Advisory.Package.Written
import Advisory.Pattern.Anchored
import Advisory.Snapshot.Tables
import Advisory.Time.RequestDate
import Advisory.Catalog.Basic
import Advisory.Catalog.Freshness
import Advisory.Catalog.Listing
import Advisory.Catalog.Load
import Advisory.Proofs.Sorting
import Advisory.Main
import Advisory.Proofs.Delivery
import Advisory.Proofs.Placement
import Advisory.Proofs.Offers
import Advisory.Proofs.Resolution
import Advisory.Proofs.Findings
import Advisory.Proofs.Join
import Advisory.Proofs.Progress
import Advisory.Proofs.SecurityMode
import Advisory.Proofs.Vulnerabilities
import Advisory.Proofs.Pages
import Advisory.Proofs.Selection
import Advisory.Proofs.Storage
import Advisory.Proofs.Rearrangement
import Advisory.Proofs.Readability
import Advisory.Proofs.Lookup
import Advisory.Proofs.Backing
import Advisory.Proofs.Restrictions
import Advisory.Proofs.Upgrades
import Advisory.Proofs.Mirror
import Advisory.Proofs.Recognition
import Advisory.Proofs.Identifiers
import Advisory.Proofs.Printed
import Advisory.Proofs.Batches
import Advisory.Proofs.Sessions
import Advisory.Proofs.Precedence
import Advisory.Proofs.Grammar
import Advisory.Proofs.Distinctness
import Advisory.Proofs.WholeNames
import Advisory.Proofs.Sources
import Advisory.Proofs.IndexRows
import Advisory.Proofs.Export
import Advisory.Proofs.MissingColumns
import Advisory.Proofs.EndOfVersions
import Advisory.Proofs.Envelopes
