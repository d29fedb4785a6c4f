import FloatingAddress.Text.Double
import FloatingAddress.Text.Base64
import FloatingAddress.Text.Blank
import FloatingAddress.Text.Decimal
import FloatingAddress.Text.Printable
import FloatingAddress.Text.Quoted
import FloatingAddress.Text.Split
import FloatingAddress.Text.Truth
import FloatingAddress.Text.Utf8
import FloatingAddress.Allocator
import FloatingAddress.Api
import FloatingAddress.Api.Exchange
import FloatingAddress.Api.Guest
import FloatingAddress.Api.Management
import FloatingAddress.Api.Source
import FloatingAddress.Chart.Request
import FloatingAddress.Chart.Tool
import FloatingAddress.Clock
import FloatingAddress.Discovery
import FloatingAddress.InMemory.Guests
import FloatingAddress.InMemory.Installer
import FloatingAddress.InMemory.Registry
import FloatingAddress.InMemory.Server
import FloatingAddress.InMemory.Shell
import FloatingAddress.InMemory.Site
import FloatingAddress.Metrics.Endpoint
import FloatingAddress.Startup
import FloatingAddress.Yaml.Printer
import FloatingAddress.Proofs.Allocator.LowestFree
import FloatingAddress.Proofs.Text.DottedQuad
import FloatingAddress.Proofs.Allocator.View
import FloatingAddress.Proofs.Inventory.View
import FloatingAddress.Proofs.Inventory.Agreement
import FloatingAddress.Proofs.Dialogue.Sharing
import FloatingAddress.Proofs.Reconcile.Questions
import FloatingAddress.Proofs.Reconcile.Asking
import FloatingAddress.Proofs.Reconcile.Tasks
import FloatingAddress.Proofs.Inventory.Commuting
import FloatingAddress.Proofs.Reconcile.Replacement
import FloatingAddress.Proofs.Allocator.Counting
import FloatingAddress.Proofs.Inventory.Counting
import FloatingAddress.Proofs.Metrics.Families
import FloatingAddress.Proofs.Reconcile.Books
import FloatingAddress.Proofs.Reconcile.Phases
import FloatingAddress.Proofs.Reconcile.Gauges
import FloatingAddress.Proofs.Watch.Relist
import FloatingAddress.Proofs.Reconcile.History
import FloatingAddress.Proofs.Reconcile.Refusal
import FloatingAddress.Proofs.Reconcile.Frame
import FloatingAddress.Proofs.Reconcile.WriteBack
import FloatingAddress.Proofs.Allocator.Service
import FloatingAddress.Proofs.Reconcile.Redelivery
import FloatingAddress.Proofs.Reconcile.Constancy
import FloatingAddress.Proofs.Reconcile.Seeding
import FloatingAddress.Proofs.Dialogue.Transcript
import FloatingAddress.Proofs.Sweep.Course
import FloatingAddress.Proofs.Metrics.Totals
import FloatingAddress.Proofs.Metrics.Dropping
import FloatingAddress.Proofs.Sweep.Tour
import FloatingAddress.Proofs.Sweep.InMemory
import FloatingAddress.Proofs.Sweep.Permission
import FloatingAddress.Proofs.Sweep.Accounts
import FloatingAddress.Proofs.Sweep.Showing
import FloatingAddress.Proofs.Sweep.Postings
import FloatingAddress.Proofs.Sweep.Effect
import FloatingAddress.Proofs.Sweep.Idempotence
import FloatingAddress.Proofs.Sweep.Isolation
import FloatingAddress.Proofs.Series.Runs
import FloatingAddress.Proofs.Series.Lifetime
import FloatingAddress.Proofs.Series.Readings
import FloatingAddress.Proofs.Discovery.Search
import FloatingAddress.Proofs.Discovery.Crowd
import FloatingAddress.Proofs.Reconcile.Recreation
import FloatingAddress.Proofs.Discovery.Acceptance
import FloatingAddress.Proofs.Schedule.Supervision
import FloatingAddress.Proofs.Schedule.Following
import FloatingAddress.Proofs.Watch.Reloading
import FloatingAddress.Proofs.Network.Usable
import FloatingAddress.Proofs.Text.Numeral
import FloatingAddress.Proofs.Network.Notation
import FloatingAddress.Proofs.Allocator.NextFree
import FloatingAddress.Proofs.Discovery.Choice
import FloatingAddress.Proofs.Metrics.Cleanup
import FloatingAddress.Proofs.Options.Independence
import FloatingAddress.Proofs.Sweep.Publication
import FloatingAddress.Proofs.Schedule.Deadlines
