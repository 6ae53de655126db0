import ProxyWarden.Daemon.Session
import ProxyWarden.Main
import ProxyWarden.Rehearsal.Stage
import ProxyWarden.Proofs.Supervisor.Changes
import ProxyWarden.Proofs.Supervisor.History
import ProxyWarden.Proofs.Supervisor.Tokens
import ProxyWarden.Proofs.Supervisor.Crashes
import ProxyWarden.Proofs.Supervisor.Requests
import ProxyWarden.Proofs.Supervisor.Backoff
import ProxyWarden.Proofs.Supervisor.Shutdown
import ProxyWarden.Proofs.Supervisor.Status
import ProxyWarden.Proofs.Text.Encoding
import ProxyWarden.Proofs.Text.Decoding
import ProxyWarden.Proofs.Text.Ordering
import ProxyWarden.Proofs.Text.Pieces
import ProxyWarden.Proofs.Text.Shapes
import ProxyWarden.Proofs.Json.Strings
import ProxyWarden.Proofs.Json.Objects
import ProxyWarden.Proofs.Json.Items
import ProxyWarden.Proofs.Json.Locality
import ProxyWarden.Proofs.Json.Fields
import ProxyWarden.Proofs.Json.Values
import ProxyWarden.Proofs.Json.Bare
import ProxyWarden.Proofs.Disk.Places
import ProxyWarden.Proofs.Journal.Backwards
import ProxyWarden.Proofs.Journal.Records
import ProxyWarden.Proofs.Journal.Holding
import ProxyWarden.Proofs.Journal.Appending
import ProxyWarden.Proofs.Journal.ReadBack
import ProxyWarden.Proofs.Journal.Sorting
import ProxyWarden.Proofs.Journal.Decoding
import ProxyWarden.Proofs.Journal.Counting
import ProxyWarden.Proofs.Dispatch.Lines
import ProxyWarden.Proofs.Dispatch.Forwarding
import ProxyWarden.Proofs.Document.Grammar
import ProxyWarden.Proofs.NameMap
import ProxyWarden.Proofs.Json.Writing
import ProxyWarden.Proofs.Document.Rendering
import ProxyWarden.Proofs.Disk.Moves
import ProxyWarden.Proofs.Document.Saving
import ProxyWarden.Management.Course
import ProxyWarden.Proofs.Management.Limits
import ProxyWarden.Proofs.Traffic.Rounds
import ProxyWarden.Proofs.Management.Uploads
import ProxyWarden.Journal.Reader
import ProxyWarden.Proofs.Management.Spacing
import ProxyWarden.Proofs.Journal.Reads
import ProxyWarden.Proofs.Text.Divisions
import ProxyWarden.Proofs.Line.Access
import ProxyWarden.Proofs.Line.Core
import ProxyWarden.Proofs.Json.Scalars
import ProxyWarden.Proofs.Line.Composed
import ProxyWarden.Proofs.Json.Grammar
import ProxyWarden.Proofs.Document.Members
import ProxyWarden.Proofs.Dispatch.Feeding
import ProxyWarden.Proofs.Disk.Additions
import ProxyWarden.Proofs.Document.Leftovers
import ProxyWarden.Proofs.Traffic.Names
import ProxyWarden.Proofs.Traffic.Grouping
import ProxyWarden.Proofs.Traffic.Differences
import ProxyWarden.Proofs.Traffic.Collecting
import ProxyWarden.Proofs.Management.Refusals
import ProxyWarden.Proofs.Traffic.Totals
import ProxyWarden.Proofs.Disk.Spellings
import ProxyWarden.Proofs.Settings
import ProxyWarden.Proofs.Json.Merging
import ProxyWarden.Proofs.Journal.Tearing
import ProxyWarden.Proofs.Traffic.Words
import ProxyWarden.Proofs.Traffic.Fields
import ProxyWarden.Proofs.Traffic.Messages
import ProxyWarden.Proofs.Journal.Finding
