import Gatehouse.Text.Basic
import Gatehouse.Text.Blank
import Gatehouse.Text.Utf8
import Gatehouse.Text.Percent
import Gatehouse.Net.Subnet
import Gatehouse.Route.Basic
import Gatehouse.HostName
import Gatehouse.Form
import Gatehouse.Http.Redirect
import Gatehouse.Http.Fields
import Gatehouse.Settings.Check
import Gatehouse.Dns.Script
import Gatehouse.Table
import Gatehouse.Time
import Gatehouse.Registry.Basic
import Gatehouse.Registry.Operations
import Gatehouse.Http.Uri
import Gatehouse.Http.Message
import Gatehouse.Backend.Dial
import Gatehouse.Backend.Forward
import Gatehouse.Control.Resource
import Gatehouse.Control.Api
import Gatehouse.Registry.Script
import Gatehouse.Tls.KeyPair
import Gatehouse.Listener.Script
import Gatehouse.Balancer
import Gatehouse.Relay.Pipes
import Gatehouse.PidFile
import Gatehouse.Launch.Session
import Gatehouse.Main
import Gatehouse.Proofs.Table
import Gatehouse.Proofs.Except
import Gatehouse.Proofs.Percent
import Gatehouse.Proofs.Form
import Gatehouse.Proofs.Control.Resource
import Gatehouse.Proofs.Route
import Gatehouse.Proofs.Net.Subnet
import Gatehouse.Proofs.Net.Allocation
import Gatehouse.Proofs.HostName
import Gatehouse.Proofs.Settings.Startup
import Gatehouse.Proofs.Host.Files
import Gatehouse.Proofs.SystemResolver
import Gatehouse.Proofs.Naming
import Gatehouse.Proofs.PidFile
import Gatehouse.Proofs.Registry.Change
import Gatehouse.Proofs.Registry.Create
import Gatehouse.Proofs.Registry.Teardown
import Gatehouse.Proofs.Registry.Invariant
import Gatehouse.Proofs.Dns.Zone
import Gatehouse.Proofs.Http.Fields
import Gatehouse.Proofs.Http.SingleHop
import Gatehouse.Proofs.Http.Upgrade
import Gatehouse.Proofs.Http.Uri
import Gatehouse.Proofs.Registry.Names
import Gatehouse.Proofs.Backend.Forward
import Gatehouse.Proofs.Backend.Announcement
import Gatehouse.Proofs.Backend.Outgoing
import Gatehouse.Proofs.Backend.Dial
import Gatehouse.Proofs.Registry.Aliases
import Gatehouse.Proofs.Registry.Outcome
import Gatehouse.Proofs.Registry.Failure
import Gatehouse.Proofs.Registry.Lease
import Gatehouse.Proofs.Registry.Reservation
import Gatehouse.Proofs.Registry.Pool
import Gatehouse.Proofs.Registry.Isolation
import Gatehouse.Proofs.Registry.Pointing
import Gatehouse.Proofs.Idna.Label
import Gatehouse.Proofs.Dns.Name
import Gatehouse.Proofs.Dns.Wire
import Gatehouse.Proofs.Dns.Answer
import Gatehouse.Proofs.Dns.Domain
import Gatehouse.Proofs.Dns.Authority
import Gatehouse.Proofs.Dns.Place
import Gatehouse.Proofs.Dns.Encoding
import Gatehouse.Proofs.Dns.Message
import Gatehouse.Proofs.Dns.Passthrough
import Gatehouse.Proofs.Relay.Reaction
import Gatehouse.Proofs.Relay.Copying
import Gatehouse.Proofs.Relay.Idleness
import Gatehouse.Proofs.Registry.Expiry
import Gatehouse.Proofs.Registry.Renewal
import Gatehouse.Proofs.Http.Redirect
import Gatehouse.Proofs.Backend.SingleHop
import Gatehouse.Proofs.Backend.Identity
import Gatehouse.Proofs.Dns.Reply
import Gatehouse.Proofs.Backend.Diagnostic
import Gatehouse.Proofs.Balancer
import Gatehouse.Proofs.Interface
