import HopProbe.CommandLine.Program
import HopProbe.Main
import HopProbe.Proofs.Blob.Address
import HopProbe.Proofs.Blob.Connection
import HopProbe.Proofs.Blob.Protocol
import HopProbe.Proofs.Blob.Signed
import HopProbe.Proofs.Blob.Within
import HopProbe.Proofs.CommandLine.Serving
import HopProbe.Proofs.Relay.Chain
import HopProbe.Proofs.Run.Failures
import HopProbe.Proofs.Run.Forwarding
import HopProbe.Proofs.Run.Growth
import HopProbe.Proofs.Run.Inbound
import HopProbe.Proofs.Run.Reread
import HopProbe.Proofs.Run.Stored
import HopProbe.Proofs.Run.Table
import HopProbe.Proofs.Run.Watched
import HopProbe.Proofs.Script.Body
import HopProbe.Proofs.Script.Parity
import HopProbe.Proofs.Script.Quoting
import HopProbe.Proofs.Service.Damaged
import HopProbe.Proofs.Service.Forms
import HopProbe.Proofs.Step.Registered
import HopProbe.Proofs.Verbs.Contents
import HopProbe.Proofs.Verbs.Environment
import HopProbe.Proofs.Verbs.Fields
import HopProbe.Proofs.Verbs.Interfaces
import HopProbe.Proofs.Verbs.Listing
import HopProbe.Proofs.Verbs.Lookup
import HopProbe.Proofs.Verbs.Misuse
import HopProbe.Step.Canned
