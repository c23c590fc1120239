import EdgeGateway.Main
import EdgeGateway.Chunk.Transfer
import EdgeGateway.Proofs.Modem.Exclusive
import EdgeGateway.Proofs.Modem.Restore
import EdgeGateway.Proofs.Modem.Gateway
import EdgeGateway.Proofs.Modem.Recovery
import EdgeGateway.Proofs.Modem.Connect
import EdgeGateway.Proofs.Link.Stopping
import EdgeGateway.Proofs.Link.Thread
import EdgeGateway.Proofs.Link.Published
import EdgeGateway.Proofs.Link.StayingDown
import EdgeGateway.Proofs.Link.Retry
import EdgeGateway.Proofs.Gateway.Frame
import EdgeGateway.Proofs.Gateway.Shift
import EdgeGateway.Proofs.Mqtt.Shutdown
import EdgeGateway.Proofs.Mqtt.Stop
import EdgeGateway.Proofs.Mqtt.Thread
import EdgeGateway.Proofs.Chunk.Pieces
import EdgeGateway.Proofs.Chunk.Response
import EdgeGateway.Proofs.Chunk.Reassembly
import EdgeGateway.Proofs.Chunk.Transfer
import EdgeGateway.Proofs.Bridge.Service
import EdgeGateway.Proofs.Bridge.Thread
import EdgeGateway.Proofs.Bisection
import EdgeGateway.Proofs.Attribute.Search
import EdgeGateway.Proofs.Attribute.Listing
import EdgeGateway.Proofs.Attribute.Packing
import EdgeGateway.Proofs.Attribute.Pairs
import EdgeGateway.Proofs.Attribute.Discovery
import EdgeGateway.Proofs.Gatt.Layout
import EdgeGateway.Proofs.Gatt.Subscribers
import EdgeGateway.Proofs.Bridge.Handling
import EdgeGateway.Proofs.Bridge.Exchange
import EdgeGateway.Proofs.Bridge.Loss
import EdgeGateway.Proofs.Bridge.Origin
import EdgeGateway.Proofs.Bridge.Isolation
import EdgeGateway.Proofs.Mqtt.Restart
import EdgeGateway.Proofs.Mqtt.Switch
import EdgeGateway.Proofs.Gateway.Crew
import EdgeGateway.Proofs.Gateway.Errands
import EdgeGateway.Proofs.Gateway.BroughtUp
import EdgeGateway.Proofs.Gateway.Owned
import EdgeGateway.Proofs.Gateway.Manned
import EdgeGateway.Proofs.Gateway.Deeds
import EdgeGateway.Proofs.Gateway.Following
import EdgeGateway.Proofs.Gateway.Run
import EdgeGateway.Proofs.Gateway.Schedule
import EdgeGateway.Proofs.Gateway.Subscription
import EdgeGateway.Proofs.Gateway.Booted
import EdgeGateway.Proofs.Gateway.Served
import EdgeGateway.Proofs.Gateway.Teardown
import EdgeGateway.Proofs.Gateway.ModemUse
import EdgeGateway.Proofs.Settings.Parts
import EdgeGateway.Proofs.Route.Gateway
import EdgeGateway.Proofs.Console.Session
import EdgeGateway.Proofs.History
import EdgeGateway.Proofs.Link.Discipline
import EdgeGateway.Proofs.Gatt.Rejected
import EdgeGateway.Proofs.Modem.Admission
import EdgeGateway.Proofs.Link.Merged
import EdgeGateway.Proofs.Mqtt.Merged
import EdgeGateway.Proofs.Chunk.Format
import EdgeGateway.Proofs.Chunk.Gathered
import EdgeGateway.Proofs.Output.Due
import EdgeGateway.Proofs.Output.Apart
import EdgeGateway.Proofs.Output.Tracked
import EdgeGateway.Proofs.Output.Follows
import EdgeGateway.Proofs.Attribute.Capacity
import EdgeGateway.Proofs.AddressLease
import EdgeGateway.Proofs.Signal
