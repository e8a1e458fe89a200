import Thethings.Library.Bytes
import Thethings.Library.Varint
import Thethings.Library.Topic
import Thethings.Library.Json
import Thethings.Library.Request
import Thethings.Library.Target
import Thethings.Library.Run
import Thethings.Library.Frames
import Thethings.Library.Outbox
import Thethings.Library.Holding
import Thethings.Library.BitSet
import Thethings.Library.Cursor
import Thethings.Library.Heap
import Thethings.Values
import Thethings.Touch
import Thethings.Http.Buffer
import Thethings.Http.Socket
import Thethings.Http.Client
import Thethings.Http.Lifecycle
import Thethings.Http.Response
import Thethings.Http.Body
import Thethings.Http.Reads
import Thethings.Http.Verdict
import Thethings.Http.Framing
import Thethings.Http.Addressing
import Thethings.Http.Main
import Thethings.Http.Served
import Thethings.Http.Network
import Thethings.Http.Select
import Thethings.Http.Address
import Thethings.Http.Memory
import Thethings.Http.Lengths
import Thethings.Mqtt.Packet
import Thethings.Mqtt.Wire
import Thethings.Mqtt.Broker
import Thethings.Mqtt.RoundTrip
import Thethings.Mqtt.ConnectPacket
import Thethings.Mqtt.Outgoing
import Thethings.Mqtt.Socket
import Thethings.Mqtt.Client
import Thethings.Mqtt.Topics
import Thethings.Mqtt.Effects
import Thethings.Mqtt.App
import Thethings.Mqtt.Stream
import Thethings.Mqtt.Calls
import Thethings.Mqtt.Session
import Thethings.Mqtt.Exchange
import Thethings.Mqtt.Batch
import Thethings.Mqtt.Main
import Thethings.Mqtt.Subscription
import Thethings.Mqtt.Handshake
import Thethings.Mqtt.Recovery
import Thethings.Mqtt.Delivered
import Thethings.Press
