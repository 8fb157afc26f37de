import Al1Wmod.Stream.Transducer
import Al1Wmod.Stream.Buffer
import Al1Wmod.Stream.Framer
import Al1Wmod.Stream.Word
import Al1Wmod.Stream.PastTime
import Al1Wmod.Stream.FirstFit
import Al1Wmod.Stream.Machine
import Al1Wmod.Stream.Fragments
import Al1Wmod.Stream.Interleave
import Al1Wmod.Stream.ShiftRegister
import Al1Wmod.Stream.BitRegister
import Al1Wmod.Stream.ByteRegister
import Al1Wmod.Stream.Remainder
import Al1Wmod.Stream.Reads
import Al1Wmod.Stream.Distance
import Al1Wmod.Stream.Simulation
import Al1Wmod.Stream.Heap
import Al1Wmod.Stream.Backlog
import Al1Wmod.Link.Crc16
import Al1Wmod.Link.Flips
import Al1Wmod.Link.Crc16Register
import Al1Wmod.Link.Frame
import Al1Wmod.Link.Parser
import Al1Wmod.Link.Stream
import Al1Wmod.Link.Scanner
import Al1Wmod.Link.Noise
import Al1Wmod.Link.Detection
import Al1Wmod.Link.Oversized
import Al1Wmod.Link.Runtime
import Al1Wmod.Link.Sequence
import Al1Wmod.Link.Resync
import Al1Wmod.Link.Lifecycle
import Al1Wmod.Link.Distance
import Al1Wmod.Link.Ledger
import Al1Wmod.Link.Reading
import Al1Wmod.Link.Backpressure
import Al1Wmod.Link.Interleaving
import Al1Wmod.Link.Atomicity
import Al1Wmod.Link.Memory
import Al1Wmod.Link.Teardown
import Al1Wmod.Protocol.Packet
import Al1Wmod.Protocol.Framing
import Al1Wmod.Protocol.Parser
import Al1Wmod.Protocol.Codec
import Al1Wmod.Protocol.Crc8Register
import Al1Wmod.Protocol.Detection
import Al1Wmod.Protocol.Remainder
import Al1Wmod.Protocol.Distance
import Al1Wmod.Ble.Reassembler
import Al1Wmod.Ble.Lockstep
import Al1Wmod.Ble.Bridge
import Al1Wmod.Ble.Trace
import Al1Wmod.Ble.Session
import Al1Wmod.Ble.Handles
import Al1Wmod.Ble.Gate
import Al1Wmod.Ble.Race
import Al1Wmod.Ble.Isolation
import Al1Wmod.Ble.Authority
import Al1Wmod.Ble.Boot
import Al1Wmod.Ble.Takeover
import Al1Wmod.Ble.SessionId
import Al1Wmod.Ble.Registry
import Al1Wmod.Ble.Broadcast
import Al1Wmod.Ble.Notify
import Al1Wmod.Ble.Fragmentation
import Al1Wmod.Ble.Downlink
import Al1Wmod.Ble.SmokeClient
import Al1Wmod.Ble.Contiguity
import Al1Wmod.System.Stm32
import Al1Wmod.System.Attribution
import Al1Wmod.System.Orphan
import Al1Wmod.System.Routing
import Al1Wmod.System.Uplink
import Al1Wmod.System.Undelivered
import Al1Wmod.System.Gateway
import Al1Wmod.System.Device
import Al1Wmod.System.Serves
import Al1Wmod.System.Refinement
import Al1Wmod.System.Exchange
import Al1Wmod.System.Drain
import Al1Wmod.System.Delivery
import Al1Wmod.System.Advertising
