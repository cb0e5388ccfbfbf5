import Skylink.Utilities
import Skylink.Configuration
import Skylink.Library.SerialNumber
import Skylink.Library.Cycle
import Skylink.Library.ArrayLoop
import Skylink.Library.Trace
import Skylink.Library.BitPacking
import Skylink.Library.BinaryCode
import Skylink.Library.BitWeight
import Skylink.Library.KeyEquation
import Skylink.Library.ErrorLocator
import Skylink.Library.ReflectedCrc
import Skylink.Library.Iteration
import Skylink.Library.RoundRobin
import Skylink.Library.SessionWindow.Model
import Skylink.Library.SessionWindow.Safety
import Skylink.Library.SessionWindow.Steps
import Skylink.Library.SessionWindow.Invariant
import Skylink.ElementBuffer.Model
import Skylink.ElementBuffer.Refinement
import Skylink.ElementBuffer.Operations
import Skylink.ElementBuffer.Runs
import Skylink.ElementBuffer.ChainCheck
import Skylink.Frame.Model
import Skylink.Frame.Codec
import Skylink.Frame.Encoding
import Skylink.Frame.Grammar
import Skylink.Frame.RoundTrip
import Skylink.Frame.Canonical
import Skylink.Frame.Crc
import Skylink.Frame.Burst
import Skylink.SequenceRing.Model
import Skylink.SequenceRing.Slots
import Skylink.SequenceRing.Receive
import Skylink.SequenceRing.ReceiveRuns
import Skylink.SequenceRing.Send
import Skylink.SequenceRing.SendRuns
import Skylink.SequenceRing.Resend
import Skylink.SequenceRing.ResendRuns
import Skylink.VirtualChannel.Model
import Skylink.VirtualChannel.Refinement
import Skylink.VirtualChannel.Content
import Skylink.VirtualChannel.Exchange
import Skylink.VirtualChannel.Runs
import Skylink.VirtualChannel.OldPackets
import Skylink.VirtualChannel.Requests
import Skylink.VirtualChannel.Capacity
import Skylink.Link.Model
import Skylink.Link.Simulation
import Skylink.Link.Filling
import Skylink.Link.Processing
import Skylink.Link.Runs
import Skylink.Link.Delivery
import Skylink.Link.Session
import Skylink.Link.Handshake
import Skylink.Link.Agreement
import Skylink.Link.Crossing
import Skylink.Link.Loss
import Skylink.Link.Stall
import Skylink.Link.Reading
import Skylink.Node.Mac
import Skylink.Node.Windows
import Skylink.Node.WindowRuns
import Skylink.Node.Model
import Skylink.Node.Reception
import Skylink.Node.Forgery
import Skylink.Node.Locality
import Skylink.Node.Scheduling
import Skylink.Node.Runs
import Skylink.Node.Reachable
import Skylink.Node.Fairness
import Skylink.Node.Replay
import Skylink.Node.Enforcement
import Skylink.Node.Exclusion
import Skylink.Node.Transmission
import Skylink.Node.WorstCase
import Skylink.Node.Authentication
import Skylink.Node.Resynchronisation
import Skylink.Node.Rejection
import Skylink.Node.Accounting
import Skylink.Node.Acknowledgement
import Skylink.Node.Persistence
import Skylink.Node.Report
import Skylink.Link.Repair
import Skylink.Link.Recovery
import Skylink.Link.Opening
import Skylink.Network.Model
import Skylink.Network.Reception
import Skylink.Network.Simulation
import Skylink.Link.Lifecycle
import Skylink.Network.Refinement
import Skylink.Network.Delivery
import Skylink.Network.Attacker
import Skylink.Phy.Golay
import Skylink.Phy.GolayDecoder
import Skylink.Phy.ReedSolomon
import Skylink.Phy.Galois
import Skylink.Phy.RsDecoder
import Skylink.Phy.RsCode
import Skylink.Phy.RsLocator
import Skylink.Phy.RsCorrection
import Skylink.Phy.Model
import Skylink.Phy.Pipeline
import Skylink.Phy.Bounds
import Skylink.Phy.ReceiveBuffer
import Skylink.Phy.Recovery
import Skylink.Network.Radio
import Skylink.Python.Codec
import Skylink.Python.Agreement
import Skylink.Python.Coding
import Skylink.Python.RoundTrip
