import Playout.ByteRing.View
import Playout.Device.Scripted
import Playout.Files
import Playout.Main
import Playout.Proofs.ByteRing.Queue
import Playout.Proofs.ChannelMask
import Playout.Proofs.Document
import Playout.Proofs.Geometry
import Playout.Proofs.Milliseconds
import Playout.Proofs.Overlay
import Playout.Proofs.Player
import Playout.Proofs.Ring.Balance
import Playout.Proofs.Ring.Batching
import Playout.Proofs.Ring.Delivery
import Playout.Proofs.Ring.Drain
import Playout.Proofs.Ring.Failure
import Playout.Proofs.Ring.Order
import Playout.Proofs.Ring.Renewal
import Playout.Proofs.Ring.Rule
import Playout.Proofs.Ring.Samples
import Playout.Proofs.Ring.Stages
import Playout.Proofs.Session.Agreement
import Playout.Proofs.Session.Attempts
import Playout.Proofs.Session.Durations
import Playout.Proofs.Session.Excuses
import Playout.Proofs.Session.Recovery
import Playout.Proofs.Session.Threshold
import Playout.Proofs.Session.Watermarks
