import Landscape.Proofs.Store.Frame
import Landscape.Session.Run
import Landscape.Proofs.Store.Writes
import Landscape.Proofs.Calls
import Landscape.Proofs.Store.Shelf
import Landscape.Proofs.Script
import Landscape.Proofs.Store.Replay
import Landscape.Proofs.Ring
import Landscape.Proofs.Deque
import Landscape.Proofs.Delivery.Post
import Landscape.Proofs.Delivery.Pass
import Landscape.Proofs.Delivery.Course
import Landscape.Proofs.Store.Lasting
import Landscape.Proofs.Records
import Landscape.Proofs.Entity.Edit
import Landscape.Proofs.Entity.Notice
import Landscape.Proofs.Entity.Frame
import Landscape.Proofs.Entity.Retry
import Landscape.Proofs.Identity
import Landscape.Proofs.Json.Text
import Landscape.Proofs.Codec
import Landscape.Proofs.Wire
import Landscape.Proofs.Delivery.Mirror
import Landscape.Proofs.Delivery.Rebuild
import Landscape.Proofs.Opening
import Landscape.Proofs.Surroundings
import Landscape.Proofs.Effect
import Landscape.Proofs.Sound
import Landscape.Proofs.Chronicle
import Landscape.Proofs.Truthful
import Landscape.Proofs.Entity.Slots
import Landscape.Proofs.Entity.Reference
import Landscape.Proofs.Entity.Binding
import Landscape.Proofs.Store.Standing
import Landscape.Proofs.Entity.ChangeLog
import Landscape.Proofs.Delivery.Snapshots
import Landscape.Proofs.Delivery.Conservation
import Landscape.Proofs.Delivery.Batches
import Landscape.Proofs.Store.Refusal
import Landscape.Proofs.Entity.Canonical
import Landscape.Proofs.Delivery.Pressure
import Landscape.Proofs.Entity.Survivors
import Landscape.Proofs.Version
import Landscape.Proofs.Instant.Calendar
import Landscape.Proofs.Instant.Writing
import Landscape.Proofs.Ring.Words
import Landscape.Proofs.Store.Listing
import Landscape.Proofs.Subscribers
