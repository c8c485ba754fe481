import HotReload.Session.Loads
import HotReload.Session.Snapshot
import HotReload.Session.Sweeps
import HotReload.Session.Tables
import HotReload.Settings.Document
import HotReload.Settings.Environment
import HotReload.Mapped.Image
import HotReload.Sweep.Outline
import HotReload.Proofs.Confinement
import HotReload.Proofs.Absorption
import HotReload.Proofs.Walking
import HotReload.Proofs.Running
import HotReload.Proofs.Loading
import HotReload.Proofs.Commands
import HotReload.Proofs.Coherence
import HotReload.Proofs.Linking
import HotReload.Proofs.Validity
import HotReload.Proofs.Resolution
import HotReload.Proofs.Slots
import HotReload.Proofs.Versions
import HotReload.Proofs.Newest
import HotReload.Proofs.NewestCode
import HotReload.Proofs.Layout
import HotReload.Proofs.Reaching
import HotReload.Proofs.Sweeping
import HotReload.Proofs.Hooks
import HotReload.Proofs.Landing
import HotReload.Proofs.Stages
import HotReload.Proofs.InPlace
import HotReload.Proofs.Binding
import HotReload.Proofs.Sharing
import HotReload.Proofs.Recorded
import HotReload.Proofs.Agreement
import HotReload.Proofs.Dispatch
import HotReload.Proofs.Swizzling
import HotReload.Proofs.Frame
import HotReload.Proofs.Order
import HotReload.Proofs.Memoizing
import HotReload.Proofs.Closed
import HotReload.Proofs.Callable
import HotReload.Proofs.OwnCalls
import HotReload.Proofs.SlotKinds
import HotReload.Proofs.Copying
import HotReload.Proofs.Filing
import HotReload.Proofs.Allocating
import HotReload.Proofs.Registries
import HotReload.Proofs.SelectorKinds
import HotReload.Proofs.Faults
import HotReload.Proofs.Pairing
import HotReload.Proofs.Locality
import HotReload.Proofs.Bisimulation
import HotReload.Proofs.Mirroring
import HotReload.Proofs.Refusal
import HotReload.Proofs.Queueing
import HotReload.Proofs.Listing
import HotReload.Proofs.Announcing
import HotReload.Proofs.Specializing
import HotReload.Proofs.Decoding
import HotReload.Proofs.Notifying
import HotReload.Proofs.Registration
import HotReload.Proofs.Tallying
import HotReload.Proofs.Refreshing
import HotReload.Proofs.Replacing
import HotReload.Proofs.Reporting
import HotReload.Proofs.Joining
import HotReload.Proofs.Climbing
import HotReload.Proofs.Finding
import HotReload.Proofs.Hinting
import HotReload.Proofs.Trimming
import HotReload.Proofs.BaseNames
import HotReload.Proofs.Overlaying
import HotReload.Managed.Objects
