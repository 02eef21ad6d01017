import SwaylockPlugin.Library.Machine
import SwaylockPlugin.Construction.Program
import SwaylockPlugin.Construction.SleepWatcher
import SwaylockPlugin.Abstract.Cycle
import SwaylockPlugin.Proof.Quiet
import SwaylockPlugin.Proof.LockGuard
import SwaylockPlugin.Proof.Validation
import SwaylockPlugin.Proof.Grace
import SwaylockPlugin.Proof.SleepLock
import SwaylockPlugin.Abstract.Order
import SwaylockPlugin.Abstract.OrderSteps
import SwaylockPlugin.Abstract.OrderRuns
import SwaylockPlugin.Proof.Guard
import SwaylockPlugin.Proof.Surfaces
import SwaylockPlugin.Proof.Own
import SwaylockPlugin.Proof.Links
import SwaylockPlugin.Proof.Roles
import SwaylockPlugin.Proof.Apply
import SwaylockPlugin.Proof.Presents
import SwaylockPlugin.Proof.Outputs
import SwaylockPlugin.Proof.Lifetimes
import SwaylockPlugin.Proof.References
import SwaylockPlugin.Proof.Refresh
import SwaylockPlugin.Proof.Removal
import SwaylockPlugin.Proof.Configures
import SwaylockPlugin.Proof.Effects
import SwaylockPlugin.Proof.Footprints
import SwaylockPlugin.Proof.ObjectFootprints
import SwaylockPlugin.Proof.OutputFootprints
import SwaylockPlugin.Proof.EventFootprints
import SwaylockPlugin.Proof.Indicator
import SwaylockPlugin.Proof.Timers
import SwaylockPlugin.Proof.Devices
import SwaylockPlugin.Proof.Unlock
import SwaylockPlugin.Proof.Encoding
import SwaylockPlugin.Proof.Typing
import SwaylockPlugin.Proof.Pointer
import SwaylockPlugin.Proof.Polled
import SwaylockPlugin.Proof.Repeat
import SwaylockPlugin.Proof.Objects
import SwaylockPlugin.Library.Forest
import SwaylockPlugin.Proof.Requests
import SwaylockPlugin.Proof.Parts
import SwaylockPlugin.Proof.Users
import SwaylockPlugin.Proof.Tree
import SwaylockPlugin.Proof.Bonds
import SwaylockPlugin.Proof.Orphans
import SwaylockPlugin.Proof.SceneSteps
import SwaylockPlugin.Abstract.Presentation
import SwaylockPlugin.Proof.Frames
import SwaylockPlugin.Proof.Callbacks
import SwaylockPlugin.Proof.Hidden
import SwaylockPlugin.Abstract.Signals
import SwaylockPlugin.Proof.Descriptions
import SwaylockPlugin.Proof.Sharing
import SwaylockPlugin.Proof.ShmPools
import SwaylockPlugin.Proof.Signals
import SwaylockPlugin.Proof.Exchanges
import SwaylockPlugin.Proof.Exits
import SwaylockPlugin.Construction.ImageDescription
import SwaylockPlugin.Library.Count
import SwaylockPlugin.Construction.ColorManagement
import SwaylockPlugin.Construction.NestedOutput
import SwaylockPlugin.Proof.NestedOutputs
import SwaylockPlugin.Proof.StaleOutputs
import SwaylockPlugin.Proof.LayerAcks
import SwaylockPlugin.Proof.GoneSurfaces
import SwaylockPlugin.Proof.FirstConfigures
import SwaylockPlugin.Library.Linked
import SwaylockPlugin.Construction.EventLoop
import SwaylockPlugin.Proof.EventLoop
import SwaylockPlugin.Proof.LoopTimers
import SwaylockPlugin.Library.Layout
import SwaylockPlugin.Construction.Listener
import SwaylockPlugin.Proof.Listener
import SwaylockPlugin.Construction.ColorStartup
import SwaylockPlugin.Proof.ColorStartup
import SwaylockPlugin.Proof.Moves
import SwaylockPlugin.Proof.Clients
import SwaylockPlugin.Construction.MainLoop
import SwaylockPlugin.Proof.MainLoop
import SwaylockPlugin.Proof.Places
import SwaylockPlugin.Proof.Bindings
import SwaylockPlugin.Proof.Assertions
import SwaylockPlugin.Construction.Comm
import SwaylockPlugin.Proof.Comm
import SwaylockPlugin.Proof.Owners
import SwaylockPlugin.Proof.Reminders
import SwaylockPlugin.Proof.Expiry
import SwaylockPlugin.Construction.LockSignal
import SwaylockPlugin.Proof.LockSignal
import SwaylockPlugin.Abstract.Extent
import SwaylockPlugin.Proof.Limits
import SwaylockPlugin.Proof.CommitSizes
import SwaylockPlugin.Proof.RejectedCommits
import SwaylockPlugin.Proof.Fallback
import SwaylockPlugin.Proof.Attachments
import SwaylockPlugin.Proof.Attaches
import SwaylockPlugin.Proof.Partners
import SwaylockPlugin.Proof.SecondRoles
import SwaylockPlugin.Proof.SurfaceRoles
import SwaylockPlugin.Proof.FirstCommits
import SwaylockPlugin.Proof.Readiness
import SwaylockPlugin.Proof.LoopRefinement
import SwaylockPlugin.Construction.ColorManager
import SwaylockPlugin.Proof.ColorManager
import SwaylockPlugin.Construction.DmabufFeedback
import SwaylockPlugin.Library.Ledger
import SwaylockPlugin.Proof.DmabufFeedback
import SwaylockPlugin.Proof.Information
import SwaylockPlugin.Proof.Extensions
import SwaylockPlugin.Proof.Hanging
import SwaylockPlugin.Library.Lineage
import SwaylockPlugin.Proof.Lineage
import SwaylockPlugin.Proof.Restacking
import SwaylockPlugin.Proof.Resets
import SwaylockPlugin.Construction.ForwardArrays
import SwaylockPlugin.Library.Doubling
import SwaylockPlugin.Proof.ForwardArrays
import SwaylockPlugin.Proof.PollTimeout
import SwaylockPlugin.Proof.ParseColor
import SwaylockPlugin.Construction.PoolBuffer
import SwaylockPlugin.Construction.Render
import SwaylockPlugin.Proof.PoolBuffer
import SwaylockPlugin.Proof.Render
import SwaylockPlugin.Construction.Images
import SwaylockPlugin.Proof.DefaultCommand
import SwaylockPlugin.Proof.Images
import SwaylockPlugin.Construction.Spawn
import SwaylockPlugin.Proof.SpawnEnvironment
import SwaylockPlugin.Proof.Spawn
import SwaylockPlugin.Proof.Commits
import SwaylockPlugin.Proof.Acknowledgements
import SwaylockPlugin.Proof.AcknowledgedSizes
import SwaylockPlugin.Proof.ForwardedValues
import SwaylockPlugin.Proof.SettledOptions
import SwaylockPlugin.Proof.Teardown
import SwaylockPlugin.Proof.Settlement
import SwaylockPlugin.Proof.Answers
import SwaylockPlugin.Library.Refinement
import SwaylockPlugin.Construction.Authentication
import SwaylockPlugin.Proof.Verdicts
import SwaylockPlugin.Library.Batches
import SwaylockPlugin.Proof.Delivery
import SwaylockPlugin.Proof.FrameOrder
import SwaylockPlugin.Proof.Residue
import SwaylockPlugin.Proof.AfterTeardown
import SwaylockPlugin.Proof.Watchdogs
