import XdgPortals.Library.Runs
import XdgPortals.Library.History
import XdgPortals.Library.TwoWayIndex
import XdgPortals.Library.BoundedQueue
import XdgPortals.Library.Slots
import XdgPortals.Library.Entries
import XdgPortals.Library.Simulation
import XdgPortals.Data.Payload
import XdgPortals.Native.Tables
import XdgPortals.Native.Lifecycle
import XdgPortals.Native.VersionReads
import XdgPortals.Tracker.AtMostOnce
import XdgPortals.Tracker.Completion
import XdgPortals.Tracker.Attribution
import XdgPortals.Tracker.Close
import XdgPortals.Tracker.EarlyResponse
import XdgPortals.Tracker.Hold
import XdgPortals.Tracker.CloseRequest
import XdgPortals.Tracker.Handles
import XdgPortals.Discovery.Listener
import XdgPortals.Discovery.VersionCache
import XdgPortals.Discovery.VersionCalls
import XdgPortals.Facade.GameMode
import XdgPortals.Facade.Wiring
import XdgPortals.Facade.Answers
import XdgPortals.Facade.Backends
import XdgPortals.Facade.Lifetime
import XdgPortals.Facade.Forwarding
import XdgPortals.Client.Refinement
import XdgPortals.Client.Emission
import XdgPortals.Client.Completions
import XdgPortals.Client.Traffic
import XdgPortals.Client.Recovery
import XdgPortals.Client.Deferred
import XdgPortals.Addon.System
import XdgPortals.Addon.EndToEnd
