import NuxAuth.Core.Tunnel

/-!
# Counters of a node

Seven 64-bit counters that wrap around, as `fetch_add` and `fetch_sub` do.
-/

namespace NuxAuth.Core

/-- The counters of a Guard; they wrap as its atomics do. -/
structure Metrics where
  authGranted : UInt64 := 0
  authDenied : UInt64 := 0
  tunnelsOpened : UInt64 := 0
  tunnelsDenied : UInt64 := 0
  tunnelsActive : UInt64 := 0
  bytesFromPeer : UInt64 := 0
  bytesToPeer : UInt64 := 0
deriving DecidableEq

namespace Metrics

/-- A peer was granted access. -/
def recordAuthGranted (metrics : Metrics) : Metrics :=
  { metrics with authGranted := metrics.authGranted + 1 }

/-- A request was met with silence. -/
def recordAuthDenied (metrics : Metrics) : Metrics :=
  { metrics with authDenied := metrics.authDenied + 1 }

/-- A stream was dropped before its task was spawned. -/
def recordTunnelDenied (metrics : Metrics) : Metrics :=
  { metrics with tunnelsDenied := metrics.tunnelsDenied + 1 }

/-- A serve task was spawned. -/
def recordTunnelStarted (metrics : Metrics) : Metrics :=
  { metrics with tunnelsActive := metrics.tunnelsActive + 1 }

/-- A serve task has returned; only a served tunnel counts as opened. -/
def recordTunnelFinished (metrics : Metrics) (outcome : TunnelOutcome) :
    Metrics :=
  let ended := { metrics with tunnelsActive := metrics.tunnelsActive - 1 }
  match outcome with
  | .served fromPeer toPeer =>
      { ended with
        tunnelsOpened := ended.tunnelsOpened + 1
        bytesFromPeer := ended.bytesFromPeer + fromPeer
        bytesToPeer := ended.bytesToPeer + toPeer }
  | .denied => { ended with tunnelsDenied := ended.tunnelsDenied + 1 }

end Metrics

end NuxAuth.Core
