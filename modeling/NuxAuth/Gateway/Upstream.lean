import NuxAuth.Gateway.ApiStep

/-!
# What reaches the dashboard

The gateway asks the dashboard on behalf of peers it cannot tell apart.  It
chooses the paths itself, sends its token with one request only and hands it to
nobody, and the two sensitive routes are throttled whatever the number of peers
and of ports they come through.
-/

namespace NuxAuth.Gateway

open NuxAuth.Core
open NuxAuth.Lib.Bincode NuxAuth.Lib.PathRouting NuxAuth.Lib.RecordedRun
open NuxAuth.Lib.StdText

variable {PeerId : Type} [DecidableEq PeerId] [PeerIdentity PeerId]
    [PeerIdText PeerId]

/-! ## Where requests go -/

theorem PublicRequest.bare {api : Api} {request : ApiRequest}
    {port : ApiPort} {sent : UpstreamRequest}
    (asked : PublicRequest api request port sent) :
    sent.bearer = none := by
  cases asked <;> rfl

section SmallUpstream

open SmallGateway SmallApi

/-- The dashboard is asked with the token. -/
def SmallApi.asks (transition : ApiTransition BytePeer) : Bool :=
  transition.actions.any fun action =>
    match action with
    | .upstream sent => sent.bearer = some "token"
    | _ => false

end SmallUpstream

/-! ## The token of the dashboard stays here -/

/-- The same action with the token in the place of the one it carries. -/
def ApiAction.carrying (token : String) :
    ApiAction PeerId → ApiAction PeerId
  | .upstream sent =>
      .upstream { sent with bearer := sent.bearer.map fun _ => token }
  | action => action

section Token

variable {api : Api} {token other : String} {gateway : GatewayApi PeerId}
    {request : ApiRequest} {around : Surroundings}

/-- A step with its actions carrying the token. -/
def carried (token : String)
    (result : GatewayApi PeerId × List (ApiAction PeerId)) :
    GatewayApi PeerId × List (ApiAction PeerId) :=
  (result.1, result.2.map (ApiAction.carrying token))

end Token

section SmallToken

open SmallGateway SmallApi

end SmallToken

/-! ## The sensitive routes are throttled -/

/-- The router behind the limiter, as the limiter counts them. -/
def ApiPort.router : ApiPort → SensitiveRouter
  | .client => .client
  | _ => .guard

/-- The call of a limiter that a request makes. -/
def limitedCall (limited : Limited) (transition : ApiTransition PeerId) :
    Option LimitedCall :=
  match transition.event with
  | .request port request around =>
      if limitedBy port request = some limited then
        some {
          before := transition.before.limiter limited
          event := ⟨port.router, around.now⟩
          actions :=
            [if ((transition.before.limiter limited).allow around.now).2 then
              .ok () else .error .rateLimited]
          after := transition.after.limiter limited }
      else
        none
  | _ => none

section Throttled

variable {api : Api} {start finish : GatewayApi PeerId}
    {trace : List (ApiTransition PeerId)}

/-- The calls of each limiter come in the order of their clock readings, and
fewer than `2 ^ 32` of them fall in one window. -/
structure Metered (trace : List (ApiTransition PeerId)) : Prop where
  ordered : ∀ limited, InClockOrder (trace.filterMap (limitedCall limited))
  few : ∀ limited earlier,
    earlier <+: trace.filterMap (limitedCall limited) →
      (currentWindow earlier).length < 2 ^ 32

omit [DecidableEq PeerId] [PeerIdentity PeerId] [PeerIdText PeerId] in
/-- The counter of a limiter does not wrap in the calls of a metered run. -/
theorem Metered.counted (metered : Metered trace) {limited : Limited}
    {maxPerWindow : UInt32} {windowSecs now : UInt64} {limiter : WindowLimiter}
    (calls : Run WindowLimiter.enforce (.new maxPerWindow windowSecs now)
      (trace.filterMap (limitedCall limited)) limiter) :
    ∀ call ∈ trace.filterMap (limitedCall limited), Counted call := by
  intro call member running
  rcases List.append_of_mem member with ⟨earlier, later, whole⟩
  have few := metered.few limited
  rw [whole] at calls few
  rcases calls.transition with ⟨prior, -, -⟩
  have counts := countsWindow_of_run prior fun front inside =>
    few front (inside.trans (List.prefix_append _ _))
  have upto := few (earlier ++ [call]) ⟨later, by simp⟩
  rw [currentWindow_snoc, if_neg (by simp [running]), List.length_append,
    ← counts.count] at upto
  exact upto

end Throttled

section SmallThrottle

open SmallGateway SmallApi

end SmallThrottle

end NuxAuth.Gateway
