import NuxAuth.Gateway.Restart

/-!
# Roles as a union over all configurations

`roles_for_config` speaks about one configuration.  Over a list of them, each
peer should hold the union of what they give it, in whatever order they come.
Replacing instead of merging loses exactly one thing: the Guard role of a peer
that the last configuration naming it lists under `allow`.
-/

namespace NuxAuth.Gateway

open NuxAuth.Core
open NuxAuth.Lib.LastWrite NuxAuth.Lib.RecordedRun

variable {PeerId : Type} [DecidableEq PeerId] [PeerIdentity PeerId]
    [PeerIdText PeerId]

/-- The peer has the role, perhaps among others. -/
def HoldsRole (list : Whitelist PeerId) (peer : PeerId) (role : String) :
    Prop :=
  ∃ roles, list.roles peer = some roles ∧ role ∈ roles

/-- `roles_for_config` gives the peer this role. -/
def GivesRole (config : ConfigNodeGuard) (peer : PeerId) (role : String) :
    Prop :=
  ∃ roles, (peer, roles) ∈ rolesForConfig config ∧ role ∈ roles

/-- Every peer holds the union of what the configurations give it. -/
def HoldsUnion (list : Whitelist PeerId) (configs : List ConfigNodeGuard) :
    Prop :=
  ∀ peer role, HoldsRole list peer role ↔
    ∃ config ∈ configs, GivesRole config peer role

variable (PeerId) in
/--
No peer that is the `uuid` of a configuration is under `allow` in the last
configuration that names it.
-/
def NoGuardDemoted (configs : List ConfigNodeGuard) : Prop :=
  ∀ (peer : PeerId) (own last : ConfigNodeGuard),
    own ∈ configs → Owns own peer → LastNaming configs peer last →
      ¬ Lists last peer

/-! ## What one configuration gives -/

omit [DecidableEq PeerId] [PeerIdentity PeerId] in
theorem givesRole_iff {config : ConfigNodeGuard} {peer : PeerId}
    {role : String} :
    GivesRole config peer role ↔
      (Owns config peer ∧ role = roleGuard) ∨
        (Names config peer ∧ role = roleClient) := by
  have entry : ∀ roles, (peer, roles) ∈ rolesForConfig config ↔
      (Owns config peer ∧ roles = [roleGuard, roleClient]) ∨
        (Lists config peer ∧ roles = [roleClient]) := by
    intro roles
    rw [rolesForConfig, List.mem_append]
    apply or_congr
    · rw [Owns]
      cases (PeerIdText.fromStr config.uuid : Option PeerId) with
      | none => simp
      | some owner => simp [eq_comm]
    · simp only [List.mem_filterMap, Option.map_eq_some_iff, Prod.mk.injEq,
        Lists]
      constructor
      · rintro ⟨item, member, listed, parsed, rfl, rfl⟩
        exact ⟨⟨item, member, parsed⟩, rfl⟩
      · rintro ⟨⟨item, member, parsed⟩, rfl⟩
        exact ⟨item, member, peer, parsed, rfl, rfl⟩
  simp only [GivesRole, entry]
  constructor
  · rintro ⟨roles, ⟨owns, rfl⟩ | ⟨listed, rfl⟩, held⟩
    · rcases List.mem_pair.mp held with same | same
      · exact Or.inl ⟨owns, same⟩
      · exact Or.inr ⟨Or.inl owns, same⟩
    · exact Or.inr ⟨Or.inr listed, List.mem_singleton.mp held⟩
  · rintro (⟨owns, rfl⟩ | ⟨owns | listed, rfl⟩)
    · exact ⟨_, Or.inl ⟨owns, rfl⟩, by simp⟩
    · exact ⟨_, Or.inl ⟨owns, rfl⟩, by simp⟩
    · exact ⟨_, Or.inr ⟨listed, rfl⟩, by simp⟩

/-! ## What a list of configurations leaves -/

/-- A peer holds the client role if named, and the Guard role if the last
configuration naming it does not list it. -/
theorem holdsRole_iff {list : Whitelist PeerId}
    {configs : List ConfigNodeGuard}
    (replayed : ∀ peer, list.roles peer =
      lastSome (assigned · peer) configs)
    {peer : PeerId} {role : String} :
    HoldsRole list peer role ↔
      ∃ last, LastNaming configs peer last ∧
        ((role = roleGuard ∧ ¬ Lists last peer) ∨ role = roleClient) := by
  rw [HoldsRole]
  simp only [replayed]
  constructor
  · rintro ⟨roles, found, held⟩
    rcases lastSome_assigned_eq_some_iff.mp found with
      ⟨last, naming, decided⟩
    refine ⟨last, naming, ?_⟩
    by_cases listed : Lists last peer
    · rw [assigned_of_lists listed, Option.some.injEq] at decided
      subst decided
      exact Or.inr (List.mem_singleton.mp held)
    · rw [assigned_of_not_lists naming.named listed, Option.some.injEq]
        at decided
      subst decided
      rcases List.mem_pair.mp held with same | same
      · exact Or.inl ⟨same, listed⟩
      · exact Or.inr same
  · rintro ⟨last, naming, which⟩
    rw [naming.lastSome_assigned]
    by_cases listed : Lists last peer
    · rw [assigned_of_lists listed]
      rcases which with ⟨-, unlisted⟩ | rfl
      · exact absurd listed unlisted
      · exact ⟨_, rfl, by simp⟩
    · rw [assigned_of_not_lists naming.named listed]
      rcases which with ⟨rfl, -⟩ | rfl
      · exact ⟨_, rfl, by simp⟩
      · exact ⟨_, rfl, by simp⟩

theorem holdsUnion_iff {list : Whitelist PeerId}
    {configs : List ConfigNodeGuard}
    (replayed : ∀ peer, list.roles peer =
      lastSome (assigned · peer) configs) :
    HoldsUnion list configs ↔ NoGuardDemoted PeerId configs := by
  have rolesDiffer : roleGuard ≠ roleClient := by decide
  constructor
  · intro union peer own last member owns naming listed
    have given : ∃ config ∈ configs, GivesRole config peer roleGuard :=
      ⟨own, member, givesRole_iff.mpr (Or.inl ⟨owns, rfl⟩)⟩
    rcases (union peer roleGuard).mpr given with ⟨roles, found, held⟩
    rw [replayed, naming.lastSome_assigned, assigned_of_lists listed,
      Option.some.injEq] at found
    subst found
    exact rolesDiffer (List.mem_singleton.mp held)
  · intro kept peer role
    rw [holdsRole_iff replayed]
    constructor
    · rintro ⟨last, naming, ⟨rfl, unlisted⟩ | rfl⟩
      · refine ⟨last, naming.mem, givesRole_iff.mpr (Or.inl ⟨?_, rfl⟩)⟩
        exact naming.named.resolve_right unlisted
      · exact ⟨last, naming.mem,
          givesRole_iff.mpr (Or.inr ⟨naming.named, rfl⟩)⟩
    · rintro ⟨config, member, gives⟩
      rcases givesRole_iff.mp gives with ⟨owns, rfl⟩ | ⟨named, rfl⟩
      · rcases exists_lastNaming member (Or.inl owns) with ⟨last, naming⟩
        exact ⟨last, naming, Or.inl
          ⟨rfl, kept peer config last member owns naming⟩⟩
      · rcases exists_lastNaming member named with ⟨last, naming⟩
        exact ⟨last, naming, Or.inr rfl⟩

/--
Folded into a whitelist or pushed to the running loop, the configurations leave
every peer with the union of its roles exactly when they demote no Guard.
-/
theorem roles_are_union_iff (serde : SerdeJson)
    (registry : TunnelRegistry PeerId) :
    (∀ rows, Readable serde rows →
      ∃ list : Whitelist PeerId, rebuildWhitelist serde rows = some list ∧
        (HoldsUnion list (configsOf serde rows) ↔
          NoGuardDemoted PeerId (configsOf serde rows))) ∧
      ∀ {loaded : List ConfigNodeGuardRow} {start finish : NuxGateway PeerId}
        {trace : List (GatewayTransition PeerId)},
        Settled serde loaded start →
          Run (stepGateway serde registry) start trace finish →
            WritesRoundTrip serde trace →
              finish.sending = [] → finish.channel = [] →
                (HoldsUnion finish.guard.authenticator.whitelist
                    (configsOf serde loaded ++ putConfigs trace) ↔
                  NoGuardDemoted PeerId
                    (configsOf serde loaded ++ putConfigs trace)) := by
  constructor
  · intro rows readable
    have rebuilt := rebuildWhitelist_eq_some_iff.mpr
      ⟨readable, (rfl : _ = allowAll (Whitelist.new : Whitelist PeerId) _)⟩
    exact ⟨_, rebuilt, holdsUnion_iff (roles_rebuildWhitelist rebuilt)⟩
  · intro loaded start finish trace settled run roundTrips sent consumed
    exact holdsUnion_iff
      ((settled.inStep.run run roundTrips).roles sent consumed)

section SmallRun

open SmallGateway

/-- The row a call with these peers writes. -/
def SmallGateway.rowOf (uuid : String) (peers : List String) :
    ConfigNodeGuardRow :=
  ConfigNodeGuard.intoRow serde
    ⟨uuid, rateLimit, (allowing peers).allow, [], ""⟩ "0"

theorem SmallGateway.configsOf_rowOf :
    configsOf serde [rowOf guardText [clientText]] =
      [⟨guardText, rateLimit, (allowing [clientText]).allow, [], "0"⟩] := by
  decide +kernel

theorem SmallGateway.noGuardDemoted :
    NoGuardDemoted BytePeer (configsOf serde [rowOf guardText [clientText]])
    := by
  rw [configsOf_rowOf]
  intro peer own last member owns naming listed
  rw [List.mem_singleton.mp member, Owns] at owns
  have here : (PeerIdText.fromStr guardText : Option BytePeer) =
      some guardPeer := by
    decide +kernel
  have same : peer = guardPeer := Option.some.inj (owns.symm.trans here)
  rw [List.mem_singleton.mp naming.mem, same] at listed
  revert listed
  decide +kernel

theorem roles_are_union_iff_small :
    (∃ list : Whitelist BytePeer,
      rebuildWhitelist serde [rowOf guardText [clientText]] = some list ∧
        HoldsUnion list (configsOf serde [rowOf guardText [clientText]])) ∧
    ∃ trace finish,
      Run (stepGateway serde (gatewayRegistry 9001 9002)) SmallGateway.start
        trace finish ∧
      trace.map Transition.event = puts guardText [clientText] ∧
      HoldsUnion finish.guard.authenticator.whitelist
        (configsOf serde [] ++ putConfigs trace) := by
  have theorems := @roles_are_union_iff BytePeer _ _ _ serde
    (gatewayRegistry 9001 9002)
  constructor
  · have readable : Readable serde [rowOf guardText [clientText]] := by
      unfold Readable
      decide +kernel
    rcases theorems.1 _ readable with ⟨list, rebuilt, union⟩
    exact ⟨list, rebuilt, union.mpr noGuardDemoted⟩
  · have computed : (execute (stepGateway serde (gatewayRegistry 9001 9002))
        SmallGateway.start (puts guardText [clientText])).any
        (fun result =>
          result.2.sending.isEmpty && (result.2.channel.isEmpty &&
            decide (putConfigs result.1 =
              configsOf serde [rowOf guardText [clientText]]))) = true := by
      decide +kernel
    rcases exists_run_of_any computed with
      ⟨trace, finish, run, events, observed⟩
    simp only [Bool.and_eq_true, List.isEmpty_iff, decide_eq_true_eq]
      at observed
    rcases observed with ⟨sent, consumed, same⟩
    have roundTrips : WritesRoundTrip serde trace := by
      have called : trace.map Transition.event =
          [[clientText]].flatMap (puts guardText) := events
      exact writesRoundTrip (by simp) called
    have union := theorems.2 start_settled run roundTrips sent consumed
    refine ⟨trace, finish, run, events, union.mpr ?_⟩
    have start : configsOf serde [] = [] := rfl
    rw [start, List.nil_append, same]
    exact noGuardDemoted

/-- The second configuration allows the Guard of the first one. -/
def demoting : List ConfigNodeGuardRow :=
  [rowOf clientText [], rowOf guardText [clientText]]

/-- In one order the Guard keeps its role, in the other it loses it. -/
theorem later_config_demotes_guard :
    (∀ row ∈ demoting,
      (PeerIdText.fromStr row.uuid : Option BytePeer).isSome) ∧
    (∃ own ∈ configsOf serde demoting, GivesRole own clientPeer roleGuard) ∧
    (∃ list : Whitelist BytePeer,
      rebuildWhitelist serde demoting = some list ∧
        list.roles clientPeer = some [roleClient]) ∧
    ∃ list : Whitelist BytePeer,
      rebuildWhitelist serde demoting.reverse = some list ∧
        list.roles clientPeer = some [roleGuard, roleClient] := by
  have folded : (rebuildWhitelist serde demoting).any
      (fun list : Whitelist BytePeer =>
        decide (list.roles clientPeer = some [roleClient])) = true := by
    decide +kernel
  have reversed : (rebuildWhitelist serde demoting.reverse).any
      (fun list : Whitelist BytePeer =>
        decide (list.roles clientPeer = some [roleGuard, roleClient])) =
      true := by
    decide +kernel
  have owned : ∃ own ∈ configsOf serde demoting, Owns own clientPeer := by
    decide +kernel
  simp only [Option.any_eq_true, decide_eq_true_eq] at folded reversed
  refine ⟨?_, ?_, folded, reversed⟩
  · decide +kernel
  · rcases owned with ⟨own, member, owns⟩
    exact ⟨own, member, givesRole_iff.mpr (Or.inl ⟨owns, rfl⟩)⟩

end SmallRun

end NuxAuth.Gateway
