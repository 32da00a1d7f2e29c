import NuxAuth.Core.GuardLoop

/-!
# What one transition of the guard loop can do

`GuardStep` lists the transitions of `runGuardLoop` by their effect, one
constructor for each way the loop or a serve task can go on.  Every invariant
of the loop is proved by cases on it, never by unfolding the loop again.

The two operations that touch several tables at once, reserving a semaphore and
revoking a list of peers, are summarised by lemmas of their own.
-/

namespace NuxAuth.Core

open NuxAuth.Lib.FiniteTable
open NuxAuth.Lib.RecordedRun

namespace GuardLoop

variable {PeerId : Type} [DecidableEq PeerId]

/-! ## Reserving the semaphore of a peer -/

/-- The entry of the peer exists already, or a fresh semaphore is entered. -/
theorem peerSemaphore_cases {registry : TunnelRegistry PeerId}
    {loop entered : GuardLoop PeerId} {peer : PeerId} {semaphore : Nat}
    (reserved : peerSemaphore registry loop peer = (entered, semaphore)) :
    (loop.perPeer.lookup peer = some semaphore ∧ entered = loop) ∨
      (loop.perPeer.lookup peer = none ∧ semaphore = loop.nextSemaphore ∧
        entered = { loop with
          perPeer := loop.perPeer.insert peer loop.nextSemaphore
          semaphores := Function.update loop.semaphores loop.nextSemaphore
            registry.maxStreamsPerPeer
          nextSemaphore := loop.nextSemaphore + 1 }) := by
  unfold peerSemaphore at reserved
  cases found : loop.perPeer.lookup peer with
  | none =>
      rw [found] at reserved
      cases reserved
      exact Or.inr ⟨rfl, rfl, rfl⟩
  | some handle =>
      rw [found] at reserved
      cases reserved
      exact Or.inl ⟨rfl, rfl⟩

/-! Reserving a semaphore leaves sessions, tasks and connections alone. -/

section Reserved

variable {registry : TunnelRegistry PeerId} {loop entered : GuardLoop PeerId}
    {peer : PeerId} {semaphore : Nat}

theorem peerSemaphore_authenticator
    (reserved : peerSemaphore registry loop peer = (entered, semaphore)) :
    entered.authenticator = loop.authenticator := by
  rcases peerSemaphore_cases reserved with ⟨-, rfl⟩ | ⟨-, -, rfl⟩ <;> rfl

theorem peerSemaphore_tasks
    (reserved : peerSemaphore registry loop peer = (entered, semaphore)) :
    entered.tasks = loop.tasks := by
  rcases peerSemaphore_cases reserved with ⟨-, rfl⟩ | ⟨-, -, rfl⟩ <;> rfl

theorem peerSemaphore_nextTask
    (reserved : peerSemaphore registry loop peer = (entered, semaphore)) :
    entered.nextTask = loop.nextTask := by
  rcases peerSemaphore_cases reserved with ⟨-, rfl⟩ | ⟨-, -, rfl⟩ <;> rfl

theorem peerSemaphore_connections
    (reserved : peerSemaphore registry loop peer = (entered, semaphore)) :
    entered.connections = loop.connections := by
  rcases peerSemaphore_cases reserved with ⟨-, rfl⟩ | ⟨-, -, rfl⟩ <;> rfl

end Reserved

/-- After the reservation the peer's entry is the returned semaphore. -/
theorem peerSemaphore_perPeer {registry : TunnelRegistry PeerId}
    {loop entered : GuardLoop PeerId} {peer : PeerId} {semaphore : Nat}
    (reserved : peerSemaphore registry loop peer = (entered, semaphore))
    (other : PeerId) :
    entered.perPeer.lookup other =
      if other = peer then some semaphore else loop.perPeer.lookup other := by
  rcases peerSemaphore_cases reserved with ⟨present, rfl⟩ | ⟨-, rfl, rfl⟩
  · split
    · rename_i same
      rw [same, present]
    · rfl
  · exact lookup_insert_eq_ite _ _ _ _

/-! ## Revoking a list of peers -/

/-- Whether a connection is cut when the listed peers lose their session. -/
def cutIfRevoked (authenticator : GuardAuthenticator PeerId)
    (peers : List PeerId) (connection : Connection PeerId) :
    Connection PeerId :=
  if connection.peer ∈ peers ∧
      (authenticator.sessions.lookup connection.peer).isSome then
    orderClosed connection.peer connection
  else
    connection

/-- The joint effect of revoking every listed peer. -/
structure Revocation (loop next : GuardLoop PeerId)
    (peers : List PeerId) (actions : List (GuardAction PeerId)) : Prop where
  whitelist : next.authenticator.whitelist.entries =
    loop.authenticator.whitelist.entries.filter fun entry =>
      entry.1 ∉ peers
  pending : ∀ peer, next.authenticator.pending.lookup peer =
    if peer ∈ peers then none else loop.authenticator.pending.lookup peer
  sessions : ∀ peer, next.authenticator.sessions.lookup peer =
    if peer ∈ peers then none else loop.authenticator.sessions.lookup peer
  perPeer : ∀ peer, next.perPeer.lookup peer =
    if peer ∈ peers ∧ (loop.authenticator.sessions.lookup peer).isSome then
      none
    else
      loop.perPeer.lookup peer
  connections : next.connections =
    loop.connections.map (cutIfRevoked loop.authenticator peers)
  frame : next.shutdownDeadline = loop.shutdownDeadline ∧
    next.semaphores = loop.semaphores ∧
      next.nextSemaphore = loop.nextSemaphore ∧ next.tasks = loop.tasks ∧
        next.nextTask = loop.nextTask ∧ next.global = loop.global
  logged : ∀ peer, .revoked peer ∈ actions ↔ peer ∈ peers
  quiet : ∀ action ∈ actions,
    ∃ peer ∈ peers, action = .revoked peer ∨ action = .disconnect peer

section Revocation

variable {loop next : GuardLoop PeerId} {peers : List PeerId}
    {actions : List (GuardAction PeerId)}

theorem Revocation.shutdownDeadline
    (revocation : Revocation loop next peers actions) :
    next.shutdownDeadline = loop.shutdownDeadline :=
  revocation.frame.1

theorem Revocation.tasks
    (revocation : Revocation loop next peers actions) :
    next.tasks = loop.tasks :=
  revocation.frame.2.2.2.1

theorem Revocation.nextTask
    (revocation : Revocation loop next peers actions) :
    next.nextTask = loop.nextTask :=
  revocation.frame.2.2.2.2.1

end Revocation

private theorem map_cutIfRevoked_self
    {authenticator : GuardAuthenticator PeerId} {peers : List PeerId}
    (none : ∀ peer ∈ peers, authenticator.sessions.lookup peer = none)
    (connections : List (Connection PeerId)) :
    connections.map (cutIfRevoked authenticator peers) = connections := by
  refine (List.map_congr_left ?_).trans (List.map_id connections)
  intro connection member
  apply if_neg
  rintro ⟨listed, present⟩
  rw [none connection.peer listed] at present
  exact Bool.noConfusion present

theorem revokePeer_revocation (loop : GuardLoop PeerId) (peer : PeerId) :
    Revocation loop (loop.revokePeer peer).1 [peer]
      (loop.revokePeer peer).2 := by
  have whitelist : (loop.authenticator.revoke peer).1.whitelist.entries =
      loop.authenticator.whitelist.entries.filter fun entry =>
        entry.1 ∉ [peer] := by
    simp [GuardAuthenticator.revoke, Whitelist.revoke]
  have pending : ∀ other,
      (loop.authenticator.revoke peer).1.pending.lookup other =
        if other ∈ [peer] then none
        else loop.authenticator.pending.lookup other := by
    intro other
    simp only [List.mem_singleton]
    exact lookup_erase_eq_ite _ _ _
  have sessions : ∀ other,
      (loop.authenticator.revoke peer).1.sessions.lookup other =
        if other ∈ [peer] then none
        else loop.authenticator.sessions.lookup other := by
    intro other
    simp only [List.mem_singleton]
    exact lookup_erase_eq_ite _ _ _
  cases session : loop.authenticator.sessions.lookup peer with
  | none =>
      have computed : loop.revokePeer peer =
          ({ loop with authenticator := (loop.authenticator.revoke peer).1 },
            [.revoked peer]) := by
        simp [revokePeer, GuardAuthenticator.revoke, session]
      rw [computed]
      refine ⟨whitelist, pending, sessions, ?_, ?_,
        ⟨rfl, rfl, rfl, rfl, rfl, rfl⟩, ?_, ?_⟩
      · intro other
        rw [if_neg]
        rintro ⟨member, present⟩
        rw [List.mem_singleton.mp member, session] at present
        exact Bool.noConfusion present
      · exact (map_cutIfRevoked_self (by simp [session]) _).symm
      · simp
      · simp
  | some roles =>
      have computed : loop.revokePeer peer =
          ({ loop with
              authenticator := (loop.authenticator.revoke peer).1
              connections := loop.connections.map (orderClosed peer)
              perPeer := loop.perPeer.erase peer },
            [.revoked peer, .disconnect peer]) := by
        simp [revokePeer, GuardAuthenticator.revoke, session, disconnectPeerId]
      rw [computed]
      refine ⟨whitelist, pending, sessions, ?_, ?_,
        ⟨rfl, rfl, rfl, rfl, rfl, rfl⟩, ?_, ?_⟩
      · intro other
        change (loop.perPeer.erase peer).lookup other = _
        rw [lookup_erase_eq_ite]
        by_cases same : other = peer
        · rw [same, session]
          simp
        · simp [same]
      · change loop.connections.map (orderClosed peer) = _
        apply List.map_congr_left
        intro connection member
        by_cases same : connection.peer = peer
        · rw [cutIfRevoked, same, if_pos (by simp [session])]
        · simp [cutIfRevoked, orderClosed, same]
      · simp
      · simp

private theorem cutIfRevoked_twice
    {first second : GuardAuthenticator PeerId} {front back : List PeerId}
    (sessions : ∀ peer, second.sessions.lookup peer =
      if peer ∈ front then none else first.sessions.lookup peer)
    (connection : Connection PeerId) :
    cutIfRevoked second back (cutIfRevoked first front connection) =
      cutIfRevoked first (front ++ back) connection := by
  have samePeer : (cutIfRevoked first front connection).peer =
      connection.peer := by
    unfold cutIfRevoked orderClosed
    split
    · split <;> rfl
    · rfl
  by_cases inFront : connection.peer ∈ front
  · have gone := sessions connection.peer
    rw [if_pos inFront] at gone
    rw [cutIfRevoked, samePeer, gone]
    simp [cutIfRevoked, inFront]
  · have kept := sessions connection.peer
    rw [if_neg inFront] at kept
    have untouched : cutIfRevoked first front connection = connection := by
      simp [cutIfRevoked, inFront]
    rw [untouched]
    simp [cutIfRevoked, inFront, kept]

theorem Revocation.append {loop middle next : GuardLoop PeerId}
    {front back : List PeerId}
    {earlier later : List (GuardAction PeerId)}
    (first : Revocation loop middle front earlier)
    (second : Revocation middle next back later) :
    Revocation loop next (front ++ back) (earlier ++ later) := by
  constructor
  · rw [second.whitelist, first.whitelist, List.filter_filter]
    apply List.filter_congr
    intro entry member
    simp [Bool.and_comm]
  · intro peer
    rw [second.pending, first.pending]
    by_cases inFront : peer ∈ front
    · simp [inFront]
    · simp [inFront]
  · intro peer
    rw [second.sessions, first.sessions]
    by_cases inFront : peer ∈ front
    · simp [inFront]
    · simp [inFront]
  · intro peer
    rw [second.perPeer, first.perPeer, first.sessions]
    by_cases inFront : peer ∈ front
    · simp [inFront]
    · simp [inFront]
  · rw [second.connections, first.connections, List.map_map]
    apply List.map_congr_left
    intro connection member
    exact cutIfRevoked_twice first.sessions connection
  · rcases first.frame with ⟨a, b, c, d, e, f⟩
    rcases second.frame with ⟨a', b', c', d', e', f'⟩
    exact ⟨a'.trans a, b'.trans b, c'.trans c, d'.trans d, e'.trans e,
      f'.trans f⟩
  · intro peer
    rw [List.mem_append, List.mem_append, first.logged, second.logged]
  · intro action member
    rcases List.mem_append.mp member with inFirst | inSecond
    · rcases first.quiet action inFirst with ⟨peer, listed, same⟩
      exact ⟨peer, List.mem_append_left _ listed, same⟩
    · rcases second.quiet action inSecond with ⟨peer, listed, same⟩
      exact ⟨peer, List.mem_append_right _ listed, same⟩

theorem revokePeers_singleton (loop : GuardLoop PeerId) (peer : PeerId) :
    loop.revokePeers [peer] = loop.revokePeer peer := by
  simp [revokePeers]

theorem revokePeers_revocation (loop : GuardLoop PeerId)
    (peers : List PeerId) :
    Revocation loop (loop.revokePeers peers).1 peers
      (loop.revokePeers peers).2 := by
  induction peers generalizing loop with
  | nil =>
      refine ⟨?_, by simp [revokePeers], by simp [revokePeers],
        by simp [revokePeers], ?_, ⟨rfl, rfl, rfl, rfl, rfl, rfl⟩,
        by simp [revokePeers], by simp [revokePeers]⟩
      · simp [revokePeers]
      · exact (map_cutIfRevoked_self (by simp) _).symm
  | cons peer rest induction =>
      have head := revokePeer_revocation loop peer
      have tail := induction (loop.revokePeer peer).1
      exact head.append tail

end GuardLoop

/-! ## The transitions -/

open GuardLoop GuardAuthenticator

variable {PeerId : Type} [DecidableEq PeerId] [PeerIdentity PeerId]

/-- The steps of the loop, each with its guard and its effect. -/
inductive GuardStep (registry : TunnelRegistry PeerId)
    (loop : GuardLoop PeerId) :
    GuardEvent PeerId → GuardLoop PeerId → List (GuardAction PeerId) →
      Prop where
  | connected (peer : PeerId) :
      GuardStep registry loop (.connectionEstablished peer)
        { loop with
          connections := loop.connections ++ [⟨peer, .established⟩] }
        []
  | closed {connection : Nat} {peer : PeerId} {phase : ConnectionPhase}
      (found : loop.connections[connection]? = some ⟨peer, phase⟩)
      (others : numEstablished
        (loop.connections.set connection ⟨peer, .closed⟩) peer ≠ 0) :
      GuardStep registry loop (.connectionClosed connection)
        { loop with
          connections := loop.connections.set connection ⟨peer, .closed⟩ }
        []
  | closedLast {connection : Nat} {peer : PeerId} {phase : ConnectionPhase}
      (found : loop.connections[connection]? = some ⟨peer, phase⟩)
      (last : numEstablished
        (loop.connections.set connection ⟨peer, .closed⟩) peer = 0) :
      GuardStep registry loop (.connectionClosed connection)
        { loop with
          connections := loop.connections.set connection ⟨peer, .closed⟩
          perPeer := loop.perPeer.erase peer
          authenticator := loop.authenticator.endSession peer }
        [.sessionEnded peer]
  | silenced (peer : PeerId) (channel : Nat) (channelOpen : Bool)
      (now : UInt64) (nonce : Nonce)
      (reason : loop.shutdownDeadline.isSome ∨
        loop.authenticator.whitelist.roles peer = none) :
      GuardStep registry loop
        (.request peer channel channelOpen .handshakeInit now nonce)
        (disconnectPeerId
          { loop with metrics := loop.metrics.recordAuthDenied } peer)
        [.disconnect peer]
  | challenged (peer : PeerId) (channel : Nat) (channelOpen : Bool)
      (now : UInt64) (nonce : Nonce) {roles : List String}
      (serving : loop.shutdownDeadline = none)
      (listed : loop.authenticator.whitelist.roles peer = some roles) :
      GuardStep registry loop
        (.request peer channel channelOpen .handshakeInit now nonce)
        { loop with
          authenticator := { loop.authenticator with
            pending := loop.authenticator.pending.insert peer ⟨nonce, now⟩ } }
        (.issued peer (.challenge nonce now) ::
          sendResponse peer channel channelOpen (.challenge nonce now))
  | granted (peer : PeerId) (channel : Nat) (channelOpen : Bool)
      (now : UInt64) (nonce : Nonce) (signature : List UInt8)
      (timestamp : UInt64) {challenge : IssuedChallenge}
      {roles : List String}
      (pending : loop.authenticator.pending.lookup peer = some challenge)
      (acceptable : Acceptable loop.authenticator.whitelist challenge peer
        signature timestamp now roles) :
      GuardStep registry loop
        (.request peer channel channelOpen
          (.challengeAnswer signature timestamp) now nonce)
        { loop with
          authenticator := { loop.authenticator with
            pending := loop.authenticator.pending.erase peer
            sessions := loop.authenticator.sessions.insert peer roles }
          metrics := loop.metrics.recordAuthGranted }
        (.verified peer (.granted roles) ::
          sendResponse peer channel channelOpen (.accessGranted roles))
  | rejected (peer : PeerId) (channel : Nat) (channelOpen : Bool)
      (now : UInt64) (nonce : Nonce) (signature : List UInt8)
      (timestamp : UInt64)
      (unacceptable : ∀ challenge roles,
        loop.authenticator.pending.lookup peer = some challenge →
          ¬ Acceptable loop.authenticator.whitelist challenge peer signature
            timestamp now roles) :
      GuardStep registry loop
        (.request peer channel channelOpen
          (.challengeAnswer signature timestamp) now nonce)
        (disconnectPeerId { loop with
          authenticator := { loop.authenticator with
            pending := loop.authenticator.pending.erase peer }
          metrics := loop.metrics.recordAuthDenied } peer)
        [.verified peer .reject, .disconnect peer]
  | streamRefused {connection : Nat} {carrier : Connection PeerId}
      (found : loop.connections[connection]? = some carrier)
      (stopping : loop.shutdownDeadline.isSome) :
      GuardStep registry loop (.incomingStream connection)
        loop.denyStream []
  | streamUnauthenticated {connection : Nat} {carrier : Connection PeerId}
      (found : loop.connections[connection]? = some carrier)
      (none : loop.authenticator.sessionRoles carrier.peer = none) :
      GuardStep registry loop (.incomingStream connection)
        (loop.denyStream.disconnectPeerId carrier.peer)
        [.disconnect carrier.peer]
  | streamOverCap {connection : Nat} {carrier : Connection PeerId}
      {roles : List String} {entered : GuardLoop PeerId} {semaphore : Nat}
      (found : loop.connections[connection]? = some carrier)
      (serving : loop.shutdownDeadline = none)
      (authorized : loop.authenticator.sessionRoles carrier.peer = some roles)
      (reserved : peerSemaphore registry loop carrier.peer =
        (entered, semaphore))
      (full : entered.semaphores semaphore = 0 ∨ entered.global = 0) :
      GuardStep registry loop (.incomingStream connection)
        entered.denyStream []
  | streamSpawned {connection : Nat} {carrier : Connection PeerId}
      {roles : List String} {entered : GuardLoop PeerId} {semaphore : Nat}
      (found : loop.connections[connection]? = some carrier)
      (serving : loop.shutdownDeadline = none)
      (authorized : loop.authenticator.sessionRoles carrier.peer = some roles)
      (reserved : peerSemaphore registry loop carrier.peer =
        (entered, semaphore))
      (permitted : 0 < entered.semaphores semaphore) :
      GuardStep registry loop (.incomingStream connection)
        (entered.spawnServe carrier.peer connection roles semaphore).1
        [.spawned loop.nextTask carrier.peer]
  | stopping (gracePeriod now : Nat) :
      GuardStep registry loop (.control (.shutdown gracePeriod) now)
        { loop with shutdownDeadline := some (now + gracePeriod) } []
  | revoked (peer : PeerId) (now : Nat) :
      GuardStep registry loop (.control (.revoke peer) now)
        (loop.revokePeers [peer]).1 (loop.revokePeers [peer]).2
  | allowed (peer : PeerId) (roles : List String) (now : Nat) :
      GuardStep registry loop (.control (.allow peer roles) now)
        (loop.replaceWhitelist
          (loop.authenticator.whitelist.allow peer roles)) []
  | reloaded (newWhitelist : Whitelist PeerId) (now : Nat) :
      GuardStep registry loop (.control (.reloadWhitelist newWhitelist) now)
        ((loop.replaceWhitelist newWhitelist).revokePeers
          (loop.toRevoke newWhitelist)).1
        ((loop.replaceWhitelist newWhitelist).revokePeers
          (loop.toRevoke newWhitelist)).2
  | idle {event : GuardEvent PeerId} (control running : Bool)
      (quiet : event = .otherSwarmEvent ∨ event = .controlClosed ∨
        ∃ now, event = .drainTick now) :
      GuardStep registry loop event
        { loop with control := control, running := running } []
  | taskContinued {id : Nat} {task : ServeTask PeerId} {event : ServeEvent}
      {stage : ServeStage} {actions : List ServeAction}
      (found : loop.tasks.lookup id = some task)
      (resumed : serveIo registry task.peer task.roles task.stage event =
        some (.continues stage actions)) :
      GuardStep registry loop (.task id event)
        { loop with
          tasks := loop.tasks.insert id { task with stage := stage } }
        (actions.map (.served id task.peer))
  | taskEnded {id : Nat} {task : ServeTask PeerId} {event : ServeEvent}
      {outcome : TunnelOutcome}
      (found : loop.tasks.lookup id = some task)
      (resumed : serveIo registry task.peer task.roles task.stage event =
        some (.ends outcome)) :
      GuardStep registry loop (.task id event)
        { loop with
          metrics := loop.metrics.recordTunnelFinished outcome
          tasks := loop.tasks.erase id
          semaphores := Function.update loop.semaphores task.semaphore
            (loop.semaphores task.semaphore + 1)
          global := loop.global + 1 }
        [.finished id]

section Inversion

variable {registry : TunnelRegistry PeerId} {loop next : GuardLoop PeerId}
    {actions : List (GuardAction PeerId)}

private theorem handleConnectionClosed_step {connection : Nat}
    (taken : loop.handleConnectionClosed connection = some (next, actions)) :
    GuardStep registry loop (.connectionClosed connection) next actions := by
  unfold handleConnectionClosed at taken
  split at taken
  · cases taken
  · cases taken
  · rename_i peer phase live found
    dsimp only at taken
    split at taken
    · rename_i last
      cases taken
      exact .closedLast found last
    · rename_i others
      cases taken
      exact .closed found others

private theorem handleAuthRequest_step {peer : PeerId} {channel : Nat}
    {channelOpen : Bool} {request : NuxRequest} {now : UInt64}
    {nonce : Nonce}
    (taken : loop.handleAuthRequest peer channel channelOpen request now
      nonce = (next, actions)) :
    GuardStep registry loop
      (.request peer channel channelOpen request now nonce) next actions := by
  cases request with
  | handshakeInit =>
      by_cases stopping : loop.shutdownDeadline.isSome
      · simp only [handleAuthRequest, if_pos stopping] at taken
        cases taken
        exact .silenced peer channel channelOpen now nonce (Or.inl stopping)
      · simp only [handleAuthRequest, if_neg stopping] at taken
        cases listed : loop.authenticator.whitelist.roles peer with
        | none =>
            rw [issueAt_of_unlisted listed] at taken
            cases taken
            exact .silenced peer channel channelOpen now nonce (Or.inr listed)
        | some roles =>
            rw [issueAt_of_listed listed] at taken
            cases taken
            have serving : loop.shutdownDeadline = none := by
              simpa using stopping
            exact .challenged peer channel channelOpen now nonce serving listed
  | challengeAnswer signature timestamp =>
      simp only [handleAuthRequest] at taken
      cases pending : loop.authenticator.pending.lookup peer with
      | none =>
          rw [verifyAt_of_absent pending] at taken
          cases taken
          refine .rejected peer channel channelOpen now nonce signature
            timestamp ?_
          intro challenge roles present
          rw [pending] at present
          cases present
      | some challenge =>
          rw [verifyAt_of_pending pending] at taken
          cases decided : checkAnswer loop.authenticator.whitelist challenge
              peer signature timestamp now with
          | granted roles =>
              rw [decided] at taken
              cases taken
              exact .granted peer channel channelOpen now nonce signature
                timestamp pending (checkAnswer_eq_granted_iff.mp decided)
          | reject =>
              rw [decided] at taken
              cases taken
              refine .rejected peer channel channelOpen now nonce signature
                timestamp ?_
              intro other roles present acceptable
              have same : challenge = other :=
                Option.some.inj (pending.symm.trans present)
              rw [← same, ← checkAnswer_eq_granted_iff, decided]
                at acceptable
              cases acceptable

private theorem acceptStream_step {connection : Nat}
    {carrier : Connection PeerId}
    (found : loop.connections[connection]? = some carrier)
    (taken : acceptStream registry loop carrier.peer connection =
      (next, actions)) :
    GuardStep registry loop (.incomingStream connection) next actions := by
  unfold acceptStream at taken
  split at taken
  · rename_i stopping
    cases taken
    exact .streamRefused found stopping
  · rename_i running
    have serving : loop.shutdownDeadline = none := by
      simpa using running
    cases session : loop.authenticator.sessionRoles carrier.peer with
    | none =>
        rw [session] at taken
        cases taken
        exact .streamUnauthenticated found session
    | some roles =>
        rw [session] at taken
        cases reserved : peerSemaphore registry loop carrier.peer with
        | mk entered semaphore =>
            simp only [reserved] at taken
            split at taken
            · rename_i full
              cases taken
              exact .streamOverCap found serving session reserved
                (Or.inl full)
            · rename_i permitted
              split at taken
              · rename_i full
                cases taken
                exact .streamOverCap found serving session reserved
                  (Or.inr full)
              · have sameNext := peerSemaphore_nextTask reserved
                have step := GuardStep.streamSpawned found serving session
                  reserved (Nat.pos_of_ne_zero permitted)
                simp only [spawnServe, sameNext] at taken step
                cases taken
                exact step

private theorem handleControl_step {command : GuardControl PeerId}
    {now : Nat}
    (taken : loop.handleControl now command = (next, actions)) :
    GuardStep registry loop (.control command now) next actions := by
  cases command with
  | revoke peer =>
      have step : GuardStep registry loop (.control (.revoke peer) now)
          (loop.revokePeers [peer]).1 (loop.revokePeers [peer]).2 :=
        .revoked peer now
      have both : loop.revokePeers [peer] = (next, actions) :=
        (revokePeers_singleton loop peer).trans taken
      rw [both] at step
      exact step
  | allow peer roles =>
      cases taken
      exact .allowed peer roles now
  | reloadWhitelist newWhitelist =>
      have step : GuardStep registry loop
          (.control (.reloadWhitelist newWhitelist) now) _ _ :=
        .reloaded newWhitelist now
      have both : (loop.replaceWhitelist newWhitelist).revokePeers
          (loop.toRevoke newWhitelist) = (next, actions) := taken
      rw [both] at step
      exact step
  | shutdown gracePeriod =>
      cases taken
      exact .stopping gracePeriod now

private theorem resumeTask_step {id : Nat} {event : ServeEvent}
    (taken : loop.resumeTask registry id event = some (next, actions)) :
    GuardStep registry loop (.task id event) next actions := by
  unfold resumeTask at taken
  cases found : loop.tasks.lookup id with
  | none =>
      rw [found] at taken
      cases taken
  | some task =>
      rw [found] at taken
      cases resumed : serveIo registry task.peer task.roles task.stage event
        with
      | none =>
          simp only [resumed] at taken
          cases taken
      | some result =>
          cases result with
          | continues stage actions =>
              simp only [resumed] at taken
              cases taken
              exact .taskContinued found resumed
          | ends outcome =>
              simp only [resumed] at taken
              cases taken
              exact .taskEnded found resumed

omit [DecidableEq PeerId] [PeerIdentity PeerId] in
private theorem drainCheck_running {now : Nat}
    (taken : loop.drainCheck registry now = some next) :
    ∃ running, next = { loop with running := running } := by
  unfold drainCheck at taken
  split at taken
  · cases taken
  · split at taken
    · cases taken
      exact ⟨false, rfl⟩
    · cases taken
      exact ⟨loop.running, rfl⟩

/-- Every transition of `runGuardLoop` is one of the listed ones. -/
theorem runGuardLoop_step {event : GuardEvent PeerId}
    (taken : runGuardLoop registry loop event = some (next, actions)) :
    GuardStep registry loop event next actions := by
  cases event with
  | task id event => exact resumeTask_step taken
  | connectionEstablished peer =>
      rcases Option.ite_none_right_eq_some.mp taken with ⟨running, same⟩
      cases same
      exact .connected peer
  | connectionClosed connection =>
      rcases Option.ite_none_right_eq_some.mp taken with ⟨running, same⟩
      exact handleConnectionClosed_step same
  | request peer channel channelOpen request now nonce =>
      rcases Option.ite_none_right_eq_some.mp taken with ⟨running, same⟩
      exact handleAuthRequest_step (Option.some.inj same)
  | otherSwarmEvent =>
      rcases Option.ite_none_right_eq_some.mp taken with ⟨running, same⟩
      cases same
      exact .idle loop.control loop.running (Or.inl rfl)
  | incomingStream connection =>
      rcases Option.ite_none_right_eq_some.mp taken with ⟨running, same⟩
      rcases Option.map_eq_some_iff.mp same with ⟨carrier, found, accepted⟩
      exact acceptStream_step found accepted
  | control command now =>
      rcases Option.ite_none_right_eq_some.mp taken with ⟨running, same⟩
      rcases Option.ite_none_right_eq_some.mp same with ⟨wired, handled⟩
      exact handleControl_step (Option.some.inj handled)
  | controlClosed =>
      rcases Option.ite_none_right_eq_some.mp taken with ⟨running, same⟩
      rcases Option.ite_none_right_eq_some.mp same with ⟨wired, handled⟩
      cases handled
      exact .idle false loop.running (Or.inr (Or.inl rfl))
  | drainTick now =>
      rcases Option.ite_none_right_eq_some.mp taken with ⟨running, same⟩
      rcases Option.map_eq_some_iff.mp same with ⟨ticked, checked, pair⟩
      cases pair
      rcases drainCheck_running checked with ⟨running, rfl⟩
      exact .idle loop.control running (Or.inr (Or.inr ⟨now, rfl⟩))

end Inversion

/-! ## Where a serve task comes from -/

/-- A stream of the peer was dequeued and given to a new task. -/
structure Admitted (loop : GuardLoop PeerId) (event : GuardEvent PeerId)
    (actions : List (GuardAction PeerId)) (id : Nat)
    (task : ServeTask PeerId) : Prop where
  dequeued : event = .incomingStream task.connection
  carried : ∃ carrier : Connection PeerId,
    loop.connections[task.connection]? = some carrier ∧
      carrier.peer = task.peer
  serving : loop.shutdownDeadline = none
  authorized : loop.authenticator.sessionRoles task.peer = some task.roles
  waiting : task.stage = .readingHeader []
  numbered : id = loop.nextTask
  logged : actions = [.spawned id task.peer]

/-- A task after a transition was left alone, resumed, or just admitted. -/
inductive TaskOrigin (registry : TunnelRegistry PeerId)
    (loop : GuardLoop PeerId) (event : GuardEvent PeerId)
    (actions : List (GuardAction PeerId)) (id : Nat)
    (task : ServeTask PeerId) : Prop where
  | kept (present : loop.tasks.lookup id = some task)
      (elsewhere : ∀ resumption, event ≠ .task id resumption)
  | resumed (old : ServeTask PeerId) (resumption : ServeEvent)
      (done : List ServeAction)
      (present : loop.tasks.lookup id = some old)
      (here : event = .task id resumption)
      (continued : serveIo registry old.peer old.roles old.stage resumption =
        some (.continues task.stage done))
      (same : task = { old with stage := task.stage })
  | admitted (admitted : Admitted loop event actions id task)

theorem GuardStep.task_origin {registry : TunnelRegistry PeerId}
    {loop next : GuardLoop PeerId} {event : GuardEvent PeerId}
    {actions : List (GuardAction PeerId)}
    (step : GuardStep registry loop event next actions) {id : Nat}
    {task : ServeTask PeerId} (present : next.tasks.lookup id = some task) :
    TaskOrigin registry loop event actions id task := by
  cases step with
  | streamOverCap found serving authorized reserved full =>
      change (denyStream _).tasks.lookup id = some task at present
      rw [denyStream, peerSemaphore_tasks reserved] at present
      exact .kept present (by simp)
  | streamSpawned found serving authorized reserved permitted =>
      rename_i connection carrier roles entered semaphore
      change (entered.tasks.insert entered.nextTask _).lookup id = some task
        at present
      rw [peerSemaphore_tasks reserved, peerSemaphore_nextTask reserved,
        lookup_insert_eq_ite] at present
      split at present
      · rename_i fresh
        cases present
        exact .admitted ⟨rfl, ⟨carrier, found, rfl⟩, serving, authorized, rfl,
          fresh, by rw [fresh]⟩
      · exact .kept present (by simp)
  | revoked peer now =>
      rw [(revokePeers_revocation loop [peer]).tasks] at present
      exact .kept present (by simp)
  | reloaded newWhitelist now =>
      rw [(revokePeers_revocation (loop.replaceWhitelist newWhitelist)
        _).tasks] at present
      exact .kept present (by simp)
  | idle control running quiet =>
      refine .kept present ?_
      rintro resumption rfl
      simp at quiet
  | taskContinued found resumed =>
      rename_i resumedId old resumption stage done
      change (loop.tasks.insert resumedId _).lookup id = some task at present
      rw [lookup_insert_eq_ite] at present
      split at present
      · rename_i same
        subst same
        cases present
        exact .resumed old resumption done found rfl resumed rfl
      · rename_i different
        exact .kept present (by simp [Ne.symm different])
  | taskEnded found resumed =>
      rename_i endedId old resumption outcome
      change (loop.tasks.erase endedId).lookup id = some task at present
      rw [lookup_erase_eq_ite] at present
      split at present
      · cases present
      · rename_i different
        exact .kept present (by simp [Ne.symm different])
  | _ => exact .kept present (by simp)

/-! ## Reading a transition off its log -/

omit [DecidableEq PeerId] [PeerIdentity PeerId] in
@[simp]
theorem mem_sendResponse_iff {peer : PeerId} {channel : Nat}
    {channelOpen : Bool} {response : NuxResponse}
    {action : GuardAction PeerId} :
    action ∈ sendResponse peer channel channelOpen response ↔
      channelOpen = true ∧ action = .respond peer channel response := by
  cases channelOpen with
  | false => simp [sendResponse]
  | true => simp [sendResponse]

section Log

variable {registry : TunnelRegistry PeerId} {loop next : GuardLoop PeerId}
    {event : GuardEvent PeerId} {actions : List (GuardAction PeerId)}

/-- A command only logs revocations and disconnections. -/
theorem GuardStep.not_control
    (step : GuardStep registry loop event next actions)
    {action : GuardAction PeerId} (logged : action ∈ actions)
    (notRevoked : ∀ peer, action ≠ .revoked peer)
    (notDisconnect : ∀ peer, action ≠ .disconnect peer)
    (command : GuardControl PeerId) (now : Nat) :
    event ≠ .control command now := by
  have notRevocation : ∀ {before : GuardLoop PeerId} {peers : List PeerId},
      ¬ Revocation before next peers actions := by
    intro before peers revocation
    rcases revocation.quiet action logged with ⟨peer, -, same | same⟩
    · exact notRevoked peer same
    · exact notDisconnect peer same
  rintro rfl
  cases step with
  | revoked peer => exact notRevocation (revokePeers_revocation loop [peer])
  | reloaded => exact notRevocation (revokePeers_revocation _ _)
  | _ => simp at logged

/-- A logged spawn is an admission, and the task is there afterwards. -/
theorem GuardStep.spawned
    (step : GuardStep registry loop event next actions) {id : Nat}
    {peer : PeerId} (logged : .spawned id peer ∈ actions) :
    ∃ task, Admitted loop event actions id task ∧ task.peer = peer ∧
      next.tasks.lookup id = some task ∧
        next.nextTask = loop.nextTask + 1 := by
  have notControl := step.not_control logged (by simp) (by simp)
  cases step with
  | streamSpawned found serving authorized reserved permitted =>
      rename_i connection carrier roles entered semaphore
      have sameNumber := peerSemaphore_nextTask reserved
      rw [List.mem_singleton] at logged
      cases logged
      refine ⟨⟨carrier.peer, connection, roles, semaphore,
        .readingHeader []⟩, ?_, rfl, ?_, ?_⟩
      · exact ⟨rfl, ⟨carrier, found, rfl⟩, serving, authorized, rfl, rfl, rfl⟩
      · change (entered.tasks.insert entered.nextTask _).lookup _ = _
        rw [sameNumber, AList.lookup_insert]
      · change entered.nextTask + 1 = _
        rw [sameNumber]
  | revoked | reloaded => exact absurd rfl (notControl _ _)
  | _ => simp at logged

/-- A logged service action is a resumption of the task. -/
theorem GuardStep.served
    (step : GuardStep registry loop event next actions) {id : Nat}
    {peer : PeerId} {action : ServeAction}
    (logged : .served id peer action ∈ actions) :
    ∃ task resumption stage done,
      loop.tasks.lookup id = some task ∧ task.peer = peer ∧
        event = .task id resumption ∧
          serveIo registry task.peer task.roles task.stage resumption =
            some (.continues stage done) ∧
            action ∈ done ∧
              next.tasks.lookup id = some { task with stage := stage } := by
  have notControl := step.not_control logged (by simp) (by simp)
  cases step with
  | taskContinued found resumed =>
      rename_i resumedId task resumption stage done
      rcases List.mem_map.mp logged with ⟨performed, member, same⟩
      cases same
      exact ⟨task, resumption, stage, done, found, rfl, rfl, resumed, member,
        AList.lookup_insert _⟩
  | revoked | reloaded => exact absurd rfl (notControl _ _)
  | _ => simp at logged

/-- A logged grant is the verdict on an acceptable answer of the peer. -/
theorem GuardStep.granted_answer
    (step : GuardStep registry loop event next actions) {peer : PeerId}
    {roles : List String} (logged : .verified peer (.granted roles) ∈ actions) :
    ∃ channel channelOpen signature timestamp now nonce challenge,
      event = .request peer channel channelOpen
          (.challengeAnswer signature timestamp) now nonce ∧
        loop.authenticator.pending.lookup peer = some challenge ∧
          Acceptable loop.authenticator.whitelist challenge peer signature
            timestamp now roles := by
  have notControl := step.not_control logged (by simp) (by simp)
  cases step with
  | granted granted channel channelOpen now nonce signature timestamp pending
      acceptable =>
      simp only [List.mem_cons, GuardAction.verified.injEq,
        AuthOutcome.granted.injEq, mem_sendResponse_iff, reduceCtorEq,
        and_false, or_false] at logged
      rcases logged with ⟨rfl, rfl⟩
      exact ⟨channel, channelOpen, signature, timestamp, now, nonce, _, rfl,
        pending, acceptable⟩
  | revoked | reloaded => exact absurd rfl (notControl _ _)
  | _ => simp at logged

/-- A response leaves on the channel of the request just handled. -/
theorem GuardStep.respond_request
    (step : GuardStep registry loop event next actions) {peer : PeerId}
    {channel : Nat} {response : NuxResponse}
    (logged : .respond peer channel response ∈ actions) :
    ∃ channelOpen request now nonce,
      event = .request peer channel channelOpen request now nonce := by
  have notControl := step.not_control logged (by simp) (by simp)
  cases step with
  | challenged challenged answered channelOpen now nonce serving listed =>
      simp only [List.mem_cons, reduceCtorEq, mem_sendResponse_iff,
        false_or] at logged
      cases logged.2
      exact ⟨_, _, _, _, rfl⟩
  | granted granted answered channelOpen now nonce signature timestamp pending
      acceptable =>
      simp only [List.mem_cons, reduceCtorEq, mem_sendResponse_iff,
        false_or] at logged
      cases logged.2
      exact ⟨_, _, _, _, rfl⟩
  | revoked | reloaded => exact absurd rfl (notControl _ _)
  | _ => simp at logged

end Log

/-- Task numbers are given out in order. -/
theorem GuardStep.nextTask_le {registry : TunnelRegistry PeerId}
    {loop next : GuardLoop PeerId} {event : GuardEvent PeerId}
    {actions : List (GuardAction PeerId)}
    (step : GuardStep registry loop event next actions) :
    loop.nextTask ≤ next.nextTask := by
  cases step with
  | streamOverCap found serving authorized reserved full =>
      exact (peerSemaphore_nextTask reserved).symm.le
  | streamSpawned found serving authorized reserved permitted =>
      rw [← peerSemaphore_nextTask reserved]
      exact Nat.le_succ _
  | revoked peer now =>
      rw [(revokePeers_revocation loop [peer]).nextTask]
  | reloaded newWhitelist now =>
      rw [(revokePeers_revocation (loop.replaceWhitelist newWhitelist)
        _).nextTask]
      exact le_refl _
  | _ => exact le_refl _

/-- The next task number is above every number in use. -/
def TasksNumbered (loop : GuardLoop PeerId) : Prop :=
  ∀ id task, loop.tasks.lookup id = some task → id < loop.nextTask

theorem TasksNumbered.step {registry : TunnelRegistry PeerId}
    {loop next : GuardLoop PeerId} {event : GuardEvent PeerId}
    {actions : List (GuardAction PeerId)} (numbered : TasksNumbered loop)
    (step : GuardStep registry loop event next actions) :
    TasksNumbered next := by
  intro id task present
  cases step.task_origin present with
  | kept present elsewhere =>
    exact lt_of_lt_of_le (numbered id task present) step.nextTask_le
  | resumed old resumption done present here continued same =>
    exact lt_of_lt_of_le (numbered id old present) step.nextTask_le
  | admitted admitted =>
    have logged : .spawned id task.peer ∈ actions := by
      rw [admitted.logged]
      exact List.mem_singleton_self _
    rcases step.spawned logged with ⟨new, again, -, -, increased⟩
    rw [increased, admitted.numbered]
    exact Nat.lt_succ_self _

end NuxAuth.Core
