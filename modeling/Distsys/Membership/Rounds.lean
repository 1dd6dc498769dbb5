import Distsys.Membership.Detection
import Distsys.Membership.RingSync

/-!
# Rounds that go on

A round of the failure detector and one of the gossip loop return exactly when each of
their exchanges settles.
-/

namespace Distsys

open Codec

namespace Occasion

variable {config : ServiceConfig} {transport : TransportSettings} {occasion : Occasion}
  {round : RoundState config.settings} {index : Nat} {msgType : MessageType} {payload : List UInt8}
  {target member : ClusterMember} {ack : Option AckData} {settings : MembershipSettings}
  {options : List ClusterMember}

theorem settles_iff_swallowed {index : Nat} {msgType : MessageType} {payload : List UInt8} :
    (swallowed (occasion.outcome config transport index msgType payload)).isOk = true ↔
      occasion.Settles config transport index msgType payload :=
  isOk_swallowed.trans settles_iff.symm

/-- An acknowledgement that is found confirming was sent by a peer. -/
theorem confirms_of_confirming {confirmed : AckData}
    (learned : swallowed (occasion.outcome config transport index msgType payload) = .ok ack)
    (found : confirming target ack = some confirmed) :
    occasion.Confirms config transport index msgType payload target := by
  obtain ⟨rfl, named⟩ := Option.filter_eq_some_iff.mp found
  obtain ⟨success, names⟩ := of_decide_eq_true named
  exact ⟨confirmed, asked_eq_ok.mp (swallowed_eq_some.mp learned), success, names⟩

/-- An acknowledgement that confirms is found. -/
theorem confirming_of_confirms
    (learned : swallowed (occasion.outcome config transport index msgType payload) = .ok ack)
    (confirms : occasion.Confirms config transport index msgType payload target) :
    (confirming target ack).isSome = true := by
  obtain ⟨confirmed, acknowledges, success, names⟩ := confirms
  have same := swallowed_eq_some.mpr (asked_eq_ok.mpr acknowledges)
  cases learned.symm.trans same
  unfold confirming
  rw [Option.filter_some, if_pos (decide_eq_true ⟨success, names⟩)]
  rfl

theorem mem_probeCandidates {table : MembershipTable settings}
    (candidate : member ∈ table.probeCandidates) :
    member ∈ table.snapshot ∧ member.nodeId ≠ settings.localNodeId := by
  obtain ⟨listed, other⟩ := List.mem_filter.mp candidate
  exact ⟨listed, (of_decide_eq_true other).1⟩

/-- `mark_suspect` makes an ALIVE member SUSPECT. -/
theorem get_markSuspect (table : MembershipTable settings) (now : Seconds) {id : NodeId}
    (other : id ≠ settings.localNodeId) (found : table.get id = some member)
    (alive : member.status = .alive) :
    (table.markSuspect now id).2.get id = some (member.withStatus .suspect) := by
  have keyed : member.nodeId = id := MemberMap.nodeId_of_get found
  unfold MembershipTable.markSuspect
  rw [found]
  dsimp only
  rw [if_neg other, if_neg (not_not.mpr alive)]
  exact (table.get_record now (member.withStatus .suspect) id).trans (if_pos keyed)

/-- A target that is marked is suspected. -/
theorem suspected_of_mark {table after : MembershipTable config.settings} {target : ClusterMember}
    {now : Seconds} (other : target.nodeId ≠ config.settings.localNodeId)
    (marked : after = ((table.after (occasion.meanwhile 0
      ((occasion.helpers config table target).length + 1))).markSuspect now target.nodeId).2) :
    occasion.Suspected config table target after := by
  unfold Suspected
  generalize table.after _ = middle at marked ⊢
  by_cases alive : ∃ member, middle.get target.nodeId = some member ∧ member.status = .alive
  · obtain ⟨member, found, alive⟩ := alive
    exact .inl ⟨_, marked ▸ get_markSuspect middle now other found alive, rfl⟩
  · exact .inr fun member found status => alive ⟨member, found, status⟩

/-- The indirect probes of a target, and the suspicion. -/
theorem ends_indirect {start : RoundState config.settings}
    (other : target.nodeId ≠ config.settings.localNodeId) (fresh : start.exchanged = 0)
    (met : occasion.Met start 1 round)
    (encoded : encodePingRequest config.wire target start.service.membership.snapshot =
      .ok payload) :
    Prog.Ends (occasion.handle config transport)
      (fun result after =>
        (result = .ok () ↔ ∀ index <
            (occasion.helpers config start.service.membership target).length,
          occasion.Settles config transport (index + 1) .pingReq payload) ∧
        (result = .ok () →
          occasion.IndirectlyConfirmed config transport start.service.membership target ∨
          occasion.Suspected config start.service.membership target after.service.membership))
      (do
        let alive : List ClusterMember ← serviceOp (.aliveMembers false)
        let helpers := (alive.filter fun member => member.nodeId ≠ target.nodeId).take
          config.indirectProbeCount
        let results ← gather (helpers.map fun helper => swallowing
          (PeerClient.pingRequest config helper target start.service.membership.snapshot))
        match results.findSome? (confirming target) with
        | some successful => do
            let changed ← serviceOp (.merge successful.gossip)
            syncIf changed
        | none => do
            let changed ← serviceOp (.markSuspect target.nodeId)
            syncIf changed) round := by
  have exchanged : round.exchanged = 1 := by rw [met.exchanged, fresh]
  have current := met.table
  rw [fresh] at current
  have read : occasion.handle config transport (.aliveMembers false) round =
      some ((start.service.membership.after (occasion.meanwhile 0 1)).aliveMembers false,
        round) := by
    rw [← current]
    rfl
  refine Prog.ends_act read ?_
  change Prog.Ends _ _
    (gather ((occasion.helpers config start.service.membership target).map _) >>= _) _
  have suspected := fun after now =>
    @suspected_of_mark config occasion start.service.membership after target now other
  unfold IndirectlyConfirmed
  generalize occasion.helpers config start.service.membership target = helpers at suspected ⊢
  refine Prog.Ends.bind ((ends_gather (fun index =>
    swallowed (occasion.outcome config transport index .pingReq payload)) ?_).mono ?_)
  · intro body listed round
    obtain ⟨helper, -, rfl⟩ := List.mem_map.mp listed
    refine (ends_swallowing (ends_askForAck helper .pingReq encoded)).mono ?_
    rintro _ after ⟨_, ⟨rfl, met⟩, rfl⟩
    exact ⟨rfl, met⟩
  rintro result after ⟨gathered, further⟩
  rw [List.length_map] at gathered further
  rw [exchanged] at gathered
  have settles : result.isOk = true ↔ ∀ index < helpers.length,
      occasion.Settles config transport (index + 1) .pingReq payload := by
    rw [gathered, isOk_mapM]
    simp only [List.mem_range'_1, settles_iff_swallowed]
    constructor
    · exact fun all index short => all (index + 1) ⟨by omega, by omega⟩
    · intro all index within
      have shifted := all (index - 1) (by omega)
      rwa [Nat.sub_add_cancel within.1] at shifted
  cases result with
  | error error => exact ⟨iff_of_false (by rintro ⟨⟩) (mt settles.mpr Bool.false_ne_true), nofun⟩
  | ok results =>
      dsimp only
      cases found : results.findSome? (confirming target) with
      | some successful =>
          refine (ends_mergeSync successful.gossip).mono fun result _ returned => ?_
          refine ⟨iff_of_true returned (settles.mp rfl), fun _ => .inl ?_⟩
          obtain ⟨ack, among, confirms⟩ := List.exists_of_findSome?_eq_some found
          obtain ⟨index, within, learned⟩ := exists_of_mem_mapM gathered.symm among
          rw [List.mem_range'_1] at within
          refine ⟨payload, index - 1, encoded, by omega, ?_⟩
          rw [Nat.sub_add_cancel within.1]
          exact confirms_of_confirming learned confirms
      | none =>
          refine (ends_markSync target.nodeId).mono ?_
          rintro result last ⟨returned, marked⟩
          refine ⟨iff_of_true returned (settles.mp rfl), fun _ => .inr ?_⟩
          refine suspected _ (occasion.clock after.exchanged 0) (marked.trans ?_)
          rw [(met.trans further).table, fresh, Nat.add_comm]

/-- Of members one is chosen. -/
theorem exists_chosen (occasion : Occasion) (some : options ≠ []) :
    ∃ chosen, occasion.chosen options = .some chosen := by
  have short : occasion.pick % options.length < options.length :=
    Nat.mod_lt _ (List.length_pos_iff.mpr some)
  exact ⟨_, List.getElem?_eq_getElem short⟩

theorem handle_choose (chosen : occasion.chosen options = some target) :
    occasion.handle config transport (.choose options) round = some (target, round) := by
  unfold Occasion.chosen at chosen
  dsimp only [handle, ServiceState.perform, input]
  rw [chosen]

/-- The exchanges of a round of the failure detector. -/
theorem ends_probe (fresh : round.exchanged = 0)
    (candidate : target ∈ round.service.membership.probeCandidates) :
    Prog.Ends (occasion.handle config transport)
      (fun result after =>
        (result = .ok () ↔
          occasion.ProbeSettles config transport round.service.membership target) ∧
        (result = .ok () → occasion.Decides config transport round.service.membership target
          after.service.membership))
      (do
        let ack ← swallowing (PeerClient.ping config target round.service.membership.snapshot)
        match confirming target ack with
        | some ack => do
            let changed ← serviceOp (.merge ack.gossip)
            syncIf changed
        | none => do
            let alive : List ClusterMember ← serviceOp (.aliveMembers false)
            let helpers := (alive.filter fun member => member.nodeId ≠ target.nodeId).take
              config.indirectProbeCount
            let results ← gather (helpers.map fun helper => swallowing
              (PeerClient.pingRequest config helper target round.service.membership.snapshot))
            match results.findSome? (confirming target) with
            | some successful => do
                let changed ← serviceOp (.merge successful.gossip)
                syncIf changed
            | none => do
                let changed ← serviceOp (.markSuspect target.nodeId)
                syncIf changed) round := by
  obtain ⟨listed, other⟩ := mem_probeCandidates candidate
  have fits := encodePing_isOk config.wire round.service.membership.snapshot
  cases encoded : encodePing config.wire round.service.membership.snapshot with
  | error error =>
      -- the payload cannot be made, and no exception of a codec is caught
      have protocol := raises_fromCodec_value (encoded ▸ raises_encodePing config.wire _) _ rfl
      refine Prog.Ends.bind ((ends_swallowing
        (ends_askForAck_error target .ping encoded)).mono ?_)
      rintro _ after ⟨_, rfl, rfl⟩
      rw [swallowed, protocol.isTransport]
      refine ⟨iff_of_false (by rintro ⟨⟩) fun settles => ?_, by rintro ⟨⟩⟩
      have made := fits.mpr settles.fits
      rw [encoded] at made
      cases made
  | ok payload =>
      rw [encoded] at fits
      have all := fits.mp rfl
      obtain ⟨indirect, requested⟩ := isOk_iff.mp
        ((encodePingRequest_isOk config.wire target _).mpr ⟨all target listed, all⟩)
      refine Prog.Ends.bind ((ends_swallowing (ends_askForAck target .ping encoded)).mono ?_)
      rintro _ after ⟨_, ⟨rfl, met⟩, rfl⟩
      rw [fresh]
      have settles := @settles_iff_swallowed config transport occasion 0 .ping payload
      cases learned : swallowed (occasion.outcome config transport 0 .ping payload) with
      | error error =>
          rw [learned] at settles
          refine ⟨iff_of_false (by rintro ⟨⟩) fun probe => ?_, by rintro ⟨⟩⟩
          exact Bool.false_ne_true (settles.mpr (probe.direct payload encoded))
      | ok ack =>
          rw [learned] at settles
          have direct : ∀ other, encodePing config.wire round.service.membership.snapshot =
              .ok other → occasion.Settles config transport 0 .ping other := by
            intro other same
            cases encoded.symm.trans same
            exact settles.mp rfl
          dsimp only
          cases found : confirming target ack with
          | some confirmed =>
              have confirms : occasion.DirectlyConfirmed config transport
                  round.service.membership target :=
                ⟨payload, encoded, confirms_of_confirming learned found⟩
              refine (ends_mergeSync confirmed.gossip).mono fun result _ returned => ?_
              exact ⟨iff_of_true returned ⟨all, direct, fun silent => absurd confirms silent⟩,
                fun _ => .inl confirms⟩
          | none =>
              have silent : ¬ occasion.DirectlyConfirmed config transport
                  round.service.membership target := by
                rintro ⟨other, same, confirms⟩
                cases encoded.symm.trans same
                have some := confirming_of_confirms learned confirms
                rw [found] at some
                cases some
              refine (ends_indirect other fresh met requested).mono
                fun result last decided => ⟨?_, fun returned => .inr (decided.2 returned)⟩
              refine decided.1.trans ⟨fun settled => ⟨all, direct, ?_⟩, fun probe =>
                probe.indirect silent indirect requested⟩
              intro _ other same
              cases requested.symm.trans same
              exact settled

/-- One round of the failure detector. -/
theorem ends_detector (service : ServiceState config.settings) :
    let probed := (service.membership.advanceTimeoutsAndPurge (occasion.clock 0 0)).2
    Prog.Ends (occasion.handle config transport)
      (fun result after =>
        (result = .ok () ↔ ∀ target, occasion.chosen probed.probeCandidates = some target →
          occasion.ProbeSettles config transport probed target) ∧
        (result = .ok () → ∀ target, occasion.chosen probed.probeCandidates = some target →
          occasion.Decides config transport probed target after.service.membership))
      (FailureDetector.runOnce config) ⟨service, 0⟩ := by
  intro probed
  refine ends_op rfl (Prog.Ends.bind ((ends_syncIf _).mono ?_))
  rintro _ round ⟨rfl, met⟩
  have current : round.service.membership = probed := met.table
  have fresh : round.exchanged = 0 := met.exchanged
  rw [← current]
  refine ends_op rfl ?_
  by_cases none : round.service.membership.probeCandidates = []
  · have vacant : ∀ target, occasion.chosen round.service.membership.probeCandidates ≠
        some target := by
      intro target
      rw [none]
      nofun
    rw [if_pos none]
    refine Prog.ends_done ⟨iff_of_true rfl fun target found => absurd found (vacant target),
      fun _ target found => absurd found (vacant target)⟩
  · rw [if_neg none]
    obtain ⟨target, chosen⟩ := occasion.exists_chosen none
    refine ends_op (handle_choose chosen) (ends_op rfl ?_)
    refine (ends_probe fresh (List.mem_of_getElem? chosen)).mono fun result after decided => ?_
    have only : ∀ {other}, occasion.chosen round.service.membership.probeCandidates = some other →
        target = other := fun same => Option.some.inj (chosen.symm.trans same)
    refine ⟨decided.1.trans ⟨fun settles other same => only same ▸ settles, fun all =>
      all target chosen⟩, fun returned other same => only same ▸ decided.2 returned⟩

/-- One round of the gossip loop. -/
theorem ends_gossipLoop (service : ServiceState config.settings) :
    Prog.Ends (occasion.handle config transport)
      (fun result _ => result = .ok () ↔
        ∀ peer, occasion.chosen (service.membership.aliveMembers false) = some peer →
          occasion.GossipSettles config transport service.membership)
      (GossipLoop.runOnce config) ⟨service, 0⟩ := by
  refine ends_op rfl ?_
  by_cases none : service.membership.aliveMembers false = []
  · rw [if_pos none]
    refine Prog.ends_done (iff_of_true rfl fun peer found => ?_)
    rw [none] at found
    cases found
  · rw [if_neg none]
    obtain ⟨peer, chosen⟩ := occasion.exists_chosen none
    refine ends_op (handle_choose chosen) (ends_op rfl ?_)
    have fits := encodeGossip_isOk config.wire service.membership.snapshot
    cases encoded : encodeGossip config.wire service.membership.snapshot with
    | error error =>
        have protocol := raises_fromCodec_value
          (encoded ▸ raises_encodeGossip config.wire _) _ rfl
        refine Prog.Ends.bind ((ends_swallowing
          (ends_askForAck_error peer .gossip encoded)).mono ?_)
        rintro _ after ⟨_, rfl, rfl⟩
        rw [swallowed, protocol.isTransport]
        refine iff_of_false (by rintro ⟨⟩) fun settles => ?_
        have made := fits.mpr (settles peer chosen).fits
        rw [encoded] at made
        cases made
    | ok payload =>
        rw [encoded] at fits
        refine Prog.Ends.bind ((ends_swallowing (ends_askForAck peer .gossip encoded)).mono ?_)
        rintro _ after ⟨_, ⟨rfl, met⟩, rfl⟩
        have settles : (swallowed
            (occasion.outcome config transport 0 .gossip payload)).isOk = true ↔
            ∀ peer, occasion.chosen (service.membership.aliveMembers false) = some peer →
              occasion.GossipSettles config transport service.membership := by
          refine settles_iff_swallowed.trans ⟨fun settles _ _ => ⟨fits.mp rfl, ?_⟩, fun all =>
            (all peer chosen).exchange payload encoded⟩
          intro other same
          cases encoded.symm.trans same
          exact settles
        dsimp only
        cases learned : swallowed (occasion.outcome config transport 0 .gossip payload) with
        | error error =>
            rw [learned] at settles
            exact iff_of_false (by rintro ⟨⟩) (mt settles.mpr Bool.false_ne_true)
        | ok ack =>
            rw [learned] at settles
            cases ack with
            | none => exact Prog.ends_done (iff_of_true rfl (settles.mp rfl))
            | some ack =>
                exact (ends_mergeSync ack.gossip).mono fun result _ returned =>
                  iff_of_true returned (settles.mp rfl)

/-- Background rounds go on after an exchange that settles, and after no other. A round of the
failure detector returns, and then its target has answered or is suspected, exactly when the
exchanges that it makes settle; and a round of the gossip loop returns exactly when its
exchange does. -/
theorem rounds_return_iff (config : ServiceConfig) (transport : TransportSettings)
    (occasion : Occasion) (service : ServiceState config.settings) :
    let probed := (service.membership.advanceTimeoutsAndPurge (occasion.clock 0 0)).2
    ((∃ after, (FailureDetector.runOnce config).run (occasion.handle config transport)
      ⟨service, 0⟩ =
        some (.ok (), after) ∧
      ∀ target, occasion.chosen probed.probeCandidates = some target →
        occasion.Decides config transport probed target after.service.membership) ↔
      ∀ target, occasion.chosen probed.probeCandidates = some target →
        occasion.ProbeSettles config transport probed target) ∧
    ((∃ after, (GossipLoop.runOnce config).run (occasion.handle config transport) ⟨service, 0⟩ =
        some (.ok (), after)) ↔
      ∀ peer, occasion.chosen (service.membership.aliveMembers false) = some peer →
        occasion.GossipSettles config transport service.membership) := by
  intro probed
  obtain ⟨result, after, ran, returns, decides⟩ := @ends_detector config transport occasion service
  obtain ⟨outcome, last, gossiped, goes⟩ := @ends_gossipLoop config transport occasion service
  refine ⟨⟨?_, fun settles => ?_⟩, ⟨?_, fun settles => ?_⟩⟩
  · rintro ⟨final, returned, -⟩
    cases ran.symm.trans returned
    exact returns.mp rfl
  · cases returns.mpr settles
    exact ⟨after, ran, decides rfl⟩
  · rintro ⟨final, returned⟩
    cases gossiped.symm.trans returned
    exact goes.mp rfl
  · cases goes.mpr settles
    exact ⟨last, gossiped⟩

/-- A node that knows one peer. -/
def watching : ServiceState ServiceSystem.loneConfig.settings :=
  { ServiceSystem.loneConfig.initial with
    membership := MembershipTable.loneTable.after
      [.merge [(0, MembershipTable.peerMember .alive 0)]] }

/-- Frames of up to a mebibyte. -/
def plainTransport : TransportSettings := ⟨.ofPortable Layout.envelope, 2 ^ 20, 1, 1, 1⟩

/-- Peers that accept a connection and close it. -/
def closing : Occasion :=
  ⟨fun _ _ => 0, 0, fun _ => ⟨ServiceInput.quiet.stamp, .answered ⟨[], .eof⟩, []⟩⟩

/-- The peer closes the connection before it answers: both rounds raise, and the peer is still
ALIVE in the table. -/
theorem closed_connection_ends_rounds :
    ((FailureDetector.runOnce ServiceSystem.loneConfig).run
        (closing.handle ServiceSystem.loneConfig plainTransport) ⟨watching, 0⟩).map
      (fun (result, after) => (result, after.service.membership.get MembershipTable.peerId)) =
      some (.error (.incompleteReadError 0 8), some (MembershipTable.peerMember .alive 0)) ∧
    ((GossipLoop.runOnce ServiceSystem.loneConfig).run
        (closing.handle ServiceSystem.loneConfig plainTransport) ⟨watching, 0⟩).map
      (fun (result, _) => result) = some (.error (.incompleteReadError 0 8)) := by
  decide +kernel

end Occasion

end Distsys
