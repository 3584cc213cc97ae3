import TokenBridge.Proofs.Framing
import TokenBridge.Proofs.Territories
import TokenBridge.Proofs.Turns

/-!
# Paused or not, packets are settled

Whether a bridge is paused is a switch in its settings. This module shows that the
switch is no matter to what settles packets (`Turn.take_switched`): an
acknowledgement, a timeout, the close of a channel and the command to close one are
answered the same and do the same, whichever way it stands.

That is not because they leave the settings alone. The command to close a channel
asks them who the admin is, and draining a channel goes through the store, where the
settings lie with everything else. What holds of the programs that do leave them
alone (`Bridge.Avoids.respects_switched`) has to be extended to these two. The admin
is the same in both stores (`Settings.respects_loadFor_bind`), and going through
the marks of a channel does not come across the settings
(`Table.respects_pendingOn_switched`).
-/

namespace TokenBridge

open Program Store

/-! ## The switch -/

/-- **The store with the switch the other way**: the bridge is paused if it was not,
and it is not if it was. Nothing else is different. -/
def Store.switched (s : Store Entry) : Store Entry :=
  s.settings?.elim s fun c => s.keep .settings (.settings { c with paused := !c.paused })

variable {α : Type} {s : Store Entry} {bridge account : Address} {id : String}

theorem Store.changedOnly_switched : ChangedOnly (· = .settings) s s.switched := by
  rw [switched]
  cases s.settings? with
  | none => exact .refl
  | some c => exact ChangedOnly.keep (k := .settings) rfl

theorem Store.settings?_switched :
    s.switched.settings? = s.settings?.map fun c => { c with paused := !c.paused } := by
  rw [switched]
  cases hc : s.settings? with
  | none => exact hc
  | some c => exact settings?_keep

/-- Whether two stores differ in the switch, and in nothing else. -/
def Switched (s s' : Store Entry) : Prop := s' = s.switched

/-- **What leaves the settings alone** cannot tell how the switch stands. -/
theorem Bridge.Avoids.respects_switched {p : Bridge α} (h : Avoids .settings p) :
    p.Respects Switched := by
  rintro s _ rfl
  have hsame : (p.run s).2.settings? = s.settings? :=
    congrArg (·.bind Table.settings.record?) (h.look_run s)
  simp only [Switched, switched, hsame]
  cases s.settings? with
  | none => exact ⟨rfl, rfl⟩
  | some c =>
    rw [Option.elim_some, h.run_keep]
    exact ⟨rfl, rfl⟩

/-- **The admin is the same** however the switch stands, so a command that only the
admin may give is refused in both stores or in neither. -/
theorem Settings.respects_loadFor (account : Address) :
    ((fun _ => ()) <$> loadFor account).Respects Switched := by
  -- nothing but the admin matters
  have hrun (m : Store Entry) : ((fun _ => ()) <$> loadFor account).run m
      = ((m.settings?.map Settings.admin).elim (.error (.error (.notFound .settings))) fun admin =>
          if account = admin then .ok () else .error (.error .unauthorized), m) := by
    have hload :
        load.run m = (ofOption (.notFound .settings) m.settings? : Bridge Settings).run m :=
      Table.run_find?_bind.trans (if_pos Key.fits_settings)
    rw [run_map, loadFor, run_bind, hload]
    cases m.settings? with
    | none => rfl
    | some c =>
      by_cases ha : account = c.admin
      · simp [ofOption, run, ha]
      · simp [ofOption, run, ha]
  refine respects_of_reads ?_
  rintro s _ rfl
  have hadmin : s.switched.settings?.map Settings.admin = s.settings?.map Settings.admin := by
    rw [settings?_switched, Option.map_map]
    rfl
  exact ⟨_, hrun s, by rw [hrun, hadmin]⟩

/-- **The marks of a channel** are found without coming across the settings. -/
theorem Table.respects_pendingOn_switched : (pendingOn id).Respects Switched := by
  refine Respects.bind (respects_of_reads ?_) fun entries => respects_pure
  rintro s _ rfl
  exact exists_run_scan changedOnly_switched (by rintro k rfl; exact Space.noConfusion) rfl none

/-! ## The close of a channel -/

namespace Channel

variable {drained : Drained}

theorem respects_find_switched : (find id).Respects Switched :=
  (Bridge.avoids_find (by simp)).respects_switched

theorem respects_enter_switched {channel : Channel} {phase : Phase} :
    (channel.enter id phase).Respects Switched :=
  (Bridge.avoids_put (by simp)).respects_switched

/-- A packet is drained, or it is stuck, however the switch stands. -/
theorem respects_drainOne_switched {n : UInt64} :
    (drainOne bridge id drained n).Respects Switched := by
  have hk : ¬ Key.settings.Settling := not_false
  refine (Shipment.avoids_find hk).respects_switched.bind fun p => ?_
  refine (((Shipment.avoids_settle hk).respects_switched.transactional
    (Bridge.accepted _)).attempt (Bridge.accepted _)).bind fun r => ?_
  split
  · exact respects_pure
  · exact respects_pure
  · exact respects_fail

theorem respects_drain_switched : (drain bridge id).Respects Switched :=
  Table.respects_pendingOn_switched.bind fun _ =>
    respects_foldlM fun _ _ _ => respects_drainOne_switched

theorem respects_requestClose_switched : (requestClose bridge id).Respects Switched := by
  refine respects_find_switched.bind fun channel => ?_
  split
  · exact respects_pure
  · exact respects_drain_switched
  · exact respects_enter_switched.bind fun _ => respects_drain_switched

theorem respects_confirmClose_switched : (confirmClose bridge id).Respects Switched := by
  refine respects_requestClose_switched.bind fun drained =>
    respects_find_switched.bind fun channel => ?_
  split
  · exact respects_enter_switched.bind fun _ => respects_pure
  · exact respects_pure

theorem respects_closed_switched {context : Context} {side : CloseSide} :
    (closed context id side).Respects Switched := by
  refine (Bridge.avoids_has (by simp)).respects_switched.bind fun known => ?_
  split
  · exact respects_confirmClose_switched.bind fun _ => respects_pure
  · exact respects_pure

end Channel

/-- **The command to close a channel** is refused or carried out, however the switch
stands. -/
theorem Command.respects_closeChannelFor {context : Context} :
    (closeChannelFor context account id).Respects Switched := by
  have hrest : (do
      let drained ← Channel.requestClose context.bridge id
      return { requests := [.closeChannel id],
               attributes := [("method", "close_channel"), ("channel_id", id)]
                 ++ drained.attributes } : Bridge Response).Respects Switched :=
    Channel.respects_requestClose_switched.bind fun _ => respects_pure
  have h := (Settings.respects_loadFor account).bind fun _ => hrest
  rwa [bind_map_left] at h

/-! ## Packets that come back -/

namespace Packet

variable {context : Context} {packet : Packet}

theorem respects_report_switched {method : String} {settle : Bridge α}
    {attributes : α → Attributes} (h : settle.Respects Switched) :
    (packet.report method settle attributes).Respects Switched := by
  refine (h.attempt (Bridge.accepted _)).bind fun r => ?_
  split
  · exact respects_pure
  · exact respects_pure
  · exact respects_fail

theorem respects_timedOut_switched : (packet.timedOut context).Respects Switched := by
  have hk : ¬ Key.settings.Settling := not_false
  exact respects_report_switched <| Bridge.Avoids.respects_switched <|
    (avoids_shipment hk).bind fun _ => Shipment.avoids_settle hk

theorem respects_acknowledged_switched {data : Bytes} :
    (packet.acknowledged context data).Respects Switched := by
  have hk : ¬ Key.settings.Settling := not_false
  exact respects_report_switched <| Bridge.Avoids.respects_switched <|
    (Bridge.avoids_put (by simp)).bind fun _ => (avoids_shipment hk).bind fun _ =>
      (Shipment.avoids_settle hk).bind fun _ => Bridge.avoids_pure

end Packet

/-! ## Calls -/

/-- **A call that settles packets** cannot tell how the switch stands. -/
theorem Call.respects_switched (context : Context) {call : Call} (h : call.settles? = some id) :
    (call.perform context).Respects Switched := by
  cases call with
  | command account m =>
    cases m with
    | closeChannel channel => exact Command.respects_closeChannelFor.map _
    | _ => cases h
  | closed channel side => exact Channel.respects_closed_switched.map _
  | acknowledged packet data => exact Packet.respects_acknowledged_switched.map _
  | timedOut packet => exact Packet.respects_timedOut_switched.map _
  | _ => cases h

/-- **A turn that settles packets** has the same answer however the switch stands, and
leaves the same but for the switch. -/
theorem Turn.take_switched {turn : Turn} (h : turn.call.settles? = some id) :
    turn.take bridge s.switched = ((turn.take bridge s).1, (turn.take bridge s).2.switched) := by
  obtain ⟨hanswer, hstore⟩ := (Call.respects_switched ⟨bridge, turn.now⟩ h).runAtomic
    (rfl : Switched s s.switched)
  exact Prod.ext hanswer hstore

end TokenBridge
