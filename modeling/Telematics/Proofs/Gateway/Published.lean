import Telematics.Proofs.Gateway.Answer
import Telematics.Proofs.Gateway.Storing

/-!
What is published when a position is stored. A step that succeeds in storing a position sends its
publication, which shows the position as it came.

* `Position.IsProper`: a position names its device by number and its attributes by distinct keys.
* `Stores`: a step succeeds in storing a position, which is handed in directly or by a report.
* `stores_publication`: what such a step sends, and which numbers its device may have.
-/

namespace Telematics

/-- The device of a position is told by its number, and its attributes have distinct keys. -/
structure Position.IsProper (position : Position) : Prop where
  device : ∃ device, position.deviceId = .int device
  attributes : ∃ members, position.attributes = .object members ∧ (members.map Prod.fst).Nodup

theorem Position.IsTyped.isProper {position : Position} (typed : position.IsTyped) :
    position.IsProper :=
  ⟨typed.device, typed.attributes⟩

/-- A proper position is handed in as it is, and the number of its device can be kept. -/
theorem Store.handedIn_of_isProper {store after : Store} {position : Position}
    {stored : Store.Stored} (proper : position.IsProper)
    (added : store.addPosition position = .ok (stored, after)) :
    stored.handedIn = position ∧
      ∃ device, position.deviceId = .int device ∧ Column.bounded device = .ok device := by
  obtain ⟨members, attributes, distinct⟩ := proper.attributes
  obtain ⟨device, own⟩ := proper.device
  obtain ⟨entries, location, listed, keeps, rfl, -⟩ := Store.addPosition_eq_ok_iff.mp added
  rw [attributes] at listed
  cases listed
  have named : Column.Entries.named Json.asText
      (members.map fun member => (Json.text member.1, member.2)) = members := by
    refine Eq.trans ?_ (Column.named_of_nodup distinct)
    unfold Column.Entries.named
    rw [List.foldl_map, List.foldl_map]
    rfl
  refine ⟨?_, device, own, ?_⟩
  · dsimp only
    rw [named, ← attributes]
  · rw [← keeps.device_eq own]
    exact keeps.bounded

namespace Gateway

open Report (Decoded)

/-- A step succeeds in storing a position. -/
inductive Stores (gateway : Gateway) : Step → Position → Prop where
  /-- The position is handed in directly. -/
  | direct {position : Position} {reply : Reply} :
      position.IsProper → (gateway.step (.storePosition position)).result = .ok reply →
      Stores gateway (.storePosition position) position
  /-- The position is that of a report. -/
  | report {raw : Http.RawRequest} {request : Http.Request} {position : Position}
      {response : Http.Response} {before after : Gateway} {reply : Reply} :
      gateway.report? raw = some request →
      Decodes gateway request (.ok ⟨some position, response⟩) before after →
      (gateway.step (.request raw)).result = .ok reply →
      Stores gateway (.request raw) position

variable {gateway : Gateway} {what : Step} {position : Position}

/-- The messages of a report do not depend on whether it can be completed. -/
theorem outbox_complete (before after : Gateway) (outbox : Outbox) (response : Http.Response) :
    (complete before after outbox response).outbox = outbox := by
  unfold complete
  split <;> rfl

theorem report_publication {request : Http.Request} {response answer : Http.Response}
    {before after : Gateway} (broadcasts : Broadcasts gateway)
    (decodes : Decodes gateway request (.ok ⟨some position, response⟩) before after)
    (answered : (gateway.report request).result = .ok answer) :
    (gateway.report request).outbox = Stream.publication position ∧
      ∃ device, position.deviceId = .int device ∧ Column.bounded device = .ok device := by
  have reporting := report_reporting gateway request
  generalize gateway.report request = outcome at reporting answered ⊢
  cases reporting with
  | unmade unmade =>
    obtain ⟨_, made, -⟩ := decodes
    rw [unmade] at made
    cases made
  | undecoded decodes' _ => cases (decodes.unique decodes').1
  | refused _ decodes' _ => cases (decodes.unique decodes').1
  | unstorable _ _ _ _ _ => cases answered
  | stored own decodes' effects handover added =>
    obtain ⟨told, rfl, rfl⟩ := decodes.unique decodes'
    cases told
    obtain ⟨decoder, -, begun, ran⟩ := decodes
    have typed := (Report.decode_acceptance ran).isTyped services_givesMeasured
    obtain ⟨same, kept⟩ := Store.handedIn_of_isProper typed.isProper added
    refine ⟨?_, kept⟩
    rw [outbox_complete, same]
    -- Neither decoding nor taking a command changes whether messages are sent.
    refine publication_of_broadcasts ?_ position
    obtain ⟨_, _, rfl⟩ := effects_frame effects
    rcases handover.frame with rfl | ⟨_, rfl⟩ <;>
      · rw [begun]
        exact broadcasts

/-- What is sent for a position that is stored shows the position as it came. -/
theorem stores_publication (broadcasts : Broadcasts gateway)
    (stores : Stores gateway what position) :
    (gateway.step what).outbox = Stream.publication position ∧
      ∃ device, position.deviceId = .int device ∧ Column.bounded device = .ok device := by
  cases stores with
  | direct proper done =>
    have step : gateway.step (.storePosition position) =
        (gateway.storePosition position).toReply .stored := rfl
    rw [step] at done ⊢
    rw [storePosition_eq] at done ⊢
    cases stored : gateway.store.storePosition position with
    | error fault =>
      rw [stored] at done
      cases done
    | ok result =>
      obtain ⟨same, kept⟩ :=
        Store.handedIn_of_isProper proper (Store.storePosition_eq_ok stored).1
      refine ⟨?_, kept⟩
      show gateway.publication result.1.handedIn = _
      rw [same]
      exact publication_of_broadcasts broadcasts position
  | @report raw request _ response before after reply reports decodes done =>
    have step : gateway.step (.request raw) = (gateway.report request).toReply .response := by
      rw [← serve_of_report reports]
      rfl
    rw [step] at done ⊢
    obtain ⟨answer, answered, -⟩ := map_eq_ok_iff.mp done
    exact report_publication broadcasts decodes answered

end Gateway

end Telematics
