import Telematics.Gateway.Ingest
import Telematics.Proofs.Report.Action

/-!
What comes of sending messages. Sending the messages of a position may fail at either of them, and
what has gone out by then stays out. The failure is caught before storing the position ends, so it
reaches neither the result nor the rows of whatever stores the position.

* `Layer.taken`: the messages that a layer takes, and the group of the first that it does not take.
* `run_sends`: messages sent one after the other.
* `broadcast_fails_iff`: the layers over which sending the messages of a position fails.
* `publication`, `run_announce`: announcing a position never fails, and sends what the layer takes.
* `run_keepPosition`: storing a position ends as the store says, whatever becomes of its messages.
* `storePosition_eq`, `finish_eq`: what comes of a position that is handed in, and of one that a
  report leads to.
-/

namespace Telematics

open Gateway (Outbox)

/-- The messages that a layer takes behind others of a position, and the group of the first one that
    it does not take. -/
def Layer.taken (layer : Layer) (others : Nat) : Outbox → Outbox × Option String
  | [] => ([], none)
  | (group, message) :: rest =>
    if layer.takes others then
      let (sent, lost) := layer.taken (others + 1) rest
      ((group, message) :: sent, lost)
    else ([], some group)

/-- A layer takes the first of some messages. -/
theorem Layer.taken_isPrefix (layer : Layer) (others : Nat) (messages : Outbox) :
    (layer.taken others messages).1 <+: messages := by
  induction messages generalizing others with
  | nil => exact List.prefix_rfl
  | cons first rest ih =>
    rw [taken]
    split
    · exact (List.prefix_cons_inj first).mpr (ih (others + 1))
    · exact List.nil_prefix

theorem Layer.taken_working (others : Nat) (messages : Outbox) :
    Layer.working.taken others messages = (messages, none) := by
  induction messages generalizing others with
  | nil => rfl
  | cons first rest ih => simp only [taken, takes, ih, if_true]

namespace Gateway

open Report.Action (run_bind run_tryCatch)

variable {gateway : Gateway}

/-! ## Sending -/

/-- The result of sending messages, by the group of the first one that is not taken. -/
def sendingResult : Option String → Except Fault Unit
  | none => .ok ()
  | some group => .error (.unsent group)

theorem run_send (gateway : Gateway) (outbox : Outbox) (group : String)
    (message : Stream.Message) :
    (send group message).run (gateway, outbox) =
      if gateway.layer.takes outbox.length then (.ok (), gateway, outbox ++ [(group, message)])
      else (.error (.unsent group), gateway, outbox) := rfl

/-- Messages are sent up to the first one that the layer does not take, with which sending them
    fails. -/
theorem run_sends (gateway : Gateway) (messages outbox : Outbox) :
    (messages.forM fun (group, message) => send group message).run (gateway, outbox) =
      (sendingResult (gateway.layer.taken outbox.length messages).2, gateway,
        outbox ++ (gateway.layer.taken outbox.length messages).1) := by
  induction messages generalizing outbox with
  | nil =>
    rw [Layer.taken, List.append_nil]
    rfl
  | cons first rest ih =>
    obtain ⟨group, message⟩ := first
    have begins : ((group, message) :: rest).forM (fun (group, message) => send group message) =
        (do send group message; rest.forM fun (group, message) => send group message) := rfl
    rw [begins, run_bind, run_send, Layer.taken]
    cases gateway.layer.takes outbox.length with
    | true =>
      have sent := ih (outbox ++ [(group, message)])
      rw [List.length_append, List.length_singleton] at sent
      exact sent.trans (by rw [← List.append_cons]; rfl)
    | false =>
      simp only [Bool.false_eq_true, if_false, List.append_nil]
      rfl

theorem run_broadcast (gateway : Gateway) (position : Position) :
    (broadcast position).run (gateway, []) =
      if gateway.layer = .absent then (.ok (), gateway, [])
      else
        (sendingResult (gateway.layer.taken 0 (Stream.publication position)).2, gateway,
          (gateway.layer.taken 0 (Stream.publication position)).1) := by
  rw [broadcast, run_bind]
  show (ite _ _ _ : Deed Unit).run (gateway, []) = _
  by_cases absent : gateway.layer = .absent
  · rw [if_pos absent, if_neg (not_not_intro absent)]
    rfl
  · rw [if_neg absent, if_pos absent]
    exact run_sends gateway _ []

/-- Sending the messages of a position fails if the layer fails before both have gone out. -/
theorem broadcast_fails_iff (gateway : Gateway) (position : Position) :
    (∃ fault after, (broadcast position).run (gateway, []) = (.error fault, after)) ↔
      ∃ sent < 2, gateway.layer = .failing sent := by
  rw [run_broadcast]
  cases layer : gateway.layer with
  | working =>
    rw [Layer.taken_working]
    exact iff_of_false (fun ⟨_, _, same⟩ => nomatch same) (fun ⟨_, _, same⟩ => nomatch same)
  | absent =>
    exact iff_of_false (fun ⟨_, _, same⟩ => nomatch same) (fun ⟨_, _, same⟩ => nomatch same)
  | failing sent =>
    match sent with
    | 0 => exact iff_of_true ⟨_, _, rfl⟩ ⟨0, by decide, rfl⟩
    | 1 => exact iff_of_true ⟨_, _, rfl⟩ ⟨1, by decide, rfl⟩
    | sent + 2 =>
      refine iff_of_false (fun ⟨_, _, same⟩ => ?_) ?_
      · simp [Stream.publication, Layer.taken, Layer.takes, sendingResult] at same
      · rintro ⟨other, few, same⟩
        cases same
        omega

/-! ## Announcing -/

/-- The messages that go out for a position that is stored. -/
def publication (gateway : Gateway) (position : Position) : Outbox :=
  if gateway.settings.broadcast then
    (gateway.layer.taken 0 (Stream.publication position)).1
  else []

/-- Announcing a position never fails: a failure of sending its messages is caught. -/
theorem run_announce (gateway : Gateway) (position : Position) :
    (announce position).run (gateway, []) =
      (.ok (), gateway, gateway.publication position) := by
  have sent : ∃ result, (broadcast position).run (gateway, []) =
      (result, gateway, (gateway.layer.taken 0 (Stream.publication position)).1) := by
    rw [run_broadcast]
    split
    · rename_i absent
      rw [absent]
      exact ⟨_, rfl⟩
    · exact ⟨_, rfl⟩
  rw [announce, run_bind, publication]
  show (ite _ _ _ : Deed Unit).run (gateway, []) = _
  split
  · obtain ⟨result, sent⟩ := sent
    rw [run_tryCatch, sent]
    cases result <;> rfl
  · rfl

/-- Storing a position ends as the store says, and the messages that go out change neither its
    result nor the gateway. -/
theorem run_keepPosition
    (store : Store → Position → Except Store.Fault (Store.Stored × Store))
    (gateway : Gateway) (position : Position) :
    (keepPosition store position).run (gateway, []) =
      match store gateway.store position with
      | .ok (stored, store) =>
        (.ok stored.row.id, { gateway with store }, gateway.publication stored.handedIn)
      | .error fault => (.error (.store fault), gateway, []) := by
  have changed : (change fun before => store before position).run (gateway, []) =
      match store gateway.store position with
      | .ok (stored, store) => (.ok stored, { gateway with store }, [])
      | .error fault => (.error (.store fault), gateway, []) := by
    unfold change Report.Action.run
    dsimp only
    cases store gateway.store position <;> rfl
  rw [keepPosition, run_bind, changed]
  cases store gateway.store position with
  | error fault => rfl
  | ok kept =>
    dsimp only
    rw [run_bind, run_announce]
    rfl

/-- What comes of a position that is handed in. -/
theorem storePosition_eq (gateway : Gateway) (position : Position) :
    gateway.storePosition position =
      match gateway.store.storePosition position with
      | .ok (stored, store) =>
        ⟨.ok stored.row.id, gateway.publication stored.handedIn, { gateway with store }⟩
      | .error fault => ⟨.error (.store fault), [], gateway⟩ := by
  have ran := run_keepPosition Store.storePosition gateway position
  rw [storePosition, Deed.outcome]
  unfold Report.Action.run at ran
  rw [ran]
  cases gateway.store.storePosition position <;> rfl

/-- What comes of a report that is decoded: its position is stored if there is one, and the report
    is completed or undone. -/
theorem finish_eq (before after : Gateway) (decoded : Report.Decoded) :
    finish before after decoded =
      match decoded.position with
      | none => complete before after [] decoded.response
      | some position =>
        match after.store.addPosition position with
        | .ok (stored, store) =>
          complete before { after with store } (after.publication stored.handedIn)
            decoded.response
        | .error fault => ⟨.error (.store fault), [], rollBack before after⟩ := by
  obtain ⟨_ | position, response⟩ := decoded
  · rfl
  · have ran := run_keepPosition Store.addPosition after position
    unfold Report.Action.run at ran
    rw [finish]
    dsimp only
    rw [ran]
    cases after.store.addPosition position <;> rfl

end Gateway

end Telematics
