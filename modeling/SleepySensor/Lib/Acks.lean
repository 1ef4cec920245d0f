import Mathlib.Data.List.Perm.Basic

/-!
# Messages that wait for their ACK

What a party has sent, what of it still waits in its outbox and what was acked:
`Tracked` says that nothing is lost between the three.  A sender that counts ACKs
instead of matching them may conclude that a group of its messages was acked if
it has counted as many ACKs of the group as messages.
-/

set_option autoImplicit false

namespace SleepySensor.Acks

variable {α : Type} {sent outbox acked : List α}

/-- Every message sent waits in the outbox or was acked, as often as it was sent. -/
def Tracked (sent outbox acked : List α) : Prop :=
  sent.Perm (outbox ++ acked)

theorem tracked_nil : Tracked ([] : List α) [] [] := List.Perm.nil

theorem Tracked.send (tracked : Tracked sent outbox acked) (messages : List α) :
    Tracked (sent ++ messages) (outbox ++ messages) acked := by
  unfold Tracked
  rw [List.append_assoc]
  exact ((List.Perm.append_right messages tracked).trans
    (by rw [List.append_assoc])).trans
    (List.Perm.append_left outbox List.perm_append_comm)

theorem Tracked.ack {message : α} {rest : List α} (tracked : Tracked sent outbox acked)
    (taken : outbox.Perm (message :: rest)) : Tracked sent rest (message :: acked) := by
  have moved : (outbox ++ acked).Perm (message :: (rest ++ acked)) :=
    List.Perm.append_right acked taken
  exact (tracked.trans moved).trans List.perm_middle.symm

theorem perm_eraseIdx {index : Nat} {message : α} (found : outbox[index]? = some message) :
    outbox.Perm (message :: outbox.eraseIdx index) := by
  obtain ⟨inside, same⟩ := List.getElem?_eq_some_iff.mp found
  rw [← same]
  exact (List.getElem_cons_eraseIdx_perm inside).symm

theorem Tracked.countP_eq (tracked : Tracked sent outbox acked) (group : α → Bool) :
    sent.countP group = outbox.countP group + acked.countP group := by
  rw [List.Perm.countP_eq group tracked, List.countP_append]

theorem Tracked.countP_le (tracked : Tracked sent outbox acked) (group : α → Bool) :
    acked.countP group ≤ sent.countP group := by
  rw [tracked.countP_eq group]
  exact Nat.le_add_left _ _

/-- As many ACKs of the group as messages: none of it waits. -/
theorem Tracked.none_waits (tracked : Tracked sent outbox acked) {group : α → Bool}
    (enough : sent.countP group ≤ acked.countP group) :
    ∀ message ∈ outbox, group message = false := by
  have none : outbox.countP group = 0 := by
    have split := tracked.countP_eq group
    omega
  intro message waits
  have outside := List.countP_eq_zero.mp none message waits
  simpa using outside

theorem Tracked.mem_acked (tracked : Tracked sent outbox acked) {message : α}
    (wasSent : message ∈ sent) (gone : message ∉ outbox) : message ∈ acked :=
  (List.mem_append.mp (tracked.mem_iff.mp wasSent)).resolve_left gone

theorem Tracked.count_eq [DecidableEq α] (tracked : Tracked sent outbox acked) {message : α}
    (gone : message ∉ outbox) : sent.count message = acked.count message := by
  rw [List.Perm.count_eq tracked, List.count_append, List.count_eq_zero_of_not_mem gone,
    Nat.zero_add]

end SleepySensor.Acks
