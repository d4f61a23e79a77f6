import InferenceFleet.Timeline.World

/-!
# Turns at the lock

The tickets of a lock are that of its holder and those that wait, in the order in which they were
asked for. Asking for the lock appends a ticket, giving one up takes it out and leaves the others in
their order, and whoever is first holds the lock. This rests on the lock being orderly: no ticket is
there twice or was never given out, and nobody waits for a lock that nobody holds.
-/

namespace InferenceFleet

namespace CycleLock

/-- The tickets that were asked for and not given up, in order. -/
def tickets (l : CycleLock) : List Nat := l.holder.toList ++ l.queue

/-- A lock with each ticket once, and with a holder if anyone waits. -/
structure IsOrderly (l : CycleLock) : Prop where
  nodup : l.tickets.Nodup
  lt_nextTicket : ∀ ticket ∈ l.tickets, ticket < l.nextTicket
  queue_eq_nil : l.holder = none → l.queue = []

variable {l : CycleLock}

theorem isOrderly_free : free.IsOrderly := ⟨List.nodup_nil, nofun, fun _ => rfl⟩

/-- The first ticket is the one that holds the lock. -/
theorem IsOrderly.holder_eq (h : l.IsOrderly) : l.holder = l.tickets.head? := by
  cases hholder : l.holder with
  | none => simp [tickets, hholder, h.queue_eq_nil hholder]
  | some ticket => simp [tickets, hholder]

theorem IsOrderly.tickets_request (h : l.IsOrderly) :
    l.request.2.tickets = l.tickets ++ [l.nextTicket] := by
  unfold request
  cases hholder : l.holder with
  | none => simp [tickets, hholder, h.queue_eq_nil hholder]
  | some ticket => simp [tickets, hholder]

theorem IsOrderly.request (h : l.IsOrderly) : l.request.2.IsOrderly where
  nodup := by
    rw [h.tickets_request]
    refine List.nodup_append.2 ⟨h.nodup, by simp, ?_⟩
    intro ticket hticket next hnext
    have hlt := h.lt_nextTicket ticket hticket
    rw [List.mem_singleton.1 hnext]
    exact Nat.ne_of_lt hlt
  lt_nextTicket := by
    intro ticket hticket
    have hnext : l.request.2.nextTicket = l.nextTicket + 1 := by
      unfold CycleLock.request
      cases l.holder <;> rfl
    rw [hnext]
    rw [h.tickets_request] at hticket
    rcases List.mem_append.1 hticket with hold | hnew
    · exact Nat.lt_succ_of_lt (h.lt_nextTicket ticket hold)
    · rw [List.mem_singleton.1 hnew]
      exact Nat.lt_succ_self _
  queue_eq_nil := by
    intro hnone
    unfold CycleLock.request at hnone
    cases hholder : l.holder <;> simp [hholder] at hnone

theorem IsOrderly.tickets_release (h : l.IsOrderly) (ticket : Nat) :
    (l.release ticket).tickets = l.tickets.erase ticket := by
  unfold release
  by_cases hholds : l.holder = some ticket
  · rw [if_pos hholds, handOn]
    cases hqueue : l.queue with
    | nil => simp [tickets, hholds, hqueue]
    | cons next rest => simp [tickets, hholds, hqueue]
  · rw [if_neg hholds]
    have hqueue : l.queue.Nodup := (List.nodup_append.1 h.nodup).2.1
    have hout : ticket ∉ l.holder.toList := by
      intro hmem
      exact hholds (Option.mem_toList.1 hmem)
    rw [tickets, tickets, List.erase_append_right _ hout, hqueue.erase_eq_filter]
    refine congrArg (l.holder.toList ++ ·) (List.filter_congr fun other _ => ?_)
    rw [Bool.eq_iff_iff, decide_eq_true_iff, bne_iff_ne]

theorem IsOrderly.release (h : l.IsOrderly) (ticket : Nat) : (l.release ticket).IsOrderly where
  nodup := by
    rw [h.tickets_release]
    exact h.nodup.erase ticket
  lt_nextTicket := by
    intro other hother
    have hnext : (l.release ticket).nextTicket = l.nextTicket := by
      unfold CycleLock.release handOn
      split
      · split <;> rfl
      · rfl
    rw [h.tickets_release] at hother
    rw [hnext]
    exact h.lt_nextTicket other (List.mem_of_mem_erase hother)
  queue_eq_nil := by
    intro hnone
    unfold CycleLock.release handOn at hnone ⊢
    split at hnone
    · next hholds =>
        rw [if_pos hholds]
        split at hnone
        · next hqueue => simp [hqueue]
        · cases hnone
    · next hholds =>
        rw [if_neg hholds]
        have hnil : l.queue = [] := h.queue_eq_nil hnone
        simp [hnil]

end CycleLock

end InferenceFleet
