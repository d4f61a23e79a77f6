import InferenceFleet.Monitor.Fleet
import Mathlib.Data.List.Pairwise
import Mathlib.Data.List.TakeWhile

/-!
# What an error window remembers

A window is used by recording failures and by asking for the recent ones, in any order, at times
that never go back. It drops failures from its front only, and stops at the first that is young
enough, so what it holds depends on all that came before. Still an answer is what a reader of the
whole history would give: the failures whose age is at most the span, each once, in the order in
which they were recorded (`snapshot_is_exact`).

The invariant is `Remembers`: the history is in the order of time, the window holds the end of it,
and whatever is missing is too old by now. Each use keeps it (`Remembers.after`), and under it
dropping from the front is the same as leaving out what is old (`Remembers.entries_prune`).
-/

namespace InferenceFleet

namespace ErrorWindow

/-- A failure with the time elapsed when it was recorded. -/
abbrev Entry := Duration × ProbeFailure

/-- One use of a window: a failure is recorded, or the recent failures are asked for. -/
inductive Use
  | push (now : Duration) (failure : ProbeFailure)
  | snapshot (now : Duration)

namespace Use

/-- When the window is used. -/
def time : Use → Duration
  | .push now _ => now
  | .snapshot now => now

/-- What a use adds to the history. -/
def entry? : Use → Option Entry
  | .push now failure => some (now, failure)
  | .snapshot _ => none

end Use

/-- The recent failures, and the window after looking. -/
def snapshot (w : ErrorWindow) (now : Duration) : List ProbeFailure × ErrorWindow :=
  ((w.prune now).failures, w.prune now)

/-- The window after a use. -/
def after (w : ErrorWindow) : Use → ErrorWindow
  | .push now failure => w.push now failure
  | .snapshot now => (w.snapshot now).2

/-- The window after some uses. -/
def run (w : ErrorWindow) (uses : List Use) : ErrorWindow := uses.foldl after w

/-- The history: all failures that were recorded, in order. -/
def history (uses : List Use) : List Entry := uses.filterMap Use.entry?

/-- The entries of a list whose age is at most a span. -/
def within (span now : Duration) (entries : List Entry) : List Entry :=
  entries.filter fun entry => now - entry.1 ≤ span

/-- One round of pruning: the entry at the front goes if it is old. The loop ends at `none`. -/
def pruneRound? (w : ErrorWindow) (now : Duration) : Option ErrorWindow :=
  match w.entries with
  | [] => none
  | entry :: rest => if w.isOld now entry then some { w with entries := rest } else none

/-- The loop ends after some rounds, with some window. -/
inductive PrunesIn (now : Duration) : Nat → ErrorWindow → ErrorWindow → Prop
  | done {w : ErrorWindow} (hend : w.pruneRound? now = none) : PrunesIn now 0 w w
  | round {rounds : Nat} {w w' w'' : ErrorWindow} (hround : w.pruneRound? now = some w')
      (hrest : PrunesIn now rounds w' w'') : PrunesIn now (rounds + 1) w w''

/-- The loop ends on every window, and what it leaves is the pruned window. -/
theorem exists_prunesIn (w : ErrorWindow) (now : Duration) :
    ∃ rounds ≤ w.entries.length, PrunesIn now rounds w (w.prune now) := by
  obtain ⟨span, entries⟩ := w
  induction entries with
  | nil => exact ⟨0, Nat.le_refl 0, .done rfl⟩
  | cons entry rest ih =>
      cases hold : isOld ⟨span, entry :: rest⟩ now entry with
      | true =>
          obtain ⟨rounds, hrounds, hrest⟩ := ih
          have hround : pruneRound? ⟨span, entry :: rest⟩ now = some ⟨span, rest⟩ := if_pos hold
          have hprune : prune ⟨span, entry :: rest⟩ now = prune ⟨span, rest⟩ now :=
            congrArg (ErrorWindow.mk span) (List.dropWhile_cons_of_pos hold)
          rw [hprune]
          exact ⟨rounds + 1, Nat.succ_le_succ hrounds, .round hround hrest⟩
      | false =>
          have hend : pruneRound? ⟨span, entry :: rest⟩ now = none := if_neg (by rw [hold]; decide)
          have hprune : prune ⟨span, entry :: rest⟩ now = ⟨span, entry :: rest⟩ :=
            congrArg (ErrorWindow.mk span) (List.dropWhile_cons_of_neg (by rw [hold]; decide))
          rw [hprune]
          exact ⟨0, Nat.zero_le _, .done hend⟩

/-- In the order of time, dropping old entries from the front leaves out all that are old. -/
theorem dropWhile_isOld {entries : List Entry} (w : ErrorWindow) (now : Duration)
    (hordered : entries.Pairwise fun a b => a.1 ≤ b.1) :
    entries.dropWhile (w.isOld now) = within w.span now entries := by
  induction entries with
  | nil => rfl
  | cons entry rest ih =>
      obtain ⟨hfirst, hrest⟩ := List.pairwise_cons.1 hordered
      by_cases hold : w.span < now - entry.1
      · have hleft : within w.span now (entry :: rest) = within w.span now rest :=
          List.filter_cons_of_neg (by simpa using Nat.not_le.2 hold)
        rw [hleft, ← ih hrest]
        exact List.dropWhile_cons_of_pos (decide_eq_true hold)
      · have hyoung : ∀ other ∈ entry :: rest, now - other.1 ≤ w.span := by
          intro other hother
          rcases List.mem_cons.1 hother with rfl | hlater
          · exact Nat.not_lt.1 hold
          · exact Nat.le_trans (Nat.sub_le_sub_left (hfirst other hlater) now) (Nat.not_lt.1 hold)
        have hall : within w.span now (entry :: rest) = entry :: rest :=
          List.filter_eq_self.2 fun other hother => decide_eq_true (hyoung other hother)
        rw [hall]
        exact List.dropWhile_cons_of_neg (by simpa [isOld] using hold)

/-- By some time, a window holds the end of a history, and what is missing is too old. -/
structure Remembers (past : List Entry) (now : Duration) (w : ErrorWindow) : Prop where
  ordered : past.Pairwise fun a b => a.1 ≤ b.1
  not_later : ∀ entry ∈ past, entry.1 ≤ now
  dropped : ∃ gone, past = gone ++ w.entries ∧ ∀ entry ∈ gone, w.span < now - entry.1

theorem remembers_empty (span now : Duration) : Remembers [] now (empty span) where
  ordered := .nil
  not_later := by simp
  dropped := ⟨[], rfl, by simp⟩

namespace Remembers

variable {past : List Entry} {now later : Duration} {w : ErrorWindow}

/-- What is too old stays so. -/
theorem mono (h : Remembers past now w) (hlater : now ≤ later) : Remembers past later w where
  ordered := h.ordered
  not_later entry hentry := Nat.le_trans (h.not_later entry hentry) hlater
  dropped := by
    obtain ⟨gone, hpast, hgone⟩ := h.dropped
    exact ⟨gone, hpast, fun entry hentry =>
      Nat.lt_of_lt_of_le (hgone entry hentry) (Nat.sub_le_sub_right hlater entry.1)⟩

/-- All that is young enough is still there. -/
theorem within_entries (h : Remembers past now w) :
    within w.span now w.entries = within w.span now past := by
  obtain ⟨gone, hpast, hgone⟩ := h.dropped
  have hnone : within w.span now gone = [] := by
    refine List.filter_eq_nil_iff.2 fun entry hentry hyoung => ?_
    exact Nat.not_le.2 (hgone entry hentry) (of_decide_eq_true hyoung)
  rw [hpast, within, within, List.filter_append]
  exact (congrArg (· ++ _) hnone).symm

/-- Pruning leaves what a reader of the whole history would pick. -/
theorem entries_prune (h : Remembers past now w) :
    (w.prune now).entries = within w.span now past := by
  obtain ⟨gone, hpast, -⟩ := h.dropped
  have hordered : w.entries.Pairwise fun a b => a.1 ≤ b.1 := by
    have := h.ordered
    rw [hpast] at this
    exact (List.pairwise_append.1 this).2.1
  exact (dropWhile_isOld w now hordered).trans h.within_entries

theorem prune (h : Remembers past now w) : Remembers past now (w.prune now) where
  ordered := h.ordered
  not_later := h.not_later
  dropped := by
    obtain ⟨gone, hpast, hgone⟩ := h.dropped
    refine ⟨gone ++ w.entries.takeWhile (w.isOld now), ?_, fun entry hentry => ?_⟩
    · rw [hpast, List.append_assoc]
      exact congrArg (gone ++ ·) List.takeWhile_append_dropWhile.symm
    · rcases List.mem_append.1 hentry with hbefore | hnow
      · exact hgone entry hbefore
      · have hold : w.isOld now entry = true := List.mem_takeWhile_imp hnow
        exact of_decide_eq_true hold

theorem push (h : Remembers past now w) (failure : ProbeFailure) :
    Remembers (past ++ [(now, failure)]) now (w.push now failure) where
  ordered := by
    refine List.pairwise_append.2 ⟨h.ordered, List.pairwise_singleton _ _, ?_⟩
    intro entry hentry last hlast
    rw [List.mem_singleton.1 hlast]
    exact h.not_later entry hentry
  not_later := by
    intro entry hentry
    rcases List.mem_append.1 hentry with hpast | hnew
    · exact h.not_later entry hpast
    · rw [List.mem_singleton.1 hnew]
  dropped := by
    obtain ⟨gone, hpast, hgone⟩ := h.prune.dropped
    refine ⟨gone, ?_, hgone⟩
    rw [hpast, List.append_assoc]
    rfl

/-- Every use keeps the invariant, whatever it is. -/
theorem after (h : Remembers past now w) {use : Use} (htime : now ≤ use.time) :
    Remembers (past ++ use.entry?.toList) use.time (w.after use) := by
  cases use with
  | push time failure => exact (h.mono htime).push failure
  | snapshot time =>
      show Remembers (past ++ []) time (w.prune time)
      rw [List.append_nil]
      exact (h.mono htime).prune

theorem run (h : Remembers past now w) {uses : List Use}
    (hclock : (now :: (uses.map Use.time ++ [later])).Pairwise (· ≤ ·)) :
    Remembers (past ++ history uses) later (w.run uses) := by
  induction uses generalizing past now w with
  | nil =>
      have hlater : now ≤ later := by simpa using hclock
      rw [history, List.filterMap_nil, List.append_nil]
      exact h.mono hlater
  | cons use rest ih =>
      obtain ⟨hfirst, hrest⟩ := List.pairwise_cons.1 hclock
      have hnext := ih (h.after (hfirst use.time (by simp))) hrest
      have hhistory : history (use :: rest) = use.entry?.toList ++ history rest := by
        cases use <;> rfl
      rw [hhistory, ← List.append_assoc]
      exact hnext

end Remembers

@[simp]
theorem span_after (w : ErrorWindow) (use : Use) : (w.after use).span = w.span := by
  cases use <;> rfl

@[simp]
theorem span_run (w : ErrorWindow) (uses : List Use) : (w.run uses).span = w.span := by
  induction uses generalizing w with
  | nil => rfl
  | cons use rest ih => exact (ih (w.after use)).trans (span_after w use)

/-- A window that started empty remembers its own history. -/
theorem remembers_run {span now : Duration} {uses : List Use}
    (hclock : (uses.map Use.time ++ [now]).Pairwise (· ≤ ·)) :
    Remembers (history uses) now ((empty span).run uses) := by
  have hstart : (0 :: (uses.map Use.time ++ [now])).Pairwise (· ≤ ·) :=
    List.pairwise_cons.2 ⟨fun time _ => Nat.zero_le time, hclock⟩
  exact (remembers_empty span 0).run hstart

/-- However a window was used before, at times that never went back, its answer is exact: the
failures of the history whose age is at most the span, each once and in order. Nothing of that age
was dropped before, and the loop that drops old failures ends on every window, in order or not. -/
theorem snapshot_is_exact {span now : Duration} {uses : List Use}
    (hclock : (uses.map Use.time ++ [now]).Pairwise (· ≤ ·)) :
    (((empty span).run uses).snapshot now).1 = (within span now (history uses)).map Prod.snd ∧
      within span now ((empty span).run uses).entries = within span now (history uses) ∧
      ∀ (w : ErrorWindow) (time : Duration),
        ∃ rounds ≤ w.entries.length, PrunesIn time rounds w (w.prune time) := by
  have hrun : Remembers (history uses) now ((empty span).run uses) := remembers_run hclock
  have hspan : ((empty span).run uses).span = span := span_run _ _
  refine ⟨?_, ?_, exists_prunesIn⟩
  · have hentries := hrun.entries_prune
    rw [hspan] at hentries
    exact congrArg (List.map Prod.snd) hentries
  · have hwithin := hrun.within_entries
    rwa [hspan] at hwithin

/-- A failure of one node. -/
def refusal (second : Int) : ProbeFailure :=
  ⟨"node", "10.0.0.1:11434", .network, "refused", ⟨second, 0⟩⟩

/-- Three failures, with a look after the second that drops the first. -/
def threeRefusals : List Use :=
  [.push 0 (refusal 0), .push 5 (refusal 5), .snapshot 12, .push 15 (refusal 15)]

/-- The failure whose age is the span is still in the answer. -/
theorem snapshot_is_exact_atTheEdge :
    (threeRefusals.map Use.time ++ [15]).Pairwise (· ≤ ·) ∧
      (((empty 10).run threeRefusals).snapshot 15).1 = [refusal 5, refusal 15] := by
  have hclock : (threeRefusals.map Use.time ++ [15]).Pairwise (· ≤ ·) := by decide
  exact ⟨hclock, (snapshot_is_exact hclock).1.trans (by decide)⟩

/-- With a span of zero only the failures of the very instant are recent. -/
example : (((empty 0).run threeRefusals).snapshot 15).1 = [refusal 15] ∧
    (((empty 0).run threeRefusals).snapshot 16).1 = [] := by decide

end ErrorWindow

namespace Fleet

open ErrorWindow (Use within history)

/-- One use of the failures that a fleet remembers. -/
inductive ErrorUse
  | record (peerId : String) (e : ProbeError)
  | look

/-- The fleet after a use of its failures. -/
def useErrors (f : Fleet) : ErrorUse → Fleet
  | .record peerId e => f.recordFailure peerId e
  | .look => f.recentErrors.2

/-- What the use is for the window, by the present reading of the clock. -/
def windowUse (f : Fleet) : ErrorUse → Use
  | .record peerId e => .push f.clock.now.elapsed (.of peerId e f.clock.now.wall)
  | .look => .snapshot f.clock.now.elapsed

/-- What some uses are for the window. -/
def windowUses (f : Fleet) : List ErrorUse → List Use
  | [] => []
  | use :: rest => f.windowUse use :: (f.useErrors use).windowUses rest

theorem errors_foldl_useErrors (f : Fleet) (uses : List ErrorUse) :
    (uses.foldl useErrors f).errors = f.errors.run (f.windowUses uses) := by
  induction uses generalizing f with
  | nil => rfl
  | cons use rest ih =>
      have hstep : (f.useErrors use).errors = f.errors.after (f.windowUse use) := by
        cases use <;> rfl
      rw [List.foldl_cons, ih, hstep]
      rfl

/-- Each use reads the clock once, so a clock that runs forward keeps the uses in order. -/
theorem ordered_windowUses {f : Fleet} (uses : List ErrorUse)
    (hforward : ∀ n, (f.clock.reading n).elapsed ≤ (f.clock.reading (n + 1)).elapsed) :
    ((f.windowUses uses).map Use.time ++
      [(uses.foldl useErrors f).clock.now.elapsed]).Pairwise (· ≤ ·) := by
  rw [← List.isChain_iff_pairwise]
  induction uses generalizing f with
  | nil => exact .singleton _
  | cons use rest ih =>
      have hclock : (f.useErrors use).clock = f.clock.tick := by cases use <;> rfl
      have htime : (f.windowUse use).time = f.clock.now.elapsed := by cases use <;> rfl
      have hrest := ih (f := f.useErrors use) (by rw [hclock]; exact hforward)
      have hnext : f.clock.now.elapsed ≤ (f.useErrors use).clock.now.elapsed := by
        rw [hclock]
        exact hforward f.clock.taken
      show List.IsChain (· ≤ ·) ((f.windowUse use).time ::
        (((f.useErrors use).windowUses rest).map Use.time ++
          [(rest.foldl useErrors (f.useErrors use)).clock.now.elapsed]))
      rw [htime]
      cases rest with
      | nil => exact .cons_cons hnext hrest
      | cons following rest =>
          have hfollowing : ((f.useErrors use).windowUse following).time =
              (f.useErrors use).clock.now.elapsed := by cases following <;> rfl
          exact .cons_cons (hfollowing.symm ▸ hnext) hrest

/-- Whoever asks a fleet for its recent failures gets those that were recorded within the span of
its window, whatever was recorded and asked before. -/
theorem recentErrors_eq_within {f : Fleet} {span : Duration} (uses : List ErrorUse)
    (hempty : f.errors = .empty span)
    (hforward : ∀ n, (f.clock.reading n).elapsed ≤ (f.clock.reading (n + 1)).elapsed) :
    (uses.foldl useErrors f).recentErrors.1 =
      (within span (uses.foldl useErrors f).clock.now.elapsed
        (history (f.windowUses uses))).map Prod.snd := by
  have hremembers : ErrorWindow.Remembers (history (f.windowUses uses)) _
      ((ErrorWindow.empty span).run (f.windowUses uses)) :=
    ErrorWindow.remembers_run (ordered_windowUses uses hforward)
  have hentries := hremembers.entries_prune
  rw [ErrorWindow.span_run] at hentries
  have herrors : (uses.foldl useErrors f).errors =
      (ErrorWindow.empty span).run (f.windowUses uses) := by
    rw [errors_foldl_useErrors, hempty]
  rw [recentErrors, herrors]
  exact congrArg (List.map Prod.snd) hentries

end Fleet

end InferenceFleet
