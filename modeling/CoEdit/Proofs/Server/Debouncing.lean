import CoEdit.Server.Watch
import Mathlib.Data.List.Chain

/-!
# Waiting for quiet

The events that a watcher is told of fall into bursts: within a burst each event comes less than a period after the one before it, and
between two bursts it is quiet for a period at least. What is requested for events with a quiet period in between is what is requested
for the two parts (`WatchState.requests_append`), and a burst by itself leads to one request or none (`WatchState.requests_burst`). So
what holds of all requests is proved burst by burst (`WatchState.requests_induction`). `Debounced` says what a watcher owes to its events,
and `ConfigWatch.debounced` that it does all of that, and never because of what happens later.

When an event comes at the very time at which a period ends, it may be noticed before the period has passed or after that. Either way is
allowed for, and the statements are about events of which none comes at such a time.
-/

namespace CoEdit

/-! ## Sequences of events -/

namespace TimedEvent

/-- Times do not go back. -/
def Chronological (events : List TimedEvent) : Prop := events.Pairwise fun a b => a.time ≤ b.time

/-- No event comes at the very end of the period after the one before it. -/
def Untied (period : Nat) (events : List TimedEvent) : Prop := events.IsChain fun a b => b.time ≠ a.time + period

/-- Every event but the first comes within the period after the one before it. -/
def Burst (period : Nat) (run : List TimedEvent) : Prop := run.IsChain fun a b => b.time < a.time + period

/-- Nothing happens for a period, at least, after some events and before others. -/
def Quiet (period : Nat) (before after : List TimedEvent) : Prop :=
  ∀ a ∈ before.getLast?, ∀ b ∈ after.head?, a.time + period ≤ b.time

variable {period : Nat} {before after run events : List TimedEvent} {e : TimedEvent}

/-- Where there are no ties, the next event comes after the end of a quiet period. -/
theorem Quiet.apart (hq : Quiet period before after) (hu : Untied period (before ++ after)) :
    ∀ a ∈ before.getLast?, ∀ b ∈ after.head?, a.time + period < b.time := by
  intro a ha b hb
  have hne : b.time ≠ a.time + period := (List.isChain_append.1 hu).2.2 a ha b hb
  exact lt_of_le_of_ne (hq a ha b hb) hne.symm

theorem Chronological.le_last (hc : Chronological run) {last : TimedEvent} (hl : last ∈ run.getLast?) :
    ∀ a ∈ run, a.time ≤ last.time := by
  obtain ⟨init, rfl⟩ := List.getLast?_eq_some_iff.1 hl
  intro a ha
  rcases List.mem_append.1 ha with ha | ha
  · exact (List.pairwise_append.1 hc).2.2 a ha last List.mem_cons_self
  · rw [List.mem_singleton.1 ha]

theorem Chronological.first_le (hc : Chronological run) : ∀ a ∈ run, ∃ first ∈ run.head?, first.time ≤ a.time := by
  intro a ha
  cases run with
  | nil => exact absurd ha List.not_mem_nil
  | cons first run =>
    refine ⟨first, rfl, ?_⟩
    rcases List.mem_cons.1 ha with rfl | ha
    · exact le_rfl
    · exact (List.pairwise_cons.1 hc).1 a ha

/-- What lies on the two sides of a quiet period is more than a period apart. -/
theorem Chronological.apart (hc : Chronological (before ++ after))
    (hq : ∀ a ∈ before.getLast?, ∀ b ∈ after.head?, a.time + period < b.time) :
    ∀ a ∈ before, ∀ b ∈ after, a.time + period < b.time := by
  obtain ⟨hbefore, hafter, -⟩ := List.pairwise_append.1 hc
  intro a ha b hb
  obtain ⟨last, hlast⟩ : ∃ last, last ∈ before.getLast? := ⟨_, List.getLast?_eq_some_getLast (List.ne_nil_of_mem ha)⟩
  obtain ⟨first, hfirst, hle⟩ := Chronological.first_le hafter b hb
  have hgap := hq last hlast first hfirst
  have hlast := Chronological.le_last hbefore hlast a ha
  omega

/-- Events begin with a burst, after which it is quiet. -/
theorem exists_burst (period : Nat) : ∀ {events : List TimedEvent}, events ≠ [] →
    ∃ run after, events = run ++ after ∧ run ≠ [] ∧ Burst period run ∧ Quiet period run after := by
  intro events
  induction events with
  | nil => exact fun h => absurd rfl h
  | cons e rest ih =>
    intro _
    by_cases hrest : rest = []
    · subst hrest
      exact ⟨[e], [], rfl, List.cons_ne_nil _ _, List.isChain_singleton e, fun _ _ _ hb => nomatch hb⟩
    · obtain ⟨run, after, rfl, hne, hburst, hquiet⟩ := ih hrest
      obtain ⟨first, run, rfl⟩ := List.exists_cons_of_ne_nil hne
      by_cases hclose : first.time < e.time + period
      · refine ⟨e :: first :: run, after, rfl, List.cons_ne_nil _ _, List.isChain_cons_cons.2 ⟨hclose, hburst⟩, ?_⟩
        intro a ha
        exact hquiet a (by simpa [List.getLast?_cons] using ha)
      · refine ⟨[e], first :: run ++ after, rfl, List.cons_ne_nil _ _, List.isChain_singleton e, ?_⟩
        intro a ha b hb
        cases ha
        cases hb
        exact Nat.le_of_not_lt hclose

end TimedEvent

/-! ## What is requested -/

namespace WatchState

open TimedEvent

variable {period : Nat} {ties : Nat → Bool} {s : WatchState} {e : TimedEvent} {before after run events later : List TimedEvent}

theorem step_snd (period : Nat) (ties : Nat → Bool) (s : WatchState) (e : TimedEvent) :
    (s.step period ties e).2 = .idle ∨ (s.step period ties e).2 = .settling e.time := by
  have hwake : wake e = .idle ∨ wake e = .settling e.time := by
    unfold wake
    split
    · exact Or.inr rfl
    · exact Or.inl rfl
  cases s with
  | idle => exact hwake
  | settling last =>
    rw [step]
    split
    · exact Or.inr rfl
    · exact hwake

theorem inTime_of_lt {last time : Nat} (h : time < last + period) : inTime period ties last time = true := by
  simp [inTime, h]

theorem inTime_of_gt {last time : Nat} (h : last + period < time) : inTime period ties last time = false := by
  have hlt : ¬time < last + period := by omega
  have hne : time ≠ last + period := by omega
  simp [inTime, hlt, hne]

/-- When the period has passed before the first event, the watcher has made its request and is idle. -/
theorem requests_passed (hs : ∀ last, s = .settling last → ∀ b ∈ events.head?, last + period < b.time) :
    s.requests period ties events = s.finish period ++ idle.requests period ties events := by
  cases s with
  | idle => rfl
  | settling last =>
    cases events with
    | nil => rfl
    | cons b rest =>
      have hlate : inTime period ties last b.time = false := inTime_of_gt (hs last rfl b rfl)
      simp only [requests, step, hlate]
      rfl

/-- Quiet parts what is requested. The state before matters only if nothing happens before it is quiet. -/
theorem requests_append_from (hs : before = [] → ∀ last, s = .settling last → ∀ b ∈ after.head?, last + period < b.time)
    (hq : ∀ a ∈ before.getLast?, ∀ b ∈ after.head?, a.time + period < b.time) :
    s.requests period ties (before ++ after) = s.requests period ties before ++ idle.requests period ties after := by
  induction before generalizing s with
  | nil => exact requests_passed (hs rfl)
  | cons e before ih =>
    rw [List.cons_append, requests, requests, List.append_assoc, ih]
    · rintro rfl last hlast b hb
      rcases step_snd period ties s e with hidle | hsettling
      · rw [hidle] at hlast
        cases hlast
      · rw [hsettling] at hlast
        cases hlast
        exact hq e rfl b hb
    · intro a ha
      exact hq a (by rw [List.getLast?_cons, Option.mem_def.1 ha]; rfl)

theorem requests_append (hq : ∀ a ∈ before.getLast?, ∀ b ∈ after.head?, a.time + period < b.time) :
    idle.requests period ties (before ++ after) = idle.requests period ties before ++ idle.requests period ties after :=
  requests_append_from (fun _ _ h => nomatch h) hq

/-- Once something that matters has happened, a burst leads to a request after its last event. -/
theorem requests_settling (hb : Burst period (e :: run)) :
    (settling e.time).requests period ties run = [((e :: run).getLast (List.cons_ne_nil e run)).time + period] := by
  induction run generalizing e with
  | nil => rfl
  | cons b run ih =>
    obtain ⟨hclose, hb⟩ := List.isChain_cons_cons.1 hb
    rw [requests, step, inTime_of_lt hclose]
    exact ih hb

/-- A burst leads to one request, after its last event, if anything in it matters, and otherwise to none. -/
theorem requests_burst (hne : run ≠ []) (hb : Burst period run) :
    idle.requests period ties run = if run.any (·.isRelevant) then [(run.getLast hne).time + period] else [] := by
  induction run with
  | nil => exact absurd rfl hne
  | cons e run ih =>
    rw [requests, step, wake, List.any_cons]
    cases he : e.isRelevant with
    | true => exact requests_settling hb
    | false =>
      rw [Bool.false_or]
      by_cases hrun : run = []
      · subst hrun
        rfl
      · rw [List.getLast_cons hrun]
        exact ih hrun (List.isChain_cons.1 hb).2

/-- A request comes a period after an event, or is the one that was waited for. -/
theorem mem_requests {r : Nat} (hr : r ∈ s.requests period ties events) :
    r ∈ s.finish period ∨ ∃ e ∈ events, e.time + period = r := by
  induction events generalizing s with
  | nil => exact Or.inl hr
  | cons e rest ih =>
    rw [requests, List.mem_append] at hr
    rcases hr with hr | hr
    · left
      cases s with
      | idle => exact hr
      | settling last =>
        rw [step] at hr
        split at hr
        · exact absurd hr List.not_mem_nil
        · exact hr
    · right
      rcases ih hr with hr | ⟨e', he', hre⟩
      · rcases step_snd period ties s e with hidle | hsettling
        · rw [hidle] at hr
          exact absurd hr List.not_mem_nil
        · rw [hsettling] at hr
          exact ⟨e, List.mem_cons_self, (List.mem_singleton.1 hr).symm⟩
      · exact ⟨e', List.mem_cons_of_mem e he', hre⟩

theorem exists_event_of_request {r : Nat} (hr : r ∈ idle.requests period ties events) : ∃ e ∈ events, e.time + period = r :=
  (mem_requests hr).resolve_left List.not_mem_nil

/-- What holds of the requests for no events, and of those for a burst and what follows if it does for what follows, holds always. All
that happens in a burst is up to its last event, and more than a period before what follows and before the requests for that. -/
theorem requests_induction {P : List TimedEvent → List Nat → Prop} (nil : P [] [])
    (relevant : ∀ run last after rs, last ∈ run → (∀ a ∈ run, a.time ≤ last.time) → (∃ a ∈ run, a.isRelevant = true) →
      (∀ a ∈ run, ∀ b ∈ after, a.time + period < b.time) → (∀ a ∈ run, ∀ r ∈ rs, a.time + period < r) → P after rs →
      P (run ++ after) ((last.time + period) :: rs))
    (irrelevant : ∀ run after rs, (∀ a ∈ run, a.isRelevant = false) → (∀ a ∈ run, ∀ r ∈ rs, a.time + period < r) → P after rs →
      P (run ++ after) rs)
    (hc : Chronological events) (hu : Untied period events) : P events (idle.requests period ties events) := by
  induction hn : events.length using Nat.strong_induction_on generalizing events with
  | h n ih =>
    by_cases hevents : events = []
    · subst hevents
      exact nil
    · obtain ⟨run, after, rfl, hne, hburst, hquiet⟩ := exists_burst period hevents
      have hgap := hquiet.apart hu
      have hapart := hc.apart hgap
      obtain ⟨hrun, hafter, -⟩ := List.pairwise_append.1 hc
      have hlater : ∀ a ∈ run, ∀ r ∈ idle.requests period ties after, a.time + period < r := by
        intro a ha r hr
        obtain ⟨e, he, rfl⟩ := exists_event_of_request hr
        exact Nat.lt_of_lt_of_le (hapart a ha e he) (Nat.le_add_right _ _)
      have hlength : after.length < n := by
        have := List.length_pos_of_ne_nil hne
        rw [List.length_append] at hn
        omega
      have hrest := ih after.length hlength hafter (List.isChain_append.1 hu).2.1 rfl
      rw [requests_append hgap, requests_burst hne hburst]
      cases hany : run.any (·.isRelevant) with
      | true =>
        have hle := Chronological.le_last hrun (List.getLast?_eq_some_getLast hne)
        exact relevant run _ after _ (List.getLast_mem hne) hle (List.any_eq_true.1 hany) hapart hlater hrest
      | false =>
        have hnone : ∀ a ∈ run, a.isRelevant = false := by simpa using hany
        exact irrelevant run after _ hnone hlater hrest

section
variable (hc : Chronological events) (hu : Untied period events)
include hc hu

/-- Requests come one after the other. -/
theorem requests_ascending : (idle.requests period ties events).Pairwise (· < ·) := by
  refine requests_induction (P := fun _ rs => rs.Pairwise (· < ·)) List.Pairwise.nil ?_ ?_ hc hu
  · intro run last after rs hlast _ _ _ hlater ih
    exact List.pairwise_cons.2 ⟨hlater last hlast, ih⟩
  · intro run after rs _ _ ih
    exact ih

/-- What matters leads to a request that comes a period later, or after that. -/
theorem exists_request : ∀ e ∈ events, e.isRelevant = true → ∃ r ∈ idle.requests period ties events, e.time + period ≤ r := by
  refine requests_induction (P := fun events rs => ∀ e ∈ events, e.isRelevant = true → ∃ r ∈ rs, e.time + period ≤ r)
    (by simp) ?_ ?_ hc hu
  · intro run last after rs _ hle _ _ _ ih e he hrel
    rcases List.mem_append.1 he with he | he
    · exact ⟨_, List.mem_cons_self, Nat.add_le_add_right (hle e he) period⟩
    · obtain ⟨r, hr, hre⟩ := ih e he hrel
      exact ⟨r, List.mem_cons_of_mem _ hr, hre⟩
  · intro run after rs hnone _ ih e he hrel
    rcases List.mem_append.1 he with he | he
    · rw [hnone e he] at hrel
      cases hrel
    · exact ih e he hrel

/-- Before a request, and after the one before it, something happened that matters. -/
theorem exists_cause : ∀ earlier r rest, idle.requests period ties events = earlier ++ r :: rest →
    ∃ e ∈ events, e.isRelevant = true ∧ e.time + period ≤ r ∧ ∀ r' ∈ earlier.getLast?, r' < e.time := by
  refine requests_induction (P := fun events rs => ∀ earlier r rest, rs = earlier ++ r :: rest →
    ∃ e ∈ events, e.isRelevant = true ∧ e.time + period ≤ r ∧ ∀ r' ∈ earlier.getLast?, r' < e.time) (by simp) ?_ ?_ hc hu
  · intro run last after rs hlast hle hsome hapart _ ih earlier r rest hrs
    cases earlier with
    | nil =>
      cases hrs
      obtain ⟨e, he, hrel⟩ := hsome
      exact ⟨e, List.mem_append_left _ he, hrel, Nat.add_le_add_right (hle e he) period, fun _ h => nomatch h⟩
    | cons first earlier =>
      obtain ⟨rfl, htail⟩ := List.cons.inj hrs
      obtain ⟨e, he, hrel, hre, hlater⟩ := ih earlier r rest htail
      refine ⟨e, List.mem_append_right _ he, hrel, hre, ?_⟩
      -- the request before this one may be that of the burst
      intro r' hr'
      rw [List.getLast?_cons] at hr'
      cases hearlier : earlier.getLast? with
      | none =>
        rw [hearlier] at hr'
        cases hr'
        exact hapart last hlast e he
      | some r'' =>
        rw [hearlier] at hr'
        cases hr'
        exact hlater r'' hearlier
  · intro run after rs _ _ ih earlier r rest hrs
    obtain ⟨e, he, h⟩ := ih earlier r rest hrs
    exact ⟨e, List.mem_append_right _ he, h⟩

/-- Nothing at all happens in the period before a request. -/
theorem quiet_before_request : ∀ r ∈ idle.requests period ties events, ∀ e ∈ events, e.time + period ≤ r ∨ r < e.time := by
  refine requests_induction (P := fun events rs => ∀ r ∈ rs, ∀ e ∈ events, e.time + period ≤ r ∨ r < e.time) (by simp) ?_ ?_ hc hu
  · intro run last after rs hlast hle _ hapart hlater ih r hr e he
    rcases List.mem_cons.1 hr with rfl | hr <;> rcases List.mem_append.1 he with he | he
    · exact Or.inl (Nat.add_le_add_right (hle e he) period)
    · exact Or.inr (hapart last hlast e he)
    · exact Or.inl (Nat.le_of_lt (hlater e he r hr))
    · exact ih r hr e he
  · intro run after rs _ hlater ih r hr e he
    rcases List.mem_append.1 he with he | he
    · exact Or.inl (Nat.le_of_lt (hlater e he r hr))
    · exact ih r hr e he

end

/-! ## What happens later -/

/-- No request comes before a time that all events come after, and that is not waited for. -/
theorem le_of_mem_requests {now : Nat} (hs : ∀ r ∈ s.finish period, now ≤ r) (he : ∀ e ∈ events, now ≤ e.time) :
    ∀ r ∈ s.requests period ties events, now ≤ r := by
  intro r hr
  rcases mem_requests hr with hr | ⟨e, hmem, rfl⟩
  · exact hs r hr
  · exact Nat.le_add_right_of_le (he e hmem)

/-- What is requested before a time does not depend on what happens from then on. -/
theorem filter_requests_append {now : Nat} (hl : ∀ e ∈ later, now ≤ e.time) :
    (s.requests period ties (events ++ later)).filter (· < now) = (s.requests period ties events).filter (· < now) := by
  induction events generalizing s with
  | nil =>
    have hnone : ∀ rs : List Nat, (∀ r ∈ rs, now ≤ r) → rs.filter (· < now) = [] := by
      intro rs hrs
      simpa using hrs
    rw [List.nil_append, requests]
    by_cases hs : ∀ r ∈ s.finish period, now ≤ r
    · rw [hnone _ (le_of_mem_requests hs hl), hnone _ hs]
    · -- the period ends before anything else happens
      have hidle : ∀ r ∈ idle.requests period ties later, now ≤ r := le_of_mem_requests (by simp [finish]) hl
      rw [requests_passed, List.filter_append, hnone _ hidle, List.append_nil]
      rintro last rfl b hb
      have hb := hl b (List.mem_of_mem_head? hb)
      simp [finish] at hs
      omega
  | cons e rest ih => rw [List.cons_append, requests, requests, List.filter_append, List.filter_append, ih]

end WatchState

/-! ## What a watcher owes to its events -/

open TimedEvent

/-- Reloads are requested for events as they should be. -/
structure Debounced (period : Nat) (events : List TimedEvent) (requests : List Nat) : Prop where
  ascending : requests.Pairwise (· < ·)
  /-- What matters leads to a request, not sooner than a period later, and before anything else happens once it was quiet. -/
  answered : ∀ before e after rest, events = before ++ e :: after ++ rest → e.isRelevant = true → Quiet period (e :: after) rest →
    ∃ r ∈ requests, e.time + period ≤ r ∧ ∀ next ∈ rest.head?, r < next.time
  /-- Before a request, and after the one before it, something happened that matters. -/
  needed : ∀ earlier r rest, requests = earlier ++ r :: rest →
    ∃ e ∈ events, e.isRelevant = true ∧ e.time + period ≤ r ∧ ∀ r' ∈ earlier.getLast?, r' < e.time
  /-- In the period before a request nothing happened. -/
  quiet : ∀ r ∈ requests, ∀ e ∈ events, e.time + period ≤ r ∨ r < e.time
  /-- From the beginning of a burst to the next event there is one request if anything in the burst matters, and none otherwise. -/
  once : ∀ before run after, events = before ++ run ++ after → ∀ hne : run ≠ [], Burst period run → Quiet period before run →
    Quiet period run after → ∃ earlier later,
      requests = earlier ++ (if run.any (·.isRelevant) then [(run.getLast hne).time + period] else []) ++ later ∧
      (∀ r ∈ earlier, ∀ e ∈ run, r < e.time) ∧ ∀ r ∈ later, ∃ next ∈ after.head?, next.time ≤ r

namespace WatchState

variable {period : Nat} {ties : Nat → Bool} {events : List TimedEvent}

theorem requests_debounced (hc : Chronological events) (hu : Untied period events) :
    Debounced period events (idle.requests period ties events) where
  ascending := requests_ascending hc hu
  answered := by
    intro before e after rest hevents hrel hquiet
    subst hevents
    have hquiet' : Quiet period (before ++ e :: after) rest := by
      intro a ha
      rw [List.getLast?_append_of_ne_nil _ (List.cons_ne_nil e after)] at ha
      exact hquiet a ha
    have hgap := hquiet'.apart hu
    obtain ⟨r, hr, hre⟩ : ∃ r ∈ idle.requests period ties (before ++ e :: after), e.time + period ≤ r :=
      exists_request (List.pairwise_append.1 hc).1 (List.isChain_append.1 hu).1 e (by simp) hrel
    refine ⟨r, ?_, hre, ?_⟩
    · rw [requests_append hgap]
      exact List.mem_append_left _ hr
    · intro next hnext
      obtain ⟨e', he', rfl⟩ := exists_event_of_request hr
      exact hc.apart hgap e' he' next (List.mem_of_mem_head? hnext)
  needed := exists_cause hc hu
  quiet := quiet_before_request hc hu
  once := by
    intro before run after hevents hne hburst hbefore hafter
    subst hevents
    have hafter' : Quiet period (before ++ run) after := by
      intro a ha
      rw [List.getLast?_append_of_ne_nil _ hne] at ha
      exact hafter a ha
    obtain ⟨hc', hcafter, -⟩ := List.pairwise_append.1 hc
    have hgap := hafter'.apart hu
    have hgap' := hbefore.apart (List.isChain_append.1 hu).1
    refine ⟨idle.requests period ties before, idle.requests period ties after, ?_, ?_, ?_⟩
    · rw [requests_append hgap, requests_append hgap', requests_burst hne hburst]
    · intro r hr e he
      obtain ⟨e', he', rfl⟩ := exists_event_of_request hr
      exact Chronological.apart hc' hgap' e' he' e he
    · intro r hr
      obtain ⟨e, he, rfl⟩ := exists_event_of_request hr
      obtain ⟨first, hfirst, hle⟩ := Chronological.first_le hcafter e he
      exact ⟨first, hfirst, Nat.le_add_right_of_le hle⟩

end WatchState

namespace ConfigWatch

/-- A change of a file by itself leads to one request if it matters, and to none otherwise. -/
theorem requestTimes_signals {w : ConfigWatch} (hw : 0 < w.debounce.nanoseconds) (ties : Nat → Bool) (h : Host) (change : FileChange)
    (file : Path) : w.requestTimes ties (w.signals h change file) =
      if (w.signals h change file).any w.isRelevant then [h.clock * 1000000000 + w.debounce.nanoseconds] else [] := by
  by_cases hnil : w.signals h change file = []
  · rw [hnil]
    rfl
  · have htime : ∀ e ∈ (w.signals h change file).map w.timed, e.time = h.clock * 1000000000 := by
      simp [signals, timed]
    have hne : (w.signals h change file).map w.timed ≠ [] := by simpa using hnil
    have hburst : Burst w.debounce.nanoseconds ((w.signals h change file).map w.timed) := by
      refine List.Pairwise.isChain (List.pairwise_of_forall_mem_list fun a ha b hb => ?_)
      rw [htime a ha, htime b hb]
      exact Nat.lt_add_of_pos_right hw
    rw [requestTimes, WatchState.requests_burst hne hburst, htime _ (List.getLast_mem hne), List.any_map]
    rfl

/-- A watcher asks for reloads as it should, whatever it is told, if the reports come in the order of their times and none comes at the
very end of the period after the one before it. What it asks for before a time does not depend on the reports from then on, so this holds
of what it is told in all its life as it does of each beginning of that. -/
theorem debounced (w : ConfigWatch) (ties : Nat → Bool) (signals : List WatchSignal)
    (hc : signals.Pairwise fun a b => a.time ≤ b.time)
    (hu : signals.IsChain fun a b => b.time ≠ a.time + w.debounce.nanoseconds) :
    Debounced w.debounce.nanoseconds (signals.map w.timed) (w.requestTimes ties signals) ∧
    ∀ earlier later now, signals = earlier ++ later → (∀ x ∈ later, now ≤ x.time) →
      (w.requestTimes ties signals).filter (· < now) = (w.requestTimes ties earlier).filter (· < now) := by
  refine ⟨WatchState.requests_debounced (List.pairwise_map.2 hc) ((List.isChain_map _).2 hu), ?_⟩
  rintro earlier later now rfl hl
  unfold requestTimes
  rw [List.map_append]
  refine WatchState.filter_requests_append fun e he => ?_
  obtain ⟨x, hx, rfl⟩ := List.mem_map.1 he
  exact hl x hx

/-- A watch over one file that waits for thirty nanoseconds. -/
def deskWatch : ConfigWatch := { files := [⟨"/etc/tandem.yml"⟩], debounce := { nanoseconds := 30 } }

/-- Two bursts in which the file changes, the first with a failure, and one between them in which it does not. -/
def deskSignals : List WatchSignal :=
  let report (change : FileChange) (file : String) : WatchReport := .event { change, files := [⟨file⟩] }
  [⟨0, .empty, report .accessed "/etc/tandem.yml"⟩, ⟨10, .empty, report .modified "/etc/tandem.yml"⟩, ⟨35, .empty, .failure "overflow"⟩,
    ⟨100, .empty, report .created "/etc/other.yml"⟩, ⟨120, .empty, .failure "overflow"⟩,
    ⟨200, .empty, report .removed "/etc/tandem.yml"⟩, ⟨200, .empty, report .created "/etc/tandem.yml"⟩]

/-- Two reloads are requested, the first once it was quiet after the failure. -/
theorem debounced_desk :
    (deskSignals.Pairwise fun a b => a.time ≤ b.time) ∧
    (deskSignals.IsChain fun a b => b.time ≠ a.time + deskWatch.debounce.nanoseconds) ∧
    deskWatch.requestTimes (fun _ => false) deskSignals = [65, 230] ∧
    Debounced 30 (deskSignals.map deskWatch.timed) [65, 230] := by
  have hc : deskSignals.Pairwise fun a b => a.time ≤ b.time := by decide
  have hu : deskSignals.IsChain fun a b => b.time ≠ a.time + deskWatch.debounce.nanoseconds := by decide
  have hrequests : deskWatch.requestTimes (fun _ => false) deskSignals = [65, 230] := by decide +kernel
  refine ⟨hc, hu, hrequests, ?_⟩
  rw [← hrequests]
  exact (debounced deskWatch (fun _ => false) deskSignals hc hu).1

end ConfigWatch
end CoEdit
