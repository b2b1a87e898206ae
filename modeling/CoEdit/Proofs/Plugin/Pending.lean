import CoEdit.Proofs.Latest
import CoEdit.Proofs.Plugin.Saving
import Mathlib.Data.List.Induction

/-!
# Content that waits

A session is told of its target and of content, and is asked to write what waits, in any order. Whether the store writes what it is
handed is up to the disk at that time, so each of its answers may be a failure. The history of the calls says what happened: content was
recorded, and content was handed to the store, which wrote it or did not.

The fields of a session are read off its history (`AutosaveSession.Remembers`). In particular the content that was recorded last either
waits or is what was written last, and it is what a flush hands to the store, whose answer is the answer of the flush
(`AutosaveSession.Answers`).
-/

namespace CoEdit
namespace AutosaveSession

/-! ## Histories -/

/-- Content is handed to the store, to be written to the document of a target. -/
structure Attempt where
  target : AutosaveTarget
  content : ByteArray
  around : Surroundings

namespace Attempt

variable (w : Attempt)

/-- What the store answers, and the disk that it leaves. -/
def outcome : Except StorageError Unit × Disk := w.target.settings.storage.write w.around.disk w.target.document w.content

/-- Whether the store wrote the content. -/
def succeeds : Bool := w.outcome.1.isOk

/-- The disk afterwards. The program is told only of a file that was written. -/
def left : Disk := if w.succeeds then afterHook w.target w.outcome.2 else w.outcome.2

end Attempt

/-- What happens to a session. -/
inductive Event where
  | bound (target : AutosaveTarget) (clock : Nat)
  | recorded (content : ByteArray)
  | attempted (w : Attempt)

namespace Event

/-- The target that a session was bound to. -/
def bound? : Event → Option AutosaveTarget
  | .bound target _ => some target
  | _ => none

/-- The content that was recorded. -/
def recorded? : Event → Option ByteArray
  | .recorded content => some content
  | _ => none

/-- The content that the store wrote. -/
def written? : Event → Option ByteArray
  | .attempted w => if w.succeeds then some w.content else none
  | _ => none

/-- The time that an interval is counted from: of a write, or of the binding to a target. -/
def time? : Event → Option Nat
  | .bound _ clock => some clock
  | .recorded _ => none
  | .attempted w => if w.succeeds then some w.around.clock else none

end Event

/-- What a session is called for. -/
inductive Call where
  | bind (target : AutosaveTarget) (clock : Nat)
  | recordChange (content : ByteArray)
  | flush (around : Surroundings)
  | flushIfDue (around : Surroundings) (now : Nat)

/-- The session after a call. -/
def perform (a : AutosaveSession) : Call → AutosaveSession
  | .bind target clock => a.bind target clock
  | .recordChange content => a.recordChange content
  | .flush around => (a.flush around).session
  | .flushIfDue around now => (a.flushIfDue around now).session

/-- What a flush hands to the store. -/
def attempt? (a : AutosaveSession) (around : Surroundings) : Option Attempt :=
  match a.target, a.pending with
  | some target, some content => some { target, content, around }
  | _, _ => none

/-- What a flush hands to the store if it is due at a time. -/
def attemptIfDue? (a : AutosaveSession) (around : Surroundings) (now : Nat) : Option Attempt :=
  if a.isDue now then a.attempt? around else none

/-- What happens in a call. -/
def events (a : AutosaveSession) : Call → List Event
  | .bind target clock => [.bound target clock]
  | .recordChange content => [.recorded content]
  | .flush around => (a.attempt? around).toList.map .attempted
  | .flushIfDue around now => (a.attemptIfDue? around now).toList.map .attempted

/-- The session after calls. -/
def performAll (a : AutosaveSession) (calls : List Call) : AutosaveSession := calls.foldl perform a

/-- What happens in the course of calls. -/
def history (a : AutosaveSession) : List Call → List Event
  | [] => []
  | call :: calls => a.events call ++ (a.perform call).history calls

theorem performAll_concat (a : AutosaveSession) (calls : List Call) (call : Call) :
    a.performAll (calls ++ [call]) = (a.performAll calls).perform call := by
  rw [performAll, List.foldl_append]
  rfl

theorem history_concat (a : AutosaveSession) (calls : List Call) (call : Call) :
    a.history (calls ++ [call]) = a.history calls ++ (a.performAll calls).events call := by
  induction calls generalizing a with
  | nil => exact List.append_nil _
  | cons first calls ih =>
    rw [List.cons_append, history, ih, history, List.append_assoc]
    rfl

/-- The latest that something is known of in a history. -/
def latest {α : Type} (f : Event → Option α) (es : List Event) : Option α := (es.filterMap f).getLast?

variable {a : AutosaveSession} {around : Surroundings} {now : Nat} {w : Attempt} {es : List Event} {e : Event}

theorem latest_concat {α : Type} (f : Event → Option α) (es : List Event) (e : Event) :
    latest f (es ++ [e]) = (f e).or (latest f es) := by
  unfold latest
  rw [List.filterMap_append, List.getLast?_append]
  cases he : f e with
  | none => simp [he]
  | some x => simp [he]

theorem latest_eq_none {α : Type} {f : Event → Option α} : latest f es = none ↔ ∀ e ∈ es, f e = none := by
  rw [latest, List.getLast?_eq_none_iff, List.filterMap_eq_nil_iff]

/-! ## What a flush does -/

/-- What a flush hands to the store is what waits, for the target of the session. -/
theorem attempt?_eq_some : a.attempt? around = some w ↔ a.target = some w.target ∧ a.pending = some w.content ∧ w.around = around := by
  obtain ⟨target, content, around'⟩ := w
  unfold attempt?
  cases a.target <;> cases a.pending <;> simp [eq_comm]

theorem attempt?_eq_none : a.attempt? around = none ↔ a.target = none ∨ a.pending = none := by
  unfold attempt?
  cases a.target <;> cases a.pending <;> simp

/-- What a flush does that hands something to the store, or nothing. It fails if the store did, and says that it wrote if the store did.
The session changes only then: nothing waits any more, and the time is kept and the write counted. -/
structure Answers (a : AutosaveSession) (around : Surroundings) (w? : Option Attempt) (f : Flushed) : Prop where
  disk : f.disk = (w?.map Attempt.left).getD around.disk
  error_iff : (∃ e, f.written = .error e) ↔ ∃ w, w? = some w ∧ w.succeeds = false
  true_iff : f.written = .ok true ↔ ∃ w, w? = some w ∧ w.succeeds = true
  saved : f.written = .ok true → f.session = a.saved around.clock
  unchanged : f.written ≠ .ok true → f.session = a

/-- Nothing was handed to the store. -/
theorem answers_nothing (a : AutosaveSession) (around : Surroundings) :
    a.Answers around none { written := .ok false, session := a, disk := around.disk } where
  disk := rfl
  error_iff := by simp
  true_iff := by simp
  saved := nofun
  unchanged := fun _ => rfl

/-- The store did not write what it was handed. -/
theorem answers_failed (hw : w.succeeds = false) (e : PluginError) :
    a.Answers around (some w) { written := .error e, session := a, disk := w.left } where
  disk := rfl
  error_iff := by simp [hw]
  true_iff := by simp [hw]
  saved := nofun
  unchanged := fun _ => rfl

/-- The store wrote what it was handed. -/
theorem answers_written {f : Flushed} (hw : w.succeeds = true) (hf : f.written = .ok true) (hs : f.session = a.saved around.clock)
    (hd : f.disk = w.left) : a.Answers around (some w) f where
  disk := hd
  error_iff := by simp [hw, hf]
  true_iff := by simp [hw, hf]
  saved := fun _ => hs
  unchanged := fun hne => absurd hf hne

theorem answers_flush (a : AutosaveSession) (around : Surroundings) : a.Answers around (a.attempt? around) (a.flush around) := by
  cases ht : a.target with
  | none =>
    rw [flush_of_target_none ht, attempt?_eq_none.2 (Or.inl ht)]
    exact answers_nothing a around
  | some target =>
    have hattempt : ∀ content, a.pending = some content → a.attempt? around = some { target, content, around } :=
      fun content hp => attempt?_eq_some.2 ⟨ht, hp, rfl⟩
    rcases flush_cases ht around with ⟨hp, hf⟩ | ⟨content, e, hp, hf, he⟩ | ⟨content, d, hp, hw, hwritten, hsession, hdisk⟩
    · rw [hf, attempt?_eq_none.2 (Or.inr hp)]
      exact answers_nothing a around
    · have hfails : Attempt.succeeds { target, content, around } = false := by
        rw [Attempt.succeeds, Attempt.outcome, he]
        rfl
      have hleft : Attempt.left { target, content, around } = (target.settings.storage.write around.disk target.document content).2 :=
        if_neg (by rw [hfails]; exact Bool.false_ne_true)
      rw [hattempt content hp, hf, ← hleft]
      exact answers_failed hfails _
    · have hwrites : Attempt.succeeds { target, content, around } = true := by
        rw [Attempt.succeeds, Attempt.outcome, hw]
        rfl
      have hleft : Attempt.left { target, content, around } = afterHook target d := by
        rw [Attempt.left, if_pos hwrites, Attempt.outcome, hw]
      rw [hattempt content hp]
      exact answers_written hwrites hwritten hsession (hdisk.trans hleft.symm)

/-- What is not written leaves the session as it is. -/
theorem Answers.session_eq {w? : Option Attempt} {f : Flushed} (hf : a.Answers around w? f)
    (hw : ∀ w, w? = some w → w.succeeds = false) : f.session = a := by
  refine hf.unchanged fun hwritten => ?_
  obtain ⟨w, rfl, hs⟩ := hf.true_iff.1 hwritten
  rw [hw w rfl] at hs
  cases hs

theorem answers_flushIfDue (a : AutosaveSession) (around : Surroundings) (now : Nat) :
    a.Answers around (a.attemptIfDue? around now) (a.flushIfDue around now) := by
  unfold attemptIfDue? flushIfDue
  split
  · exact answers_flush a around
  · exact answers_nothing a around

/-! ## What a session remembers -/

/-- What one event makes of a session. What waits is handed to the store, for the target of the session, and if it is written then nothing
waits. -/
structure Follows (a : AutosaveSession) (e : Event) (b : AutosaveSession) : Prop where
  target : b.target = e.bound?.or a.target
  lastSave : b.lastSave = e.time?.or a.lastSave
  saves : b.saves = a.saves + e.written?.toList.length
  pending : b.pending = if e.written?.isSome then none else e.recorded?.or a.pending
  attempted : ∀ w, e = .attempted w → a.target = some w.target ∧ a.pending = some w.content

theorem follows_bind (a : AutosaveSession) (target : AutosaveTarget) (clock : Nat) :
    a.Follows (.bound target clock) (a.bind target clock) :=
  ⟨rfl, rfl, rfl, rfl, nofun⟩

theorem follows_recordChange (a : AutosaveSession) (content : ByteArray) : a.Follows (.recorded content) (a.recordChange content) :=
  ⟨rfl, rfl, rfl, rfl, nofun⟩

/-- What is handed to the store is written and waits no more, or nothing changes. -/
theorem Answers.follows {f : Flushed} (hf : a.Answers around (some w) f) (hw : a.attempt? around = some w) :
    a.Follows (.attempted w) f.session := by
  obtain ⟨ht, hp, haround⟩ := attempt?_eq_some.1 hw
  have hattempted : ∀ w', Event.attempted w = .attempted w' → a.target = some w'.target ∧ a.pending = some w'.content := by
    rintro w' ⟨⟩
    exact ⟨ht, hp⟩
  cases hs : w.succeeds with
  | false =>
    rw [hf.session_eq fun w' hw' => Option.some.inj hw' ▸ hs]
    refine ⟨rfl, ?_, ?_, ?_, hattempted⟩ <;> simp [Event.time?, Event.written?, Event.recorded?, hs]
  | true =>
    rw [hf.saved (hf.true_iff.2 ⟨w, rfl, hs⟩)]
    refine ⟨rfl, ?_, ?_, ?_, hattempted⟩ <;> simp [Event.time?, Event.written?, hs, haround, AutosaveSession.saved]

/-- What a session has kept of what happened to it. The content that was recorded last waits, or else it was written last. -/
structure Remembers (es : List Event) (a : AutosaveSession) : Prop where
  target : a.target = latest Event.bound? es
  lastSave : a.lastSave = latest Event.time? es
  saves : a.saves = (es.filterMap Event.written?).length
  recorded : latest Event.recorded? es = a.pending.or (latest Event.written? es)
  isDirty_iff : a.isDirty = true ↔ LastIn es (·.recorded?.isSome = true) (·.written?.isSome = true)
  /-- What was handed to the store was recorded last, for the target that was bound last. -/
  attempted : ∀ before w after, es = before ++ .attempted w :: after →
    latest Event.bound? before = some w.target ∧ latest Event.recorded? before = some w.content

theorem remembers_nil : Remembers [] {} :=
  ⟨rfl, rfl, rfl, rfl, iff_of_false Bool.false_ne_true (LastIn.not_nil _ _), fun before w after h => by cases before <;> cases h⟩

/-- Content that is written was handed to the store. -/
theorem Event.eq_attempted {content : ByteArray} (h : e.written? = some content) : ∃ w, e = .attempted w ∧ w.content = content := by
  cases e with
  | bound target clock => cases h
  | recorded content => cases h
  | attempted w =>
    rw [Event.written?] at h
    split at h
    · exact ⟨w, rfl, Option.some.inj h⟩
    · cases h

/-- A session goes on remembering, whatever happens. -/
theorem Remembers.concat {b : AutosaveSession} (h : Remembers es a) (hf : a.Follows e b) : Remembers (es ++ [e]) b where
  target := by rw [hf.target, h.target, latest_concat]
  lastSave := by rw [hf.lastSave, h.lastSave, latest_concat]
  saves := by
    rw [hf.saves, h.saves, List.filterMap_append, List.length_append]
    cases he : e.written? <;> simp [he]
  recorded := by
    rw [latest_concat, latest_concat, h.recorded, hf.pending]
    cases he : e.written? with
    | none => simp [Option.or_assoc]
    | some content =>
      obtain ⟨w, rfl, rfl⟩ := Event.eq_attempted he
      simp [(hf.attempted w rfl).2, Event.recorded?]
  isDirty_iff := by
    rw [LastIn.append_iff, LastIn.singleton_iff, ← h.isDirty_iff, List.forall_mem_singleton, isDirty, isDirty, hf.pending]
    cases he : e.written? with
    | none => simp
    | some content =>
      obtain ⟨w, rfl, rfl⟩ := Event.eq_attempted he
      simp [Event.recorded?]
  attempted := by
    intro before w after hes
    -- either this is the event at hand, or it came before and is remembered
    rcases List.eq_nil_or_concat after with rfl | ⟨rest, last, rfl⟩
    · obtain ⟨rfl, he⟩ := List.append_inj' hes rfl
      obtain ⟨ht, hp⟩ := hf.attempted w (List.cons.inj he).1
      rw [← h.target, h.recorded, hp]
      exact ⟨ht, Option.some_or⟩
    · rw [List.concat_eq_append, ← List.cons_append, ← List.append_assoc] at hes
      exact h.attempted before w rest (List.append_inj' hes rfl).1

/-- What a flush hands to the store or not, and what it leaves, is remembered. -/
theorem Remembers.flushed {w? : Option Attempt} {f : Flushed} (h : Remembers es a) (hf : a.Answers around w? f)
    (hw : ∀ w, w? = some w → a.attempt? around = some w) : Remembers (es ++ w?.toList.map .attempted) f.session := by
  cases w? with
  | none =>
    rw [hf.session_eq nofun, Option.toList_none, List.map_nil, List.append_nil]
    exact h
  | some w => exact h.concat (hf.follows (hw w rfl))

theorem Remembers.perform (h : Remembers es a) (call : Call) : Remembers (es ++ a.events call) (a.perform call) := by
  cases call with
  | bind target clock => exact h.concat (follows_bind a target clock)
  | recordChange content => exact h.concat (follows_recordChange a content)
  | flush around => exact h.flushed (answers_flush a around) fun _ hw => hw
  | flushIfDue around now =>
    refine h.flushed (answers_flushIfDue a around now) fun w hw => ?_
    unfold attemptIfDue? at hw
    split at hw
    · exact hw
    · cases hw

/-- A session remembers what happened since it was new. -/
theorem remembers_history (calls : List Call) : Remembers (history {} calls) (performAll {} calls) := by
  -- from the end: what happens in a call is up to the session that it finds
  induction calls using List.reverseRecOn with
  | nil => exact remembers_nil
  | append_singleton calls call ih =>
    rw [history_concat, performAll_concat]
    exact ih.perform call

/-- What a flush hands to the store, told from what happened before. -/
theorem Remembers.attempt?_eq_some (h : Remembers es a) : a.attempt? around = some w ↔
    LastIn es (·.recorded?.isSome = true) (·.written?.isSome = true) ∧
      latest Event.bound? es = some w.target ∧ latest Event.recorded? es = some w.content ∧ w.around = around := by
  rw [AutosaveSession.attempt?_eq_some, ← h.isDirty_iff, ← h.target, h.recorded, isDirty]
  cases a.pending <;> simp

/-- A flush hands something to the store when it is due if it would at any time, and the interval is over. -/
theorem Remembers.attemptIfDue?_eq_some (h : Remembers es a) : a.attemptIfDue? around now = some w ↔
    a.attempt? around = some w ∧ ∃ time, latest Event.time? es = some time ∧ w.target.settings.interval ≤ now - time := by
  rw [attemptIfDue?, Option.ite_none_right_eq_some, and_comm, and_congr_right_iff, ← h.lastSave]
  intro hw
  obtain ⟨ht, hp, -⟩ := AutosaveSession.attempt?_eq_some.1 hw
  rw [isDue, ht, isDirty, hp]
  cases a.lastSave <;> simp

/-- Without a target nothing is handed to the store, and what was recorded last waits. -/
theorem Remembers.unbound (h : Remembers es a) (hnone : latest Event.bound? es = none) :
    (∀ w, .attempted w ∉ es) ∧ a.pending = latest Event.recorded? es := by
  have hnever : ∀ w, Event.attempted w ∉ es := by
    intro w hw
    obtain ⟨before, after, rfl⟩ := List.append_of_mem hw
    have hbefore : latest Event.bound? before = none :=
      latest_eq_none.2 fun e he => latest_eq_none.1 hnone e (List.mem_append_left _ he)
    rw [(h.attempted before w after rfl).1] at hbefore
    cases hbefore
  have hunwritten : latest Event.written? es = none := by
    refine latest_eq_none.2 fun e he => Option.eq_none_iff_forall_ne_some.2 fun content hw => ?_
    obtain ⟨w, rfl, -⟩ := Event.eq_attempted hw
    exact hnever w he
  refine ⟨hnever, ?_⟩
  rw [h.recorded, hunwritten, Option.or_none]

variable {calls : List Call}

/-- In whatever order a new session is called, and whatever the store answers: the content that was recorded last waits or was written
last. A flush fails if the store does, and then nothing changes; it says that it wrote if the store did, and the writes are counted. What it
hands to the store is the content that was recorded last, if that was not written since, and if it is to be due then at least the interval
has passed since the last write or the binding. Without a target nothing is ever written, and the content that was recorded last waits. -/
theorem waits_or_written (hes : history {} calls = es) (ha : performAll {} calls = a) :
    Remembers es a ∧
    (∀ around, a.Answers around (a.attempt? around) (a.flush around)) ∧
    (∀ around now, a.Answers around (a.attemptIfDue? around now) (a.flushIfDue around now)) ∧
    (∀ around w, a.attempt? around = some w ↔
      LastIn es (·.recorded?.isSome = true) (·.written?.isSome = true) ∧
        latest Event.bound? es = some w.target ∧ latest Event.recorded? es = some w.content ∧ w.around = around) ∧
    (∀ around now w, a.attemptIfDue? around now = some w ↔
      a.attempt? around = some w ∧ ∃ time, latest Event.time? es = some time ∧ w.target.settings.interval ≤ now - time) ∧
    (latest Event.bound? es = none → (∀ w, .attempted w ∉ es) ∧ a.pending = latest Event.recorded? es) := by
  obtain rfl := hes
  obtain rfl := ha
  have h := remembers_history calls
  exact ⟨h, answers_flush _, answers_flushIfDue _, fun _ _ => h.attempt?_eq_some, fun _ _ _ => h.attemptIfDue?_eq_some, h.unbound⟩

/-- A list that is saved every minute. -/
def todo : AutosaveTarget := { document := "notes/todo", settings := { storage := ⟨⟨"docs"⟩⟩, interval := 60, hook := none } }

/-- The list is written down, and cannot be saved since its directory is missing. -/
def todoCalls : List Call :=
  [.bind todo 0, .recordChange "buy milk".toUTF8, .flush { disk := { entries := [], workingDirectory := ["work"] }, clock := 5 }]

/-- What could not be saved waits. It is not saved again before a minute is over, and then it is. -/
theorem waits_or_written_todo :
    (performAll {} todoCalls).pending = some "buy milk".toUTF8 ∧ (performAll {} todoCalls).saves = 0 ∧
    ((performAll {} todoCalls).flushIfDue { disk := Disk.empty, clock := 59 } 59).written ≠ .ok true ∧
    ((performAll {} todoCalls).flushIfDue { disk := Disk.empty, clock := 60 } 60).session =
      { target := some todo, pending := none, lastSave := some 60, saves := 1 } := by
  obtain ⟨h, -, hdue, hattempt, hattemptIfDue, -⟩ := waits_or_written (rfl : history {} todoCalls = _) rfl
  have hwritten : latest Event.written? (history {} todoCalls) = none := rfl
  have hrecorded : latest Event.recorded? (history {} todoCalls) = some "buy milk".toUTF8 := rfl
  have hpending : (performAll {} todoCalls).pending = some "buy milk".toUTF8 := by
    have hkept := h.recorded
    rw [hwritten, hrecorded, Option.or_none] at hkept
    exact hkept.symm
  refine ⟨hpending, h.saves, fun hearly => ?_, ?_⟩
  · obtain ⟨w, hw, -⟩ := (hdue _ _).true_iff.1 hearly
    obtain ⟨hw, time, htime, hover⟩ := (hattemptIfDue _ _ _).1 hw
    cases htime
    obtain ⟨-, hbound, -⟩ := (hattempt _ _).1 hw
    rw [← Option.some.inj hbound] at hover
    exact absurd hover (by decide)
  · have hw : (performAll {} todoCalls).attempt? { disk := Disk.empty, clock := 60 } =
        some { target := todo, content := "buy milk".toUTF8, around := { disk := Disk.empty, clock := 60 } } :=
      (hattempt _ _).2 ⟨h.isDirty_iff.1 (by rw [isDirty, hpending]; rfl), rfl, hrecorded, rfl⟩
    have hwdue := (hattemptIfDue _ 60 _).2 ⟨hw, 0, rfl, by decide⟩
    exact (hdue _ _).saved ((hdue _ _).true_iff.2 ⟨_, hwdue, by decide +kernel⟩)

end AutosaveSession
end CoEdit
