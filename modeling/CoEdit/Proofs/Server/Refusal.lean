import CoEdit.Proofs.Server.Listening

/-!
# Refused reloads

A reload that is refused, at whatever stage, leaves the server as it was (`ReloadEngine.reload_refused`). What it acquired on the way
is gone again, what the server had before is still there and open, and nothing was done to the disk or to a plugin.
-/

namespace CoEdit
namespace ReloadEngine

variable {e e' : ReloadEngine} {s s' : Server} {h h' : Host} {source : ConfigSource} {r : Refusal}

/-- A reload is refused exactly if acquiring fails, and all that is done then is to log it. -/
theorem reload_error (he : e.reload s h source = (.error r, e', s', h')) :
    ∃ h₁, s.acquire h source = (.error r, h₁) ∧ s' = s ∧ e' = ⟨e.generation + 1⟩ ∧
      h' = h₁.log (refusalEntry (e.generation + 1) r) := by
  rw [Server.reload_eq] at he
  revert he
  generalize s.acquire h source = x
  obtain ⟨a, h₁⟩ := x
  intro he
  cases a with
  | ok a => cases he
  | error r' =>
    cases he
    exact ⟨h₁, rfl, rfl, rfl, rfl⟩

/-- A refused reload leaves the server as it was and counts as one more attempt. The host has only logged: its disk is the same and
no plugin was made or called. The listeners of the endpoints are open on the ports they had, all listeners there were are as they
were, and every listener made on the way is neither bound nor open. -/
theorem reload_refused {h₀ : Host} (hr : Server.Reached (fun _ => True) (fun _ => True) h₀ s h)
    (he : e.reload s h source = (.error r, e', s', h')) :
    s' = s ∧ e'.generation = e.generation + 1 ∧ h.Calm h' ∧
      (∀ x ∈ s'.pool, h'.network.isOpen x.listener = true ∧
        ∃ port, h.network.port? x.listener = some port ∧ h'.network.port? x.listener = some port) ∧
      (∀ i, i < h.network.listeners.length → h'.network.state? i = h.network.state? i) ∧
      ∀ i, h.network.listeners.length ≤ i → h'.network.Idle i := by
  obtain ⟨h₁, ha, rfl, rfl, rfl⟩ := reload_error he
  obtain ⟨hc, hh, -⟩ := Server.acquire_holds ha
  simp only [Except.map, held_error] at hh
  have ht := hr.tends
  refine ⟨rfl, rfl, hc.log _, ?_, hh.earlier, fun i hi => hh.idle i hi (by simp)⟩
  intro x hx
  have hl := Pool.mem_listeners s'.pool hx
  have hst := ht.state?_eq hh hl
  obtain ⟨st, hs, hb⟩ := ht.holds.bound x.listener hl
  have hp : h.network.port? x.listener = some st.port := by simp [Network.port?, hs, hb]
  refine ⟨?_, st.port, hp, ?_⟩
  · rw [Host.network_log, Network.isOpen_congr hst]
    exact ht.isOpen _ hl
  · rw [Host.network_log, Network.port?_congr hst]
    exact hp

/-- A configuration without plugins or TLS, on another port. -/
def elsewhere : ConfigSource :=
  .inline .json "\x7b\"security\":\x7b\"policy\":\"no-tls\"\x7d,\"server\":\x7b\"port\":7000\x7d\x7d"

/-- The plain server keeps both its listeners when it is told to use a port that cannot be had. -/
theorem reload_refused_plain : ∃ s h r e' s' h',
    Server.Reached (fun _ => True) (fun _ => True) .blank s h ∧
    reload {} s h elsewhere = (.error r, e', s', h') ∧
    s'.pool.length = 2 ∧ e'.generation = 1 ∧ ∀ x ∈ s'.pool, h'.network.isOpen x.listener = true := by
  let taken : Circumstances :=
    { disk := .empty, environment := [], clock := 0, bindFailures := [(.ipv4, 7000), (.ipv6, 7000)], openFailures := [] }
  have hrun : Server.plainStart.1.toOption.map (fun s =>
      ((reload {} s (Server.plainStart.2.under taken) elsewhere).1.isOk, s.pool.length)) = some (false, 2) := by
    decide +kernel
  obtain ⟨s, h, hs⟩ := Server.plainStart_ok
  rw [hs] at hrun
  simp only [Except.toOption, Option.map_some, Option.some.injEq, Prod.mk.injEq] at hrun
  have hr : Server.Reached (fun _ => True) (fun _ => True) .blank s (h.under taken) :=
    .step (.start trivial hs) (.circumstances taken) trivial
  cases hl : reload {} s (h.under taken) elsewhere with
  | mk a x =>
    obtain ⟨e', s', h'⟩ := x
    rw [hl] at hrun
    cases a with
    | ok a => cases hrun.1
    | error r =>
      obtain ⟨rfl, hg, -, ho, -, -⟩ := reload_refused hr hl
      exact ⟨s', h.under taken, r, e', s', h', hr, hl, hrun.2, hg, fun x hx => (ho x hx).1⟩

end ReloadEngine
end CoEdit
