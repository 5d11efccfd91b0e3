-- No call blocks the others for good. Whoever enters the guard of the entry leaves it in the same
-- step, and whoever holds the refresh lock can go on once the answer of the store is due. So all
-- that is under way can come to an end, and then both locks are free.
import CompanySearch.Proofs.Cache.Accounting

namespace CompanySearch.Cache

/-- How many steps a call has before it at most. -/
def Phase.rank : Phase → Nat
  | .starting => 5
  | .queued => 4
  | .rechecking => 3
  | .fetching _ _ _ => 2
  | .installing _ _ => 1
  | .finished _ _ => 0

theorem Phase.exists_finished {p : Phase} (h : p.hasFinished = true) :
    ∃ o time, p = .finished o time := by
  cases p <;> simp_all [hasFinished]

namespace State

/-! ## Who can go on -/

def CanGoOn (s : State) (i : Nat) : Prop := ∃ s', s.resume i = some s'

/-- Call `i` holds the refresh lock and waits for the store, whose answer is not due. -/
def AwaitsStore (s : State) (i : Nat) : Prop :=
  ∃ c fetch startedAt due, s.refreshLock = some i ∧ s.calls[i]? = some c ∧
    c.phase = .fetching fetch startedAt due ∧ s.now < due

section progress

variable {s : State} {i : Nat} {c : Call} (sound : s.Sound) (hc : s.calls[i]? = some c)
include sound hc

theorem Sound.canGoOn_of_move {p : Phase} {s' : State} (h : Move s i c p s') : s.CanGoOn i :=
  ⟨s', h.resume sound.guard_free hc⟩

theorem Sound.starting_canGoOn (hp : c.phase = .starting) : s.CanGoOn i := by
  by_cases hreads : c.kind.reads = true
  · cases hv : s.validEntry with
    | some e => exact sound.canGoOn_of_move hc (.hit e hp hreads hv)
    | none => exact sound.canGoOn_of_move hc (.miss hp hreads hv)
  · cases hk : c.kind with
    | invalidate => exact sound.canGoOn_of_move hc (.drop hp hk)
    | status => exact sound.canGoOn_of_move hc (.describe hp hk)
    | dataset => simp [hk, CallKind.reads] at hreads
    | warm => simp [hk, CallKind.reads] at hreads
    | search request => simp [hk, CallKind.reads] at hreads

/-- A call that is past the queue can go on, or waits for the store. -/
theorem Sound.holder_progress (hp : c.phase.holds = true) : s.CanGoOn i ∨ s.AwaitsStore i := by
  have hlock := (sound.phases_fit i c hc).lock hp
  cases hphase : c.phase with
  | rechecking =>
    left
    cases hv : s.validEntry with
    | some e => exact sound.canGoOn_of_move hc (.join e hphase hv)
    | none => exact sound.canGoOn_of_move hc (.fetch hphase hv)
  | fetching fetch startedAt due =>
    by_cases hdue : due ≤ s.now
    · left
      cases ha : s.store.answer with
      | error fault =>
        exact sound.canGoOn_of_move hc (.fail fetch startedAt due fault hphase hdue ha)
      | ok records =>
        exact sound.canGoOn_of_move hc (.deliver fetch startedAt due records hphase hdue ha)
    · exact .inr ⟨c, fetch, startedAt, due, hlock, hc, hphase, Nat.lt_of_not_le hdue⟩
  | installing e took => exact .inl (sound.canGoOn_of_move hc (.install e took hphase))
  | starting => simp [hphase, Phase.holds] at hp
  | queued => simp [hphase, Phase.holds] at hp
  | finished o time => simp [hphase, Phase.holds] at hp

/-- A call that is past the queue can go on if the answer of the store that it waits for is due. -/
theorem Sound.holder_canGoOn (hp : c.phase.holds = true)
    (isDue : ∀ fetch startedAt due, c.phase = .fetching fetch startedAt due → due ≤ s.now) :
    s.CanGoOn i := by
  refine (sound.holder_progress hc hp).resolve_right ?_
  rintro ⟨d, fetch, startedAt, due, -, hd, hdp, early⟩
  rw [hc] at hd
  cases hd
  exact Nat.lt_irrefl _ (Nat.lt_of_lt_of_le early (isDue fetch startedAt due hdp))

/-- While a call has not finished, this call or the holder of the refresh lock can go on, or the
holder waits for the store. -/
theorem Sound.progress (unfinished : c.phase.hasFinished = false) :
    (∃ j, s.CanGoOn j) ∨ ∃ j, s.AwaitsStore j := by
  by_cases hholds : c.phase.holds = true
  · exact (sound.holder_progress hc hholds).imp (⟨i, ·⟩) (⟨i, ·⟩)
  · cases hp : c.phase with
    | starting => exact .inl ⟨i, sound.starting_canGoOn hc hp⟩
    | queued =>
      cases hlock : s.refreshLock with
      | none => exact .inl ⟨i, sound.canGoOn_of_move hc (.lock hp hlock)⟩
      | some j =>
        obtain ⟨d, hd, hdh⟩ := sound.lock_held j hlock
        exact (sound.holder_progress hd hdh).imp (⟨j, ·⟩) (⟨j, ·⟩)
    | rechecking => simp [hp, Phase.holds] at hholds
    | fetching fetch startedAt due => simp [hp, Phase.holds] at hholds
    | installing e took => simp [hp, Phase.holds] at hholds
    | finished o time => simp [hp, Phase.hasFinished] at unfinished

end progress

/-- Once all calls have finished, nobody holds the refresh lock. -/
theorem Sound.unlocked_of_finished {s : State} (sound : s.Sound)
    (finished : ∀ c ∈ s.calls, c.phase.hasFinished = true) : s.refreshLock = none := by
  cases hlock : s.refreshLock with
  | none => rfl
  | some j =>
    obtain ⟨d, hd, hdh⟩ := sound.lock_held j hlock
    obtain ⟨o, time, hp⟩ := Phase.exists_finished (finished d (List.mem_of_getElem? hd))
    simp [hp, Phase.holds] at hdh

/-! ## All calls come to an end -/

/-- How many steps the calls have before them at most. -/
def rank (s : State) : Nat := (s.calls.map fun c => c.phase.rank).sum

theorem Move.rank_lt {s s' : State} {i : Nat} {c : Call} {p : Phase} (h : Move s i c p s') :
    p.rank < c.phase.rank := by
  cases h <;> simp_all [Phase.rank]

/-- Each step of a call leaves fewer. -/
theorem Sound.rank_lt {s s' : State} {i : Nat} (sound : s.Sound) (h : s.resume i = some s') :
    s'.rank < s.rank := by
  obtain ⟨c, p, hc, hm⟩ := exists_move sound.guard_free h
  have hlt := hm.rank_lt
  have hsum := sum_map_modify hc (fun c => c.phase.rank) fun c => { c with phase := p }
  unfold rank
  rw [hm.calls_eq]
  simp only at hsum
  omega

/-- The calls that are under way can come to this state by steps of theirs, with time passing. -/
inductive LeadsTo : State → State → Prop
  | refl (s : State) : LeadsTo s s
  | resume {s m t : State} {i : Nat} : s.resume i = some m → LeadsTo m t → LeadsTo s t
  | elapse {s t : State} (time : Nat) : LeadsTo (s.elapse time) t → LeadsTo s t

/-- When the answer of the store is due, the call that waits for it can go on. -/
theorem Sound.canGoOn_of_elapse {s : State} {i : Nat} (sound : s.Sound) (h : s.AwaitsStore i) :
    ∃ time, (s.elapse time).CanGoOn i := by
  obtain ⟨c, fetch, startedAt, due, -, hc, hp, -⟩ := h
  have sound' : (s.elapse (due - s.now)).Sound := sound.act (a := .elapse (due - s.now)) rfl
  refine ⟨due - s.now, sound'.holder_canGoOn hc (by rw [hp]; rfl) ?_⟩
  intro fetch' startedAt' due' hp'
  rw [hp] at hp'
  cases hp'
  change due ≤ s.now + (due - s.now)
  omega

theorem Sound.leadsTo_end {s : State} (sound : s.Sound) :
    ∃ t, LeadsTo s t ∧ ∀ c ∈ t.calls, c.phase.hasFinished = true := by
  by_cases hall : ∀ c ∈ s.calls, c.phase.hasFinished = true
  · exact ⟨s, .refl s, hall⟩
  · simp only [not_forall] at hall
    obtain ⟨c, hmem, hunfinished⟩ := hall
    obtain ⟨i, hc⟩ := List.mem_iff_getElem?.mp hmem
    rcases sound.progress hc (by simpa using hunfinished) with ⟨j, m, hm⟩ | ⟨j, hj⟩
    · have hlt := sound.rank_lt hm
      obtain ⟨t, ht, hend⟩ := Sound.leadsTo_end (sound.act (a := .resume j) hm)
      exact ⟨t, .resume hm ht, hend⟩
    · obtain ⟨time, m, hm⟩ := sound.canGoOn_of_elapse hj
      have sound' : (s.elapse time).Sound := sound.act (a := .elapse time) rfl
      have hlt : m.rank < s.rank := sound'.rank_lt hm
      obtain ⟨t, ht, hend⟩ := Sound.leadsTo_end (sound'.act (a := .resume j) hm)
      exact ⟨t, .elapse time (.resume hm ht), hend⟩
termination_by s.rank

/-! ## The law -/

/-- While some call has not finished, some call can go on, or the holder of the refresh lock waits
for the store. Between two steps nobody is inside the guard of the entry. With time all calls can
finish, and once they have, the refresh lock is free too. -/
theorem no_call_blocks_for_good {s : State} (reached : s.Reachable) :
    (∀ c ∈ s.calls, c.phase.hasFinished = false →
      (∃ i, s.CanGoOn i) ∨ ∃ i, s.AwaitsStore i) ∧
    s.entryLock = .free ∧
    ((∀ c ∈ s.calls, c.phase.hasFinished = true) → s.refreshLock = none) ∧
    ∃ t, LeadsTo s t ∧ ∀ c ∈ t.calls, c.phase.hasFinished = true := by
  have sound := reached.sound
  refine ⟨?_, sound.guard_free, sound.unlocked_of_finished, sound.leadsTo_end⟩
  intro c hmem unfinished
  obtain ⟨i, hc⟩ := List.mem_iff_getElem?.mp hmem
  exact sound.progress hc unfinished

/-- While one call waits for the store and two for its lock, none can go on, and yet all can
finish. -/
theorem whoever_waits_for_the_store_can_finish : ∃ s : State, s.Reachable ∧
    (∀ i, ¬ s.CanGoOn i) ∧ (∃ i, s.AwaitsStore i) ∧
    ∃ t, LeadsTo s t ∧ ∀ c ∈ t.calls, c.phase.hasFinished = true := by
  have reached : Reachable _ := ⟨.inMemory [], 300000, [.changeStore (.setLatency (some 50)),
    .begin .dataset, .begin .warm, .begin .dataset, .resume 0, .resume 1, .resume 2, .resume 1,
    .resume 1], rfl⟩
  obtain ⟨-, -, -, hend⟩ := no_call_blocks_for_good reached
  refine ⟨_, reached, ?_, ⟨1, _, _, _, _, rfl, rfl, rfl, by decide⟩, hend⟩
  rintro i ⟨s', h⟩
  rcases i with _ | _ | _ | i
  all_goals
    have hnone : none = some s' := h
    contradiction

end State

end CompanySearch.Cache
