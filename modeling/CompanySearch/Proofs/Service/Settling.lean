-- Every batch of tasks comes to an end within the steps that it is allowed. A task has three turns
-- at most: when it begins, when it gets the refresh lock and when its fetch ends.
import CompanySearch.Proofs.Service.BoardSteps
import CompanySearch.Proofs.Service.Labels

namespace CompanySearch.Service

open Cache

namespace Board

variable {n : Nat} {turns : Nat → Nat} {b : Board} {i k : Nat}

/-! ## All tasks come to an end -/

/-- A task that has no turn left has ended. -/
theorem Fits.ended_of_no_turns {stage : Stage} (h : b.Fits i 0 stage) :
    ∃ result time, stage = .ended result time := by
  cases h with
  | asleep wake away turns_le => contradiction
  | ended result time unready away => exact ⟨result, time, rfl⟩
  | calling since k c call listed turns_le =>
    generalize c.phase = p at listed turns_le
    cases listed with
    | queued waits unready => contradiction
    | rechecking ready away => contradiction
    | fetching fetch startedAt due away isDue => contradiction

/-- A task that neither can go on nor waits for a time waits for the refresh lock. -/
theorem Orderly.queued_of_not_due (h : b.Orderly n turns none) (hready : b.ready = [])
    (hcalls : b.Calls i k) (notDue : b.service.cache.dueTime k = none) :
    i ∈ b.waiting ∧ ∃ c : Call, b.service.cache.calls[k]? = some c ∧ c.phase = .queued := by
  obtain ⟨work, since, ht⟩ := hcalls
  have hfits := h.fits i _ nofun ht
  cases hfits with
  | calling since k c hc listed turns_le =>
    obtain ⟨kind, startedAt, phase⟩ := c
    cases listed with
    | queued waits unready => exact ⟨waits, _, hc, rfl⟩
    | rechecking ready away =>
      rw [hready] at ready
      contradiction
    | fetching fetch fetchedFrom due away isDue =>
      unfold State.dueTime at notDue
      rw [hc] at notDue
      contradiction

/-- A board that takes no step has come to its end: while a task waits for the refresh lock, its
holder waits for the store and can be woken. -/
theorem Orderly.ended_of_stuck (h : b.Orderly n turns none) (hover : b.HandedOver)
    (hstep : b.step = none) : ∀ t ∈ b.tasks, ∃ result time, t.stage = .ended result time := by
  unfold Board.step at hstep
  cases hready : b.ready with
  | cons i rest =>
    rw [hready] at hstep
    contradiction
  | nil =>
    rw [hready] at hstep
    have sleepless := nextWake?_eq_none.mp (Option.map_eq_none_iff.mp hstep)
    have queued (i k : Nat) (hcalls : b.Calls i k) : i ∈ b.waiting ∧
        ∃ c : Call, b.service.cache.calls[k]? = some c ∧ c.phase = .queued := by
      have hnone : b.service.cache.dueTime k = none := by
        obtain ⟨work, since, ht⟩ := hcalls
        exact sleepless _ (List.mem_of_getElem? ht)
      exact h.queued_of_not_due hready hcalls hnone
    rintro ⟨work, stage⟩ ht
    have hwake := sleepless _ ht
    cases stage with
    | asleep wake => contradiction
    | ended result time => exact ⟨result, time, rfl⟩
    | calling since k =>
      obtain ⟨i, hi⟩ := List.mem_iff_getElem?.mp ht
      have hwaiting := (queued i k ⟨work, since, hi⟩).1
      cases hlock : b.service.cache.refreshLock with
      | none =>
        rw [hover hlock] at hwaiting
        contradiction
      | some m =>
        obtain ⟨j, hcalls⟩ := h.holder_calls m hlock
        obtain ⟨-, c, hc, hp⟩ := queued j m hcalls
        obtain ⟨d, hd, hholds⟩ := h.sound.lock_held m hlock
        rw [hc] at hd
        cases hd
        simp [hp, Phase.holds] at hholds

/-- With as many steps as are left, a board comes to its end. -/
theorem Orderly.settle {fuel : Nat} (h : b.Orderly n turns none) (hover : b.HandedOver)
    (enough : b.left n turns ≤ fuel) :
    (∃ turns', Orderly n turns' none (settle fuel b)) ∧
      ∀ t ∈ (settle fuel b).tasks, ∃ result time, t.stage = .ended result time := by
  induction fuel generalizing b turns with
  | zero =>
    refine ⟨⟨turns, h⟩, fun t ht => ?_⟩
    obtain ⟨i, hi⟩ := List.mem_iff_getElem?.mp ht
    have hlt : i < n := h.count ▸ (List.getElem?_eq_some_iff.mp hi).1
    have hsum : ∑ j ∈ Finset.range n, turns j = 0 := by
      unfold left at enough
      omega
    have hturns := Finset.sum_eq_zero_iff.mp hsum i (Finset.mem_range.mpr hlt)
    have hfits := h.fits i t nofun hi
    rw [hturns] at hfits
    exact hfits.ended_of_no_turns
  | succ fuel ih =>
    cases hstep : b.step with
    | none =>
      rw [settle_stop hstep]
      exact ⟨⟨turns, h⟩, h.ended_of_stuck hover hstep⟩
    | some next =>
      rw [settle_step hstep]
      obtain ⟨turns', hnext, hover', hless⟩ := h.step hstep
      exact ih hnext (hover' hover) (by omega)

/-- When all tasks have ended, nobody holds the refresh lock. -/
theorem Orderly.unlocked (h : b.Orderly n turns none)
    (ended : ∀ t ∈ b.tasks, ∃ result time, t.stage = .ended result time) :
    b.service.cache.refreshLock = none := by
  cases hlock : b.service.cache.refreshLock with
  | none => rfl
  | some k =>
    obtain ⟨i, work, since, ht⟩ := h.holder_calls k hlock
    obtain ⟨result, time, hstage⟩ := ended _ (List.mem_of_getElem? ht)
    contradiction

end Board

/-! ## Runs of the service -/

/-- A service with nothing under way. -/
structure AtRest (s : Service) : Prop where
  sound : s.cache.Sound
  unheld : s.cache.refreshLock = none

/-- A batch of tasks before its first step. -/
def opening (s : Service) (works : List (Nat × Work)) : Board where
  service := s
  tasks := works.map fun p => ⟨p.2, .asleep (s.now + p.1)⟩
  ready := (works.zipIdx.filter fun p => p.1.1 == 0).map Prod.snd
  waiting := []

theorem not_calls_opening (s : Service) (works : List (Nat × Work)) (i k : Nat) :
    ¬ (opening s works).Calls i k := by
  rintro ⟨work, since, ht⟩
  obtain ⟨p, -, heq⟩ := List.mem_map.mp (List.mem_of_getElem? ht)
  cases heq

/-- The tasks that can go on at once are among all tasks in their order. -/
theorem opening_ready_sublist (s : Service) (works : List (Nat × Work)) :
    (opening s works).ready.Sublist (List.range works.length) := by
  have hsublist := (List.filter_sublist (l := works.zipIdx) (p := fun p => p.1.1 == 0)).map Prod.snd
  rwa [List.zipIdx_map_snd, ← List.range_eq_range'] at hsublist

/-- At first each task has all its turns before it. -/
theorem AtRest.opening_orderly {s : Service} (h : s.AtRest) (works : List (Nat × Work)) :
    (opening s works).Orderly works.length (fun _ => 3) none where
  sound := h.sound
  count := List.length_map _
  ready_nodup := (opening_ready_sublist s works).nodup List.nodup_range
  waiting_nodup := List.nodup_nil
  known := by
    rintro i (hi | hi)
    · exact List.mem_range.mp ((opening_ready_sublist s works).subset hi)
    · contradiction
  active_away := nofun
  fits := by
    intro i t _ ht
    obtain ⟨p, -, rfl⟩ := List.mem_map.mp (List.mem_of_getElem? ht)
    exact .asleep _ List.not_mem_nil (Nat.le_refl _)
  call_known := fun i k hcalls => absurd hcalls (not_calls_opening s works i k)
  one_caller := fun i _ k hcalls => absurd hcalls (not_calls_opening s works i k)
  holder_calls := by
    intro k hlock
    rw [show (opening s works).service.cache.refreshLock = none from h.unheld] at hlock
    contradiction

/-- The steps that are allowed are enough for all turns. -/
theorem left_opening_le (s : Service) (works : List (Nat × Work)) :
    (opening s works).left works.length (fun _ => 3) ≤ Board.stepsPerTask * (works.length + 1) := by
  unfold Board.left Board.stepsPerTask
  rw [Finset.sum_const_nat fun _ _ => rfl, Finset.card_range]
  split <;> omega

/-- Every task of a batch comes to its end, and then the service is at rest again. -/
theorem AtRest.runAll {s : Service} (h : s.AtRest) (works : List (Nat × Work)) :
    (s.runAll works).2.length = works.length ∧
      (∀ stage ∈ (s.runAll works).2, ∃ result time, stage = .ended result time) ∧
      (s.runAll works).1.AtRest := by
  obtain ⟨⟨turns, hlast⟩, hended⟩ :=
    (h.opening_orderly works).settle (fun _ => rfl) (left_opening_le s works)
  refine ⟨(List.length_map _).trans hlast.count, ?_, hlast.sound, hlast.unlocked hended⟩
  intro stage hstage
  obtain ⟨t, ht, rfl⟩ := List.mem_map.mp hstage
  exact hended t ht

/-- All tasks that the service runs next come to their ends within the steps that they are allowed,
and the result that a run gives where its task has not ended is not needed. -/
structure EndsAllTasks (s : Service) : Prop where
  all : ∀ works, (s.runAll works).2.length = works.length ∧
    ∀ stage ∈ (s.runAll works).2, ∃ result time, stage = .ended result time
  alone : ∀ work, ∃ t result time,
    s.runAll [(0, work)] = (t, [.ended result time]) ∧ s.run work = (t, result)

theorem AtRest.endsAllTasks {s : Service} (h : s.AtRest) : s.EndsAllTasks where
  all := by
    intro works
    obtain ⟨hlength, hended, -⟩ := h.runAll works
    exact ⟨hlength, hended⟩
  alone := by
    intro work
    obtain ⟨hlength, hended, -⟩ := h.runAll [(0, work)]
    obtain ⟨stage, hstages⟩ := List.length_eq_one_iff.mp hlength
    obtain ⟨result, time, rfl⟩ := hended stage (by simp [hstages])
    have hall : s.runAll [(0, work)] = ((s.runAll [(0, work)]).1, [.ended result time]) := by
      rw [← hstages]
    refine ⟨_, result, time, hall, ?_⟩
    unfold Service.run
    rw [hall]

/-! ## Services at rest -/

/-- A service that has been started is at rest, warmed up or not. -/
theorem startOver_atRest {settings : Settings} {store store' : Store} {events : List Log.Event}
    {timeText : Nat → String} {s : Service}
    (h : (startOver settings events timeText).run store = .ok s store') : s.AtRest := by
  obtain ⟨-, -, hcache⟩ := startOver_ok_cases settings store events timeText h
  unfold startedCache at hcache
  split at hcache
  · have alone := (State.start_cold store settings.cache.ttl).performs .warm rfl
    rw [← hcache] at alone
    exact ⟨alone.sound, alone.unheld⟩
  · constructor
    · rw [hcache]
      exact State.start_sound store _
    · rw [hcache]
      rfl

theorem AtRest.openWeb {s : Service} (h : s.AtRest) (server : ServerSettings) :
    (s.openWeb server).AtRest := by
  have hcache : (s.openWeb server).cache = s.cache := logAll_cache _ _
  constructor
  · rw [hcache]
    exact h.sound
  · rw [hcache]
    exact h.unheld

theorem AtRest.serve {s : Service} (h : s.AtRest) (batches : List (List (Nat × Work))) :
    (s.serve batches).AtRest := by
  unfold Service.serve
  induction batches generalizing s with
  | nil => exact h
  | cons works batches ih => exact ih (h.runAll works).2.2

/-! ## The law -/

/-- Once a service has been started, and opened to the web or not, all tasks of all batches come to
their ends within the steps that they are allowed. -/
theorem all_tasks_come_to_their_ends {settings : Settings} {store store' : Store}
    {events : List Log.Event} {timeText : Nat → String} {s : Service}
    (started : (startOver settings events timeText).run store = .ok s store')
    (server : ServerSettings) (batches : List (List (Nat × Work))) :
    (s.serve batches).EndsAllTasks ∧ ((s.openWeb server).serve batches).EndsAllTasks := by
  have atRest := startOver_atRest started
  exact ⟨(atRest.serve batches).endsAllTasks, ((atRest.openWeb server).serve batches).endsAllTasks⟩

end CompanySearch.Service
