-- The steps of a board. In each of them a task takes a turn and the refresh lock is handed over, or
-- time passes until a task wakes. The board stays in order, and fewer steps are left.
import CompanySearch.Proofs.Service.Boards
import Mathlib.Algebra.BigOperators.Group.Finset.Piecewise

namespace CompanySearch.Service.Board

open Cache

variable {n : Nat} {turns : Nat → Nat} {active : Option Nat} {b : Board} {i k : Nat}

/-! ## Turns -/

theorem Orderly.exists_task (h : b.Orderly n turns active) (hi : i < n) :
    ∃ t, b.tasks[i]? = some t := by
  rw [← h.count] at hi
  exact ⟨_, List.getElem?_eq_getElem hi⟩

/-- A task that can go on is asleep, or at work on a call that can go on. -/
theorem Orderly.ready_cases (h : b.Orderly n turns none) (hi : i ∈ b.ready) : i ∉ b.waiting ∧
    ((∃ work wake, b.tasks[i]? = some ⟨work, .asleep wake⟩ ∧ 3 ≤ turns i) ∨
      ∃ work since k c, b.tasks[i]? = some ⟨work, .calling since k⟩ ∧
        b.service.cache.calls[k]? = some c ∧ b.service.cache.CanGoOn k ∧ c.phase ≠ .starting ∧
        2 ≤ c.phase.rank ∧ c.phase.rank ≤ 2 * turns i) := by
  obtain ⟨⟨work, stage⟩, ht⟩ := h.exists_task (h.known i (.inl hi))
  have hfits := h.fits i _ nofun ht
  cases hfits with
  | asleep wake away turns_le => exact ⟨away, .inl ⟨work, wake, ht, turns_le⟩⟩
  | ended result time unready away => exact absurd hi unready
  | calling since k c hc listed turns_le =>
    obtain ⟨kind, startedAt, phase⟩ := c
    cases listed with
    | queued waits unready => exact absurd hi unready
    | rechecking ready away =>
      have goes := h.sound.holder_canGoOn hc rfl nofun
      exact ⟨away, .inr ⟨work, since, k, _, ht, hc, goes, nofun, Nat.le_succ 2, turns_le⟩⟩
    | fetching fetch fetchedFrom due away isDue =>
      have goes := h.sound.holder_canGoOn hc rfl fun _ _ _ hp => by
        cases hp
        exact isDue hi
      exact ⟨away, .inr ⟨work, since, k, _, ht, hc, goes, nofun, Nat.le_refl 2, turns_le⟩⟩

section ready

variable {rest : List Nat} (h : b.Orderly n turns none) (hready : b.ready = i :: rest)
include h hready

/-- A task that can go on leaves the list of those that can, for one of its turns. -/
theorem Orderly.pop :
    Orderly n (Function.update turns i (turns i - 1)) (some i) { b with ready := rest } where
  sound := h.sound
  count := h.count
  ready_nodup := (List.nodup_cons.mp (hready ▸ h.ready_nodup)).2
  waiting_nodup := h.waiting_nodup
  known := fun j hj => h.known j (hj.imp_left fun hr => hready ▸ List.mem_cons_of_mem i hr)
  active_away := by
    rintro j ⟨⟩
    exact ⟨(List.nodup_cons.mp (hready ▸ h.ready_nodup)).1,
      (h.ready_cases (hready ▸ List.mem_cons_self)).1⟩
  fits := by
    intro j t hj ht
    have hne : j ≠ i := fun heq => hj (congrArg some heq.symm)
    have hmem : j ∈ rest ↔ j ∈ b.ready := by simp [hready, hne]
    rw [Function.update_of_ne hne]
    exact (h.fits j t nofun ht).later hmem .rfl (Nat.le_refl _) fun _ _ _ _ hc => hc
  call_known := h.call_known
  one_caller := h.one_caller
  holder_calls := h.holder_calls

/-- A task takes one turn. -/
theorem Orderly.resume : 1 ≤ turns i ∧
    Orderly n (Function.update turns i (turns i - 1)) none
      (Board.resume { b with ready := rest } i) := by
  have hpopped := h.pop hready
  have hmem : i ∈ b.ready := hready ▸ List.mem_cons_self
  have hi := h.known i (.inl hmem)
  obtain ⟨-, ⟨work, wake, ht, hthree⟩ | ⟨work, since, k, c, ht, hc, hgoes, hp, hlow, hrank⟩⟩ :=
    h.ready_cases hmem
  · have free (k : Nat) : ¬ Calls { b with ready := rest } i k := by
      rintro ⟨work', since, ht'⟩
      rw [show b.tasks[i]? = _ from ht'] at ht
      cases ht
    have unheld (k : Nat) (hk : Calls { b with ready := rest } i k) :
        b.service.cache.refreshLock ≠ some k := absurd hk (free k)
    have two : 2 ≤ Function.update turns i (turns i - 1) i := by
      rw [Function.update_self]
      omega
    refine ⟨by omega, ?_⟩
    unfold Board.resume
    simp only [ht]
    cases work with
    | call kind => exact hpopped.call hi free two _ _
    | exchange request id => exact hpopped.exchange hi free two _ _
    | changeStore change =>
      have hchanged := hpopped.withService (s := b.service.changeStore change)
        (h.sound.act (a := .changeStore change) rfl) (Nat.le_refl _) (Nat.le_refl _)
        (fun _ _ _ _ _ hc => hc) fun _ hlock => .inl hlock
      exact hchanged.ended unheld _ _
    | elapse time =>
      have hlater := hpopped.withService (s := b.service.elapse time)
        (h.sound.act (a := .elapse time) rfl) (Nat.le_add_right _ _) (Nat.le_refl _)
        (fun _ _ _ _ _ hc => hc) fun _ hlock => .inl hlock
      exact hlater.ended unheld _ _
  · refine ⟨by omega, ?_⟩
    unfold Board.resume
    simp only [ht]
    refine hpopped.proceed ⟨work, since, ht⟩ hc hgoes ?_ (fun hstarting => absurd hstarting hp)
      (by decide)
    rw [Function.update_self]
    omega

end ready

/-- A task that waits for the refresh lock is at work on a call that does. -/
theorem Orderly.waiting_cases (h : b.Orderly n turns none) (hi : i ∈ b.waiting) : i ∉ b.ready ∧
    ∃ work since k c, b.tasks[i]? = some ⟨work, .calling since k⟩ ∧
      b.service.cache.calls[k]? = some c ∧ c.phase = .queued ∧ c.phase.rank ≤ 2 * turns i := by
  obtain ⟨⟨work, stage⟩, ht⟩ := h.exists_task (h.known i (.inr hi))
  have hfits := h.fits i _ nofun ht
  cases hfits with
  | asleep wake away turns_le => exact absurd hi away
  | ended result time unready away => exact absurd hi away
  | calling since k c hc listed turns_le =>
    obtain ⟨kind, startedAt, phase⟩ := c
    cases listed with
    | queued waits unready => exact ⟨unready, work, since, k, _, ht, hc, rfl, turns_le⟩
    | rechecking ready away => exact absurd hi away
    | fetching fetch fetchedFrom due away isDue => exact absurd hi away

/-- The task that has waited longest can go on once its call gets the refresh lock. -/
theorem Orderly.locks {work : Work} {since : Nat} {rest : List Nat} {c : Call} {s : State}
    (h : b.Orderly n turns none) (hwaiting : b.waiting = i :: rest)
    (ht : b.tasks[i]? = some ⟨work, .calling since k⟩) (hc : b.service.cache.calls[k]? = some c)
    (hrank : 4 ≤ 2 * turns i) (move : State.Move b.service.cache k c .rechecking s)
    (hlock : s.refreshLock = some k) :
    Orderly n turns none { b with
      service := { b.service with cache := s }
      ready := b.ready ++ [i]
      waiting := rest } := by
  have hmem : i ∈ b.waiting := hwaiting ▸ List.mem_cons_self
  have hready := (h.waiting_cases hmem).1
  have hnodup := List.nodup_cons.mp (hwaiting ▸ h.waiting_nodup)
  refine {
    sound := h.sound.move move hc
    count := h.count
    ready_nodup := ?_
    waiting_nodup := hnodup.2
    known := ?_
    active_away := nofun
    fits := ?_
    call_known := ?_
    one_caller := h.one_caller
    holder_calls := ?_ }
  · rw [← List.concat_eq_append]
    exact h.ready_nodup.concat hready
  · rintro j (hj | hj)
    · rcases List.mem_append.mp hj with hold | hnew
      · exact h.known j (.inl hold)
      · rw [List.mem_singleton.mp hnew]
        exact h.known i (.inr hmem)
    · exact h.known j (.inr (hwaiting ▸ List.mem_cons_of_mem i hj))
  · intro j t _ (htj : b.tasks[j]? = some t)
    by_cases hj : j = i
    · subst hj
      rw [htj] at ht
      cases ht
      refine .calling since k _ (move.self hc) (.rechecking (by simp) hnodup.1) ?_
      exact Nat.le_trans (by decide : Phase.rechecking.rank ≤ 4) hrank
    · refine (h.fits j t nofun htj).later (by simp [hj]) (by simp [hwaiting, hj])
        (Nat.le_of_eq move.now_eq.symm) ?_
      intro since' m d hstage hd
      have hne : m ≠ k := by
        rintro rfl
        refine hj (h.one_caller j i m ⟨t.work, since', ?_⟩ ⟨work, since, ht⟩)
        rw [htj, ← hstage]
      rwa [move.other hne]
  · intro j m hm
    rw [move.calls_eq, List.length_modify]
    exact h.call_known j m hm
  · intro m hm
    rw [hlock] at hm
    cases hm
    exact ⟨i, work, since, ht⟩

/-- While the refresh lock is free, nobody waits for it. -/
def HandedOver (b : Board) : Prop := b.service.cache.refreshLock = none → b.waiting = []

theorem Orderly.handOver (h : b.Orderly n turns none) :
    Orderly n turns none b.handOver ∧ b.handOver.HandedOver := by
  unfold Board.handOver
  cases hlock : b.service.cache.refreshLock with
  | some k => exact ⟨h, fun hnone => by simp [hlock] at hnone⟩
  | none =>
    cases hwaiting : b.waiting with
    | nil => exact ⟨h, fun _ => hwaiting⟩
    | cons i rest =>
      obtain ⟨-, work, since, k, c, ht, hc, hp, hrank⟩ :=
        h.waiting_cases (hwaiting ▸ List.mem_cons_self)
      have hlocked : b.service.cache.lockRefresh k =
          some ({ b.service.cache with refreshLock := some k }.setPhase k .rechecking) := by
        unfold State.lockRefresh
        rw [hlock]
      rw [hp] at hrank
      simp only [ht, hlocked, Option.getD_some]
      exact ⟨h.locks hwaiting ht hc hrank (.lock hp hlock) rfl, nofun⟩

/-! ## Time -/

/-- The better of the best so far and one more task: whoever can go on first. -/
def earlier (b : Board) (best : Option (Nat × Nat)) (p : Task × Nat) : Option (Nat × Nat) :=
  match b.wakeTime? p.1 with
  | none => best
  | some time =>
    match best with
    | some (least, _) => if time < least then some (time, p.2) else best
    | none => some (time, p.2)

theorem earlier_eq_none {best : Option (Nat × Nat)} {p : Task × Nat} :
    b.earlier best p = none ↔ best = none ∧ b.wakeTime? p.1 = none := by
  unfold earlier
  cases b.wakeTime? p.1 with
  | none => simp
  | some time =>
    cases best with
    | none => simp
    | some best =>
      obtain ⟨least, i⟩ := best
      simp only
      split <;> simp

theorem earlier_eq_some {best : Option (Nat × Nat)} {p : Task × Nat} {time i : Nat}
    (h : b.earlier best p = some (time, i)) :
    best = some (time, i) ∨ (b.wakeTime? p.1 = some time ∧ p.2 = i) := by
  unfold earlier at h
  cases hwake : b.wakeTime? p.1 with
  | none =>
    rw [hwake] at h
    exact .inl h
  | some time' =>
    rw [hwake] at h
    cases best with
    | none =>
      cases h
      exact .inr ⟨rfl, rfl⟩
    | some best =>
      simp only at h
      split at h
      · cases h
        exact .inr ⟨rfl, rfl⟩
      · exact .inl h

theorem foldl_earlier_eq_none {ps : List (Task × Nat)} {best : Option (Nat × Nat)} :
    ps.foldl b.earlier best = none ↔ best = none ∧ ∀ p ∈ ps, b.wakeTime? p.1 = none := by
  induction ps generalizing best with
  | nil => simp
  | cons p ps ih =>
    rw [List.foldl_cons, ih, earlier_eq_none, List.forall_mem_cons, and_assoc]

theorem foldl_earlier_eq_some {ps : List (Task × Nat)} {best : Option (Nat × Nat)} {time i : Nat}
    (h : ps.foldl b.earlier best = some (time, i)) :
    best = some (time, i) ∨ ∃ p ∈ ps, b.wakeTime? p.1 = some time ∧ p.2 = i := by
  induction ps generalizing best with
  | nil => exact .inl h
  | cons p ps ih =>
    rcases ih h with hbest | ⟨q, hq, hwake⟩
    · rcases earlier_eq_some hbest with hold | hnew
      · exact .inl hold
      · exact .inr ⟨p, List.mem_cons_self, hnew⟩
    · exact .inr ⟨q, List.mem_cons_of_mem p hq, hwake⟩

/-- Nobody is found to wake exactly if no task waits for a time. -/
theorem nextWake?_eq_none : b.nextWake? = none ↔ ∀ t ∈ b.tasks, b.wakeTime? t = none := by
  have hfold : b.nextWake? = b.tasks.zipIdx.foldl b.earlier none := rfl
  rw [hfold, foldl_earlier_eq_none]
  constructor
  · rintro ⟨-, hnone⟩ t ht
    obtain ⟨i, hi⟩ := List.mem_iff_getElem?.mp ht
    exact hnone (t, i) (List.mem_zipIdx_iff_getElem?.mpr hi)
  · intro hnone
    exact ⟨rfl, fun p hp => hnone p.1 (List.mem_of_getElem? (List.mem_zipIdx_iff_getElem?.mp hp))⟩

/-- Whoever is found to wake waits for that time. -/
theorem of_nextWake? {time : Nat} (h : b.nextWake? = some (time, i)) :
    ∃ t, b.tasks[i]? = some t ∧ b.wakeTime? t = some time := by
  have hfold : b.nextWake? = b.tasks.zipIdx.foldl b.earlier none := rfl
  rw [hfold] at h
  obtain ⟨p, hp, hwake, rfl⟩ := (foldl_earlier_eq_some h).resolve_left nofun
  exact ⟨p.1, List.mem_zipIdx_iff_getElem?.mp hp, hwake⟩

/-- When none can go on, time passes until the first one can. -/
theorem Orderly.wakes {time : Nat} (h : b.Orderly n turns none) (hready : b.ready = [])
    (hnext : b.nextWake? = some (time, i)) :
    Orderly n turns none
      { b with service := b.service.elapse (time - b.service.now), ready := [i] } := by
  obtain ⟨⟨work, stage⟩, ht, hwake⟩ := of_nextWake? hnext
  have hi : i < n := h.count ▸ (List.getElem?_eq_some_iff.mp ht).1
  refine {
    sound := h.sound.act (a := .elapse (time - b.service.now)) rfl
    count := h.count
    ready_nodup := List.nodup_singleton i
    waiting_nodup := h.waiting_nodup
    known := ?_
    active_away := nofun
    fits := ?_
    call_known := h.call_known
    one_caller := h.one_caller
    holder_calls := h.holder_calls }
  · rintro j (hj | hj)
    · rwa [List.mem_singleton.mp hj]
    · exact h.known j (.inr hj)
  · intro j t _ (htj : b.tasks[j]? = some t)
    by_cases hj : j = i
    · subst hj
      rw [ht] at htj
      cases htj
      have hfits := h.fits j _ nofun ht
      cases hfits with
      | asleep wake away turns_le => exact .asleep wake away turns_le
      | ended result time unready away => contradiction
      | calling since k c hc listed turns_le =>
        obtain ⟨d, fetch, startedAt, hd, hp⟩ := State.exists_of_dueTime hwake
        rw [hc] at hd
        cases hd
        refine .calling since k c hc ?_ turns_le
        rw [hp] at listed ⊢
        cases listed with
        | fetching fetch startedAt due away isDue =>
          refine .fetching fetch startedAt time away fun _ => ?_
          change time ≤ b.service.now + (time - b.service.now)
          omega
    · exact (h.fits j t nofun htj).later (by simp [hready, hj]) .rfl (Nat.le_add_right _ _)
        fun _ _ _ _ hc => hc

/-! ## How many steps are left -/

/-- How many steps the tasks of a board have before them at most: two in each turn, and one more if
none of them can go on yet. -/
def left (n : Nat) (turns : Nat → Nat) (b : Board) : Nat :=
  2 * ∑ i ∈ Finset.range n, turns i + if b.ready = [] then 1 else 0

theorem sum_update_pred (hi : i < n) (hpos : 1 ≤ turns i) :
    ∑ j ∈ Finset.range n, Function.update turns i (turns i - 1) j + 1 =
      ∑ j ∈ Finset.range n, turns j := by
  have hmem : i ∈ Finset.range n := Finset.mem_range.mpr hi
  rw [Finset.sum_update_of_mem hmem, Finset.sum_eq_add_sum_sdiff_singleton_of_mem hmem turns]
  omega

/-- Each step keeps the board in order and leaves fewer. -/
theorem Orderly.step {next : Board} (h : b.Orderly n turns none) (hstep : b.step = some next) :
    ∃ turns', Orderly n turns' none next ∧ (b.HandedOver → next.HandedOver) ∧
      next.left n turns' < b.left n turns := by
  unfold Board.step at hstep
  cases hready : b.ready with
  | cons i rest =>
    rw [hready] at hstep
    cases hstep
    obtain ⟨hpos, hresumed⟩ := h.resume hready
    obtain ⟨horderly, hover⟩ := hresumed.handOver
    refine ⟨_, horderly, fun _ => hover, ?_⟩
    have hsum := sum_update_pred (h.known i (.inl (hready ▸ List.mem_cons_self))) hpos
    unfold left
    rw [hready, if_neg (List.cons_ne_nil i rest), ← hsum]
    split <;> omega
  | nil =>
    rw [hready] at hstep
    obtain ⟨⟨time, i⟩, hnext, rfl⟩ := Option.map_eq_some_iff.mp hstep
    refine ⟨turns, h.wakes hready hnext, id, ?_⟩
    unfold left
    rw [hready, if_pos rfl, if_neg (List.cons_ne_nil i [])]
    exact Nat.lt_succ_self _

end CompanySearch.Service.Board
