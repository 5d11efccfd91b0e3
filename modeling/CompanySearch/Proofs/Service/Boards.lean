-- The order on a board of tasks: where the task of each stage is listed, whose call holds the
-- refresh lock, and how many turns each task has left. Whatever a task does in one of its turns
-- keeps the board in order.
import CompanySearch.Proofs.Cache.Turns
import CompanySearch.Proofs.Service.Startup
import Mathlib.Data.List.Nodup

namespace CompanySearch.Service.Board

open Cache

/-! ## Boards in order -/

/-- Task `i` is at work on call `k`. -/
def Calls (b : Board) (i k : Nat) : Prop :=
  ∃ work since, b.tasks[i]? = some ⟨work, .calling since k⟩

/-- Where a task is listed while its call is in this phase: with those that wait for the refresh
lock, or with those that can go on, also once its fetch is due. -/
inductive Listed (b : Board) (i : Nat) : Phase → Prop
  | queued (waits : i ∈ b.waiting) (unready : i ∉ b.ready) : Listed b i .queued
  | rechecking (ready : i ∈ b.ready) (away : i ∉ b.waiting) : Listed b i .rechecking
  | fetching (fetch startedAt due : Nat) (away : i ∉ b.waiting)
      (isDue : i ∈ b.ready → due ≤ b.service.now) : Listed b i (.fetching fetch startedAt due)

/-- What the stage of a task says about the board, and about the turns that the task has left. In
each of them its call goes on by two phases at least. -/
inductive Fits (b : Board) (i turns : Nat) : Stage → Prop
  | asleep (wake : Nat) (away : i ∉ b.waiting) (turns_le : 3 ≤ turns) :
      Fits b i turns (.asleep wake)
  | calling (since k : Nat) (c : Call) (call : b.service.cache.calls[k]? = some c)
      (listed : b.Listed i c.phase) (turns_le : c.phase.rank ≤ 2 * turns) :
      Fits b i turns (.calling since k)
  | ended (result : Result) (time : Nat) (unready : i ∉ b.ready) (away : i ∉ b.waiting) :
      Fits b i turns (.ended result time)

/-- A board of `n` tasks is in order, but for the task that is active, if one is. -/
structure Orderly (n : Nat) (turns : Nat → Nat) (active : Option Nat) (b : Board) : Prop where
  sound : b.service.cache.Sound
  count : b.tasks.length = n
  ready_nodup : b.ready.Nodup
  waiting_nodup : b.waiting.Nodup
  known : ∀ i, i ∈ b.ready ∨ i ∈ b.waiting → i < n
  active_away : ∀ i, active = some i → i ∉ b.ready ∧ i ∉ b.waiting
  fits : ∀ i t, active ≠ some i → b.tasks[i]? = some t → b.Fits i (turns i) t.stage
  call_known : ∀ i k, b.Calls i k → k < b.service.cache.calls.length
  one_caller : ∀ i j k, b.Calls i k → b.Calls j k → i = j
  holder_calls : ∀ k, b.service.cache.refreshLock = some k → ∃ i, b.Calls i k

variable {n : Nat} {turns : Nat → Nat} {active : Option Nat} {b b' : Board} {i j k : Nat}

/-- A task fits on while it is listed where it was and its call stays. -/
theorem Fits.later {m : Nat} {stage : Stage} (h : b.Fits i m stage)
    (ready : i ∈ b'.ready ↔ i ∈ b.ready) (waiting : i ∈ b'.waiting ↔ i ∈ b.waiting)
    (now : b.service.now ≤ b'.service.now)
    (calls : ∀ since k c, stage = .calling since k → b.service.cache.calls[k]? = some c →
      b'.service.cache.calls[k]? = some c) : b'.Fits i m stage := by
  cases h with
  | asleep wake away turns_le => exact .asleep wake (fun hw => away (waiting.mp hw)) turns_le
  | ended result time unready away =>
    exact .ended result time (fun hr => unready (ready.mp hr)) fun hw => away (waiting.mp hw)
  | calling since k c call listed turns_le =>
    refine .calling since k c (calls since k c rfl call) ?_ turns_le
    generalize c.phase = p at listed
    cases listed with
    | queued waits unready => exact .queued (waiting.mpr waits) fun hr => unready (ready.mp hr)
    | rechecking goes away => exact .rechecking (ready.mpr goes) fun hw => away (waiting.mp hw)
    | fetching fetch startedAt due away isDue =>
      exact .fetching fetch startedAt due (fun hw => away (waiting.mp hw)) fun hr =>
        Nat.le_trans (isDue (ready.mp hr)) now

/-! ## Changes of stages -/

theorem setStage_self (b : Board) (i : Nat) (stage : Stage) :
    (b.setStage i stage).tasks[i]? = b.tasks[i]?.map fun t => { t with stage := stage } := by
  unfold setStage
  simp only [List.getElem?_modify, if_pos]
  rfl

theorem setStage_other (b : Board) (stage : Stage) (hj : j ≠ i) :
    (b.setStage i stage).tasks[j]? = b.tasks[j]? := by
  unfold setStage
  simp [Ne.symm hj]

theorem calls_setStage_other {stage : Stage} (hj : j ≠ i) :
    (b.setStage i stage).Calls j k ↔ b.Calls j k := by
  unfold Calls
  rw [setStage_other b stage hj]

theorem stage_of_calls_setStage {stage : Stage} (h : (b.setStage i stage).Calls i k) :
    ∃ since, stage = .calling since k := by
  obtain ⟨work, since, ht⟩ := h
  rw [setStage_self] at ht
  obtain ⟨t, -, heq⟩ := Option.map_eq_some_iff.mp ht
  cases heq
  exact ⟨since, rfl⟩

/-! ## What the active task does -/

section active

variable (h : b.Orderly n turns (some i))
include h

/-- The service may do whatever concerns no call but that of the active task. -/
theorem Orderly.withService {s : Service} (sound : s.cache.Sound) (now : b.service.now ≤ s.now)
    (length : b.service.cache.calls.length ≤ s.cache.calls.length)
    (calls : ∀ j k c, j ≠ i → b.Calls j k → b.service.cache.calls[k]? = some c →
      s.cache.calls[k]? = some c)
    (lock : ∀ k, s.cache.refreshLock = some k →
      b.service.cache.refreshLock = some k ∨ b.Calls i k) :
    Orderly n turns (some i) { b with service := s } where
  sound := sound
  count := h.count
  ready_nodup := h.ready_nodup
  waiting_nodup := h.waiting_nodup
  known := h.known
  active_away := h.active_away
  fits := by
    intro j t hj ht
    refine (h.fits j t hj ht).later .rfl .rfl now ?_
    intro since k c hstage hc
    refine calls j k c (fun heq => hj (by rw [heq])) ⟨t.work, since, ?_⟩ hc
    rw [ht, ← hstage]
  call_known := fun j k hcalls => Nat.lt_of_lt_of_le (h.call_known j k hcalls) length
  one_caller := h.one_caller
  holder_calls := by
    intro k hlock
    rcases lock k hlock with hold | hcalls
    · exact h.holder_calls k hold
    · exact ⟨i, hcalls⟩

/-- The service may do whatever leaves its cache alone. -/
theorem Orderly.sameCache {s : Service} (hs : s.cache = b.service.cache) :
    Orderly n turns (some i) { b with service := s } := by
  refine h.withService ?_ ?_ ?_ ?_ ?_
  · rw [hs]
    exact h.sound
  · exact Nat.le_of_eq (congrArg State.now hs.symm)
  · rw [hs]
  · intro j k c _ _ hc
    rwa [hs]
  · intro k hlock
    rw [hs] at hlock
    exact .inl hlock

/-- The active task may come to another stage once its call does not hold the refresh lock. -/
theorem Orderly.setStage {stage : Stage} (next : ∀ j, active = some j → j = i)
    (unheld : ∀ k, b.Calls i k → b.service.cache.refreshLock ≠ some k)
    (own : active = none → b.Fits i (turns i) stage)
    (call : ∀ since k, stage = .calling since k →
      k < b.service.cache.calls.length ∧ ∀ j, j ≠ i → ¬ b.Calls j k) :
    Orderly n turns active (b.setStage i stage) where
  sound := h.sound
  count := (List.length_modify _ _ _).trans h.count
  ready_nodup := h.ready_nodup
  waiting_nodup := h.waiting_nodup
  known := h.known
  active_away := by
    intro j hj
    obtain rfl := next j hj
    exact h.active_away j rfl
  fits := by
    intro j t hactive ht
    have same {m : Nat} {stage' : Stage} (hfits : b.Fits j m stage') :
        (b.setStage i stage).Fits j m stage' :=
      hfits.later .rfl .rfl (Nat.le_refl _) fun _ _ _ _ hc => hc
    by_cases hj : j = i
    · subst hj
      rw [setStage_self] at ht
      obtain ⟨u, -, rfl⟩ := Option.map_eq_some_iff.mp ht
      refine same (own (Option.eq_none_iff_forall_ne_some.mpr fun m hm => hactive ?_))
      rw [hm, next m hm]
    · rw [setStage_other b _ hj] at ht
      exact same (h.fits j t (fun heq => hj (Option.some.inj heq).symm) ht)
  call_known := by
    intro j k hcalls
    by_cases hj : j = i
    · subst hj
      obtain ⟨since, hstage⟩ := stage_of_calls_setStage hcalls
      exact (call since k hstage).1
    · exact h.call_known j k ((calls_setStage_other hj).mp hcalls)
  one_caller := by
    intro j j' k hcalls hcalls'
    by_cases hj : j = i <;> by_cases hj' : j' = i
    · rw [hj, hj']
    · subst hj
      obtain ⟨since, hstage⟩ := stage_of_calls_setStage hcalls
      exact absurd ((calls_setStage_other hj').mp hcalls') ((call since k hstage).2 j' hj')
    · subst hj'
      obtain ⟨since, hstage⟩ := stage_of_calls_setStage hcalls'
      exact absurd ((calls_setStage_other hj).mp hcalls) ((call since k hstage).2 j hj)
    · exact h.one_caller j j' k ((calls_setStage_other hj).mp hcalls)
        ((calls_setStage_other hj').mp hcalls')
  holder_calls := by
    intro k hlock
    obtain ⟨j, hcalls⟩ := h.holder_calls k hlock
    have hj : j ≠ i := by
      rintro rfl
      exact unheld k hcalls hlock
    exact ⟨j, (calls_setStage_other hj).mpr hcalls⟩

theorem Orderly.ended (unheld : ∀ k, b.Calls i k → b.service.cache.refreshLock ≠ some k)
    (result : Result) (time : Nat) :
    Orderly n turns none (b.setStage i (.ended result time)) := by
  obtain ⟨unready, away⟩ := h.active_away i rfl
  exact h.setStage nofun unheld (fun _ => .ended result time unready away) nofun

/-- The active task may begin a call. -/
theorem Orderly.begin (unheld : ∀ k, b.Calls i k → b.service.cache.refreshLock ≠ some k)
    (since : Nat) (kind : CallKind) : Orderly n turns (some i) (b.begin i since kind) := by
  have hbegun := h.withService (s := { b.service with cache := b.service.cache.begin kind })
    (h.sound.act (a := .begin kind) rfl) (Nat.le_refl _) (by simp [State.begin])
    (fun _ _ _ _ _ hc => State.begin_calls_of_old kind hc) fun _ hlock => .inl hlock
  refine hbegun.setStage (fun j hj => (Option.some.inj hj).symm) unheld (by simp) ?_
  rintro since k ⟨⟩
  refine ⟨by simp [State.begin], fun j _ hcalls => ?_⟩
  exact Nat.lt_irrefl _ (h.call_known j _ hcalls)

variable {c : Call} (hcalls : b.Calls i k)
include hcalls

/-- The active task may take its call through a turn. -/
theorem Orderly.turn {p : Phase} {s : Service} (hc : b.service.cache.calls[k]? = some c)
    (turn : State.Turn k b.service.cache c p s.cache) :
    Orderly n turns (some i) { b with service := s } := by
  refine h.withService (turn.sound h.sound hc) (Nat.le_of_eq turn.now_eq.symm)
    (Nat.le_of_eq turn.length_eq.symm) ?_ ?_
  · intro j m d hj hm hd
    have hne : m ≠ k := by
      rintro rfl
      exact hj (h.one_caller j i m hm hcalls)
    rwa [turn.other hne]
  · intro m hlock
    by_cases hm : m = k
    · subst hm
      exact .inr hcalls
    · exact .inl (turn.lock_of_ne hm hlock)

theorem Orderly.lt_of_calls : i < n := by
  obtain ⟨work, since, ht⟩ := hcalls
  rw [← h.count]
  exact (List.getElem?_eq_some_iff.mp ht).1

/-- The active task may pause where its call is listed. -/
theorem Orderly.pauses {waiting : List Nat} (hwaiting : waiting.Nodup)
    (others : ∀ j, j ≠ i → (j ∈ waiting ↔ j ∈ b.waiting))
    (hc : b.service.cache.calls[k]? = some c)
    (listed : Listed { b with waiting := waiting } i c.phase)
    (hrank : c.phase.rank ≤ 2 * turns i) :
    Orderly n turns none { b with waiting := waiting } where
  sound := h.sound
  count := h.count
  ready_nodup := h.ready_nodup
  waiting_nodup := hwaiting
  known := by
    intro j hj
    by_cases hji : j = i
    · subst hji
      exact h.lt_of_calls hcalls
    · exact h.known j (hj.imp_right (others j hji).mp)
  active_away := nofun
  fits := by
    intro j t _ ht
    by_cases hj : j = i
    · subst hj
      obtain ⟨work, since, ht'⟩ := hcalls
      rw [show b.tasks[j]? = some t from ht] at ht'
      cases ht'
      exact .calling since k c hc listed hrank
    · exact (h.fits j t (fun heq => hj (Option.some.inj heq).symm) ht).later .rfl (others j hj)
        (Nat.le_refl _) fun _ _ _ _ hc => hc
  call_known := h.call_known
  one_caller := h.one_caller
  holder_calls := h.holder_calls

/-- A task whose call needs the refresh lock waits behind those that do already. -/
theorem Orderly.queues (hc : b.service.cache.calls[k]? = some c) (hp : c.phase = .queued)
    (two : 2 ≤ turns i) : Orderly n turns none { b with waiting := b.waiting ++ [i] } := by
  obtain ⟨unready, away⟩ := h.active_away i rfl
  refine h.pauses hcalls ?_ (fun j hj => by simp [hj]) hc ?_ ?_
  · rw [← List.concat_eq_append]
    exact h.waiting_nodup.concat away
  · rw [hp]
    exact .queued (by simp) unready
  · rw [hp]
    change 4 ≤ 2 * turns i
    omega

/-- A task whose call fetches is in neither list. -/
theorem Orderly.awaits {fetch startedAt due : Nat} (hc : b.service.cache.calls[k]? = some c)
    (hp : c.phase = .fetching fetch startedAt due) (one : 1 ≤ turns i) :
    Orderly n turns none b := by
  obtain ⟨unready, away⟩ := h.active_away i rfl
  refine h.pauses hcalls h.waiting_nodup (fun _ _ => .rfl) hc ?_ ?_
  · rw [hp]
    exact .fetching fetch startedAt due away fun hr => absurd hr unready
  · rw [hp]
    change 2 ≤ 2 * turns i
    omega

/-- A call that has finished does not hold the refresh lock. -/
theorem Orderly.unheld {o : Outcome} {time : Nat} (hc : b.service.cache.calls[k]? = some c)
    (hp : c.phase = .finished o time) :
    ∀ m, b.Calls i m → b.service.cache.refreshLock ≠ some m := by
  intro m hm hlock
  obtain ⟨work, since, ht⟩ := hcalls
  obtain ⟨work', since', ht'⟩ := hm
  rw [ht] at ht'
  cases ht'
  obtain ⟨d, hd, hholds⟩ := h.sound.lock_held k hlock
  rw [hc] at hd
  cases hd
  simp [hp, Phase.holds] at hholds

end active

/-! ## A turn of a task -/

theorem not_calls_reply (b : Board) (request : Web.Request) (id : String) (since : Nat)
    (r : Web.Reply) : ¬ (b.reply i request id since r).Calls i k := by
  intro hcalls
  obtain ⟨since, hstage⟩ := stage_of_calls_setStage hcalls
  contradiction

theorem calls_begin (hi : i < b.tasks.length) (since : Nat) (kind : CallKind) :
    (b.begin i since kind).Calls i b.service.cache.calls.length := by
  refine ⟨b.tasks[i].work, since, ?_⟩
  unfold begin
  rw [setStage_self]
  simp [hi]

theorem Orderly.reply (h : b.Orderly n turns (some i))
    (unheld : ∀ k, b.Calls i k → b.service.cache.refreshLock ≠ some k) (request : Web.Request)
    (id : String) (since : Nat) (r : Web.Reply) :
    Orderly n turns none (b.reply i request id since r) :=
  (h.sameCache (s := b.service.recordExchange request (requestSpan request id) since r.status)
    rfl).ended unheld _ _

/-- What an exchange does with the end of its call: it has come to its own end, or it goes on with
a call that does not drop the entry. -/
theorem Orderly.concludeExchange {c : Call} {o : Outcome} {time : Nat}
    (h : b.Orderly n turns (some i)) (hcalls : b.Calls i k)
    (hc : b.service.cache.calls[k]? = some c) (hp : c.phase = .finished o time)
    (request : Web.Request) (id : String) (since : Nat) :
    let next := b.concludeExchange i request id since k o
    (Orderly n turns none next ∧ ∀ m, ¬ next.Calls i m) ∨
      (o = .invalidated ∧ Orderly n turns (some i) next ∧ ∃ m startedAt, next.Calls i m ∧
        next.service.cache.calls[m]? = some ⟨.status, startedAt, .starting⟩) := by
  have unheld := h.unheld hcalls hc hp
  cases o with
  | read source e => exact .inl ⟨h.reply unheld _ _ _ _, fun _ => not_calls_reply _ _ _ _ _⟩
  | failed fault =>
    have hlogged := h.sameCache (s := b.service.logAll
      (faultEvent? fault (some (requestSpan request id))).toList) (logAll_cache _ _)
    refine .inl ⟨hlogged.reply ?_ _ _ _ _, fun _ => not_calls_reply _ _ _ _ _⟩
    intro m hm
    rw [logAll_cache]
    exact unheld m hm
  | invalidated =>
    have hi : i < b.tasks.length := by
      rw [h.count]
      exact h.lt_of_calls hcalls
    exact .inr ⟨rfl, h.begin unheld since .status, _, b.service.now, calls_begin hi since .status,
      List.getElem?_concat_length⟩
  | described status => exact .inl ⟨h.reply unheld _ _ _ _, fun _ => not_calls_reply _ _ _ _ _⟩

/-- A task whose call can go on takes it as far as it gets, and its next call after that, and comes
to wait or to end. -/
theorem Orderly.proceed {work : Work} {since calls : Nat} {c : Call}
    (h : b.Orderly n turns (some i)) (hcalls : b.Calls i k)
    (hc : b.service.cache.calls[k]? = some c) (goes : b.service.cache.CanGoOn k)
    (hrank : c.phase.rank ≤ 2 * turns i + 2)
    (drops : c.phase = .starting → c.kind = .invalidate → 2 ≤ calls ∧ 2 ≤ turns i)
    (positive : 1 ≤ calls) : Orderly n turns none (proceed i since work calls k b) := by
  induction calls generalizing b k c with
  | zero => contradiction
  | succ calls ih =>
    obtain ⟨p, turn, stuck⟩ := h.sound.proceed_turn hc (State.rank_le_phases _)
    rw [← b.service.proceed_cache k (spanOf work)] at turn stuck
    have hturned := h.turn hcalls hc turn
    have hself := turn.self hc
    have hlt := turn.rank_lt goes stuck
    have hstuck := hturned.sound.stuck_cases hself stuck
    unfold Board.proceed
    simp only
    rcases hstuck with ⟨o, time, rfl⟩ | rfl | ⟨fetch, startedAt, due, rfl⟩
    · rw [outcome?_eq hself]
      simp only
      have unheld := hturned.unheld hcalls hself rfl
      cases work with
      | exchange request id =>
        rcases hturned.concludeExchange hcalls hself rfl request id since with
          ⟨hended, hnot⟩ | ⟨rfl, hbegun, m, startedAt, hm, hstatus⟩
        · simp only
          split
          · exact absurd ⟨_, _, ‹_›⟩ (hnot _)
          · exact hended
        · obtain ⟨hstarting, hkind⟩ := (turn.of_invalidated rfl).resolve_left fun hdropped => by
            simp [hdropped, Phase.rank] at hlt
          obtain ⟨htwo, hturns⟩ := drops hstarting hkind
          have hgoes := hbegun.sound.starting_canGoOn hstatus rfl
          have hrest := ih hbegun hm hstatus hgoes (by simp only [Phase.rank]; omega)
            (by simp) (by omega)
          obtain ⟨_, _, ht⟩ := hm
          simp only
          rw [ht]
          exact hrest
      | call kind => exact hturned.ended unheld _ _
      | changeStore change => exact hturned.ended unheld _ _
      | elapse time => exact hturned.ended unheld _ _
    · rw [outcome?_eq_none hself (by simp)]
      simp only [hself]
      have hwas : 4 < c.phase.rank := hlt
      exact hturned.queues hcalls hself rfl (by omega)
    · rw [outcome?_eq_none hself (by simp)]
      simp only [hself]
      have hwas : 2 < c.phase.rank := hlt
      exact hturned.awaits hcalls hself rfl (by omega)

section works

variable (h : b.Orderly n turns (some i)) (hi : i < n) (free : ∀ k, ¬ b.Calls i k)
  (two : 2 ≤ turns i)
include h hi free two

theorem Orderly.call (work : Work) (kind : CallKind) :
    Orderly n turns none (b.call i work kind) := by
  have hbegun := h.begin (fun k hk => absurd hk (free k)) b.service.now kind
  have hcalls := calls_begin (h.count ▸ hi) b.service.now kind
  have hc : (b.begin i b.service.now kind).service.cache.calls[b.service.cache.calls.length]? =
      some ⟨kind, b.service.now, .starting⟩ := List.getElem?_concat_length
  have hrank : Phase.starting.rank ≤ 2 * turns i + 2 := by
    change 5 ≤ 2 * turns i + 2
    omega
  exact hbegun.proceed hcalls hc (hbegun.sound.starting_canGoOn hc rfl) hrank
    (fun _ _ => ⟨Nat.le_refl _, two⟩) (by decide)

theorem Orderly.exchange (request : Web.Request) (id : String) :
    Orderly n turns none (b.exchange i request id) := by
  have unheld (k : Nat) (hk : b.Calls i k) : b.service.cache.refreshLock ≠ some k :=
    absurd hk (free k)
  have hlogged := h.sameCache (s := b.service.log (incomingEvent request (requestSpan request id)))
    rfl
  unfold Board.exchange
  split
  · exact h.ended unheld _ _
  · simp only
    split
    · exact hlogged.reply unheld _ _ _ _
    · exact hlogged.reply unheld _ _ _ _
    · rename_i search _
      exact (hlogged.sameCache (s := (b.service.log _).log
        (searchEvent search (requestSpan request id))) rfl).call hi free two _ _
    · exact hlogged.call hi free two _ _
    · exact hlogged.call hi free two _ _

end works

end CompanySearch.Service.Board
