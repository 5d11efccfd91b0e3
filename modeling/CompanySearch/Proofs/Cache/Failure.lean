-- What a failure of the store does. It ends the call whose fetch it answers, and no other: the
-- entry, its size, the hits and the refreshes stay as they are, the refresh lock is given back, and
-- whoever then finds no valid entry fetches again.
import CompanySearch.Proofs.Cache.Freshness

namespace CompanySearch.Cache

namespace State

/-! ## How a fetch ends -/

/-- Along `actions`, the store answers the fetch of call `i` with a fault. -/
def FetchFails (s₀ : State) (actions : List Action) (i : Nat) (fault : Fault) : Prop :=
  ∃ m m' c fetch startedAt due, s₀.Takes actions m (.resume i) m' ∧ m.calls[i]? = some c ∧
    c.phase = .fetching fetch startedAt due ∧ due ≤ m.now ∧ m.store.answer = .error fault

/-- A step on the way is followed by what leads to the end of the run. -/
theorem Takes.exists_after {s t m m' : State} {actions : List Action} {a : Action}
    (takes : s.Takes actions m a m') (h : s.run actions = some t) :
    ∃ before after, s.run before = some m ∧ m.act a = some m' ∧ m'.run after = some t := by
  obtain ⟨before, after, rfl, hm, hact⟩ := takes
  have hrest := run_rest hm h
  rw [run_cons, hact, Option.bind_some] at hrest
  exact ⟨before, after, hm, hact, hrest⟩

/-- A call that takes a step makes the one move that it can make. -/
theorem Move.eq_of_resume {s s' t : State} {i : Nat} {c : Call} {p : Phase} (h : Move s i c p s')
    (sound : s.Sound) (hc : s.calls[i]? = some c) (hr : s.resume i = some t) : t = s' := by
  rw [h.resume sound.guard_free hc] at hr
  exact (Option.some.inj hr).symm

/-- A call fails only with the fetch that it waits for. -/
theorem Move.of_failed {s s' : State} {i : Nat} {c : Call} {f : Fault} {time : Nat}
    (h : Move s i c (.finished (.failed f) time) s') :
    ∃ fetch startedAt due fault, c.phase = .fetching fetch startedAt due ∧ due ≤ s.now ∧
      s.store.answer = .error fault ∧ f = .dataUnavailable fault.message := by
  cases h with
  | fail fetch startedAt due fault phase isDue answer =>
    exact ⟨fetch, startedAt, due, fault, phase, isDue, answer, rfl⟩

section ends

variable {store : Store} {ttl : Nat} {actions : List Action} {t : State}
  (h : (start store ttl).run actions = some t)
include h

theorem Returned.exists_fetchFails {i : Nat} {f : Fault} (failed : t.Returned i (.failed f)) :
    ∃ fault, (start store ttl).FetchFails actions i fault ∧
      f = .dataUnavailable fault.message := by
  obtain ⟨c, time, hc, hp⟩ := failed
  obtain ⟨before, after, m, m', d, p, rfl, hm, hact, -, hd, hmove, -, rfl⟩ :=
    exists_move_to (start_sound store ttl) h (P := (· = .finished (.failed f) time)) (by simp)
      (by simp [start]) hc hp
  obtain ⟨fetch, startedAt, due, fault, hphase, isDue, answer, hf⟩ := hmove.of_failed
  exact ⟨fault, ⟨m, m', d, fetch, startedAt, due, ⟨before, after, rfl, hm, hact⟩, hd, hphase,
    isDue, answer⟩, hf⟩

theorem FetchFails.returned {i : Nat} {fault : Fault}
    (fails : (start store ttl).FetchFails actions i fault) :
    t.Returned i (.failed (.dataUnavailable fault.message)) := by
  obtain ⟨m, m', c, fetch, startedAt, due, takes, hc, hp, isDue, answer⟩ := fails
  obtain ⟨before, after, hm, hact, hafter⟩ := takes.exists_after h
  have sound := ((start_sound store ttl).run hm).1
  have hmove := Move.fail (i := i) fetch startedAt due fault hp isDue answer
  obtain rfl := hmove.eq_of_resume sound hc hact
  exact ⟨_, m.now, ((sound.move hmove hc).run hafter).2.finished (hmove.self hc) rfl, rfl⟩

/-- What a call has delivered it has returned, or it returns it with its next step. -/
theorem Delivers.returned {i : Nat} {e : Entry}
    (delivers : (start store ttl).Delivers actions i e) :
    t.Returned i (.read .fetched e) ∨
      ∃ t', t.resume i = some t' ∧ t'.Returned i (.read .fetched e) ∧ t'.entry = some e := by
  obtain ⟨⟨fetch, records⟩, populatedAt⟩ := e
  obtain ⟨m, m', c, startedAt, due, takes, hc, hp, isDue, answer, rfl⟩ := delivers
  obtain ⟨before, after, hm, hact, hafter⟩ := takes.exists_after h
  have sound := ((start_sound store ttl).run hm).1
  have hmove := Move.deliver (i := i) fetch startedAt due records hp isDue answer
  obtain rfl := hmove.eq_of_resume sound hc hact
  have sound' := sound.move hmove hc
  obtain ⟨d, hd, ⟨took, hdp⟩ | ⟨time, hdp⟩⟩ := sound'.keeps_phase hafter
    (P := fun p => (∃ took, p = .installing ⟨⟨fetch, records⟩, m.now⟩ took) ∨
      ∃ time, p = .finished (.read .fetched ⟨⟨fetch, records⟩, m.now⟩) time)
    (fun _ _ _ _ => Move.of_carries) (hmove.self hc) (.inl ⟨_, rfl⟩)
  · right
    have hend := Move.install (s := t) (i := i) _ took hdp
    exact ⟨_, hend.resume (sound'.run hafter).1.guard_free hd, ⟨_, t.now, hend.self hd, rfl⟩,
      hend.entry_of_read⟩
  · exact .inl ⟨d, time, hd, hdp⟩

end ends

/-! ## What a failing call leaves alone -/

/-- No call fetches, and none holds what it has fetched. -/
def Idle (s : State) : Prop := ∀ (i : Nat) (c : Call), s.calls[i]? = some c →
  c.phase.refreshes = false

/-- A step of a call that fails in the end. It changes nothing but the call itself; the step by
which it fails adds one failure, gives the refresh lock back and leaves nobody refreshing. -/
structure StepsToFailure (s : State) (i : Nat) (f : Fault) (s' : State) : Prop where
  entry : s'.entry = s.entry
  gauge : s'.gauge = s.gauge
  hits : s'.counters.hits = s.counters.hits
  refreshes : s'.counters.refreshes = s.counters.refreshes
  others : ∀ j, j ≠ i → s'.calls[j]? = s.calls[j]?
  failures : ((∀ o, ¬ s'.Returned i o) ∧ s'.counters.failures = s.counters.failures) ∨
    (s'.Returned i (.failed f) ∧ s'.counters.failures = s.counters.failures + 1 ∧
      s'.refreshLock = none ∧ s'.Idle)

section step

variable {s s' : State} {i : Nat} {c : Call} {p : Phase} (sound : s.Sound)
  (hc : s.calls[i]? = some c) (h : Move s i c p s')
include sound hc h

/-- A step after which a call has failed, or has not ended yet. -/
theorem Sound.stepsToFailure {f : Fault}
    (fails : ∀ o time, p = .finished o time → o = .failed f) : s.StepsToFailure i f s' := by
  have hself := h.self hc
  have others (j : Nat) (hj : j ≠ i) := h.other hj
  have hidle := sound.idle_of_end hc h
  have hpending (hp : ∀ o time, p ≠ .finished o time) : ∀ o, ¬ s'.Returned i o := by
    rintro o ⟨d, time, hd, hdp⟩
    rw [hself] at hd
    cases hd
    exact hp o time hdp
  cases h with
  | miss phase kind invalid =>
    exact ⟨rfl, rfl, rfl, rfl, others, .inl ⟨hpending (by simp), rfl⟩⟩
  | lock phase unheld => exact ⟨rfl, rfl, rfl, rfl, others, .inl ⟨hpending (by simp), rfl⟩⟩
  | fetch phase invalid => exact ⟨rfl, rfl, rfl, rfl, others, .inl ⟨hpending (by simp), rfl⟩⟩
  | deliver fetch startedAt due records phase isDue answer =>
    exact ⟨rfl, rfl, rfl, rfl, others, .inl ⟨hpending (by simp), rfl⟩⟩
  | fail fetch startedAt due fault phase isDue answer =>
    cases fails _ _ rfl
    exact ⟨rfl, rfl, rfl, rfl, others, .inr ⟨⟨_, _, hself, rfl⟩, rfl, rfl,
      hidle (by rw [phase]; rfl) rfl⟩⟩
  | hit => cases fails _ _ rfl
  | join => cases fails _ _ rfl
  | install => cases fails _ _ rfl
  | drop => cases fails _ _ rfl
  | describe => cases fails _ _ rfl

end step

theorem Returned.stepsToFailure {store : Store} {ttl : Nat} {actions : List Action}
    {m m' t : State} {i : Nat} {f : Fault} (failed : t.Returned i (.failed f))
    (h : (start store ttl).run actions = some t)
    (takes : (start store ttl).Takes actions m (.resume i) m') : m.StepsToFailure i f m' := by
  obtain ⟨before, after, hm, hact, hafter⟩ := takes.exists_after h
  have sound := ((start_sound store ttl).run hm).1
  obtain ⟨c, p, hc, hmove⟩ := exists_move sound.guard_free hact
  refine sound.stepsToFailure hc hmove fun o time hp => ?_
  -- What the call has come to by then it has come to at the end.
  obtain ⟨d, time', hd, hdp⟩ := failed
  have hsame := ((sound.move hmove hc).run hafter).2.finished (hmove.self hc) hp
  rw [hd] at hsame
  cases hsame
  cases hp
  cases hdp
  rfl

/-! ## Who fetches next -/

/-- Call `i` can start the next fetch by steps of its own. -/
def FetchesNext (s : State) (i : Nat) : Prop :=
  ∃ steps s', s.run (List.replicate steps (.resume i)) = some s' ∧ s'.Fetching i ∧
    s'.store.fetches = s.store.fetches + 1

theorem FetchesNext.cons {s m : State} {i : Nat} (next : m.FetchesNext i)
    (hm : s.resume i = some m) (store : m.store = s.store) : s.FetchesNext i := by
  obtain ⟨steps, s', hrun, hfetching, hfetches⟩ := next
  exact ⟨steps + 1, s', run_resumes hm hrun, hfetching, by rw [hfetches, store]⟩

section next

variable {s : State} {i : Nat} {c : Call} (sound : s.Sound) (hc : s.calls[i]? = some c)
  (invalid : s.validEntry = none)
include sound hc invalid

theorem Sound.fetchesNext_of_rechecking (hp : c.phase = .rechecking) : s.FetchesNext i := by
  have hm := Move.fetch (i := i) hp invalid
  refine ⟨1, _, ?_, ⟨_, _, _, _, hm.self hc, rfl⟩, rfl⟩
  rw [List.replicate_one, run_singleton]
  exact hm.resume sound.guard_free hc

theorem Sound.fetchesNext_of_queued (hp : c.phase = .queued) (unheld : s.refreshLock = none) :
    s.FetchesNext i := by
  have hm := Move.lock (i := i) hp unheld
  exact ((sound.move hm hc).fetchesNext_of_rechecking (hm.self hc) invalid rfl).cons
    (hm.resume sound.guard_free hc) rfl

theorem Sound.fetchesNext_of_starting (hp : c.phase = .starting) (reads : c.kind.reads = true)
    (unheld : s.refreshLock = none) : s.FetchesNext i := by
  have hm := Move.miss (i := i) hp reads invalid
  exact ((sound.move hm hc).fetchesNext_of_queued (hm.self hc) invalid rfl unheld).cons
    (hm.resume sound.guard_free hc) rfl

/-- While there is no valid entry and nobody refreshes, the holder of the refresh lock fetches
next, or if there is none, whichever reading goes on. -/
theorem Sound.fetchesNext (idle : s.Idle) (reads : c.kind.reads = true)
    (waits : ∀ o, ¬ s.Returned i o) : s.FetchesNext (s.refreshLock.getD i) := by
  have hidle := idle i c hc
  cases hlock : s.refreshLock with
  | some k =>
    obtain ⟨d, hd, hholds⟩ := sound.lock_held k hlock
    have hdidle := idle k d hd
    have hdp : d.phase = .rechecking := by
      cases hdp : d.phase <;> simp_all [Phase.holds, Phase.refreshes]
    exact sound.fetchesNext_of_rechecking hd invalid hdp
  | none =>
    cases hp : c.phase with
    | starting => exact sound.fetchesNext_of_starting hc invalid hp reads hlock
    | queued => exact sound.fetchesNext_of_queued hc invalid hp hlock
    | rechecking => exact sound.fetchesNext_of_rechecking hc invalid hp
    | fetching fetch startedAt due => simp [hp, Phase.refreshes] at hidle
    | installing e took => simp [hp, Phase.refreshes] at hidle
    | finished o time => exact absurd ⟨c, time, hc, hp⟩ (waits o)

end next

/-! ## The law -/

/-- A call fails exactly if the store fails the fetch made by that very call, and it reports that
the dataset is unavailable, with the text of the store's fault. None of its steps touches the entry,
its size, the hits, the refreshes or another call; its last one adds one failure and gives the
refresh lock back. From then on, while there is no valid entry, whoever has the lock or takes it
fetches next, and a call whose fetch the store answers returns what it has fetched. -/
theorem a_failed_refresh_is_contained {store : Store} {ttl : Nat} {actions : List Action}
    {t : State} (reached : (start store ttl).run actions = some t) :
    (∀ i f, t.Returned i (.failed f) ↔
      ∃ fault, (start store ttl).FetchFails actions i fault ∧
        f = .dataUnavailable fault.message) ∧
    (∀ i f m m', t.Returned i (.failed f) → (start store ttl).Takes actions m (.resume i) m' →
      m.StepsToFailure i f m') ∧
    (∀ i c, t.calls[i]? = some c → c.kind.reads = true → (∀ o, ¬ t.Returned i o) →
      t.validEntry = none → t.Idle → t.FetchesNext (t.refreshLock.getD i)) ∧
    (∀ i e, (start store ttl).Delivers actions i e → t.Returned i (.read .fetched e) ∨
      ∃ t', t.resume i = some t' ∧ t'.Returned i (.read .fetched e) ∧ t'.entry = some e) := by
  have sound := ((start_sound store ttl).run reached).1
  refine ⟨fun i f => ⟨fun failed => failed.exists_fetchFails reached, ?_⟩,
    fun i f m m' failed takes => failed.stepsToFailure reached takes,
    fun i c hc reads waits invalid idle => sound.fetchesNext hc invalid idle reads waits,
    fun i e delivers => delivers.returned reached⟩
  rintro ⟨fault, fails, rfl⟩
  exact fails.returned reached

/-- An expired entry stays in place while refreshing it fails, and whoever has waited meanwhile can
fetch next. -/
theorem a_failed_refresh_leaves_an_expired_entry : ∃ (actions : List Action) (m m' : State),
    (start (.inMemory []) 100).run (actions ++ [.resume 1]) = some m' ∧
      (start (.inMemory []) 100).run actions = some m ∧
      m'.Returned 1 (.failed (.dataUnavailable
        "Internal server error: in-memory store set to fail")) ∧
      m.entry = some ⟨⟨1, []⟩, 0⟩ ∧ m'.entry = m.entry ∧ m'.FetchesNext 2 := by
  let actions : List Action := [.begin .warm, .resume 0, .resume 0, .resume 0, .resume 0, .resume 0,
    .elapse 100, .changeStore (.setFault (some Store.toldToFail)), .begin .dataset,
    .begin (.search .all), .resume 1, .resume 2, .resume 1, .resume 1]
  have law := @a_failed_refresh_is_contained (.inMemory []) 100 (actions ++ [.resume 1]) _ rfl
  have failed := (law.1 1 _).mpr ⟨Store.toldToFail, ⟨_, _, _, 2, 100, 100,
    ⟨actions, [], rfl, rfl, rfl⟩, rfl, rfl, by decide, rfl⟩, rfl⟩
  refine ⟨actions, _, _, rfl, rfl, failed, rfl,
    (law.2.1 1 _ _ _ failed ⟨actions, [], rfl, rfl, rfl⟩).entry, ?_⟩
  refine law.2.2.1 2 _ rfl rfl ?_ rfl ?_
  · rintro o ⟨c, time, hc, hp⟩
    cases hc
    cases hp
  · intro i c hc
    rcases i with _ | _ | _ | i
    · cases hc
      rfl
    · cases hc
      rfl
    · cases hc
      rfl
    · contradiction

end State

end CompanySearch.Cache
