-- Calls that miss together. They share the fetch of the first of them if it succeeds. If it fails
-- there is nothing to share, and whichever of them gets the refresh lock next fetches again.
import CompanySearch.Proofs.Cache.InFlight

namespace CompanySearch.Cache

/-- How many fetches a call that has come to this phase has started. -/
def Phase.fetches : Phase → Nat
  | .fetching _ _ _ | .installing _ _ => 1
  | .finished (.read .fetched _) _ | .finished (.failed _) _ => 1
  | .starting | .queued | .rechecking | .finished _ _ => 0

namespace State

/-! ## Who fetches -/

/-- The call that starts a fetch by an action, if one does. -/
def fetcher? (s : State) (a : Action) : Option Nat :=
  match a, s.act a with
  | .resume i, some s' => if s.store.fetches < s'.store.fetches then some i else none
  | _, _ => none

/-- The calls that start a fetch along a run, in the order in which they do. -/
def fetchers (s : State) : List Action → List Nat
  | [] => []
  | a :: rest =>
    match s.act a with
    | some s' => (s.fetcher? a).toList ++ s'.fetchers rest
    | none => []

/-- How many fetches the call has started. -/
def fetchesOf (s : State) (i : Nat) : Nat := (s.calls[i]?.map fun c => c.phase.fetches).getD 0

theorem fetchesOf_of_call {s : State} {i : Nat} {c : Call} (hc : s.calls[i]? = some c) :
    s.fetchesOf i = c.phase.fetches := by
  simp [fetchesOf, hc]

theorem Move.fetches_eq {s s' : State} {i : Nat} {c : Call} {p : Phase} (h : Move s i c p s') :
    p.fetches = c.phase.fetches + (if s.store.fetches < s'.store.fetches then 1 else 0) := by
  cases h <;> simp_all [Phase.fetches]

section step

variable {s s' : State} {a : Action} (sound : s.Sound) (h : s.act a = some s')
include sound h

theorem Sound.fetchesOf_act (k : Nat) :
    s'.fetchesOf k = s.fetchesOf k + (s.fetcher? a).toList.count k := by
  cases a with
  | resume i =>
    obtain ⟨c, p, hc, hm⟩ := exists_move sound.guard_free h
    have hact : s.act (.resume i) = some s' := h
    unfold fetcher?
    rw [hact]
    simp only
    by_cases hk : k = i
    · subst hk
      rw [fetchesOf_of_call (hm.self hc), fetchesOf_of_call hc, hm.fetches_eq]
      split <;> simp
    · have hsame : s'.fetchesOf k = s.fetchesOf k := by
        unfold fetchesOf
        rw [hm.other hk]
      rw [hsame]
      split <;> simp [Ne.symm hk]
  | begin kind =>
    cases h
    unfold fetchesOf fetcher? begin
    rw [List.getElem?_append]
    split
    · simp
    · rename_i hlt
      rw [List.getElem?_eq_none (Nat.le_of_not_lt hlt)]
      cases hlast : [(⟨kind, s.now, .starting⟩ : Call)][k - s.calls.length]? with
      | none => simp
      | some c =>
        obtain ⟨-, rfl⟩ := List.getElem?_eq_some_iff.mp hlast
        simp [Phase.fetches]
  | elapse time =>
    cases h
    simp [fetchesOf, fetcher?, elapse]
  | changeStore change =>
    cases h
    simp [fetchesOf, fetcher?, changeStore]

theorem Sound.fetches_act :
    s'.store.fetches = s.store.fetches + (s.fetcher? a).toList.length := by
  have hcases := sound.fetch_cases h
  cases a with
  | resume i =>
    unfold fetcher?
    rw [h]
    rcases hcases with ⟨hsame, -⟩ | ⟨hnext, -⟩
    · simp [hsame]
    · simp [hnext]
  | begin kind =>
    cases h
    simp [fetcher?, begin]
  | elapse time =>
    cases h
    simp [fetcher?, elapse]
  | changeStore change =>
    cases h
    simp [fetcher?, changeStore]

end step

theorem fetchers_cons {s s' : State} {a : Action} (h : s.act a = some s') (rest : List Action) :
    s.fetchers (a :: rest) = (s.fetcher? a).toList ++ s'.fetchers rest := by
  rw [fetchers, h]

theorem fetchers_append {s m : State} {before : List Action} (h : s.run before = some m)
    (after : List Action) :
    s.fetchers (before ++ after) = s.fetchers before ++ m.fetchers after := by
  induction before generalizing s with
  | nil =>
    cases h
    rfl
  | cons a rest ih =>
    rw [run_cons] at h
    obtain ⟨n, hn, hrest⟩ := Option.bind_eq_some_iff.mp h
    rw [List.cons_append, fetchers_cons hn, fetchers_cons hn, ih hrest, List.append_assoc]

theorem Sound.fetchesOf_run {s t : State} {actions : List Action} (sound : s.Sound)
    (h : s.run actions = some t) (k : Nat) :
    t.fetchesOf k = s.fetchesOf k + (s.fetchers actions).count k := by
  induction actions generalizing s with
  | nil =>
    cases h
    simp [fetchers]
  | cons a rest ih =>
    rw [run_cons] at h
    obtain ⟨m, hm, hrest⟩ := Option.bind_eq_some_iff.mp h
    rw [ih (sound.act hm) hrest, sound.fetchesOf_act hm, fetchers_cons hm, List.count_append]
    omega

theorem Sound.fetches_run {s t : State} {actions : List Action} (sound : s.Sound)
    (h : s.run actions = some t) :
    t.store.fetches = s.store.fetches + (s.fetchers actions).length := by
  induction actions generalizing s with
  | nil =>
    cases h
    simp [fetchers]
  | cons a rest ih =>
    rw [run_cons] at h
    obtain ⟨m, hm, hrest⟩ := Option.bind_eq_some_iff.mp h
    rw [ih (sound.act hm) hrest, sound.fetches_act hm, fetchers_cons hm, List.length_append]
    omega

/-! ## While the first of them fetches -/

/-- Call `i` waits for the refresh lock. -/
def Queued (s : State) (i : Nat) : Prop := ∃ c, s.calls[i]? = some c ∧ c.phase = .queued

/-- Since `s₀` call `i` refreshes: whoever has been in the queue is there still, and no other fetch
has started. -/
structure Awaits (s₀ : State) (i : Nat) (s : State) : Prop where
  refreshing : s.Refreshing
  since : s₀.Precedes s
  holder : ∃ c : Call, s.calls[i]? = some c ∧ c.phase.refreshes = true
  queued : ∀ j, s₀.Queued j → s.Queued j
  fetches : s.store.fetches = s₀.store.fetches

/-- A call that refreshes goes on refreshing, or ends; it starts no fetch. -/
theorem Move.of_refreshes {s s' : State} {i : Nat} {c : Call} {p : Phase} (h : Move s i c p s')
    (hc : c.phase.refreshes = true) :
    s'.store = s.store ∧ (p.refreshes = true ∨ ∃ o time, p = .finished o time) := by
  cases h <;> simp_all [Phase.refreshes]

/-- A queued call can only move by taking the refresh lock. -/
theorem Move.of_queued {s s' : State} {i : Nat} {c : Call} {p : Phase} (h : Move s i c p s')
    (hc : c.phase = .queued) : s.refreshLock = none := by
  cases h <;> simp_all

/-- The wait goes on with each step, unless the step ends the call that refreshes. -/
theorem Awaits.act {s₀ s s' : State} {i : Nat} {a : Action} (h : Awaits s₀ i s)
    (ha : s.act a = some s') : Awaits s₀ i s' ∨ (a = .resume i ∧ ∃ o, s'.Returned i o) := by
  have refreshing' := h.refreshing.act ha
  have since' := h.since.trans (h.refreshing.sound.precedes ha)
  obtain ⟨c, hc, hcr⟩ := h.holder
  have hlock := (h.refreshing.sound.phases_fit i c hc).lock (Phase.holds_of_refreshes hcr)
  cases a with
  | resume k =>
    obtain ⟨d, p, hd, hm⟩ := exists_move h.refreshing.sound.guard_free ha
    -- A queued call is none that has moved, as the lock is held.
    have hqueued : ∀ j, s₀.Queued j → s'.Queued j := by
      intro j hj
      obtain ⟨e, he, hep⟩ := h.queued j hj
      refine ⟨e, ?_, hep⟩
      rw [hm.other ?_, he]
      rintro rfl
      rw [hd] at he
      cases he
      rw [hm.of_queued hep] at hlock
      contradiction
    by_cases hk : k = i
    · subst hk
      rw [hc] at hd
      cases hd
      obtain ⟨hstore, hp | ⟨o, time, rfl⟩⟩ := hm.of_refreshes hcr
      · exact .inl ⟨refreshing', since', ⟨_, hm.self hc, hp⟩, hqueued, by rw [hstore, h.fetches]⟩
      · exact .inr ⟨rfl, o, _, time, hm.self hc, rfl⟩
    · have hdp : d.phase.holds = false := by
        by_contra hdh
        exact hk (h.refreshing.sound.one_holder hd hc (by simpa using hdh)
          (Phase.holds_of_refreshes hcr))
      have hstore := (hm.keeps_holder hdp (by simp [hlock])).2
      exact .inl ⟨refreshing', since', ⟨c, (hm.other (Ne.symm hk)).trans hc, hcr⟩, hqueued,
        by rw [hstore, h.fetches]⟩
  | begin kind =>
    cases ha
    refine .inl ⟨refreshing', since', ⟨c, begin_calls_of_old kind hc, hcr⟩, ?_, h.fetches⟩
    intro j hj
    obtain ⟨e, he, hep⟩ := h.queued j hj
    exact ⟨e, begin_calls_of_old kind he, hep⟩
  | elapse time =>
    cases ha
    exact .inl ⟨refreshing', since', ⟨c, hc, hcr⟩, h.queued, h.fetches⟩
  | changeStore change =>
    cases ha
    exact .inl ⟨refreshing', since', ⟨c, hc, hcr⟩, h.queued,
      (change_fetches _ _).trans h.fetches⟩

/-- A run in which the call comes to an end passes through the step that ends it. -/
theorem Awaits.run {s₀ s t : State} {i : Nat} {o : Outcome} {actions : List Action}
    (h : Awaits s₀ i s) (hr : s.run actions = some t) (ended : t.Returned i o) :
    ∃ m m' rest, Awaits s₀ i m ∧ m.resume i = some m' ∧ m'.Returned i o ∧
      m'.run rest = some t := by
  induction actions generalizing s with
  | nil =>
    cases hr
    obtain ⟨c, hc, hcr⟩ := h.holder
    obtain ⟨d, time, hd, hp⟩ := ended
    rw [hc] at hd
    cases hd
    simp [hp, Phase.refreshes] at hcr
  | cons a rest ih =>
    rw [run_cons] at hr
    obtain ⟨m', hm', hrest⟩ := Option.bind_eq_some_iff.mp hr
    rcases h.act hm' with hnext | ⟨rfl, o', c, time, hc, hp⟩
    · exact ih hnext hrest
    · refine ⟨s, m', rest, h, hm', ⟨c, time, hc, ?_⟩, hrest⟩
      -- What a call has come to stays, so this is the outcome at the end.
      obtain ⟨d, time', hd, hdp⟩ := ended
      have hsame := ((h.refreshing.act hm').sound.run hrest).2.finished hc hp
      rw [hd] at hsame
      cases hsame
      rw [hp] at hdp
      cases hdp
      exact hp

/-- A call that refreshes ends by putting what it has fetched in place, or with the failure of its
fetch, which leaves the entry alone. -/
theorem Move.end_of_refreshes {s s' : State} {i : Nat} {c : Call} {o : Outcome} {time : Nat}
    (h : Move s i c (.finished o time) s') (hc : c.phase.refreshes = true) :
    (∃ e took, c.phase = .installing e took ∧ o = .read .fetched e) ∨
      (s'.entry = s.entry ∧ ∃ fault, o = .failed fault) := by
  cases h <;> simp_all [Phase.refreshes]

/-! ## When the fetch has failed -/

/-- Call `j` still waits, and there is nothing that it could join: no valid entry, and no fetch
under way. -/
structure Starved (j : Nat) (s : State) : Prop where
  sound : s.Sound
  invalid : s.validEntry = none
  idle : ∀ (i : Nat) (c : Call), s.calls[i]? = some c → c.phase.refreshes = false
  waits : ∃ c : Call, s.calls[j]? = some c ∧ (c.phase = .queued ∨ c.phase = .rechecking)

theorem Move.of_starved {s s' : State} {i : Nat} {c : Call} {p : Phase} (h : Move s i c p s')
    (invalid : s.validEntry = none) (idle : c.phase.refreshes = false)
    (fetches : s'.store.fetches = s.store.fetches) :
    p.refreshes = false ∧
      (c.phase = .queued ∨ c.phase = .rechecking → p = .queued ∨ p = .rechecking) := by
  cases h <;> simp_all [Phase.refreshes]

/-- A call that can join nothing goes on waiting for as long as no fetch starts. -/
theorem Starved.act {j : Nat} {s s' : State} {a : Action} (h : Starved j s)
    (ha : s.act a = some s') (fetches : s'.store.fetches = s.store.fetches) : Starved j s' := by
  have sound' := h.sound.act ha
  have hpre := h.sound.precedes ha
  obtain ⟨w, hw, hwp⟩ := h.waits
  cases a with
  | resume i =>
    obtain ⟨c, p, hc, hm⟩ := exists_move h.sound.guard_free ha
    obtain ⟨hidle, hwaits⟩ := hm.of_starved h.invalid (h.idle i c hc) fetches
    refine ⟨sound', ?_, ?_, ?_⟩
    · exact hm.validEntry_none hc h.invalid fun e => hm.entry_of_not_refreshes (h.idle i c hc)
    · intro k d hd
      rcases hm.calls_cases hc hd with ⟨rfl, rfl⟩ | ⟨-, hold⟩
      · exact hidle
      · exact h.idle k d hold
    · by_cases hj : j = i
      · subst hj
        rw [hc] at hw
        cases hw
        exact ⟨_, hm.self hc, hwaits hwp⟩
      · exact ⟨w, (hm.other hj).trans hw, hwp⟩
  | begin kind =>
    cases ha
    refine ⟨sound', h.invalid, ?_, ⟨w, begin_calls_of_old kind hw, hwp⟩⟩
    intro k d hd
    rcases begin_calls hd with hold | ⟨-, rfl⟩
    · exact h.idle k d hold
    · rfl
  | elapse time =>
    cases ha
    refine ⟨sound', ?_, h.idle, h.waits⟩
    have hnone := h.invalid
    rw [Option.eq_none_iff_forall_not_mem] at hnone ⊢
    exact fun e he => hnone e (hpre.validEntry rfl he)
  | changeStore change =>
    cases ha
    exact ⟨sound', h.invalid, h.idle, h.waits⟩

theorem Starved.run {j : Nat} {s t : State} {actions : List Action} (h : Starved j s)
    (hr : s.run actions = some t) (none_fetches : s.fetchers actions = []) : Starved j t := by
  induction actions generalizing s with
  | nil =>
    cases hr
    exact h
  | cons a rest ih =>
    rw [run_cons] at hr
    obtain ⟨m, hm, hrest⟩ := Option.bind_eq_some_iff.mp hr
    rw [fetchers_cons hm, List.append_eq_nil_iff] at none_fetches
    have hsame : m.store.fetches = s.store.fetches := by
      rw [h.sound.fetches_act hm, none_fetches.1]
      rfl
    exact ih (h.act hm hsame) hrest none_fetches.2

theorem Starved.not_returned {j : Nat} {s : State} (h : Starved j s) (o : Outcome) :
    ¬ s.Returned j o := by
  rintro ⟨c, time, hc, hp⟩
  obtain ⟨w, hw, hwp⟩ := h.waits
  rw [hc] at hw
  cases hw
  simp [hp] at hwp

/-! ## The end of the wait -/

/-- Only a reading call queues. -/
theorem Reachable.reads_of_queued {s : State} (h : s.Reachable) {i : Nat} {c : Call}
    (hc : s.calls[i]? = some c) (hp : c.phase = .queued) : c.kind.reads = true := by
  refine h.forall_calls (P := fun _ c => c.phase = .queued → c.kind.reads = true)
    (fun _ _ hp => by contradiction) (fun _ _ _ hreads => hreads) ?_ hc hp
  intro s s' i c p hm _ hp
  obtain rfl : p = .queued := hp
  cases hm
  assumption

section ends

variable {s₀ s s' : State} {i : Nat} {o : Outcome} (h : Awaits s₀ i s) (hr : s.resume i = some s')
  (ended : s'.Returned i o)
include h hr ended

theorem Awaits.exists_end : ∃ c time, s.calls[i]? = some c ∧ c.phase.refreshes = true ∧
    Move s i c (.finished o time) s' := by
  obtain ⟨c, hc, hcr⟩ := h.holder
  obtain ⟨c', p, hc', hm⟩ := exists_move h.refreshing.sound.guard_free hr
  rw [hc] at hc'
  cases hc'
  obtain ⟨d, time, hd, hp⟩ := ended
  rw [hm.self hc] at hd
  cases hd
  exact ⟨c, time, hc, hcr, hp ▸ hm⟩

theorem Awaits.fetches_at_end : s'.store.fetches = s₀.store.fetches := by
  obtain ⟨c, time, hc, hcr, hm⟩ := h.exists_end hr ended
  rw [(hm.of_refreshes hcr).1, h.fetches]

theorem Awaits.queued_at_end {j : Nat} (hj : s₀.Queued j) : s'.Queued j := by
  obtain ⟨c, time, hc, hcr, hm⟩ := h.exists_end hr ended
  obtain ⟨w, hw, hwp⟩ := h.queued j hj
  refine ⟨w, ?_, hwp⟩
  rw [hm.other ?_, hw]
  rintro rfl
  rw [hc] at hw
  cases hw
  simp [hwp, Phase.refreshes] at hcr

/-- The call that refreshes ends by putting what it has fetched in place, or with the failure of its
fetch. After a failure whoever has waited starves. -/
theorem Awaits.end_cases : (∃ e, o = .read .fetched e ∧ s.Installs e s') ∨
    (∃ fault, o = .failed fault ∧ ∀ j, s₀.Queued j → Starved j s') := by
  obtain ⟨c, time, hc, hcr, hm⟩ := h.exists_end hr ended
  rcases hm.end_of_refreshes hcr with ⟨e, took, hp, ho⟩ | ⟨hentry, hfault⟩
  · exact .inl ⟨e, ho, i, c, took, hc, hp, hr⟩
  obtain ⟨fault, ho⟩ := hfault
  refine .inr ⟨fault, ho, fun j hj => ?_⟩
  obtain ⟨w, hw, hwp⟩ := h.queued_at_end hr ended hj
  refine ⟨h.refreshing.sound.move hm hc, ?_, h.refreshing.sound.idle_of_end hc hm hcr rfl, w, hw,
    .inl hwp⟩
  exact hm.validEntry_none hc (h.refreshing.invalid i c hc hcr) fun e he => hentry ▸ he

/-- If the call that refreshes has succeeded, then while its entry is valid and nothing is dropped
no fetch starts, and whoever has waited and returns, returns that entry. -/
theorem Awaits.shared {e : Entry} {t : State} {rest : List Action} (reached : s₀.Reachable)
    (installs : s.Installs e s') (later : s'.run rest = some t) (valid : t.isValid e = true)
    (kept : ∀ k, t.Returned k .invalidated → s₀.Returned k .invalidated) :
    t.store.fetches = s₀.store.fetches ∧
      ∀ j o', s₀.Queued j → t.Returned j o' → ∃ source, o' = .read source e := by
  have since := h.since.trans (h.refreshing.sound.precedes (a := .resume i) hr)
  have serves : Serves s' e t := by
    refine (h.refreshing.sound.serves_of_installs installs).run later valid fun k hk => ?_
    obtain ⟨c, time, hc, hp⟩ := kept k hk
    exact ⟨c, time, since.finished hc hp, hp⟩
  refine ⟨serves.fetches.trans (h.fetches_at_end hr ended), ?_⟩
  rintro j o' hj ⟨c, time, hc, hp⟩
  obtain ⟨w, hw, hwp⟩ := h.queued_at_end hr ended hj
  have reads : c.kind.reads = true := by
    obtain ⟨w₀, hw₀, hwp₀⟩ := hj
    obtain ⟨d, hd, hwd⟩ := (since.trans serves.since).calls j w₀ hw₀
    rw [hc] at hd
    cases hd
    rw [hwd.kind]
    exact reached.reads_of_queued hw₀ hwp₀
  rcases serves.answers j c o' time hc reads hp with hbefore | hread
  · rw [hw] at hbefore
    cases hbefore
    rw [hwp] at hp
    contradiction
  · exact hread

end ends

/-! ## The law -/

theorem Fetching.awaits {s : State} {i : Nat} (reached : s.Reachable) (h : s.Fetching i) :
    Awaits s i s := by
  obtain ⟨c, fetch, startedAt, due, hc, hp⟩ := h
  exact ⟨reached.refreshing, .refl s, ⟨c, hc, by rw [hp]; rfl⟩, fun _ hj => hj, rfl⟩

/-- While the first of some calls fetches and the others are queued, one of them has started a
fetch so far. -/
theorem countP_fetchers_of_queued {store : Store} {ttl first : Nat} {others : List Nat}
    {actions : List Action} {s : State} (reached : (start store ttl).run actions = some s)
    (fetching : s.Fetching first) (queued : ∀ j ∈ others, s.Queued j) :
    ((start store ttl).fetchers actions).countP (· ∈ first :: others) = 1 := by
  have hcount := (start_sound store ttl).fetchesOf_run reached
  have hstart : ∀ k, (start store ttl).fetchesOf k = 0 := fun k => rfl
  have hfirst : ((start store ttl).fetchers actions).count first = 1 := by
    obtain ⟨c, fetch, startedAt, due, hc, hp⟩ := fetching
    have h := hcount first
    rw [fetchesOf_of_call hc, hp, hstart, Nat.zero_add] at h
    exact h.symm
  rw [← hfirst, List.count]
  refine List.countP_congr fun k hk => ?_
  simp only [List.mem_cons, decide_eq_true_eq, beq_iff_eq, or_iff_left_iff_imp]
  intro hother
  obtain ⟨c, hc, hp⟩ := queued k hother
  have h := hcount k
  rw [fetchesOf_of_call hc, hp, hstart, Nat.zero_add] at h
  exact absurd (List.count_pos_iff.mpr hk) (by simp [← h, Phase.fetches])

/-- Calls of which the first fetches while the others are queued share its fetch if it succeeds.
If it fails, and no call but the others fetches after it, they share it only if there are no
others. -/
theorem calls_that_miss_together_share_a_fetch_unless_it_fails {store : Store} {ttl first : Nat}
    {others : List Nat} {before after : List Action} {s t : State}
    (reached : (start store ttl).run before = some s) (fetching : s.Fetching first)
    (queued : ∀ j ∈ others, s.Queued j) (later : s.run after = some t)
    (ended : ∀ j ∈ first :: others, ∃ o, t.Returned j o)
    (kept : ∀ k, t.Returned k .invalidated → s.Returned k .invalidated)
    (unexpired : ∀ e, t.Returned first (.read .fetched e) → t.isValid e = true) :
    (∃ e, t.Returned first (.read .fetched e) ∧
      ((start store ttl).fetchers (before ++ after)).countP (· ∈ first :: others) = 1 ∧
      ∀ j ∈ others, ∃ source, t.Returned j (.read source e)) ∨
    (∃ fault, t.Returned first (.failed fault) ∧
      ((∀ j ∈ s.fetchers after, j ∈ others) →
        (((start store ttl).fetchers (before ++ after)).countP (· ∈ first :: others) = 1 ↔
          others = []))) := by
  have sound := ((start_sound store ttl).run reached).1
  have hone := countP_fetchers_of_queued reached fetching queued
  rw [fetchers_append reached, List.countP_append, hone]
  have reachable : s.Reachable := ⟨store, ttl, before, reached⟩
  obtain ⟨o, ho⟩ := ended first (by simp)
  obtain ⟨m, m', rest, hm, hstep, hend, hrest⟩ := (fetching.awaits reachable).run later ho
  have total := sound.fetches_run later
  rcases hm.end_cases hstep hend with ⟨e, rfl, installs⟩ | ⟨fault, rfl, starved⟩
  · obtain ⟨same, reads⟩ := hm.shared hstep hend reachable installs hrest (unexpired e ho) kept
    have quiet : s.fetchers after = [] := List.length_eq_zero_iff.mp (by omega)
    refine .inl ⟨e, ho, by rw [quiet]; rfl, fun j hj => ?_⟩
    obtain ⟨o', ho'⟩ := ended j (List.mem_cons_of_mem _ hj)
    obtain ⟨source, rfl⟩ := reads j o' (queued j hj) ho'
    exact ⟨source, ho'⟩
  · refine .inr ⟨fault, ho, fun alone => ?_⟩
    have hall : (s.fetchers after).countP (· ∈ first :: others) = (s.fetchers after).length := by
      rw [List.countP_eq_length]
      intro k hk
      simp [alone k hk]
    rw [hall]
    constructor
    · -- If nobody fetches again, whoever has waited starves, and does not end.
      intro hnone
      have sound' := hm.refreshing.sound.act (a := .resume first) hstep
      have quiet : m'.fetchers rest = [] := by
        have after_end := sound'.fetches_run hrest
        have at_end := hm.fetches_at_end hstep hend
        exact List.length_eq_zero_iff.mp (by omega)
      refine List.eq_nil_iff_forall_not_mem.mpr fun j hj => ?_
      obtain ⟨o', ho'⟩ := ended j (List.mem_cons_of_mem _ hj)
      exact ((starved j (queued j hj)).run hrest quiet).not_returned o' ho'
    · rintro rfl
      simpa [List.eq_nil_iff_forall_not_mem] using alone

/-- Two calls miss, and the first of them fetches, for which the store needs 50 ms. -/
def twoMisses : List Action := [.changeStore (.setLatency (some 50)), .begin .dataset,
  .begin .dataset, .resume 0, .resume 1, .resume 0, .resume 0]

/-- The second call joins the fetch of the first if it succeeds. -/
theorem a_second_miss_joins : ∃ (after : List Action) (s t : State) (e : Entry),
    (start (.inMemory []) 300000).run twoMisses = some s ∧ s.run after = some t ∧
      t.Returned 0 (.read .fetched e) ∧
      ((start (.inMemory []) 300000).fetchers (twoMisses ++ after)).countP (· ∈ [0, 1]) = 1 ∧
      ∃ source, t.Returned 1 (.read source e) := by
  have law := @calls_that_miss_together_share_a_fetch_unless_it_fails (.inMemory []) 300000 0 [1]
    twoMisses [.elapse 50, .resume 0, .resume 0, .resume 1, .resume 1] _ _ rfl
    ⟨_, _, _, _, rfl, rfl⟩ (List.forall_mem_singleton.mpr ⟨_, rfl, rfl⟩) rfl
    (List.forall_mem_cons.mpr ⟨⟨_, _, _, rfl, rfl⟩,
      List.forall_mem_singleton.mpr ⟨_, _, _, rfl, rfl⟩⟩) ?_ ?_
  · rcases law with ⟨e, he, hone, hread⟩ | ⟨fault, ⟨c, time, hc, hp⟩, -⟩
    · exact ⟨_, _, _, e, rfl, rfl, he, hone, hread 1 (by simp)⟩
    · cases hc
      cases hp
  · rintro k ⟨c, time, hc, hp⟩
    rcases k with _ | _ | k
    · cases hc
      cases hp
    · cases hc
      cases hp
    · contradiction
  · rintro e ⟨c, time, hc, hp⟩
    cases hc
    cases hp
    rfl

/-- A failure is not shared: the call that has waited for the fetch that fails starts another. -/
theorem a_failure_is_not_shared : ¬ ∀ (store : Store) (ttl first : Nat) (others : List Nat)
    (before after : List Action) (s t : State), (start store ttl).run before = some s →
      s.Fetching first → (∀ j ∈ others, s.Queued j) → s.run after = some t →
      (∀ j ∈ first :: others, ∃ o, t.Returned j o) →
      (∀ k, t.Returned k .invalidated → s.Returned k .invalidated) →
      (∀ e, t.Returned first (.read .fetched e) → t.isValid e = true) →
      ((start store ttl).fetchers (before ++ after)).countP (· ∈ first :: others) = 1 := by
  intro claim
  have once := claim { Store.inMemory [] with fault := some Store.toldToFail } 300000 0 [1]
    twoMisses [.elapse 50, .resume 0, .resume 1, .resume 1, .elapse 50, .resume 1] _ _ rfl
    ⟨_, _, _, _, rfl, rfl⟩ (List.forall_mem_singleton.mpr ⟨_, rfl, rfl⟩) rfl
    (List.forall_mem_cons.mpr ⟨⟨_, _, _, rfl, rfl⟩,
      List.forall_mem_singleton.mpr ⟨_, _, _, rfl, rfl⟩⟩) ?_ ?_
  · exact absurd once (by decide)
  · rintro k ⟨c, time, hc, hp⟩
    rcases k with _ | _ | k
    · cases hc
      cases hp
    · cases hc
      cases hp
    · contradiction
  · rintro e ⟨c, time, hc, hp⟩
    cases hc
    cases hp

end State

end CompanySearch.Cache
