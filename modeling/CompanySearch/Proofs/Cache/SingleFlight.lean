-- The refresh lock and the second look together make refreshing single-flight. Whoever fetches has
-- found no valid entry while holding the lock, and what it puts in place serves all who queued.
import CompanySearch.Proofs.Cache.Reachable

namespace CompanySearch.Cache

/-- Whether a call in this phase fetches, or holds what it has fetched. -/
def Phase.refreshes : Phase → Bool
  | .fetching _ _ _ | .installing _ _ => true
  | .starting | .queued | .rechecking | .finished _ _ => false

theorem Phase.holds_of_refreshes {p : Phase} (h : p.refreshes = true) : p.holds = true := by
  cases p <;> simp_all [refreshes, holds]

namespace State

/-- Call `i` waits for the store. -/
def Fetching (s : State) (i : Nat) : Prop :=
  ∃ c fetch startedAt due, s.calls[i]? = some c ∧ c.phase = .fetching fetch startedAt due

/-- A step that puts an entry in place. -/
def Installs (s : State) (e : Entry) (s' : State) : Prop :=
  ∃ i c took, s.calls[i]? = some c ∧ c.phase = .installing e took ∧ s.resume i = some s'

/-! ## One fetch at a time -/

theorem Sound.one_fetch {s : State} (h : s.Sound) {i j : Nat} (hi : s.Fetching i)
    (hj : s.Fetching j) : i = j := by
  obtain ⟨c, _, _, _, hc, hcp⟩ := hi
  obtain ⟨d, _, _, _, hd, hdp⟩ := hj
  exact h.one_holder hc hd (by rw [hcp]; rfl) (by rw [hdp]; rfl)

/-- A move starts no fetch, or it starts the next one for want of a valid entry. -/
theorem Move.fetch_cases {s s' : State} {i : Nat} {c : Call} {p : Phase} (h : Move s i c p s') :
    (s'.store.fetches = s.store.fetches ∧
      ∀ fetch startedAt due, p ≠ .fetching fetch startedAt due) ∨
    (s'.store.fetches = s.store.fetches + 1 ∧ c.phase = .rechecking ∧ s.validEntry = none) := by
  cases h <;> simp_all

/-- Each step starts no fetch, or it starts one while there is no valid entry and no other fetch
is under way. -/
theorem Sound.fetch_cases {s s' : State} {a : Action} (sound : s.Sound)
    (h : s.act a = some s') :
    (s'.store.fetches = s.store.fetches ∧ ∀ i, s'.Fetching i → s.Fetching i) ∨
    (s'.store.fetches = s.store.fetches + 1 ∧ s.validEntry = none ∧ ∀ i, ¬ s.Fetching i) := by
  cases a with
  | resume i =>
    obtain ⟨c, p, hc, hm⟩ := exists_move sound.guard_free h
    rcases hm.fetch_cases with ⟨hsame, hp⟩ | ⟨hnext, hphase, hinvalid⟩
    · refine .inl ⟨hsame, ?_⟩
      rintro j ⟨d, n, startedAt, due, hd, hdp⟩
      rcases hm.calls_cases hc hd with ⟨rfl, rfl⟩ | ⟨-, hold⟩
      · exact absurd hdp (hp n startedAt due)
      · exact ⟨d, n, startedAt, due, hold, hdp⟩
    · refine .inr ⟨hnext, hinvalid, ?_⟩
      rintro j ⟨d, n, startedAt, due, hd, hdp⟩
      have hij := sound.one_holder hc hd (by rw [hphase]; rfl) (by rw [hdp]; rfl)
      subst hij
      rw [hc] at hd
      cases hd
      rw [hphase] at hdp
      contradiction
  | begin kind =>
    cases h
    refine .inl ⟨rfl, ?_⟩
    rintro j ⟨d, n, startedAt, due, hd, hdp⟩
    rcases begin_calls hd with hold | ⟨-, rfl⟩
    · exact ⟨d, n, startedAt, due, hold, hdp⟩
    · contradiction
  | elapse time =>
    cases h
    exact .inl ⟨rfl, fun _ hj => hj⟩
  | changeStore change =>
    cases h
    exact .inl ⟨change_fetches _ _, fun _ hj => hj⟩

/-- Once the call that refreshes has ended, nobody does. -/
theorem Sound.idle_of_end {s s' : State} {i : Nat} {c : Call} {p : Phase} (sound : s.Sound)
    (hc : s.calls[i]? = some c) (h : Move s i c p s') (refreshing : c.phase.refreshes = true)
    (ended : p.refreshes = false) :
    ∀ (j : Nat) (d : Call), s'.calls[j]? = some d → d.phase.refreshes = false := by
  intro j d hd
  rcases h.calls_cases hc hd with ⟨rfl, rfl⟩ | ⟨hj, hold⟩
  · exact ended
  · by_contra hdr
    exact hj (sound.one_holder hold hc (Phase.holds_of_refreshes (by simpa using hdr))
      (Phase.holds_of_refreshes refreshing))

/-! ## While an entry that was put in place is valid -/

/-- The state `s` stands in the time that began with `s₀`, when `e` was put in place: `e` still
is, no fetch is under way, and readings have ended with `e` only. -/
structure Serves (s₀ : State) (e : Entry) (s : State) : Prop where
  sound : s.Sound
  since : s₀.Precedes s
  entry : s.entry = some e
  fetches : s.store.fetches = s₀.store.fetches
  idle : ∀ (i : Nat) (c : Call), s.calls[i]? = some c → c.phase.refreshes = false
  answers : ∀ (i : Nat) (c : Call) o time, s.calls[i]? = some c → c.kind.reads = true →
    c.phase = .finished o time → s₀.calls[i]? = some c ∨ ∃ source, o = .read source e

/-- A call that moves while there is a valid entry, nobody refreshes and nothing is dropped. -/
theorem Move.while_valid {s s' : State} {i : Nat} {c : Call} {p : Phase} {e : Entry}
    (h : Move s i c p s') (valid : s.validEntry = some e) (idle : c.phase.refreshes = false)
    (kept : ∀ time, p ≠ .finished .invalidated time) :
    s'.entry = s.entry ∧ s'.store = s.store ∧ p.refreshes = false ∧
      (c.kind.reads = true → ∀ o time, p = .finished o time → ∃ source, o = .read source e) := by
  cases h with
  | hit e' phase kind valid' => simp_all [Phase.refreshes]
  | miss phase kind invalid => simp_all
  | lock phase unheld => simp [Phase.refreshes]
  | join e' phase valid' => simp_all [Phase.refreshes]
  | fetch phase invalid => simp_all
  | fail n startedAt due fault phase isDue answer => simp_all [Phase.refreshes]
  | deliver n startedAt due records phase isDue answer => simp_all [Phase.refreshes]
  | install e' took phase => simp_all [Phase.refreshes]
  | drop phase kind => exact absurd rfl (kept s.now)
  | describe phase kind => simp_all [Phase.refreshes, CallKind.reads]

/-- Putting an entry in place opens its time. -/
theorem Sound.serves_of_installs {s s' : State} {e : Entry} (sound : s.Sound)
    (h : s.Installs e s') : Serves s' e s' := by
  obtain ⟨i, c, took, hc, hp, hr⟩ := h
  have hm := Move.install (s := s) (i := i) e took hp
  rw [hm.resume sound.guard_free hc] at hr
  cases hr
  exact ⟨sound.move hm hc, .refl _, by simp, rfl, sound.idle_of_end hc hm (by rw [hp]; rfl) rfl,
    fun _ _ _ _ hd _ _ => .inl hd⟩

/-- The time of an entry goes on with each step after which the entry is valid, unless the step
drops it. -/
theorem Serves.act {s₀ s s' : State} {e : Entry} {a : Action} (h : Serves s₀ e s)
    (ha : s.act a = some s') (valid : s'.isValid e = true)
    (kept : ∀ k, s'.Returned k .invalidated → s₀.Returned k .invalidated) : Serves s₀ e s' := by
  have hpre := h.sound.precedes ha
  have sound' := h.sound.act ha
  have since' := h.since.trans hpre
  have hvalid := validEntry_eq_some.mpr ⟨h.entry, hpre.isValid valid⟩
  cases a with
  | resume i =>
    obtain ⟨c, p, hc, hm⟩ := exists_move h.sound.guard_free ha
    have hkept : ∀ time, p ≠ .finished .invalidated time := by
      rintro time rfl
      obtain ⟨d, time', hd, hdp⟩ := kept i ⟨_, time, hm.self hc, rfl⟩
      have hcd := h.since.finished hd hdp
      rw [hc] at hcd
      cases hcd
      exact hm.not_finished _ _ hdp
    obtain ⟨hentry, hstore, hidle, hanswer⟩ := hm.while_valid hvalid (h.idle i c hc) hkept
    refine ⟨sound', since', hentry.trans h.entry, ?_, ?_, ?_⟩
    · rw [hstore, h.fetches]
    · intro j d hd
      rcases hm.calls_cases hc hd with ⟨rfl, rfl⟩ | ⟨-, hold⟩
      · exact hidle
      · exact h.idle j d hold
    · intro j d o time hd hreads hdp
      rcases hm.calls_cases hc hd with ⟨rfl, rfl⟩ | ⟨-, hold⟩
      · exact .inr (hanswer hreads o time hdp)
      · exact h.answers j d o time hold hreads hdp
  | begin kind =>
    cases ha
    refine ⟨sound', since', h.entry, h.fetches, ?_, ?_⟩
    · intro j d hd
      rcases begin_calls hd with hold | ⟨-, rfl⟩
      · exact h.idle j d hold
      · rfl
    · intro j d o time hd hreads hdp
      rcases begin_calls hd with hold | ⟨-, rfl⟩
      · exact h.answers j d o time hold hreads hdp
      · contradiction
  | elapse time =>
    cases ha
    exact ⟨sound', since', h.entry, h.fetches, h.idle, h.answers⟩
  | changeStore change =>
    cases ha
    exact ⟨sound', since', h.entry, (change_fetches _ _).trans h.fetches, h.idle, h.answers⟩

/-- The time of an entry lasts as long as the entry is valid and nothing is dropped. -/
theorem Serves.run {s₀ s t : State} {e : Entry} {actions : List Action} (h : Serves s₀ e s)
    (hr : s.run actions = some t) (valid : t.isValid e = true)
    (kept : ∀ k, t.Returned k .invalidated → s₀.Returned k .invalidated) : Serves s₀ e t := by
  induction actions generalizing s with
  | nil =>
    cases hr
    exact h
  | cons a rest ih =>
    rw [run_cons] at hr
    obtain ⟨m, hm, hrest⟩ := Option.bind_eq_some_iff.mp hr
    have hpre := ((h.sound.act hm).run hrest).2
    refine ih (h.act hm (hpre.isValid valid) ?_) hrest
    rintro k ⟨c, time, hc, hp⟩
    exact kept k ⟨c, time, hpre.finished hc hp, hp⟩

/-! ## Whoever waits can have the entry -/

/-- Call `i` can return `e`, with no more than steps of calls that are under way. -/
def CanReturn (s : State) (i : Nat) (e : Entry) : Prop :=
  ∃ (resumed : List Nat) (u : State) (source : Source),
    s.run (resumed.map .resume) = some u ∧ u.Returned i (.read source e)

theorem validEntry_congr {s t : State} (entry : t.entry = s.entry) (now : t.now = s.now)
    (ttl : t.ttl = s.ttl) : t.validEntry = s.validEntry := by
  unfold validEntry
  rw [entry]
  congr 1
  funext e
  simp only [isValid, now, ttl]

section waiting

variable {s : State} {k : Nat} {c : Call} {e : Entry} (sound : s.Sound)
  (hc : s.calls[k]? = some c)
include sound hc

/-- A call that looks again joins the valid entry and gives the refresh lock back. -/
theorem Sound.can_join (hp : c.phase = .rechecking) (valid : s.validEntry = some e) :
    ∃ u, s.resume k = some u ∧ u.Returned k (.read .joined e) ∧ u.Sound ∧
      u.refreshLock = none ∧ u.validEntry = some e ∧ ∀ j, j ≠ k → u.calls[j]? = s.calls[j]? := by
  have hm := Move.join (i := k) e hp valid
  refine ⟨_, hm.resume sound.guard_free hc, ?_, sound.move hm hc, rfl, ?_, fun j => hm.other⟩
  · exact ⟨_, s.now, hm.self hc, rfl⟩
  · rw [validEntry_congr (by simp) hm.now_eq hm.ttl_eq]
    exact valid

/-- While nobody holds the refresh lock, a queued call can take it and join the valid entry. -/
theorem Sound.can_lock_and_join (hp : c.phase = .queued) (unheld : s.refreshLock = none)
    (valid : s.validEntry = some e) :
    ∃ u, s.run [.resume k, .resume k] = some u ∧ u.Returned k (.read .joined e) := by
  have hm := Move.lock (i := k) hp unheld
  have hvalid := validEntry_congr (t := { s with refreshLock := some k }.setPhase k .rechecking)
    (s := s) rfl rfl rfl
  obtain ⟨u, hu, hreturned, -⟩ :=
    (sound.move hm hc).can_join (hm.self hc) rfl (hvalid.trans valid)
  refine ⟨u, ?_, hreturned⟩
  rw [run_cons, State.act, hm.resume sound.guard_free hc, Option.bind_some, run_singleton]
  exact hu

end waiting

/-- While an entry serves, every reading that has not ended can end with it. -/
theorem Serves.can_return {s₀ s : State} {e : Entry} (h : Serves s₀ e s)
    (valid : s.isValid e = true) {k : Nat} {c : Call} (hc : s.calls[k]? = some c)
    (reads : c.kind.reads = true) (waits : ∀ o, ¬ s.Returned k o) : s.CanReturn k e := by
  have hvalid := validEntry_eq_some.mpr ⟨h.entry, valid⟩
  have hidle := h.idle k c hc
  cases hp : c.phase with
  | starting =>
    have hm := Move.hit (i := k) e hp reads hvalid
    refine ⟨[k], _, .hit, ?_, ⟨_, s.now, hm.self hc, rfl⟩⟩
    rw [List.map_singleton, run_singleton]
    exact hm.resume h.sound.guard_free hc
  | queued =>
    cases hl : s.refreshLock with
    | none =>
      obtain ⟨u, hu, hreturned⟩ := h.sound.can_lock_and_join hc hp hl hvalid
      exact ⟨[k, k], u, .joined, hu, hreturned⟩
    | some j =>
      -- The holder does not refresh, so it is about to look again, and joins.
      obtain ⟨d, hd, hholds⟩ := h.sound.lock_held j hl
      have hdp : d.phase = .rechecking := by
        have hdidle := h.idle j d hd
        cases hph : d.phase <;> simp_all [Phase.holds, Phase.refreshes]
      obtain ⟨m, hm, -, hsound, hfree, hmvalid, hother⟩ := h.sound.can_join hd hdp hvalid
      have hkj : k ≠ j := by
        rintro rfl
        rw [hc] at hd
        cases hd
        rw [hp] at hdp
        contradiction
      obtain ⟨u, hu, hreturned⟩ :=
        hsound.can_lock_and_join ((hother k hkj).trans hc) hp hfree hmvalid
      refine ⟨[j, k, k], u, .joined, ?_, hreturned⟩
      rw [List.map_cons, run_cons, State.act, hm]
      exact hu
  | rechecking =>
    obtain ⟨u, hu, hreturned, -⟩ := h.sound.can_join hc hp hvalid
    refine ⟨[k], u, .joined, ?_, hreturned⟩
    rw [List.map_singleton, run_singleton]
    exact hu
  | fetching n startedAt due => simp [hp, Phase.refreshes] at hidle
  | installing e' took => simp [hp, Phase.refreshes] at hidle
  | finished o time => exact absurd ⟨c, time, hc, hp⟩ (waits o)

/-! ## The law -/

/-- At most one fetch is under way, and one starts only while there is no valid entry. Once an entry
has been put in place, no fetch starts while it is valid and nothing is dropped; every reading that
ends meanwhile returns it, and every reading that waits can return it. -/
theorem refreshing_is_single_flight {s : State} (reached : s.Reachable) :
    (∀ i j, s.Fetching i → s.Fetching j → i = j) ∧
    (∀ a s', s.act a = some s' →
      (s'.store.fetches = s.store.fetches ∧ ∀ i, s'.Fetching i → s.Fetching i) ∨
      (s'.store.fetches = s.store.fetches + 1 ∧ s.validEntry = none ∧ ∀ i, ¬ s.Fetching i)) ∧
    (∀ e s' actions t, s.Installs e s' → s'.run actions = some t → t.isValid e = true →
      (∀ k, t.Returned k .invalidated → s'.Returned k .invalidated) →
      t.entry = some e ∧ t.store.fetches = s'.store.fetches ∧ (∀ i, ¬ t.Fetching i) ∧
      ∀ k c, t.calls[k]? = some c → c.kind.reads = true →
        (∀ o, t.Returned k o → s'.Returned k o ∨ ∃ source, o = .read source e) ∧
        ((∀ o, ¬ t.Returned k o) → t.CanReturn k e)) := by
  have sound := reached.sound
  refine ⟨fun i j => sound.one_fetch, fun a s' => sound.fetch_cases, ?_⟩
  intro e s' actions t installs hr valid kept
  have serves := (sound.serves_of_installs installs).run hr valid kept
  refine ⟨serves.entry, serves.fetches, ?_, ?_⟩
  · rintro i ⟨c, n, startedAt, due, hc, hp⟩
    have hidle := serves.idle i c hc
    simp [hp, Phase.refreshes] at hidle
  · intro k c hc reads
    refine ⟨?_, serves.can_return valid hc reads⟩
    rintro o ⟨d, time, hd, hp⟩
    rw [hc] at hd
    cases hd
    rcases serves.answers k c o time hc reads hp with hbefore | hread
    · exact .inl ⟨c, time, hbefore, hp⟩
    · exact .inr hread

/-- Two calls miss together. The one that fetches puts its snapshot in place, and the other returns
the same one without a second fetch. -/
theorem two_misses_share_one_fetch :
    ∃ s s' t : State, ∃ e : Entry, s.Reachable ∧ s.Installs e s' ∧
      s'.run [.resume 1, .resume 1] = some t ∧ t.Returned 1 (.read .joined e) ∧
      t.store.fetches = s'.store.fetches := by
  have reached : Reachable _ := ⟨.inMemory [], 300000, [.changeStore (.setLatency (some 50)),
    .begin .dataset, .begin .warm, .resume 0, .resume 1, .resume 0, .resume 0, .elapse 50,
    .resume 0], rfl⟩
  refine ⟨_, _, _, ⟨⟨1, []⟩, 50⟩, reached, ⟨0, _, _, rfl, rfl, rfl⟩, rfl, ⟨_, _, rfl, rfl⟩, ?_⟩
  refine ((refreshing_is_single_flight reached).2.2 _ _ [.resume 1, .resume 1] _
    ⟨0, _, _, rfl, rfl, rfl⟩ rfl (by decide) ?_).2.1
  rintro k ⟨c, time, hc, hp⟩
  rcases k with _ | _ | k
  · rw [← Option.some.inj hc] at hp
    have hread : Phase.finished (.read .fetched ⟨⟨1, []⟩, 50⟩) 50 =
        .finished .invalidated time := hp
    simp at hread
  · rw [← Option.some.inj hc] at hp
    have hread : Phase.finished (.read .joined ⟨⟨1, []⟩, 50⟩) 50 =
        .finished .invalidated time := hp
    simp at hread
  · contradiction

end State

end CompanySearch.Cache
