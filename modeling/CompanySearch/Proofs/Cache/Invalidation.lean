-- An invalidation drops the entry and leaves a fetch that is under way alone. What such a fetch
-- brings is put in place afterwards, so later readings are fresh exactly if no fetch lingers.
import CompanySearch.Proofs.Cache.Reachable

namespace CompanySearch.Cache

/-- The number of the fetch that a call in this phase brings along or has come by. -/
def Phase.fetch? : Phase → Option Nat
  | .fetching fetch _ _ => some fetch
  | .installing e _ => some e.snapshot.fetch
  | .finished (.read _ e) _ => some e.snapshot.fetch
  | .starting | .queued | .rechecking | .finished _ _ => none

namespace State

/-- Whether what a call in this phase fetches could be valid once it is in place. -/
def Lingers (s : State) : Phase → Prop
  | .fetching _ _ _ => 0 < s.ttl
  | .installing e _ => s.isValid e = true
  | .starting | .queued | .rechecking | .finished _ _ => False

/-- A fetch that has begun can still bring a valid entry. -/
def Lingering (s : State) : Prop :=
  ∃ (i : Nat) (c : Call), s.calls[i]? = some c ∧ s.Lingers c.phase

/-- Whatever a call of this kind returns that begins from now on, its fetch starts from now on. -/
def ReadsAfresh (s : State) (kind : CallKind) : Prop :=
  ∀ actions t i c source e time, s.run actions = some t → s.calls.length ≤ i →
    t.calls[i]? = some c → c.kind = kind → c.phase = .finished (.read source e) time →
    s.store.fetches < e.snapshot.fetch

/-! ## Without a lingering fetch -/

/-- Nothing from a fetch up to number `n` can be returned by a call from number `l` on. -/
structure Renewed (n l : Nat) (s : State) : Prop where
  sound : s.Sound
  fetches : n ≤ s.store.fetches
  length : l ≤ s.calls.length
  entry : ∀ e, s.validEntry = some e → n < e.snapshot.fetch
  lingering : ∀ (i : Nat) (c : Call), s.calls[i]? = some c → s.Lingers c.phase →
    ∃ m, c.phase.fetch? = some m ∧ n < m
  later : ∀ (i : Nat) (c : Call) m, l ≤ i → s.calls[i]? = some c → c.phase.fetch? = some m → n < m

/-- With time a fetch may cease to linger, but never begins to. -/
theorem Precedes.lingers {s t : State} (h : s.Precedes t) {p : Phase} (hp : t.Lingers p) :
    s.Lingers p := by
  cases p with
  | fetching n startedAt due =>
    have hpos : 0 < t.ttl := hp
    rwa [h.ttl] at hpos
  | installing e took => exact h.isValid hp
  | starting => exact hp
  | queued => exact hp
  | rechecking => exact hp
  | finished o time => exact hp

section move

variable {s s' : State} {i : Nat} {c : Call} {p : Phase} (h : Move s i c p s')
include h

/-- What a call brings along after a move it has brought before, or has found, or just started. -/
theorem Move.fetch?_cases {m : Nat} (hp : p.fetch? = some m) :
    c.phase.fetch? = some m ∨ (∃ e, s.validEntry = some e ∧ e.snapshot.fetch = m) ∨
      m = s.store.fetches + 1 := by
  cases h <;> simp_all [Phase.fetch?]

/-- A fetch lingers after a move if it has lingered before, or just started. -/
theorem Move.lingers_cases (hp : s'.Lingers p) :
    (s.Lingers c.phase ∧ p.fetch? = c.phase.fetch?) ∨ p.fetch? = some (s.store.fetches + 1) := by
  cases h with
  | fetch phase invalid => exact .inr rfl
  | deliver n startedAt due records phase isDue answer =>
    refine .inl ⟨?_, by rw [phase]; rfl⟩
    rw [phase]
    have hvalid : decide (s.now - s.now < s.ttl) = true := hp
    simpa [Lingers] using hvalid
  | hit => exact absurd hp id
  | miss => exact absurd hp id
  | lock => exact absurd hp id
  | join => exact absurd hp id
  | fail => exact absurd hp id
  | install => exact absurd hp id
  | drop => exact absurd hp id
  | describe => exact absurd hp id

/-- The valid entry after a move is the one before, or comes from the fetch of the call. -/
theorem Move.validEntry_cases {e : Entry} (hc : s.calls[i]? = some c)
    (he : s'.validEntry = some e) :
    s.validEntry = some e ∨ (s.Lingers c.phase ∧ c.phase.fetch? = some e.snapshot.fetch) := by
  have hpre := h.precedes hc
  have hvalid := hpre.isValid (validEntry_eq_some.mp he).2
  rcases h.entry_cases (validEntry_eq_some.mp he).1 with hold | ⟨took, hphase⟩
  · exact .inl (validEntry_eq_some.mpr ⟨hold, hvalid⟩)
  · rw [hphase]
    exact .inr ⟨hvalid, rfl⟩

theorem Renewed.move {n l : Nat} (renewed : Renewed n l s) (hc : s.calls[i]? = some c) :
    Renewed n l s' where
  sound := renewed.sound.move h hc
  fetches := Nat.le_trans renewed.fetches h.fetches_le
  length := Nat.le_trans renewed.length (h.precedes hc).length_le
  entry := by
    intro e he
    rcases h.validEntry_cases hc he with hold | ⟨hlingers, hfetch⟩
    · exact renewed.entry e hold
    · obtain ⟨m, hm, hlt⟩ := renewed.lingering i c hc hlingers
      rw [hfetch] at hm
      cases hm
      exact hlt
  lingering := by
    intro j d hd hlingers
    rcases h.calls_cases hc hd with ⟨rfl, rfl⟩ | ⟨-, hold⟩
    · rcases h.lingers_cases hlingers with ⟨hbefore, hfetch⟩ | hnew
      · rw [hfetch]
        exact renewed.lingering j c hc hbefore
      · exact ⟨_, hnew, Nat.lt_succ_of_le renewed.fetches⟩
    · exact renewed.lingering j d hold ((h.precedes hc).lingers hlingers)
  later := by
    intro j d m hl hd hfetch
    rcases h.calls_cases hc hd with ⟨rfl, rfl⟩ | ⟨-, hold⟩
    · rcases h.fetch?_cases hfetch with hbefore | ⟨e, he, rfl⟩ | rfl
      · exact renewed.later j c m hl hc hbefore
      · exact renewed.entry e he
      · exact Nat.lt_succ_of_le renewed.fetches
    · exact renewed.later j d m hl hold hfetch

end move

theorem Renewed.act {n l : Nat} {s s' : State} {a : Action} (renewed : Renewed n l s)
    (h : s.act a = some s') : Renewed n l s' := by
  have sound' := renewed.sound.act h
  have hpre := renewed.sound.precedes h
  have length' := Nat.le_trans renewed.length hpre.length_le
  have fetches' := Nat.le_trans renewed.fetches hpre.fetches
  cases a with
  | resume i =>
    obtain ⟨c, p, hc, hm⟩ := exists_move renewed.sound.guard_free h
    exact renewed.move hm hc
  | begin kind =>
    cases h
    refine ⟨sound', fetches', length', renewed.entry, ?_, ?_⟩
    · intro j d hd hlingers
      rcases begin_calls hd with hold | ⟨-, rfl⟩
      · exact renewed.lingering j d hold hlingers
      · exact absurd hlingers id
    · intro j d m hl hd hfetch
      rcases begin_calls hd with hold | ⟨-, rfl⟩
      · exact renewed.later j d m hl hold hfetch
      · contradiction
  | elapse time =>
    cases h
    refine ⟨sound', fetches', length', ?_, ?_, renewed.later⟩
    · intro e he
      exact renewed.entry e (hpre.validEntry rfl he)
    · intro j d hd hlingers
      exact renewed.lingering j d hd (hpre.lingers hlingers)
  | changeStore change =>
    cases h
    exact ⟨sound', fetches', length', renewed.entry, renewed.lingering, renewed.later⟩

/-- If nothing is in place and no fetch lingers, later readings are fresh. -/
theorem Sound.reads_afresh {s : State} (sound : s.Sound) (empty : s.entry = none)
    (lingering : ¬ s.Lingering) (kind : CallKind) : s.ReadsAfresh kind := by
  have renewed : Renewed s.store.fetches s.calls.length s := by
    refine ⟨sound, Nat.le_refl _, Nat.le_refl _, ?_, ?_, ?_⟩
    · intro e he
      rw [(validEntry_eq_some.mp he).1] at empty
      contradiction
    · intro i c hc hlingers
      exact absurd ⟨i, c, hc, hlingers⟩ lingering
    · intro i c m hl hc
      rw [List.getElem?_eq_none hl] at hc
      contradiction
  intro actions t i c source e time hr hl hc _ hp
  have renewed' := run_keeps (P := Renewed s.store.fetches s.calls.length) Renewed.act renewed hr
  exact renewed'.later i c _ hl hc (by rw [hp]; rfl)

/-! ## With a lingering fetch -/

/-- What a call is about to put in place, it can put in place. -/
theorem Sound.can_install {s : State} {j : Nat} {c : Call} {e : Entry} {took : Nat}
    (sound : s.Sound) (hc : s.calls[j]? = some c) (hp : c.phase = .installing e took)
    (valid : s.isValid e = true) : ∃ t, s.resume j = some t ∧ t.validEntry = some e := by
  have hm := Move.install (s := s) (i := j) e took hp
  refine ⟨_, hm.resume sound.guard_free hc, validEntry_eq_some.mpr ⟨by simp, ?_⟩⟩
  simpa [isValid, hm.now_eq, hm.ttl_eq] using valid

/-- A fetch can succeed, and what it brings is valid at once. -/
theorem Sound.can_deliver {s : State} {j : Nat} {c : Call} {fetch startedAt due : Nat}
    (sound : s.Sound) (hc : s.calls[j]? = some c) (hp : c.phase = .fetching fetch startedAt due)
    (positive : 0 < s.ttl) :
    ∃ actions t d e took, s.run actions = some t ∧ t.calls[j]? = some d ∧
      d.phase = .installing e took ∧ t.isValid e = true ∧ e.snapshot.fetch = fetch := by
  let m := (s.changeStore (.setFault none)).elapse (due - s.now)
  have hms : m.Sound :=
    (sound.act (a := .changeStore (.setFault none)) rfl).act (a := .elapse (due - s.now)) rfl
  have hdue : due ≤ m.now := by
    show due ≤ s.now + (due - s.now)
    omega
  have hm := Move.deliver (s := m) (i := j) fetch startedAt due s.store.records hp hdue rfl
  have hpos : 0 < m.ttl := positive
  refine ⟨[.changeStore (.setFault none), .elapse (due - s.now), .resume j], _, _, _, _, ?_,
    hm.self hc, rfl, ?_, rfl⟩
  · rw [run_cons, State.act, Option.bind_some, run_cons, State.act, Option.bind_some,
      run_singleton]
    exact hm.resume hms.guard_free hc
  · simpa [isValid, hm.now_eq, hm.ttl_eq] using hpos

/-- A lingering fetch can come to be a valid entry. -/
theorem Sound.can_come_back {s : State} (sound : s.Sound) (lingering : s.Lingering) :
    ∃ actions t e, s.run actions = some t ∧ t.validEntry = some e ∧
      e.snapshot.fetch ≤ s.store.fetches := by
  obtain ⟨j, c, hc, hlingers⟩ := lingering
  have hfit := sound.phases_fit j c hc
  cases hp : c.phase with
  | fetching fetch startedAt due =>
    rw [hp] at hlingers hfit
    obtain ⟨actions, m, d, e, took, hm, hd, hdp, hvalid, hfetch⟩ := sound.can_deliver hc hp hlingers
    obtain ⟨t, ht, hentry⟩ := (sound.run hm).1.can_install hd hdp hvalid
    exact ⟨actions ++ [.resume j], t, e, run_concat (a := .resume j) hm ht, hentry,
      Nat.le_of_eq (hfetch.trans hfit.2)⟩
  | installing e took =>
    rw [hp] at hlingers hfit
    obtain ⟨t, ht, hentry⟩ := sound.can_install hc hp hlingers
    refine ⟨[.resume j], t, e, ?_, hentry, Nat.le_of_eq hfit.2.1⟩
    rw [run_singleton]
    exact ht
  | starting => simp [hp, Lingers] at hlingers
  | queued => simp [hp, Lingers] at hlingers
  | rechecking => simp [hp, Lingers] at hlingers
  | finished o time => simp [hp, Lingers] at hlingers

/-- A new reading returns the entry that is valid. -/
theorem Sound.new_reading_hits {s : State} {e : Entry} (sound : s.Sound)
    (valid : s.validEntry = some e) {kind : CallKind} (reads : kind.reads = true) :
    ∃ t c time, s.run [.begin kind, .resume s.calls.length] = some t ∧
      t.calls[s.calls.length]? = some c ∧ c.kind = kind ∧
      c.phase = .finished (.read .hit e) time := by
  have hc : (s.begin kind).calls[s.calls.length]? = some ⟨kind, s.now, .starting⟩ := by
    simp [begin]
  have hm := Move.hit (s := s.begin kind) (i := s.calls.length) (c := ⟨kind, s.now, .starting⟩) e
    rfl reads valid
  refine ⟨_, _, s.now, ?_, hm.self hc, rfl, rfl⟩
  rw [run_cons, State.act, Option.bind_some, run_singleton]
  exact hm.resume (sound.act (a := .begin kind) rfl).guard_free hc

theorem Sound.not_reads_afresh {s : State} (sound : s.Sound) (lingering : s.Lingering)
    {kind : CallKind} (reads : kind.reads = true) : ¬ s.ReadsAfresh kind := by
  intro afresh
  obtain ⟨actions, m, e, hm, hentry, hold⟩ := sound.can_come_back lingering
  obtain ⟨msound, hpre⟩ := sound.run hm
  obtain ⟨t, c, time, ht, hc, hkind, hp⟩ := msound.new_reading_hits hentry reads
  have hlt := afresh _ t _ c .hit e time (run_trans hm ht) hpre.length_le hc hkind hp
  omega

/-! ## The law -/

/-- After an invalidation has returned, later readings are fresh exactly if no fetch lingers. -/
theorem an_invalidation_lasts_unless_a_fetch_lingers {s s' : State} {i : Nat}
    (reached : s.Reachable) (step : s.resume i = some s') (dropped : s'.Returned i .invalidated)
    (kind : CallKind) (reads : kind.reads = true) : s'.ReadsAfresh kind ↔ ¬ s'.Lingering := by
  have sound := reached.sound
  have sound' := sound.act (a := .resume i) step
  refine ⟨fun afresh lingering => sound'.not_reads_afresh lingering reads afresh, ?_⟩
  intro lingering
  obtain ⟨c, p, hc, hm⟩ := exists_move sound.guard_free step
  obtain ⟨d, time, hd, hp⟩ := dropped
  rw [hm.self hc] at hd
  cases hd
  have empty : s'.entry = none := by
    cases hm <;> simp_all
  exact sound'.reads_afresh empty lingering kind

/-- Once a valid entry is dropped with no fetch under way, whoever reads next fetches. -/
theorem a_quiet_invalidation_lasts :
    ∃ s s' : State, s.Reachable ∧ s.resume 1 = some s' ∧ s.validEntry = some ⟨⟨1, []⟩, 0⟩ ∧
      s'.ReadsAfresh .dataset := by
  have reached : Reachable _ := ⟨.inMemory [], 300000, [.begin .dataset, .resume 0, .resume 0,
    .resume 0, .resume 0, .resume 0, .begin .invalidate], rfl⟩
  have law := an_invalidation_lasts_unless_a_fetch_lingers reached (i := 1) rfl ⟨_, _, rfl, rfl⟩
    .dataset rfl
  refine ⟨_, _, reached, rfl, rfl, law.mpr ?_⟩
  rintro ⟨j, c, hc, hlingers⟩
  rcases j with _ | _ | j
  · rw [← Option.some.inj hc] at hlingers
    exact hlingers
  · rw [← Option.some.inj hc] at hlingers
    exact hlingers
  · contradiction

/-- Not every invalidation lasts: a fetch under way puts its snapshot in place after the drop, and
the next reading returns it. -/
theorem a_dropped_snapshot_comes_back :
    ¬ ∀ (s s' : State) (i : Nat), s.Reachable → s.resume i = some s' →
      s'.Returned i .invalidated → s'.ReadsAfresh .dataset := by
  intro claim
  have afresh := claim _ _ 1 ⟨.inMemory [], 300000, [.changeStore (.setLatency (some 50)),
    .begin .dataset, .resume 0, .resume 0, .resume 0, .elapse 10, .begin .invalidate], rfl⟩ rfl
    ⟨_, _, rfl, rfl⟩
  have late := afresh [.elapse 40, .resume 0, .resume 0, .begin .dataset, .resume 2] _ 2 _ .hit
    ⟨⟨1, []⟩, 50⟩ 50 rfl (Nat.le_refl _) rfl rfl rfl
  exact absurd late (by decide)

end State

end CompanySearch.Cache
