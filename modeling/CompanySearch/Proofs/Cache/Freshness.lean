-- No reading is stale. What a call returns it has fetched itself, or has found valid at its last
-- look. What it has waited for was put in place after the call had begun, though it may have been
-- populated just before, and an entry that has expired is never returned, also while it stays in
-- place because refreshing fails.
import CompanySearch.Proofs.Cache.History
import CompanySearch.Proofs.Cache.InFlight

namespace CompanySearch.Cache

namespace State

/-! ## The last look -/

/-- Call `i` is about to look at the entry. -/
def Looks (s : State) (i : Nat) : Prop :=
  ∃ c : Call, s.calls[i]? = some c ∧ (c.phase = .starting ∨ c.phase = .rechecking)

/-- Along `actions`, the last look of call `i` finds `e` younger than the time to live, and the call
ends with it. -/
def FindsValid (s₀ : State) (actions : List Action) (i : Nat) (source : Source) (e : Entry) :
    Prop :=
  ∃ m m', s₀.Takes actions m (.resume i) m' ∧ m.Looks i ∧ m'.Returned i (.read source e) ∧
    m.entry = some e ∧ e.populatedAt ≤ m.now ∧ m.now - e.populatedAt < s₀.ttl

/-- Along `actions`, the first look of call `i` finds no valid entry. -/
def Misses (s₀ : State) (actions : List Action) (i : Nat) : Prop :=
  ∃ m m' c, s₀.Takes actions m (.resume i) m' ∧ m.calls[i]? = some c ∧ c.phase = .starting ∧
    m.validEntry = none

/-- A call ends with an entry by putting it in place, or by a look that finds it valid. -/
theorem Move.read_cases {s s' : State} {i : Nat} {c : Call} {source : Source} {e : Entry}
    {time : Nat} (h : Move s i c (.finished (.read source e) time) s') :
    (∃ took, c.phase = .installing e took) ∨
      (s.validEntry = some e ∧ (c.phase = .starting ∨ c.phase = .rechecking)) := by
  cases h <;> simp_all

/-- A reading ends with the entry that is in place. -/
theorem Move.entry_of_read {s s' : State} {i : Nat} {c : Call} {source : Source} {e : Entry}
    {time : Nat} (h : Move s i c (.finished (.read source e) time) s') : s'.entry = some e := by
  cases h with
  | hit e phase kind valid => simpa using (validEntry_eq_some.mp valid).1
  | join e phase valid => simpa using (validEntry_eq_some.mp valid).1
  | install e took phase => simp

/-- Whatever a call returns, it has delivered itself, or some call has and this one finds it valid
at its last look. -/
theorem exists_delivers_of_returned {store : Store} {ttl : Nat} {actions : List Action} {t : State}
    (h : (start store ttl).run actions = some t) {i : Nat} {c : Call} {source : Source} {e : Entry}
    {time : Nat} (hc : t.calls[i]? = some c) (hp : c.phase = .finished (.read source e) time) :
    ∃ k, (start store ttl).Delivers actions k e ∧
      (k = i ∨ (start store ttl).FindsValid actions i source e) := by
  obtain ⟨before, after, m, m', d, p, rfl, hm, hact, -, hd, hmove, -, rfl⟩ :=
    exists_move_to (start_sound store ttl) h (P := (· = .finished (.read source e) time)) (by simp)
      (by simp [start]) hc hp
  rcases hmove.read_cases with ⟨took, hphase⟩ | ⟨hvalid, hphase⟩
  · have carries : m.Carries i e := ⟨d, took, hd, hphase⟩
    obtain ⟨_, _, _, _, -, -, -, -, -, -, delivers⟩ :=
      carries.exists_delivery (start_sound store ttl) hm rfl
    exact ⟨i, delivers.append _, .inl rfl⟩
  · obtain ⟨k, delivers⟩ := exists_delivers_of_validEntry hm hvalid
    refine ⟨k, delivers.append _, .inr ?_⟩
    obtain ⟨msound, hpre⟩ := (start_sound store ttl).run hm
    obtain ⟨hentry, hyoung⟩ := validEntry_eq_some.mp hvalid
    refine ⟨m, m', ⟨before, after, rfl, hm, hact⟩, ⟨d, hd, hphase⟩,
      ⟨_, time, hmove.self hd, rfl⟩, hentry, (msound.entry_known e hentry).2, ?_⟩
    rw [← hpre.ttl]
    simpa [isValid] using hyoung

/-! ## How a call and a snapshot meet -/

/-- What each move of call `k` keeps of its phase, every run keeps. -/
theorem Sound.keeps_phase {s t : State} {actions : List Action} {k : Nat} {c : Call}
    {P : Phase → Prop} (sound : s.Sound) (h : s.run actions = some t)
    (closed : ∀ m m' d p, Move m k d p m' → P d.phase → P p) (hc : s.calls[k]? = some c)
    (hp : P c.phase) : ∃ d, t.calls[k]? = some d ∧ P d.phase := by
  refine (run_keeps (P := fun m => m.Sound ∧ ∃ d, m.calls[k]? = some d ∧ P d.phase) ?_
    ⟨sound, c, hc, hp⟩ h).2
  rintro m m' a ⟨msound, d, hd, hpd⟩ ha
  refine ⟨msound.act ha, ?_⟩
  cases a with
  | resume i =>
    obtain ⟨d', p, hd', hm⟩ := exists_move msound.guard_free ha
    by_cases hk : k = i
    · subst hk
      rw [hd] at hd'
      cases hd'
      exact ⟨_, hm.self hd, closed _ _ _ _ hm hpd⟩
    · exact ⟨d, (hm.other hk).trans hd, hpd⟩
  | begin kind =>
    cases ha
    exact ⟨d, begin_calls_of_old kind hd, hpd⟩
  | elapse time =>
    cases ha
    exact ⟨d, hd, hpd⟩
  | changeStore change =>
    cases ha
    exact ⟨d, hd, hpd⟩

/-- No call has begun in the future. -/
theorem Reachable.startedAt_le {s : State} (h : s.Reachable) {i : Nat} {c : Call}
    (hc : s.calls[i]? = some c) : c.startedAt ≤ s.now :=
  h.forall_calls (P := fun now c => c.startedAt ≤ now) (fun now _ => Nat.le_refl now)
    (fun _ _ _ hle => Nat.le_add_right_of_le hle) (fun _ _ _ _ _ _ hle => hle) hc

/-- A call that carries an entry goes on carrying it or returns it. -/
theorem Move.of_carries {s s' : State} {k : Nat} {c : Call} {p : Phase} {e : Entry}
    (h : Move s k c p s')
    (hc : (∃ took, c.phase = .installing e took) ∨
      ∃ time, c.phase = .finished (.read .fetched e) time) :
    (∃ took, p = .installing e took) ∨ ∃ time, p = .finished (.read .fetched e) time := by
  cases h <;> simp_all

/-- Between two states in which a call carries an entry, it carries it too. -/
theorem Carries.between {s m t : State} {first rest : List Action} {k : Nat} {e : Entry}
    (sound : s.Sound) (hs : s.Carries k e) (hm : s.run first = some m) (ht : m.run rest = some t)
    (carries : t.Carries k e) : m.Carries k e := by
  obtain ⟨c, took, hc, hp⟩ := hs
  obtain ⟨msound, -⟩ := sound.run hm
  obtain ⟨d, hd, ⟨took', hpd⟩ | ⟨time, hpd⟩⟩ := sound.keeps_phase hm
    (P := fun p => (∃ took, p = .installing e took) ∨ ∃ time, p = .finished (.read .fetched e) time)
    (fun _ _ _ _ => Move.of_carries) hc (.inl ⟨took, hp⟩)
  · exact ⟨d, took', hd, hpd⟩
  · obtain ⟨c', took', hc', hp'⟩ := carries
    rw [(msound.run ht).2.finished hd hpd] at hc'
    cases hc'
    rw [hpd] at hp'
    contradiction

/-- When call `i` begins along `actions`, some call has delivered `e` and not yet put it in
place. -/
def BeginsAmid (s₀ : State) (actions : List Action) (i : Nat) (e : Entry) : Prop :=
  ∃ m m' kind k, s₀.Takes actions m (.begin kind) m' ∧ m.calls.length = i ∧ m.Carries k e

/-- Only a new call makes the calls more. -/
theorem Sound.begin_of_length_lt {s s' : State} {a : Action} (sound : s.Sound)
    (h : s.act a = some s') (hlt : s.calls.length < s'.calls.length) :
    ∃ kind, a = .begin kind ∧ s'.calls.length = s.calls.length + 1 := by
  cases a with
  | resume k =>
    obtain ⟨c, p, hc, hm⟩ := exists_move sound.guard_free h
    rw [hm.calls_eq, List.length_modify] at hlt
    exact absurd hlt (Nat.lt_irrefl _)
  | begin kind =>
    cases h
    exact ⟨kind, rfl, by simp [begin]⟩
  | elapse time =>
    cases h
    exact absurd hlt (Nat.lt_irrefl _)
  | changeStore change =>
    cases h
    exact absurd hlt (Nat.lt_irrefl _)

/-- What a call carries was delivered after the beginning of any call that is there, unless that
call has begun in between. -/
theorem Carries.populated_since {store : Store} {ttl : Nat} {actions : List Action} {s : State}
    {k : Nat} {e : Entry} (carries : s.Carries k e) (h : (start store ttl).run actions = some s)
    {i : Nat} {c : Call} (hc : s.calls[i]? = some c) :
    c.startedAt ≤ e.populatedAt ∨ (start store ttl).BeginsAmid actions i e := by
  obtain ⟨before, after, m, m', rfl, hm, hact, hafter, carries', htime, -⟩ :=
    carries.exists_delivery (start_sound store ttl) h rfl
  have hm' := run_concat (a := .resume k) hm hact
  have reached' : m'.Reachable := ⟨store, ttl, _, hm'⟩
  by_cases hi : i < m'.calls.length
  · left
    obtain ⟨d, hd, hcd⟩ := (reached'.sound.run hafter).2.calls i _ (List.getElem?_eq_getElem hi)
    rw [hc] at hd
    cases hd
    obtain ⟨d, p, -, hmove⟩ := exists_move ((start_sound store ttl).run hm).1.guard_free hact
    rw [hcd.startedAt, htime, ← hmove.now_eq]
    exact reached'.startedAt_le (List.getElem?_eq_getElem hi)
  · right
    obtain ⟨b, a, r, n, n', rfl, hn, hact', hrest, hnot, hyes⟩ :=
      exists_step (Q := fun n => i < n.calls.length) hafter hi (List.getElem?_eq_some_iff.mp hc).1
    obtain ⟨kind, rfl, hlength⟩ :=
      (reached'.sound.run hn).1.begin_of_length_lt hact' (by omega)
    have hlater : n.run (.begin kind :: r) = some s := by
      rw [run_cons, hact']
      exact hrest
    refine ⟨n, n', kind, k, ?_, by omega, carries'.between reached'.sound hn hlater carries⟩
    rw [List.append_cons]
    exact Takes.prepend hm' ⟨b, r, rfl, hn, hact'⟩

/-! ## A call that has missed -/

/-- Along `actions`, `e` is put in place after call `i` has begun. -/
def InstalledSince (s₀ : State) (actions : List Action) (i : Nat) (e : Entry) : Prop :=
  ∃ a m m' c, s₀.Takes actions m a m' ∧ m.Installs e m' ∧ m.calls[i]? = some c ∧
    c.startedAt ≤ m.now

theorem BeginsAmid.append {s₀ : State} {first : List Action} {i : Nat} {e : Entry}
    (h : s₀.BeginsAmid first i e) (rest : List Action) : s₀.BeginsAmid (first ++ rest) i e := by
  obtain ⟨m, m', kind, k, takes, hrest⟩ := h
  exact ⟨m, m', kind, k, takes.append rest, hrest⟩

/-- A call that looks in vain at first queues, or is none that reads. -/
theorem Move.of_miss {s s' : State} {i : Nat} {c : Call} {p : Phase} (h : Move s i c p s')
    (phase : c.phase = .starting) (invalid : s.validEntry = none) :
    (p = .queued ∧ s'.validEntry = none) ∨
      ∃ o time, p = .finished o time ∧ ∀ source e, o ≠ .read source e := by
  cases h with
  | miss phase' kind invalid' => exact .inl ⟨rfl, invalid⟩
  | hit => simp_all
  | drop => exact .inr ⟨_, _, rfl, by simp⟩
  | describe => exact .inr ⟨_, _, rfl, by simp⟩
  | lock => simp_all
  | join => simp_all
  | fetch => simp_all
  | fail => simp_all
  | deliver => simp_all
  | install => simp_all

/-- What a queued call comes to return while there is no valid entry at first, is put in place on
the way. -/
theorem Sound.exists_install_of_queued {s t : State} {actions : List Action} {i : Nat} {c d : Call}
    {source : Source} {e : Entry} {time : Nat} (sound : s.Sound) (h : s.run actions = some t)
    (hd : s.calls[i]? = some d) (queued : d.phase = .queued) (invalid : s.validEntry = none)
    (hc : t.calls[i]? = some c) (hp : c.phase = .finished (.read source e) time) :
    ∃ before a after m m', actions = before ++ a :: after ∧ s.run before = some m ∧
      m.act a = some m' ∧ m.Installs e m' := by
  obtain ⟨before, after, m, m', f, p, rfl, hm, hact, -, hf, hmove, -, rfl⟩ :=
    exists_move_to sound h (P := (· = .finished (.read source e) time)) (by simp)
      (fun d' hd' => by rw [hd] at hd'; cases hd'; simp [queued]) hc hp
  rcases hmove.read_cases with ⟨took, hphase⟩ | ⟨hvalid, -⟩
  · exact ⟨before, _, after, m, m', rfl, hm, hact, i, f, took, hf, hphase, hact⟩
  · obtain ⟨b, a, r, q, q', rfl, hq, hact', installs, -⟩ :=
      exists_install sound hm (by simp [invalid]) hvalid
    exact ⟨b, a, r ++ .resume i :: after, q, q', by simp, hq, hact', installs⟩

section miss

variable {store : Store} {ttl : Nat}

theorem Installs.since {first : List Action} {a : Action} {s s' : State} {e : Entry}
    (installs : s.Installs e s') (h : (start store ttl).run first = some s)
    (hact : s.act a = some s') {i : Nat} {c : Call} (hc : s.calls[i]? = some c)
    (rest : List Action) :
    (start store ttl).InstalledSince (first ++ a :: rest) i e ∧
      (c.startedAt ≤ e.populatedAt ∨ (start store ttl).BeginsAmid (first ++ a :: rest) i e) := by
  have reached : s.Reachable := ⟨store, ttl, first, h⟩
  refine ⟨⟨a, s, s', c, ⟨first, rest, rfl, h, hact⟩, installs, hc, reached.startedAt_le hc⟩, ?_⟩
  obtain ⟨k, d, took, hd, hp, -⟩ := installs
  have carries : s.Carries k e := ⟨d, took, hd, hp⟩
  exact (carries.populated_since h hc).imp_right fun amid => amid.append _

/-- What a call returns that has missed was put in place since it began. -/
theorem Misses.installed_since {actions : List Action} {t : State} {i : Nat} {c : Call}
    {source : Source} {e : Entry} {time : Nat} (misses : (start store ttl).Misses actions i)
    (h : (start store ttl).run actions = some t) (hc : t.calls[i]? = some c)
    (hp : c.phase = .finished (.read source e) time) :
    (start store ttl).InstalledSince actions i e ∧
      (c.startedAt ≤ e.populatedAt ∨ (start store ttl).BeginsAmid actions i e) := by
  obtain ⟨m, m', d, ⟨before, after, rfl, hm, hact⟩, hd, hstarting, hnone⟩ := misses
  have hm' := run_concat (a := .resume i) hm hact
  have sound' := ((start_sound store ttl).run hm').1
  rw [List.append_cons] at h ⊢
  have hafter := run_rest hm' h
  obtain ⟨d', p, hd', hmove⟩ := exists_move ((start_sound store ttl).run hm).1.guard_free hact
  rw [hd] at hd'
  cases hd'
  have hself := hmove.self hd
  rcases hmove.of_miss hstarting hnone with ⟨rfl, hnone'⟩ | ⟨o, time', rfl, ho⟩
  · obtain ⟨b, a, r, q, q', rfl, hq, hact', installs⟩ :=
      sound'.exists_install_of_queued hafter hself rfl hnone' hc hp
    -- The call is the same all the way.
    obtain ⟨f, hf, hdf⟩ := (sound'.run hq).2.calls i _ hself
    obtain ⟨c', hc', hdc⟩ := (sound'.run hafter).2.calls i _ hself
    rw [hc] at hc'
    cases hc'
    rw [hdc.startedAt, ← hdf.startedAt, ← List.append_assoc]
    exact installs.since (run_trans hm' hq) hact' hf r
  · have hsame := (sound'.run hafter).2.finished hself rfl
    rw [hc] at hsame
    cases hsame
    cases hp
    exact absurd rfl (ho source e)

end miss

/-! ## An entry that has expired -/

theorem Reachable.expired_not_returned {s t : State} {after : List Action} {e : Entry}
    (reached : s.Reachable) (entry : s.entry = some e) (expired : s.isValid e = false)
    (later : s.run after = some t) {i : Nat} {c : Call} {source : Source} {time : Nat}
    (hc : t.calls[i]? = some c) (hp : c.phase = .finished (.read source e) time) :
    s.calls[i]? = some c := by
  by_contra hnot
  have sound := reached.sound
  obtain ⟨b, r, m, m', d, p, rfl, hm, hact, hr, hd, hmove, -, rfl⟩ :=
    exists_move_to sound later (P := (· = .finished (.read source e) time)) (by simp)
      (fun d hd hpd => hnot <| by
        have hsame := (sound.run later).2.finished hd hpd
        rw [hc] at hsame
        rw [hd, hsame]) hc hp
  rcases hmove.read_cases with ⟨took, hphase⟩ | ⟨hvalid, -⟩
  · -- The call brings the entry itself. Its fetch was not under way in `s`, where the entry is in
    -- place already, and a fetch that began later has another number.
    have hway : d.phase.underWay? = some e.snapshot.fetch := by rw [hphase]; rfl
    obtain ⟨b', r', n, n', f, p', rfl, hn, -, -, hf, hmove', hbefore, hafter⟩ :=
      exists_move_to sound hm (P := fun p => p.underWay? = some e.snapshot.fetch)
        (by simp [Phase.underWay?])
        (fun f hf hpf => Nat.lt_irrefl _ (reached.refreshing.newer i f _ e hf hpf entry)) hd hway
    obtain ⟨-, hold | hnext⟩ := hmove'.underWay_cases hafter
    · exact hbefore hold
    · have hle := (sound.run hn).2.fetches
      have hknown := (sound.entry_known e entry).1
      omega
  · have hvalid' := (sound.run hm).2.isValid (validEntry_eq_some.mp hvalid).2
    rw [expired] at hvalid'
    contradiction

/-! ## The law -/

/-- Whatever a call returns, one fetch has delivered as a whole, and the call has fetched it itself
or finds it younger than the time to live at its last look. If its first look was in vain, the
entry was put in place after the call had begun; it was delivered after that, too, unless it was
on its way from the store to its place at that very moment. An entry that has expired is returned
no more, even while it stays in place. -/
theorem no_reading_is_stale {store : Store} {ttl : Nat} {actions : List Action} {t : State}
    (reached : (start store ttl).run actions = some t) {i : Nat} {c : Call} {source : Source}
    {e : Entry} {time : Nat} (hc : t.calls[i]? = some c)
    (returned : c.phase = .finished (.read source e) time) :
    (∃ k, (start store ttl).Delivers actions k e ∧
      (k = i ∨ (start store ttl).FindsValid actions i source e)) ∧
    ((start store ttl).Misses actions i →
      (start store ttl).InstalledSince actions i e ∧
        (c.startedAt ≤ e.populatedAt ∨ (start store ttl).BeginsAmid actions i e)) ∧
    (∀ before after m, actions = before ++ after → (start store ttl).run before = some m →
      m.entry = some e → m.isValid e = false → m.calls[i]? = some c) := by
  refine ⟨exists_delivers_of_returned reached hc returned,
    fun misses => misses.installed_since reached hc returned, ?_⟩
  rintro before after m rfl hm entry expired
  exact Reachable.expired_not_returned ⟨store, ttl, before, hm⟩ entry expired
    (run_rest hm reached) hc returned

/-- The entry expires, refreshing it fails and leaves it in place, and the next reading returns what
was put in place since. -/
theorem a_reading_after_a_failed_refresh_is_fresh :
    ∃ (actions : List Action) (t : State) (c : Call),
      (start (.inMemory []) 100).run actions = some t ∧ t.calls[2]? = some c ∧
        c.phase = .finished (.read .fetched ⟨⟨3, []⟩, 100⟩) 100 ∧
        (start (.inMemory []) 100).InstalledSince actions 2 ⟨⟨3, []⟩, 100⟩ := by
  let before : List Action := [.begin .dataset, .resume 0, .resume 0, .resume 0, .resume 0,
    .resume 0, .elapse 100, .changeStore (.setFault (some Store.toldToFail)), .begin .dataset,
    .resume 1, .resume 1, .resume 1, .resume 1, .changeStore (.setFault none), .begin .dataset]
  let after : List Action := [.resume 2, .resume 2, .resume 2, .resume 2]
  have law := @no_reading_is_stale (.inMemory []) 100 (before ++ .resume 2 :: after) _ rfl 2 _
    .fetched ⟨⟨3, []⟩, 100⟩ 100 rfl rfl
  have misses : (start (.inMemory []) 100).Misses (before ++ .resume 2 :: after) 2 :=
    ⟨_, _, _, ⟨before, after, rfl, rfl, rfl⟩, rfl, rfl, rfl⟩
  exact ⟨_, _, _, rfl, rfl, rfl, (law.2.1 misses).1⟩

/-- A call that has missed and waits may return what was populated before it began: it begins while
the one that has fetched holds a snapshot that has its time already and is not yet in place. -/
theorem a_joined_snapshot_may_be_older_than_the_call :
    ∃ (actions : List Action) (t : State) (c : Call) (e : Entry),
      (start (.inMemory []) 100).run actions = some t ∧
      (start (.inMemory []) 100).Misses actions 1 ∧ t.calls[1]? = some c ∧
      c.phase = .finished (.read .joined e) 10 ∧ ¬ c.startedAt ≤ e.populatedAt := by
  let before : List Action := [.begin .dataset, .resume 0, .resume 0, .resume 0, .resume 0,
    .elapse 10, .begin .dataset]
  let after : List Action := [.resume 0, .resume 1, .resume 1]
  have misses : (start (.inMemory []) 100).Misses (before ++ .resume 1 :: after) 1 :=
    ⟨_, _, _, ⟨before, after, rfl, rfl, rfl⟩, rfl, rfl, rfl⟩
  exact ⟨before ++ .resume 1 :: after, _, _, ⟨⟨1, []⟩, 0⟩, rfl, misses, rfl, rfl, by decide⟩

end State

end CompanySearch.Cache
