-- What holds of every state that the cache can come to. The invariant ties the refresh lock to the
-- phases of the calls, and the entry to the fetches. Each action keeps it, and so does every run.
import CompanySearch.Proofs.Cache.Moves

namespace CompanySearch.Cache

namespace State

/-! ## Runs -/

theorem run_cons (s : State) (a : Action) (actions : List Action) :
    s.run (a :: actions) = (s.act a).bind fun m => m.run actions := by
  unfold run
  rw [List.foldlM_cons]
  rfl

theorem run_append (s : State) (before after : List Action) :
    s.run (before ++ after) = (s.run before).bind fun m => m.run after := by
  unfold run
  rw [List.foldlM_append]
  rfl

/-- A run goes on where another has ended. -/
theorem run_trans {s m t : State} {before after : List Action} (hm : s.run before = some m)
    (h : m.run after = some t) : s.run (before ++ after) = some t := by
  rw [run_append, hm]
  exact h

/-- What is left of a run once its first part is over. -/
theorem run_rest {s m t : State} {before after : List Action} (hm : s.run before = some m)
    (h : s.run (before ++ after) = some t) : m.run after = some t := by
  rwa [run_append, hm, Option.bind_some] at h

theorem run_singleton (s : State) (a : Action) : s.run [a] = s.act a := by
  rw [run_cons]
  cases s.act a <;> rfl

theorem run_concat {s m m' : State} {before : List Action} {a : Action}
    (hm : s.run before = some m) (h : m.act a = some m') : s.run (before ++ [a]) = some m' := by
  apply run_trans hm
  rwa [run_singleton]

/-- One more step of the same call, ahead of the others. -/
theorem run_resumes {s m t : State} {i n : Nat} (hm : s.resume i = some m)
    (h : m.run (List.replicate n (.resume i)) = some t) :
    s.run (List.replicate (n + 1) (.resume i)) = some t := by
  rw [List.replicate_succ, run_cons, act, hm]
  exact h

/-- What every action keeps, every run keeps. -/
theorem run_keeps {P : State → Prop}
    (step : ∀ {s s' : State} {a : Action}, P s → s.act a = some s' → P s') {s t : State}
    {actions : List Action} (hs : P s) (h : s.run actions = some t) : P t := by
  induction actions generalizing s with
  | nil =>
    cases h
    exact hs
  | cons a rest ih =>
    rw [run_cons] at h
    obtain ⟨m, hm, hrest⟩ := Option.bind_eq_some_iff.mp h
    exact ih (step hs hm) hrest

/-- The states that a cache over some store can come to. -/
def Reachable (s : State) : Prop :=
  ∃ store ttl actions, (start store ttl).run actions = some s

/-- A call that goes on is there, and goes on by one of its moves. -/
theorem exists_move {s s' : State} {i : Nat} (free : s.entryLock = .free)
    (h : s.resume i = some s') : ∃ c p, s.calls[i]? = some c ∧ Move s i c p s' := by
  cases hc : s.calls[i]? with
  | none => simp [resume, hc] at h
  | some c =>
    obtain ⟨p, hm⟩ := move_of_resume free hc h
    exact ⟨c, p, rfl, hm⟩

end State

/-! ## The invariant -/

/-- What the phase of call `i` says about the rest of the state: whoever is past the queue holds
the refresh lock, and what it fetches is the latest fetch. -/
def Phase.Fits (s : State) (i : Nat) : Phase → Prop
  | .rechecking => s.refreshLock = some i
  | .fetching fetch _ _ => s.refreshLock = some i ∧ fetch = s.store.fetches
  | .installing e _ =>
    s.refreshLock = some i ∧ e.snapshot.fetch = s.store.fetches ∧ e.populatedAt ≤ s.now
  | .starting | .queued | .finished _ _ => True

namespace Phase

variable {p : Phase} {s t : State} {i : Nat}

theorem Fits.lock (h : p.Fits s i) (hp : p.holds = true) : s.refreshLock = some i := by
  cases p with
  | rechecking => exact h
  | fetching n startedAt due => exact h.1
  | installing e took => exact h.1
  | starting => simp [holds] at hp
  | queued => simp [holds] at hp
  | finished o time => simp [holds] at hp

theorem fits_of_not_holds (hp : p.holds = false) : p.Fits s i := by
  cases p <;> simp_all [holds, Fits]

/-- A phase goes on fitting while the lock and the fetches stay as they are. -/
theorem Fits.later (h : p.Fits s i) (lock : t.refreshLock = s.refreshLock)
    (fetches : t.store.fetches = s.store.fetches) (now : s.now ≤ t.now) : p.Fits t i := by
  cases p with
  | rechecking => exact lock.trans h
  | fetching n startedAt due => exact ⟨lock.trans h.1, h.2.trans fetches.symm⟩
  | installing e took =>
    exact ⟨lock.trans h.1, h.2.1.trans fetches.symm, Nat.le_trans h.2.2 now⟩
  | starting => trivial
  | queued => trivial
  | finished o time => trivial

end Phase

namespace State

structure Sound (s : State) : Prop where
  /-- Between two steps nobody is inside the guard of the entry. -/
  guard_free : s.entryLock = .free
  phases_fit : ∀ i (c : Call), s.calls[i]? = some c → c.phase.Fits s i
  lock_held : ∀ i, s.refreshLock = some i →
    ∃ c : Call, s.calls[i]? = some c ∧ c.phase.holds = true
  entry_known : ∀ e : Entry, s.entry = some e →
    e.snapshot.fetch ≤ s.store.fetches ∧ e.populatedAt ≤ s.now

/-- At most one call is past the queue for the refresh lock. -/
theorem Sound.one_holder {s : State} (h : s.Sound) {i j : Nat} {c d : Call}
    (hi : s.calls[i]? = some c) (hj : s.calls[j]? = some d) (hc : c.phase.holds = true)
    (hd : d.phase.holds = true) : i = j := by
  have hli := (h.phases_fit i c hi).lock hc
  have hlj := (h.phases_fit j d hj).lock hd
  rw [hli] at hlj
  exact Option.some.inj hlj

/-! ## Every action keeps the invariant -/

section move

variable {s s' : State} {i : Nat} {c : Call} {p : Phase} (h : Move s i c p s')
include h

/-- A call that moves comes to a phase that fits. -/
theorem Move.fits (fits : c.phase.Fits s i) : p.Fits s' i := by
  cases h with
  | lock phase unheld => simp [Phase.Fits]
  | fetch phase invalid =>
    rw [phase] at fits
    exact ⟨fits, rfl⟩
  | deliver n startedAt due records phase isDue answer =>
    rw [phase] at fits
    exact ⟨fits.1, fits.2, Nat.le_refl _⟩
  | hit => trivial
  | miss => trivial
  | join => trivial
  | fail => trivial
  | install => trivial
  | drop => trivial
  | describe => trivial

/-- A call that moves and then has the refresh lock is past the queue. -/
theorem Move.holds_of_lock (own : s.refreshLock = some i → c.phase.holds = true)
    (hl : s'.refreshLock = some i) : p.holds = true := by
  cases h <;> simp_all [Phase.holds]

/-- No call gives the refresh lock to another. -/
theorem Move.lock_of_ne {j : Nat} (hj : j ≠ i) (hl : s'.refreshLock = some j) :
    s.refreshLock = some j := by
  cases h <;> simp_all

/-- The entry after a move is the one before, or what the call has put in place. -/
theorem Move.entry_cases {e : Entry} (he : s'.entry = some e) :
    s.entry = some e ∨ ∃ took, c.phase = .installing e took := by
  cases h <;> simp_all

/-- While a call moves, what the phases of the others say stays true. -/
theorem Move.others_fit (hc : s.calls[i]? = some c)
    (fit : ∀ j (d : Call), s.calls[j]? = some d → d.phase.Fits s j) {j : Nat} {d : Call}
    (hj : j ≠ i) (hd : s.calls[j]? = some d) : d.phase.Fits s' j := by
  by_cases hdh : d.phase.holds = true
  · have hlock := (fit j d hd).lock hdh
    have hch : c.phase.holds = false := by
      by_contra hch
      have hli := (fit i c hc).lock (by simpa using hch)
      rw [hlock] at hli
      exact hj (Option.some.inj hli)
    obtain ⟨hl, hs⟩ := h.keeps_holder hch (by simp [hlock])
    exact (fit j d hd).later hl (by rw [hs]) (Nat.le_of_eq h.now_eq.symm)
  · exact Phase.fits_of_not_holds (by simpa using hdh)

theorem Sound.move (sound : s.Sound) (hc : s.calls[i]? = some c) : s'.Sound where
  guard_free := h.entryLock_eq.trans sound.guard_free
  phases_fit := by
    intro j d hd
    rcases h.calls_cases hc hd with ⟨rfl, rfl⟩ | ⟨hj, hold⟩
    · exact h.fits (sound.phases_fit j c hc)
    · exact h.others_fit hc sound.phases_fit hj hold
  lock_held := by
    intro j hl
    by_cases hj : j = i
    · subst hj
      refine ⟨_, h.self hc, h.holds_of_lock ?_ hl⟩
      intro hown
      obtain ⟨c', hc', hholds⟩ := sound.lock_held j hown
      rw [hc] at hc'
      cases hc'
      exact hholds
    · rw [h.other hj]
      exact sound.lock_held j (h.lock_of_ne hj hl)
  entry_known := by
    intro e he
    rw [h.now_eq]
    rcases h.entry_cases he with hold | ⟨took, hp⟩
    · obtain ⟨hf, ht⟩ := sound.entry_known e hold
      exact ⟨Nat.le_trans hf h.fetches_le, ht⟩
    · have hfit := sound.phases_fit i c hc
      rw [hp] at hfit
      exact ⟨Nat.le_trans (Nat.le_of_eq hfit.2.1) h.fetches_le, hfit.2.2⟩

end move

@[simp] theorem change_fetches (s : Store) (change : Store.Change) :
    (s.change change).fetches = s.fetches := by
  cases change <;> rfl

/-- The calls after a new one: those before it, and the new one at its start. -/
theorem begin_calls {s : State} {kind : CallKind} {j : Nat} {d : Call}
    (hd : (s.begin kind).calls[j]? = some d) :
    s.calls[j]? = some d ∨ (j = s.calls.length ∧ d = ⟨kind, s.now, .starting⟩) := by
  unfold begin at hd
  rw [List.getElem?_append] at hd
  split at hd
  · exact .inl hd
  · refine .inr ?_
    obtain ⟨hlt, heq⟩ := List.getElem?_eq_some_iff.mp hd
    simp only [List.length_singleton] at hlt
    exact ⟨by omega, by simpa using heq.symm⟩

/-- A new call changes none of those before it. -/
theorem begin_calls_of_old {s : State} (kind : CallKind) {j : Nat} {d : Call}
    (hd : s.calls[j]? = some d) : (s.begin kind).calls[j]? = some d := by
  have hlt := (List.getElem?_eq_some_iff.mp hd).1
  unfold begin
  rw [List.getElem?_append_left hlt]
  exact hd

theorem Sound.act {s s' : State} {a : Action} (sound : s.Sound) (h : s.act a = some s') :
    s'.Sound := by
  cases a with
  | resume i =>
    obtain ⟨c, p, hc, hm⟩ := exists_move sound.guard_free h
    exact sound.move hm hc
  | begin kind =>
    cases h
    refine ⟨sound.guard_free, ?_, ?_, sound.entry_known⟩
    · intro j d hd
      rcases begin_calls hd with hold | ⟨-, rfl⟩
      · exact (sound.phases_fit j d hold).later rfl rfl (Nat.le_refl _)
      · trivial
    · intro j hl
      obtain ⟨d, hd, hholds⟩ := sound.lock_held j hl
      exact ⟨d, begin_calls_of_old kind hd, hholds⟩
  | elapse time =>
    cases h
    refine ⟨sound.guard_free, ?_, sound.lock_held, ?_⟩
    · intro j d hd
      exact (sound.phases_fit j d hd).later rfl rfl (Nat.le_add_right _ _)
    · intro e he
      obtain ⟨hf, ht⟩ := sound.entry_known e he
      exact ⟨hf, Nat.le_trans ht (Nat.le_add_right _ _)⟩
  | changeStore change =>
    cases h
    refine ⟨sound.guard_free, ?_, sound.lock_held, ?_⟩
    · intro j d hd
      exact (sound.phases_fit j d hd).later rfl (change_fetches _ _) (Nat.le_refl _)
    · intro e he
      obtain ⟨hf, ht⟩ := sound.entry_known e he
      exact ⟨by simpa [changeStore] using hf, ht⟩

theorem start_sound (store : Store) (ttl : Nat) : (start store ttl).Sound where
  guard_free := rfl
  phases_fit := by simp [start]
  lock_held := by simp [start]
  entry_known := by simp [start]

theorem Reachable.sound {s : State} (h : s.Reachable) : s.Sound := by
  obtain ⟨store, ttl, actions, hrun⟩ := h
  exact run_keeps Sound.act (start_sound store ttl) hrun

/-- What holds of each new call, and goes on to hold with each move and with time, holds of every
call. -/
theorem Reachable.forall_calls {P : Nat → Call → Prop}
    (new : ∀ now kind, P now ⟨kind, now, .starting⟩)
    (later : ∀ now time c, P now c → P (now + time) c)
    (move : ∀ s s' i c p, Move s i c p s' → P s.now c → P s.now { c with phase := p })
    {s : State} (h : s.Reachable) {i : Nat} {c : Call} (hc : s.calls[i]? = some c) :
    P s.now c := by
  obtain ⟨store, ttl, actions, hrun⟩ := h
  refine (run_keeps (P := fun s => s.Sound ∧ ∀ (i : Nat) (c : Call), s.calls[i]? = some c →
    P s.now c) ?_ ⟨start_sound store ttl, by simp [start]⟩ hrun).2 i c hc
  rintro s s' a ⟨sound, all⟩ ha
  refine ⟨sound.act ha, fun j d hd => ?_⟩
  cases a with
  | resume k =>
    obtain ⟨c, p, hc, hm⟩ := exists_move sound.guard_free ha
    rw [hm.now_eq]
    rcases hm.calls_cases hc hd with ⟨rfl, rfl⟩ | ⟨-, hold⟩
    · exact move s s' j c p hm (all j c hc)
    · exact all j d hold
  | begin kind =>
    cases ha
    rcases begin_calls hd with hold | ⟨-, rfl⟩
    · exact all j d hold
    · exact new s.now kind
  | elapse time =>
    cases ha
    exact later s.now time d (all j d hd)
  | changeStore change =>
    cases ha
    exact all j d hd

end State

/-! ## What no run takes back -/

/-- Call `i` has come to an outcome. -/
def State.Returned (s : State) (i : Nat) (o : Outcome) : Prop :=
  ∃ c time, s.calls[i]? = some c ∧ c.phase = .finished o time

/-- Whether a call may have become another: what it is for and when it began stay, and a finished
call stays as it is. -/
structure Call.Becomes (c d : Call) : Prop where
  kind : d.kind = c.kind
  startedAt : d.startedAt = c.startedAt
  finished : ∀ o time, c.phase = .finished o time → d = c

theorem Call.Becomes.refl (c : Call) : c.Becomes c := ⟨rfl, rfl, fun _ _ _ => rfl⟩

theorem Call.Becomes.trans {c d e : Call} (h : c.Becomes d) (h' : d.Becomes e) : c.Becomes e where
  kind := h'.kind.trans h.kind
  startedAt := h'.startedAt.trans h.startedAt
  finished := by
    intro o time hp
    have hd := h.finished o time hp
    rw [h'.finished o time (hd ▸ hp), hd]

namespace State

/-- Time and fetches only go on, the time to live stays, and no call is lost. -/
structure Precedes (s t : State) : Prop where
  now : s.now ≤ t.now
  ttl : t.ttl = s.ttl
  fetches : s.store.fetches ≤ t.store.fetches
  calls : ∀ (i : Nat) (c : Call), s.calls[i]? = some c →
    ∃ d : Call, t.calls[i]? = some d ∧ c.Becomes d

theorem Precedes.refl (s : State) : s.Precedes s :=
  ⟨Nat.le_refl _, rfl, Nat.le_refl _, fun _ c hc => ⟨c, hc, .refl c⟩⟩

theorem Precedes.trans {s m t : State} (h : s.Precedes m) (h' : m.Precedes t) : s.Precedes t where
  now := Nat.le_trans h.now h'.now
  ttl := h'.ttl.trans h.ttl
  fetches := Nat.le_trans h.fetches h'.fetches
  calls := by
    intro i c hc
    obtain ⟨d, hd, hcd⟩ := h.calls i c hc
    obtain ⟨e, he, hde⟩ := h'.calls i d hd
    exact ⟨e, he, hcd.trans hde⟩

theorem Precedes.length_le {s t : State} (h : s.Precedes t) : s.calls.length ≤ t.calls.length := by
  by_contra hlt
  obtain ⟨d, hd, -⟩ := h.calls t.calls.length _ (List.getElem?_eq_getElem (by omega))
  simp at hd

/-- A finished call is the same in every later state. -/
theorem Precedes.finished {s t : State} (h : s.Precedes t) {i : Nat} {c : Call} {o : Outcome}
    {time : Nat} (hc : s.calls[i]? = some c) (hp : c.phase = .finished o time) :
    t.calls[i]? = some c := by
  obtain ⟨d, hd, hcd⟩ := h.calls i c hc
  rwa [hcd.finished o time hp] at hd

/-- An entry that is valid later has been valid before. -/
theorem Precedes.isValid {s t : State} (h : s.Precedes t) {e : Entry} (he : t.isValid e = true) :
    s.isValid e = true := by
  have hnow := h.now
  have httl := h.ttl
  simp only [State.isValid, decide_eq_true_eq] at he ⊢
  omega

theorem validEntry_eq_some {s : State} {e : Entry} :
    s.validEntry = some e ↔ s.entry = some e ∧ s.isValid e = true := by
  unfold validEntry
  exact Option.filter_eq_some_iff

/-- An entry that stays is valid later only if it has been valid before. -/
theorem Precedes.validEntry {s t : State} (h : s.Precedes t) (entry : t.entry = s.entry)
    {e : Entry} (he : t.validEntry = some e) : s.validEntry = some e := by
  rw [validEntry_eq_some] at he ⊢
  exact ⟨entry ▸ he.1, h.isValid he.2⟩

theorem Move.precedes {s s' : State} {i : Nat} {c : Call} {p : Phase} (h : Move s i c p s')
    (hc : s.calls[i]? = some c) : s.Precedes s' where
  now := Nat.le_of_eq h.now_eq.symm
  ttl := h.ttl_eq
  fetches := h.fetches_le
  calls := by
    intro j d hd
    by_cases hj : j = i
    · subst hj
      rw [hc] at hd
      cases hd
      exact ⟨_, h.self hc, rfl, rfl, fun o time hp => absurd hp (h.not_finished o time)⟩
    · exact ⟨d, (h.other hj).trans hd, .refl d⟩

theorem Sound.precedes {s s' : State} {a : Action} (sound : s.Sound) (h : s.act a = some s') :
    s.Precedes s' := by
  cases a with
  | resume i =>
    obtain ⟨c, p, hc, hm⟩ := exists_move sound.guard_free h
    exact hm.precedes hc
  | begin kind =>
    cases h
    refine ⟨Nat.le_refl _, rfl, Nat.le_refl _, ?_⟩
    intro i c hc
    exact ⟨c, begin_calls_of_old kind hc, .refl c⟩
  | elapse time =>
    cases h
    exact ⟨Nat.le_add_right _ _, rfl, Nat.le_refl _, (Precedes.refl s).calls⟩
  | changeStore change =>
    cases h
    exact ⟨Nat.le_refl _, rfl, Nat.le_of_eq (change_fetches _ _).symm, (Precedes.refl s).calls⟩

theorem Sound.run {s t : State} {actions : List Action} (sound : s.Sound)
    (h : s.run actions = some t) : t.Sound ∧ s.Precedes t :=
  run_keeps (P := fun m => m.Sound ∧ s.Precedes m)
    (fun hm ha => ⟨hm.1.act ha, hm.2.trans (hm.1.precedes ha)⟩) ⟨sound, .refl s⟩ h

end State

end CompanySearch.Cache
