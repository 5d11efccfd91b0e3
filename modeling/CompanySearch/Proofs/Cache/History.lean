-- Tracing back: what holds at the end of a run and not at its start, one step has brought about. So
-- every entry goes back to the fetch that has delivered it.
import CompanySearch.Proofs.Cache.SingleFlight

namespace CompanySearch.Cache

namespace State

/-! ## The step that brought it about -/

/-- Along `actions`, the step `a` leads from `m` to `m'`. -/
def Takes (s₀ : State) (actions : List Action) (m : State) (a : Action) (m' : State) : Prop :=
  ∃ before after, actions = before ++ a :: after ∧ s₀.run before = some m ∧ m.act a = some m'

section takes

variable {s₀ s m m' : State} {first rest : List Action} {a : Action}

theorem Takes.append (h : s₀.Takes first m a m') (rest : List Action) :
    s₀.Takes (first ++ rest) m a m' := by
  obtain ⟨before, after, rfl, hm, hact⟩ := h
  exact ⟨before, after ++ rest, by simp, hm, hact⟩

theorem Takes.prepend (hrun : s₀.run first = some s) (h : s.Takes rest m a m') :
    s₀.Takes (first ++ rest) m a m' := by
  obtain ⟨before, after, rfl, hm, hact⟩ := h
  exact ⟨first ++ before, after, by simp, run_trans hrun hm, hact⟩

end takes

/-- What holds at the end and not at the start, a step on the way has brought about. -/
theorem exists_step {Q : State → Prop} {s t : State} {actions : List Action}
    (h : s.run actions = some t) (hs : ¬ Q s) (ht : Q t) :
    ∃ before a after m m', actions = before ++ a :: after ∧ s.run before = some m ∧
      m.act a = some m' ∧ m'.run after = some t ∧ ¬ Q m ∧ Q m' := by
  induction actions generalizing s with
  | nil =>
    cases h
    exact absurd ht hs
  | cons a rest ih =>
    rw [run_cons] at h
    obtain ⟨m, hm, hrest⟩ := Option.bind_eq_some_iff.mp h
    by_cases hq : Q m
    · exact ⟨[], a, rest, s, m, rfl, rfl, hm, hrest, hs, hq⟩
    · obtain ⟨before, b, after, n, n', rfl, hn, hact, hafter, hnot, hyes⟩ := ih hrest hq
      refine ⟨a :: before, b, after, n, n', rfl, ?_, hact, hafter, hnot, hyes⟩
      rw [run_cons, hm]
      exact hn

section trace

variable {s t : State} {actions : List Action} (sound : s.Sound) (h : s.run actions = some t)
include sound h

/-- A call that comes to a phase of some kind has moved there from a phase of another kind. -/
theorem exists_move_to {P : Phase → Prop} {k : Nat} {c : Call} (starting : ¬ P .starting)
    (hs : ∀ d : Call, s.calls[k]? = some d → ¬ P d.phase) (hc : t.calls[k]? = some c)
    (hp : P c.phase) :
    ∃ before after m m' d p, actions = before ++ .resume k :: after ∧ s.run before = some m ∧
      m.resume k = some m' ∧ m'.run after = some t ∧ m.calls[k]? = some d ∧ Move m k d p m' ∧
      ¬ P d.phase ∧ P p := by
  obtain ⟨before, a, after, m, m', hsplit, hm, hact, hafter, hnot, d', hd', hpd'⟩ :=
    exists_step (Q := fun m => ∃ d : Call, m.calls[k]? = some d ∧ P d.phase) h
      (fun ⟨d, hd, hpd⟩ => hs d hd hpd) ⟨c, hc, hp⟩
  cases a with
  | resume i =>
    obtain ⟨d, p, hd, hmove⟩ := exists_move (sound.run hm).1.guard_free hact
    rcases hmove.calls_cases hd hd' with ⟨rfl, rfl⟩ | ⟨-, hold⟩
    · exact ⟨before, after, m, m', d, p, hsplit, hm, hact, hafter, hd, hmove,
        fun hpd => hnot ⟨d, hd, hpd⟩, hpd'⟩
    · exact absurd ⟨d', hold, hpd'⟩ hnot
  | begin kind =>
    cases hact
    rcases begin_calls hd' with hold | ⟨-, rfl⟩
    · exact absurd ⟨d', hold, hpd'⟩ hnot
    · exact absurd hpd' starting
  | elapse time =>
    cases hact
    exact absurd ⟨d', hd', hpd'⟩ hnot
  | changeStore change =>
    cases hact
    exact absurd ⟨d', hd', hpd'⟩ hnot

/-- An entry that is valid now and was not has been put in place. -/
theorem exists_install {e : Entry} (hs : s.validEntry ≠ some e) (ht : t.validEntry = some e) :
    ∃ before a after m m', actions = before ++ a :: after ∧ s.run before = some m ∧
      m.act a = some m' ∧ m.Installs e m' ∧ m'.run after = some t := by
  obtain ⟨before, a, after, m, m', hsplit, hm, hact, hafter, hnot, hyes⟩ :=
    exists_step (Q := fun m => m.validEntry = some e) h hs ht
  have msound := (sound.run hm).1
  have hpre := msound.precedes hact
  cases a with
  | resume i =>
    obtain ⟨d, p, hd, hmove⟩ := exists_move msound.guard_free hact
    obtain ⟨hentry, hvalid⟩ := validEntry_eq_some.mp hyes
    rcases hmove.entry_cases hentry with hold | ⟨took, hphase⟩
    · exact absurd (validEntry_eq_some.mpr ⟨hold, hpre.isValid hvalid⟩) hnot
    · exact ⟨before, _, after, m, m', hsplit, hm, hact, ⟨i, d, took, hd, hphase, hact⟩, hafter⟩
  | begin kind =>
    cases hact
    exact absurd hyes hnot
  | elapse time =>
    cases hact
    exact absurd (hpre.validEntry rfl hyes) hnot
  | changeStore change =>
    cases hact
    exact absurd hyes hnot

end trace

/-! ## Where an entry comes from -/

/-- Along `actions`, call `k` delivers `e`: its fetch is due, the store answers with the records,
and they get the time of the answer. -/
def Delivers (s₀ : State) (actions : List Action) (k : Nat) (e : Entry) : Prop :=
  ∃ m m' c startedAt due, s₀.Takes actions m (.resume k) m' ∧ m.calls[k]? = some c ∧
    c.phase = .fetching e.snapshot.fetch startedAt due ∧ due ≤ m.now ∧
    m.store.answer = .ok e.snapshot.records ∧ e.populatedAt = m.now

theorem Delivers.append {s₀ : State} {first : List Action} {k : Nat} {e : Entry}
    (h : s₀.Delivers first k e) (rest : List Action) : s₀.Delivers (first ++ rest) k e := by
  obtain ⟨m, m', c, startedAt, due, takes, hrest⟩ := h
  exact ⟨m, m', c, startedAt, due, takes.append rest, hrest⟩

/-- Call `k` has delivered `e` and is about to put it in place. -/
def Carries (s : State) (k : Nat) (e : Entry) : Prop :=
  ∃ c took, s.calls[k]? = some c ∧ c.phase = .installing e took

/-- What a call carries, it has delivered. -/
theorem Carries.exists_delivery {s t : State} {actions : List Action} {k : Nat} {e : Entry}
    (carries : t.Carries k e) (sound : s.Sound) (h : s.run actions = some t)
    (hs : s.calls[k]? = none) :
    ∃ before after m m', actions = before ++ .resume k :: after ∧ s.run before = some m ∧
      m.resume k = some m' ∧ m'.run after = some t ∧ m'.Carries k e ∧ e.populatedAt = m.now ∧
      s.Delivers actions k e := by
  obtain ⟨c, took, hc, hp⟩ := carries
  obtain ⟨before, after, m, m', d, p, rfl, hm, hact, hafter, hd, hmove, hnot, took', rfl⟩ :=
    exists_move_to sound h (P := fun p => ∃ took, p = .installing e took) (by simp)
      (fun d hd => by rw [hs] at hd; contradiction) hc ⟨took, hp⟩
  have carries' : m'.Carries k e := ⟨_, took', hmove.self hd, rfl⟩
  cases hmove with
  | deliver fetch startedAt due records phase isDue answer =>
    exact ⟨before, after, m, _, rfl, hm, hact, hafter, carries', rfl, m, _, d, startedAt, due,
      ⟨before, after, rfl, hm, hact⟩, hd, phase, isDue, answer, rfl⟩

section start

variable {store : Store} {ttl : Nat} {actions : List Action} {t : State}
  (h : (start store ttl).run actions = some t)
include h

/-- What is put in place, some call has delivered. -/
theorem Installs.exists_delivers {e : Entry} {t' : State} (installs : t.Installs e t') :
    ∃ k, (start store ttl).Delivers actions k e := by
  obtain ⟨k, c, took, hc, hp, -⟩ := installs
  have carries : t.Carries k e := ⟨c, took, hc, hp⟩
  obtain ⟨_, _, _, _, -, -, -, -, -, -, delivers⟩ :=
    carries.exists_delivery (start_sound store ttl) h rfl
  exact ⟨k, delivers⟩

/-- A valid entry, some call has delivered. -/
theorem exists_delivers_of_validEntry {e : Entry} (valid : t.validEntry = some e) :
    ∃ k, (start store ttl).Delivers actions k e := by
  obtain ⟨before, a, after, m, m', rfl, hm, -, installs, -⟩ :=
    exists_install (start_sound store ttl) h (by simp [start, validEntry]) valid
  obtain ⟨k, delivers⟩ := installs.exists_delivers hm
  exact ⟨k, delivers.append _⟩

end start

end State

end CompanySearch.Cache
