-- A call with nothing else under way goes on until it has finished or waits for the store. A
-- reading that finds no valid entry then fetches once: it comes to what the store answers when the
-- fetch is due, and gives the refresh lock back.
import CompanySearch.Proofs.Cache.Progress

namespace CompanySearch.Cache

namespace Store

/-- How long a fetch takes. -/
def delay (s : Store) : Nat := s.latency.getD 0

/-- What a reading comes to whose fetch ends at a time. -/
def outcome (s : Store) (fetch time : Nat) : Outcome :=
  match s.answer with
  | .ok records => .read .fetched ⟨⟨fetch, records⟩, time⟩
  | .error fault => .failed (.dataUnavailable fault.message)

/-- What is in place after a fetch that ends at a time. -/
def replaced (s : Store) (fetch time : Nat) (entry : Option Entry) : Option Entry :=
  match s.answer with
  | .ok records => some ⟨⟨fetch, records⟩, time⟩
  | .error _ => entry

end Store

namespace State

/-! ## As far as a call gets -/

theorem proceed_eq {i n fuel : Nat} {s t : State}
    (h : s.run (List.replicate n (.resume i)) = some t) (stuck : t.resume i = none)
    (enough : n ≤ fuel) : proceed i fuel s = t := by
  induction n generalizing s fuel with
  | zero =>
    cases h
    cases fuel with
    | zero => rfl
    | succ fuel => rw [proceed, stuck]
  | succ n ih =>
    obtain ⟨fuel, rfl⟩ : ∃ k, fuel = k + 1 := ⟨fuel - 1, by omega⟩
    rw [List.replicate_succ, run_cons] at h
    obtain ⟨m, hm, hrest⟩ := Option.bind_eq_some_iff.mp h
    have hresume : s.resume i = some m := hm
    rw [proceed, hresume]
    exact ih hrest (by omega)

/-- A call that has finished takes no more steps. -/
theorem resume_of_finished {s : State} {i : Nat} {c : Call} {o : Outcome} {time : Nat}
    (hc : s.calls[i]? = some c) (hp : c.phase = .finished o time) : s.resume i = none := by
  unfold resume
  simp [hc, hp]

/-- A call takes no step before its fetch is due. -/
theorem resume_of_early {s : State} {i : Nat} {c : Call} {fetch startedAt due : Nat}
    (hc : s.calls[i]? = some c) (hp : c.phase = .fetching fetch startedAt due)
    (early : s.now < due) : s.resume i = none := by
  unfold resume
  simp [hc, hp, endFetch, early]

/-! ## The course of a fetch -/

/-- A new call of its own steps comes to wait for the store. -/
structure BeginsFetch (s : State) (kind : CallKind) (m : State) : Prop where
  run : (s.begin kind).run (List.replicate 3 (.resume s.calls.length)) = some m
  sound : m.Sound
  now : m.now = s.now
  store : m.store = { s.store with fetches := s.store.fetches + 1 }
  entry : m.entry = s.entry
  calls : m.calls = s.calls ++
    [⟨kind, s.now, .fetching (s.store.fetches + 1) s.now (s.now + s.store.delay)⟩]

/-- The call at the end of the list, which waits for the store, comes to its end by steps of its
own. -/
structure EndsFetch (m : State) (before : List Call) (kind : CallKind) (startedAt fetch : Nat)
    (t : State) : Prop where
  run : ∃ n ≤ 2, m.run (List.replicate n (.resume before.length)) = some t
  sound : t.Sound
  store : t.store = m.store
  unheld : t.refreshLock = none
  entry : t.entry = m.store.replaced fetch m.now m.entry
  calls : t.calls = before ++ [⟨kind, startedAt, .finished (m.store.outcome fetch m.now) m.now⟩]

theorem getElem?_last {s : State} {before : List Call} {c : Call}
    (hcalls : s.calls = before ++ [c]) : s.calls[before.length]? = some c := by
  rw [hcalls, List.getElem?_concat_length]

theorem modify_last {α : Type} (l : List α) (a : α) (f : α → α) :
    (l ++ [a]).modify l.length f = l ++ [f a] := by
  induction l with
  | nil => rfl
  | cons b rest ih => simp [ih]

/-- A move of the last call leaves those before it alone. -/
theorem Sound.move_last {s s' : State} {before : List Call} {c : Call} {p : Phase}
    (sound : s.Sound) (hcalls : s.calls = before ++ [c]) (h : Move s before.length c p s') :
    s.resume before.length = some s' ∧ s'.Sound ∧
      s'.calls = before ++ [{ c with phase := p }] := by
  have hc := getElem?_last hcalls
  refine ⟨h.resume sound.guard_free hc, sound.move h hc, ?_⟩
  rw [h.calls_eq, hcalls, modify_last]

theorem Sound.begins_fetch {s : State} {kind : CallKind} (sound : s.Sound)
    (reads : kind.reads = true) (unheld : s.refreshLock = none) (invalid : s.validEntry = none) :
    ∃ m, s.BeginsFetch kind m := by
  have sound₀ : (s.begin kind).Sound := sound.act (a := .begin kind) rfl
  have hcalls₀ : (s.begin kind).calls = s.calls ++ [⟨kind, s.now, .starting⟩] := rfl
  obtain ⟨hresume₁, sound₁, hcalls₁⟩ := sound₀.move_last hcalls₀ (.miss rfl reads invalid)
  obtain ⟨hresume₂, sound₂, hcalls₂⟩ := sound₁.move_last hcalls₁ (.lock rfl unheld)
  obtain ⟨hresume₃, sound₃, hcalls₃⟩ := sound₂.move_last hcalls₂ (.fetch rfl invalid)
  exact ⟨_, run_resumes hresume₁ (run_resumes hresume₂ (run_resumes hresume₃ rfl)), sound₃, rfl,
    rfl, rfl, hcalls₃⟩

theorem Sound.ends_fetch {m : State} {before : List Call} {kind : CallKind}
    {startedAt fetch since due : Nat} (sound : m.Sound)
    (hcalls : m.calls = before ++ [⟨kind, startedAt, .fetching fetch since due⟩])
    (isDue : due ≤ m.now) : ∃ t, m.EndsFetch before kind startedAt fetch t := by
  cases ha : m.store.answer with
  | error fault =>
    obtain ⟨hresume, sound', hcalls'⟩ := sound.move_last hcalls
      (.fail fetch since due fault rfl isDue ha)
    refine ⟨_, ⟨1, by omega, run_resumes hresume rfl⟩, sound', rfl, rfl, ?_, ?_⟩
    · simp [Store.replaced, ha]
    · rw [hcalls', Store.outcome, ha]
  | ok records =>
    obtain ⟨hresume₁, sound₁, hcalls₁⟩ := sound.move_last hcalls
      (.deliver fetch since due records rfl isDue ha)
    obtain ⟨hresume₂, sound₂, hcalls₂⟩ := sound₁.move_last hcalls₁ (.install _ _ rfl)
    refine ⟨_, ⟨2, by omega, run_resumes hresume₁ (run_resumes hresume₂ rfl)⟩, sound₂, ?_, rfl,
      ?_, ?_⟩
    · simp
    · simp [Store.replaced, ha]
    · rw [hcalls₂, Store.outcome, ha]
      rfl

/-! ## A whole reading -/

/-- A reading with nothing else under way fetches once, and it comes to what the store answers. -/
structure FetchesAlone (s : State) (kind : CallKind) (t : State) : Prop where
  sound : t.Sound
  store : t.store = { s.store with fetches := s.store.fetches + 1 }
  unheld : t.refreshLock = none
  entry : t.entry = s.store.replaced (s.store.fetches + 1) (s.now + s.store.delay) s.entry
  calls : t.calls = s.calls ++ [⟨kind, s.now, .finished
    (s.store.outcome (s.store.fetches + 1) (s.now + s.store.delay)) (s.now + s.store.delay)⟩]

section perform

variable {s first : State} {kind : CallKind}
  (h : proceed s.calls.length phases (s.begin kind) = first)
include h

theorem perform_of_due {due : Nat} (waits : first.dueTime s.calls.length = some due) :
    s.perform kind = proceed s.calls.length phases (first.elapse (due - first.now)) := by
  unfold perform
  simp only [h, waits]

theorem perform_of_not_due (ends : first.dueTime s.calls.length = none) :
    s.perform kind = first := by
  unfold perform
  simp only [h, ends]

end perform

theorem exists_of_dueTime {s : State} {i due : Nat} (h : s.dueTime i = some due) :
    ∃ c fetch startedAt, s.calls[i]? = some c ∧ c.phase = .fetching fetch startedAt due := by
  unfold dueTime at h
  split at h
  · cases h
    exact ⟨_, _, _, ‹_›, rfl⟩
  · contradiction

theorem dueTime_last {s : State} {before : List Call} {c : Call}
    (hcalls : s.calls = before ++ [c]) : s.dueTime before.length =
      match c.phase with
      | .fetching _ _ due => some due
      | _ => none := by
  unfold dueTime
  rw [getElem?_last hcalls]
  cases c with
  | mk kind startedAt phase => cases phase <;> rfl

/-- The call is taken to where it waits for the store, then to the time when its fetch is due, and
then to its end; if the store answers at once, the first part takes it to its end. -/
theorem BeginsFetch.perform_eq {s m t : State} {kind : CallKind} (begins : s.BeginsFetch kind m)
    (ends : (m.elapse s.store.delay).EndsFetch s.calls kind s.now (s.store.fetches + 1) t) :
    s.perform kind = t := by
  obtain ⟨n, hn, hrun⟩ := ends.run
  have hstuck := resume_of_finished (getElem?_last ends.calls) rfl
  rcases Nat.eq_zero_or_pos s.store.delay with hzero | hpos
  · have hwhole : (s.begin kind).run (List.replicate (3 + n) (.resume s.calls.length)) =
        some t := by
      rw [hzero] at hrun
      rw [List.replicate_add]
      exact run_trans begins.run hrun
    exact perform_of_not_due (proceed_eq hwhole hstuck (by unfold phases; omega))
      (dueTime_last ends.calls)
  · have hearly := resume_of_early (getElem?_last begins.calls) rfl (by rw [begins.now]; omega)
    have hpass : s.now + s.store.delay - m.now = s.store.delay := by rw [begins.now]; omega
    rw [perform_of_due (proceed_eq begins.run hearly (by decide)) (dueTime_last begins.calls),
      hpass]
    exact proceed_eq hrun hstuck (by unfold phases; omega)

theorem Sound.performs {s : State} {kind : CallKind} (sound : s.Sound)
    (reads : kind.reads = true) (unheld : s.refreshLock = none) (invalid : s.validEntry = none) :
    s.FetchesAlone kind (s.perform kind) := by
  obtain ⟨m, begins⟩ := sound.begins_fetch reads unheld invalid
  have sound' := begins.sound.act (a := .elapse s.store.delay) rfl
  have hnow : (m.elapse s.store.delay).now = s.now + s.store.delay :=
    congrArg (· + s.store.delay) begins.now
  have hstore : (m.elapse s.store.delay).store = _ := begins.store
  have hentry : (m.elapse s.store.delay).entry = _ := begins.entry
  obtain ⟨t, ends⟩ := sound'.ends_fetch begins.calls (Nat.le_of_eq hnow.symm)
  rw [begins.perform_eq ends]
  refine ⟨ends.sound, ends.store.trans hstore, ends.unheld, ?_, ?_⟩
  · rw [ends.entry, hstore, hnow, hentry]
    rfl
  · rw [ends.calls, hstore, hnow]
    rfl

/-! ## Until the first reading -/

/-- Nothing is kept and no reading is under way. -/
structure Cold (s : State) : Prop where
  sound : s.Sound
  entry : s.entry = none
  unheld : s.refreshLock = none
  calls : ∀ c ∈ s.calls, c.phase.hasFinished = true ∨
    (c.phase = .starting ∧ c.kind.reads = false)

theorem Cold.validEntry {s : State} (cold : s.Cold) : s.validEntry = none := by
  unfold State.validEntry
  rw [cold.entry]
  rfl

/-- The first reading fetches. -/
theorem Cold.performs {s : State} (cold : s.Cold) (kind : CallKind) (reads : kind.reads = true) :
    s.FetchesAlone kind (s.perform kind) :=
  cold.sound.performs reads cold.unheld cold.validEntry

/-- A call that reads nothing ends at once and puts nothing in place. -/
theorem Move.of_not_reads {s s' : State} {i : Nat} {c : Call} {p : Phase} (h : Move s i c p s')
    (hp : c.phase = .starting) (hk : c.kind.reads = false) (empty : s.entry = none) :
    p.hasFinished = true ∧ s'.store = s.store ∧ s'.refreshLock = s.refreshLock ∧
      s'.entry = none := by
  cases h <;> simp_all [CallKind.reads, Phase.hasFinished]

theorem Cold.move {s s' : State} {i : Nat} {c : Call} {p : Phase} (cold : s.Cold)
    (hc : s.calls[i]? = some c) (h : Move s i c p s') :
    s'.Cold ∧ s'.store.fetches = s.store.fetches := by
  rcases cold.calls c (List.mem_of_getElem? hc) with hfinished | ⟨hp, hk⟩
  · obtain ⟨o, time, hp⟩ := Phase.exists_finished hfinished
    exact absurd hp (h.not_finished o time)
  · obtain ⟨hfinished, hstore, hlock, hentry⟩ := h.of_not_reads hp hk cold.entry
    refine ⟨⟨cold.sound.move h hc, hentry, hlock.trans cold.unheld, fun d hd => ?_⟩,
      congrArg _ hstore⟩
    obtain ⟨j, hj⟩ := List.mem_iff_getElem?.mp hd
    rcases h.calls_cases hc hj with ⟨-, rfl⟩ | ⟨-, hold⟩
    · exact .inl hfinished
    · exact cold.calls d (List.mem_of_getElem? hold)

theorem Cold.act {s s' : State} {a : Action} (cold : s.Cold) (h : s.act a = some s')
    (noReading : ∀ kind, a = .begin kind → kind.reads = false) :
    s'.Cold ∧ s'.store.fetches = s.store.fetches := by
  have sound' := cold.sound.act h
  cases a with
  | resume i =>
    obtain ⟨c, p, hc, hm⟩ := exists_move cold.sound.guard_free h
    exact cold.move hc hm
  | begin kind =>
    cases h
    refine ⟨⟨sound', cold.entry, cold.unheld, List.forall_mem_append.mpr ⟨cold.calls, ?_⟩⟩, rfl⟩
    exact List.forall_mem_singleton.mpr (.inr ⟨rfl, noReading kind rfl⟩)
  | elapse time =>
    cases h
    exact ⟨⟨sound', cold.entry, cold.unheld, cold.calls⟩, rfl⟩
  | changeStore change =>
    cases h
    exact ⟨⟨sound', cold.entry, cold.unheld, cold.calls⟩, change_fetches s.store change⟩

/-- As long as no reading begins, nothing is fetched. -/
theorem Cold.run {s t : State} {actions : List Action} (cold : s.Cold)
    (h : s.run actions = some t)
    (noReading : ∀ kind, .begin kind ∈ actions → kind.reads = false) :
    t.Cold ∧ t.store.fetches = s.store.fetches := by
  induction actions generalizing s with
  | nil =>
    cases h
    exact ⟨cold, rfl⟩
  | cons a rest ih =>
    rw [run_cons] at h
    obtain ⟨m, hm, hrest⟩ := Option.bind_eq_some_iff.mp h
    obtain ⟨cold', hfetches⟩ := cold.act hm fun kind ha => noReading kind (by simp [ha])
    obtain ⟨cold'', hfetches'⟩ := ih cold' hrest fun kind hk =>
      noReading kind (List.mem_cons_of_mem a hk)
    exact ⟨cold'', hfetches'.trans hfetches⟩

theorem start_cold (store : Store) (ttl : Nat) : (start store ttl).Cold :=
  ⟨start_sound store ttl, rfl, rfl, by simp [start]⟩

/-- A fetch that fails leaves the cache cold. -/
theorem FetchesAlone.cold {s t : State} {kind : CallKind} {fault : Fault}
    (alone : s.FetchesAlone kind t) (cold : s.Cold) (answer : s.store.answer = .error fault) :
    t.Cold := by
  refine ⟨alone.sound, ?_, alone.unheld, ?_⟩
  · rw [alone.entry, Store.replaced, answer, cold.entry]
  · rw [alone.calls]
    exact List.forall_mem_append.mpr ⟨cold.calls, List.forall_mem_singleton.mpr (.inl rfl)⟩

end State

end CompanySearch.Cache
