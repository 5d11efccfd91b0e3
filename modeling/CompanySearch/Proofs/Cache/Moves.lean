-- What a step of the cache can do. `resume` takes a call through one of ten moves, and a run is
-- moves of calls mingled with new calls, with time that passes, and with changes of the store.
import CompanySearch.Cache.Step
import Mathlib.Data.List.Basic

namespace CompanySearch.Cache

/-- Whether a call reads the dataset. -/
def CallKind.reads : CallKind → Bool
  | .dataset | .warm | .search _ => true
  | .invalidate | .status => false

/-- Whether a call in this phase holds the refresh lock. -/
def Phase.holds : Phase → Bool
  | .rechecking | .fetching _ _ _ | .installing _ _ => true
  | _ => false

namespace State

attribute [simp] setPhase note finish countHit countMiss countFailure countFetchTime countSearch
  install release

/-! ## The end of a reading -/

section conclude

variable (s : State) (i : Nat) (kind : CallKind) (source : Source) (e : Entry)

@[simp] theorem conclude_now : (s.conclude i kind source e).now = s.now := by
  cases kind <;> rfl

@[simp] theorem conclude_ttl : (s.conclude i kind source e).ttl = s.ttl := by
  cases kind <;> rfl

@[simp] theorem conclude_store : (s.conclude i kind source e).store = s.store := by
  cases kind <;> rfl

@[simp] theorem conclude_entry : (s.conclude i kind source e).entry = s.entry := by
  cases kind <;> rfl

@[simp] theorem conclude_entryLock : (s.conclude i kind source e).entryLock = s.entryLock := by
  cases kind <;> rfl

@[simp] theorem conclude_refreshLock :
    (s.conclude i kind source e).refreshLock = s.refreshLock := by
  cases kind <;> rfl

@[simp] theorem conclude_gauge : (s.conclude i kind source e).gauge = s.gauge := by
  cases kind <;> rfl

@[simp] theorem conclude_calls :
    (s.conclude i kind source e).calls = (s.finish i (.read source e)).calls := by
  cases kind <;> rfl

end conclude

/-! ## Moves -/

/-- The moves that a call can make between two points where it gives way to the others, each with
the phase and the state that it leads to. -/
inductive Move (s : State) (i : Nat) (c : Call) : Phase → State → Prop
  | hit (e : Entry) (phase : c.phase = .starting) (kind : c.kind.reads = true)
      (valid : s.validEntry = some e) :
      Move s i c (.finished (.read .hit e) s.now) (s.countHit.conclude i c.kind .hit e)
  | miss (phase : c.phase = .starting) (kind : c.kind.reads = true)
      (invalid : s.validEntry = none) :
      Move s i c .queued (s.countMiss.setPhase i .queued)
  | lock (phase : c.phase = .queued) (unheld : s.refreshLock = none) :
      Move s i c .rechecking ({ s with refreshLock := some i }.setPhase i .rechecking)
  | join (e : Entry) (phase : c.phase = .rechecking) (valid : s.validEntry = some e) :
      Move s i c (.finished (.read .joined e) s.now)
        ((s.note i .joined).conclude i c.kind .joined e).release
  | fetch (phase : c.phase = .rechecking) (invalid : s.validEntry = none) :
      Move s i c
        (.fetching (s.store.fetches + 1) s.now (s.now + s.store.latency.getD 0))
        ({ s with store := { s.store with fetches := s.store.fetches + 1 } }.setPhase i
          (.fetching (s.store.fetches + 1) s.now (s.now + s.store.latency.getD 0)))
  | fail (fetch startedAt due : Nat) (fault : Fault)
      (phase : c.phase = .fetching fetch startedAt due) (isDue : due ≤ s.now)
      (answer : s.store.answer = .error fault) :
      Move s i c (.finished (.failed (.dataUnavailable fault.message)) s.now)
        ((((s.countFetchTime (s.now - startedAt)).countFailure.note i
          (.refreshFailed s.store.backend fault.message)).finish i
          (.failed (.dataUnavailable fault.message))).release)
  | deliver (fetch startedAt due : Nat) (records : List Record)
      (phase : c.phase = .fetching fetch startedAt due) (isDue : due ≤ s.now)
      (answer : s.store.answer = .ok records) :
      Move s i c (.installing ⟨⟨fetch, records⟩, s.now⟩ (s.now - startedAt))
        ((s.countFetchTime (s.now - startedAt)).setPhase i
          (.installing ⟨⟨fetch, records⟩, s.now⟩ (s.now - startedAt)))
  | install (e : Entry) (took : Nat) (phase : c.phase = .installing e took) :
      Move s i c (.finished (.read .fetched e) s.now)
        ((((s.install e).note i
          (.refreshed s.store.backend e.snapshot.records.length took)).conclude i c.kind
          .fetched e).release)
  | drop (phase : c.phase = .starting) (kind : c.kind = .invalidate) :
      Move s i c (.finished .invalidated s.now)
        (({ s with entry := none, gauge := 0 }.note i
          (.invalidated s.entry.isSome)).finish i .invalidated)
  | describe (phase : c.phase = .starting) (kind : c.kind = .status) :
      Move s i c (.finished (.described s.status) s.now) (s.finish i (.described s.status))

/-- While nobody is inside the guard of the entry, looking changes nothing. -/
theorem look_of_free {s : State} (h : s.entryLock = .free) : s.look = some (s.validEntry, s) := by
  unfold look
  rw [h]
  simp only [EntryLock.enterReader, Option.bind_eq_bind, Option.bind_some, EntryLock.leaveReader,
    Option.pure_def]
  rw [← h]

/-- A change under the writer's guard is the change itself, if the guard means nothing to it. -/
theorem write_of_free {s : State} (h : s.entryLock = .free) {change : State → State}
    (hchange : ∀ s lock, { change { s with entryLock := lock } with entryLock := s.entryLock } =
      change s) : s.write change = some (change s) := by
  unfold write
  rw [h]
  simp only [EntryLock.enterWriter, Option.bind_eq_bind, Option.bind_some, Option.pure_def,
    EntryLock.leaveWriter]
  rw [← hchange s .writer, h]

section parts

variable {s : State} (free : s.entryLock = .free) (i : Nat) (kind : CallKind)
include free

theorem firstLook_of_free : s.firstLook i kind =
    match s.validEntry with
    | some e => some (s.countHit.conclude i kind .hit e)
    | none => some (s.countMiss.setPhase i .queued) := by
  unfold firstLook
  rw [look_of_free free]
  cases s.validEntry <;> rfl

theorem secondLook_of_free : s.secondLook i kind =
    match s.validEntry with
    | some e => some ((s.note i .joined).conclude i kind .joined e).release
    | none =>
      some ({ s with store := { s.store with fetches := s.store.fetches + 1 } }.setPhase i
        (.fetching (s.store.fetches + 1) s.now (s.now + s.store.latency.getD 0))) := by
  unfold secondLook
  rw [look_of_free free]
  cases s.validEntry <;> rfl

theorem putInPlace_of_free (e : Entry) (took : Nat) : s.putInPlace i kind e took =
    some ((((s.install e).note i (.refreshed s.store.backend e.snapshot.records.length
      took)).conclude i kind .fetched e).release) := by
  unfold putInPlace
  rw [write_of_free free (fun _ _ => rfl)]
  rfl

theorem drop_of_free : s.drop i =
    some (({ s with entry := none, gauge := 0 }.note i (.invalidated s.entry.isSome)).finish i
      .invalidated) := by
  unfold drop
  rw [write_of_free free (fun _ _ => rfl)]
  rfl

theorem describe_of_free : s.describe i = some (s.finish i (.described s.status)) := by
  unfold describe
  rw [look_of_free free]
  rfl

end parts

section moves

variable {s s' : State} {i : Nat} {c : Call} {p : Phase}

/-- A reading call begins with its first look. -/
theorem resume_of_reads (hc : s.calls[i]? = some c) (hp : c.phase = .starting)
    (hk : c.kind.reads = true) : s.resume i = s.firstLook i c.kind := by
  unfold resume
  rw [hc]
  simp only [hp]
  cases hkind : c.kind with
  | dataset => rfl
  | warm => rfl
  | search r => rfl
  | invalidate => simp [hkind, CallKind.reads] at hk
  | status => simp [hkind, CallKind.reads] at hk

variable (free : s.entryLock = .free)
include free

/-- A call goes on by one of its moves. -/
theorem move_of_resume (hc : s.calls[i]? = some c) (h : s.resume i = some s') :
    ∃ p, Move s i c p s' := by
  by_cases hr : c.phase = .starting ∧ c.kind.reads = true
  · rw [resume_of_reads hc hr.1 hr.2, firstLook_of_free free] at h
    split at h
    · exact Option.some.inj h ▸ ⟨_, .hit _ hr.1 hr.2 ‹_›⟩
    · exact Option.some.inj h ▸ ⟨_, .miss hr.1 hr.2 ‹_›⟩
  unfold resume at h
  rw [hc] at h
  cases hp : c.phase with
  | starting =>
    cases hk : c.kind with
    | invalidate =>
      simp only [hp, hk, drop_of_free free] at h
      exact Option.some.inj h ▸ ⟨_, .drop hp hk⟩
    | status =>
      simp only [hp, hk, describe_of_free free] at h
      exact Option.some.inj h ▸ ⟨_, .describe hp hk⟩
    | dataset => exact absurd ⟨hp, by rw [hk]; rfl⟩ hr
    | warm => exact absurd ⟨hp, by rw [hk]; rfl⟩ hr
    | search r => exact absurd ⟨hp, by rw [hk]; rfl⟩ hr
  | queued =>
    simp only [hp, lockRefresh] at h
    split at h
    · exact Option.some.inj h ▸ ⟨_, .lock hp ‹_›⟩
    · contradiction
  | rechecking =>
    simp only [hp, secondLook_of_free free] at h
    split at h
    · exact Option.some.inj h ▸ ⟨_, .join _ hp ‹_›⟩
    · exact Option.some.inj h ▸ ⟨_, .fetch hp ‹_›⟩
  | fetching fetch startedAt due =>
    simp only [hp, endFetch] at h
    split at h
    · contradiction
    · split at h
      · exact Option.some.inj h ▸ ⟨_, .fail _ _ _ _ hp (by omega) ‹_›⟩
      · exact Option.some.inj h ▸ ⟨_, .deliver _ _ _ _ hp (by omega) ‹_›⟩
  | installing e took =>
    simp only [hp, putInPlace_of_free free] at h
    exact Option.some.inj h ▸ ⟨_, .install e took hp⟩
  | finished o time => simp [hp] at h

/-- Every move is a step that the call can take. -/
theorem Move.resume (hc : s.calls[i]? = some c) (h : Move s i c p s') :
    s.resume i = some s' := by
  cases h with
  | hit e phase kind valid => rw [resume_of_reads hc phase kind, firstLook_of_free free, valid]
  | miss phase kind invalid =>
    rw [resume_of_reads hc phase kind, firstLook_of_free free, invalid]
  | lock phase unheld => simp [State.resume, hc, phase, lockRefresh, unheld]
  | join e phase valid => simp [State.resume, hc, phase, secondLook_of_free free, valid]
  | fetch phase invalid => simp [State.resume, hc, phase, secondLook_of_free free, invalid]
  | fail fetch startedAt due fault phase isDue answer =>
    simp [State.resume, hc, phase, endFetch, Nat.not_lt.mpr isDue, answer]
  | deliver fetch startedAt due records phase isDue answer =>
    simp [State.resume, hc, phase, endFetch, Nat.not_lt.mpr isDue, answer]
  | install e took phase => simp [State.resume, hc, phase, putInPlace_of_free free]
  | drop phase kind => simp [State.resume, hc, phase, kind, drop_of_free free]
  | describe phase kind => simp [State.resume, hc, phase, kind, describe_of_free free]

end moves

/-! ## What every move keeps -/

section keeps

variable {s s' : State} {i : Nat} {c : Call} {p : Phase} (h : Move s i c p s')
include h

theorem Move.now_eq : s'.now = s.now := by
  cases h <;> simp

theorem Move.ttl_eq : s'.ttl = s.ttl := by
  cases h <;> simp

theorem Move.entryLock_eq : s'.entryLock = s.entryLock := by
  cases h <;> simp

theorem Move.fetches_le : s.store.fetches ≤ s'.store.fetches := by
  cases h <;> simp

/-- A move changes nothing of a call but its phase, and nothing of the other calls. -/
theorem Move.calls_eq : s'.calls = s.calls.modify i fun c => { c with phase := p } := by
  cases h <;> simp

theorem Move.other {j : Nat} (hj : j ≠ i) : s'.calls[j]? = s.calls[j]? := by
  rw [h.calls_eq, List.getElem?_modify]
  simp [Ne.symm hj]

theorem Move.self (hc : s.calls[i]? = some c) :
    s'.calls[i]? = some { c with phase := p } := by
  rw [h.calls_eq, List.getElem?_modify, hc]
  simp

/-- After a move a call is the one that moved, in its new phase, or one that was there before. -/
theorem Move.calls_cases (hc : s.calls[i]? = some c) {j : Nat} {d : Call}
    (hd : s'.calls[j]? = some d) :
    (j = i ∧ d = { c with phase := p }) ∨ (j ≠ i ∧ s.calls[j]? = some d) := by
  by_cases hj : j = i
  · subst hj
    rw [h.self hc] at hd
    exact .inl ⟨rfl, (Option.some.inj hd).symm⟩
  · rw [h.other hj] at hd
    exact .inr ⟨hj, hd⟩

/-- Only a call that is not finished moves. -/
theorem Move.not_finished (o : Outcome) (time : Nat) : c.phase ≠ .finished o time := by
  intro hf
  cases h <;> simp_all

/-- While another call holds the refresh lock, a call that does not hold it leaves the lock and
the store alone. -/
theorem Move.keeps_holder (hp : c.phase.holds = false) (hl : s.refreshLock ≠ none) :
    s'.refreshLock = s.refreshLock ∧ s'.store = s.store := by
  cases h <;> simp_all [Phase.holds]

end keeps

end State

end CompanySearch.Cache
