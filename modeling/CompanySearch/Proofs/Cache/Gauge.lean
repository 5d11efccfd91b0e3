-- The gauge follows the entry. What puts an entry in place or drops it sets the gauge in the same
-- step, and nothing else touches either, so the gauge is the size of the entry, expired or not. A
-- status call tells it, and it tells whether a reading at that moment would be a hit.
import CompanySearch.Proofs.Cache.Accounting

namespace CompanySearch.Cache

namespace State

/-! ## The gauge -/

/-- The number of records that are kept, be they expired or not. -/
def kept (s : State) : Nat := s.entry.elim 0 fun e => e.snapshot.records.length

theorem Move.gauge_eq {s s' : State} {i : Nat} {c : Call} {p : Phase} (h : Move s i c p s')
    (before : s.gauge = s.kept) : s'.gauge = s'.kept := by
  cases h with
  | install e took phase => simp [kept]
  | drop phase kind => rfl
  | hit e phase kind valid => simpa [kept] using before
  | join e phase valid => simpa [kept] using before
  | miss => exact before
  | lock => exact before
  | fetch => exact before
  | fail => exact before
  | deliver => exact before
  | describe => exact before

theorem Sound.gauge_act {s s' : State} {a : Action} (sound : s.Sound) (h : s.act a = some s')
    (before : s.gauge = s.kept) : s'.gauge = s'.kept := by
  cases a with
  | resume i =>
    obtain ⟨c, p, -, hm⟩ := exists_move sound.guard_free h
    exact hm.gauge_eq before
  | begin kind =>
    cases h
    exact before
  | elapse time =>
    cases h
    exact before
  | changeStore change =>
    cases h
    exact before

theorem Reachable.gauge_eq {s : State} (h : s.Reachable) : s.gauge = s.kept := by
  obtain ⟨store, ttl, actions, hrun⟩ := h
  refine (run_keeps (P := fun s => s.Sound ∧ s.gauge = s.kept) ?_
    ⟨start_sound store ttl, rfl⟩ hrun).2
  rintro s s' a ⟨sound, before⟩ ha
  exact ⟨sound.act ha, sound.gauge_act ha before⟩

end State

/-! ## Status calls -/

/-- The status tells what is the case in a state. -/
structure Status.Tells (status : Status) (s : State) : Prop where
  populated : status.populated = true ↔ ∃ e, s.entry = some e
  records : status.records = s.gauge
  age : ∀ age, status.age = some age ↔ ∃ e, s.entry = some e ∧ e.populatedAt + age = s.now
  valid : status.valid = true ↔ ∃ age, status.age = some age ∧ age < s.ttl

namespace State

theorem Reachable.status_tells {s : State} (h : s.Reachable) : s.status.Tells s := by
  have hgauge := h.gauge_eq
  cases he : s.entry with
  | none =>
    simp only [kept, he, Option.elim_none] at hgauge
    constructor <;> simp [status, he, hgauge]
  | some e =>
    have hpast := (h.sound.entry_known e he).2
    simp only [kept, he, Option.elim_some] at hgauge
    constructor
    · simp [status, he]
    · simp [status, he, hgauge]
    · intro age
      simp only [status, he, Option.some.injEq, exists_eq_left']
      omega
    · simp [status, he, isValid]

/-- Whoever looks changes nothing that a status call tells. -/
theorem status_congr {s t : State} (entry : t.entry = s.entry) (now : t.now = s.now)
    (ttl : t.ttl = s.ttl) : t.status = s.status := by
  have hvalid (e : Entry) : t.isValid e = s.isValid e := by simp only [isValid, now, ttl]
  unfold status
  rw [entry, now, ttl]
  simp only [hvalid]

theorem status_valid_iff {s : State} : s.status.valid = true ↔ ∃ e, s.validEntry = some e := by
  cases he : s.entry with
  | none => simp [status, validEntry, he]
  | some e => simp [status, validEntry_eq_some, he]

/-! ## Readings at the same moment -/

/-- The next step of call `i` is a hit: the call is counted as one and returns at once. -/
def Hits (s : State) (i : Nat) : Prop :=
  ∃ s' e, s.resume i = some s' ∧ s'.Returned i (.read .hit e) ∧
    s'.counters.hits = s.counters.hits + 1

section look

variable {s s' : State} {j : Nat} {d : Call} {p : Phase}

/-- The first look of a reading leaves what a status call tells as it is. -/
theorem Move.status_of_look (h : Move s j d p s') (hp : d.phase = .starting)
    (reads : d.kind.reads = true) : s'.status = s.status := by
  refine status_congr ?_ h.now_eq h.ttl_eq
  cases h <;> simp_all [CallKind.reads]

theorem Sound.hits_iff (sound : s.Sound) (hd : s.calls[j]? = some d) (hp : d.phase = .starting)
    (reads : d.kind.reads = true) : s.Hits j ↔ s.status.valid = true := by
  rw [status_valid_iff]
  constructor
  · rintro ⟨s', e, hr, ⟨c, time, hc, hcp⟩, -⟩
    obtain ⟨d', p, hd', hm⟩ := exists_move sound.guard_free hr
    rw [hd] at hd'
    cases hd'
    rw [hm.self hd] at hc
    cases hc
    obtain rfl : p = .finished (.read .hit e) time := hcp
    cases hm with
    | hit e phase kind valid => exact ⟨e, valid⟩
  · rintro ⟨e, valid⟩
    have hm := Move.hit (i := j) e hp reads valid
    refine ⟨_, e, hm.resume sound.guard_free hd, ⟨_, s.now, hm.self hd, rfl⟩, ?_⟩
    have hcount := hm.count_eq .hits
    rw [hp] at hcount
    exact hcount

end look

/-! ## The law -/

/-- In every state the gauge is the size of the entry, or zero without one. A status call returns at
once, and it tells whether there is an entry, the value of the gauge, and whether the entry is
younger than the time to live. A reading that looks at the same moment, before the status call or
after it, is a hit exactly if that is told. -/
theorem gauge_and_status_follow_the_entry {s : State} (reached : s.Reachable) :
    s.gauge = s.kept ∧
    ∀ i c, s.calls[i]? = some c → c.kind = .status → c.phase = .starting →
      ∃ s' status, s.resume i = some s' ∧ s'.Returned i (.described status) ∧ status.Tells s ∧
        ∀ j d, s.calls[j]? = some d → d.kind.reads = true → d.phase = .starting →
          (s'.Hits j ↔ status.valid = true) ∧ (s.Hits j ↔ status.valid = true) ∧
            ∀ u, s.resume j = some u →
              ∃ u', u.resume i = some u' ∧ u'.Returned i (.described status) := by
  have sound := reached.sound
  refine ⟨reached.gauge_eq, fun i c hc hkind hp => ?_⟩
  have hm := Move.describe (s := s) (i := i) hp hkind
  refine ⟨_, s.status, hm.resume sound.guard_free hc, ⟨_, s.now, hm.self hc, rfl⟩,
    reached.status_tells, fun j d hd reads hdp => ?_⟩
  have hij : i ≠ j := by
    rintro rfl
    rw [hc] at hd
    cases hd
    simp [hkind, CallKind.reads] at reads
  refine ⟨?_, sound.hits_iff hd hdp reads, fun u hu => ?_⟩
  · exact (sound.move hm hc).hits_iff ((hm.other hij.symm).trans hd) hdp reads
  · obtain ⟨d', p, hd', hlook⟩ := exists_move sound.guard_free hu
    rw [hd] at hd'
    cases hd'
    have hci := (hlook.other hij).trans hc
    have hm' := Move.describe (s := u) (i := i) hp hkind
    refine ⟨_, hm'.resume (sound.move hlook hd).guard_free hci, _, u.now, hm'.self hci, ?_⟩
    rw [hlook.status_of_look hdp reads]

/-- An entry that has expired is counted still, and a status call and a reading at that moment agree
on it. -/
theorem an_expired_entry_still_counts : ∃ (s s' : State) (status : Status), s.Reachable ∧
    s.validEntry = none ∧ s.gauge = 1 ∧ s.resume 1 = some s' ∧
    s'.Returned 1 (.described status) ∧ status.Tells s ∧ (s.Hits 2 ↔ status.valid = true) := by
  have reached : Reachable _ := ⟨.inMemory [.empty], 100, [.begin .warm, .resume 0, .resume 0,
    .resume 0, .resume 0, .resume 0, .elapse 100, .begin .status, .begin .dataset], rfl⟩
  obtain ⟨hgauge, hstatus⟩ := gauge_and_status_follow_the_entry reached
  obtain ⟨s', status, hresume, hreturned, htells, hreads⟩ := hstatus 1 _ rfl rfl rfl
  exact ⟨_, s', status, reached, rfl, hgauge, hresume, hreturned, htells,
    (hreads 2 _ rfl rfl rfl).2.1⟩

end State

end CompanySearch.Cache
