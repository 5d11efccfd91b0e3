-- What the counts say. A call is counted as it comes to certain phases, so at any moment each count
-- is the number of calls that have come so far, and the counts balance as the phases do.
import CompanySearch.Proofs.Cache.SingleFlight
import Mathlib.Algebra.BigOperators.Group.List.Basic
import Mathlib.Algebra.GroupWithZero.Nat

namespace CompanySearch.Cache

/-! ## What is counted -/

inductive Count where
  | hits
  | misses
  | refreshes
  | failures
  /-- The fetches that the store has seen. -/
  | fetches
  deriving DecidableEq

def State.count (s : State) : Count → Nat
  | .hits => s.counters.hits
  | .misses => s.counters.misses
  | .refreshes => s.counters.refreshes
  | .failures => s.counters.failures
  | .fetches => s.store.fetches

namespace Phase

/-- The counts that a call in this phase stands in. -/
def counts : Phase → List Count
  | .starting => []
  | .queued | .rechecking => [.misses]
  | .fetching _ _ _ | .installing _ _ => [.misses, .fetches]
  | .finished (.read .hit _) _ => [.hits]
  | .finished (.read .joined _) _ => [.misses]
  | .finished (.read .fetched _) _ => [.misses, .fetches, .refreshes]
  | .finished (.failed _) _ => [.misses, .fetches, .failures]
  | .finished .invalidated _ | .finished (.described _) _ => []

/-- The call has taken its first look. -/
def hasLooked : Phase → Bool
  | .starting => false
  | _ => true

/-- The call has looked in vain and not finished. -/
def pends : Phase → Bool
  | .queued | .rechecking | .fetching _ _ _ | .installing _ _ => true
  | .starting | .finished _ _ => false

/-- The call has found a valid entry at its second look. -/
def hasJoined : Phase → Bool
  | .finished (.read .joined _) _ => true
  | _ => false

def hasFinished : Phase → Bool
  | .finished _ _ => true
  | _ => false

end Phase

namespace State

/-! ## Each call is counted once -/

section count

variable (s : State) (i : Nat) (k : Count)

@[simp] theorem count_release : s.release.count k = s.count k := by
  cases k <;> rfl

@[simp] theorem count_note (notice : Notice) : (s.note i notice).count k = s.count k := by
  cases k <;> rfl

@[simp] theorem count_finish (outcome : Outcome) : (s.finish i outcome).count k = s.count k := by
  cases k <;> rfl

theorem count_conclude (kind : CallKind) (source : Source) (e : Entry) :
    (s.conclude i kind source e).count k = s.count k := by
  cases kind <;> cases k <;> rfl

end count

/-- A move counts a call in where its new phase stands in a count and the old one does not. -/
theorem Move.count_eq {s s' : State} {i : Nat} {c : Call} {p : Phase} (h : Move s i c p s')
    (k : Count) : s'.count k + c.phase.counts.count k = s.count k + p.counts.count k := by
  cases h with
  | hit e phase kind valid =>
    rw [count_conclude, phase]
    cases k <;> rfl
  | miss phase kind invalid =>
    rw [phase]
    cases k <;> rfl
  | lock phase unheld =>
    rw [phase]
    cases k <;> rfl
  | join e phase valid =>
    rw [count_release, count_conclude, phase]
    cases k <;> rfl
  | fetch phase invalid =>
    rw [phase]
    cases k <;> rfl
  | fail fetch startedAt due fault phase isDue answer =>
    rw [phase]
    cases k <;> rfl
  | deliver fetch startedAt due records phase isDue answer =>
    rw [phase]
    cases k <;> rfl
  | install e took phase =>
    rw [count_release, count_conclude, phase]
    cases k <;> rfl
  | drop phase kind =>
    rw [phase]
    cases k <;> rfl
  | describe phase kind =>
    rw [phase]
    cases k <;> rfl

/-- How often the calls stand in a count. -/
def stand (s : State) (k : Count) : Nat := (s.calls.map fun c => c.phase.counts.count k).sum

theorem sum_map_modify {α : Type} {l : List α} {i : Nat} {a : α} (h : l[i]? = some a)
    (f : α → Nat) (g : α → α) :
    ((l.modify i g).map f).sum + f a = (l.map f).sum + f (g a) := by
  induction l generalizing i with
  | nil => simp at h
  | cons b rest ih =>
    cases i with
    | zero =>
      obtain rfl : b = a := by simpa using h
      simp
      omega
    | succ i =>
      have hrest := ih (i := i) (by simpa using h)
      simp
      omega

/-- What a step adds to a count, it adds to the calls that stand in it. -/
theorem Sound.count_act {s s' : State} {a : Action} (sound : s.Sound) (h : s.act a = some s')
    (k : Count) : s'.count k + s.stand k = s.count k + s'.stand k := by
  cases a with
  | resume i =>
    obtain ⟨c, p, hc, hm⟩ := exists_move sound.guard_free h
    have hcount := hm.count_eq k
    have hstand : s'.stand k + c.phase.counts.count k = s.stand k + p.counts.count k := by
      unfold stand
      rw [hm.calls_eq]
      exact sum_map_modify hc (fun c => c.phase.counts.count k) fun c => { c with phase := p }
    omega
  | begin kind =>
    cases h
    have hcount : (s.begin kind).count k = s.count k := by
      cases k <;> rfl
    have hstand : (s.begin kind).stand k = s.stand k := by
      simp [stand, begin, Phase.counts]
    omega
  | elapse time =>
    cases h
    have hcount : (s.elapse time).count k = s.count k := by
      cases k <;> rfl
    have hstand : (s.elapse time).stand k = s.stand k := rfl
    omega
  | changeStore change =>
    cases h
    have hcount : (s.changeStore change).count k = s.count k := by
      cases k
      case fetches => exact change_fetches s.store change
      all_goals rfl
    have hstand : (s.changeStore change).stand k = s.stand k := rfl
    omega

/-- Each count is what it was at the start and the number of the calls that stand in it. -/
theorem count_run {store : Store} {ttl : Nat} {actions : List Action} {s : State}
    (reached : (start store ttl).run actions = some s) (k : Count) :
    s.count k = (start store ttl).count k + s.stand k := by
  have hrun := run_keeps (P := fun m => m.Sound ∧
      m.count k = (start store ttl).count k + m.stand k) ?_ ⟨start_sound store ttl, rfl⟩ reached
  · exact hrun.2
  · rintro m m' a ⟨sound, hm⟩ ha
    have hact := sound.count_act ha k
    exact ⟨sound.act ha, by omega⟩

/-! ## How the phases balance -/

theorem countP_eq_sum {α : Type} (l : List α) (P : α → Bool) :
    l.countP P = (l.map fun a => (P a).toNat).sum := by
  induction l with
  | nil => rfl
  | cons a rest ih =>
    rw [List.countP_cons, List.map_cons, List.sum_cons, ih]
    cases P a <;> simp
    omega

/-- Only a reading is counted as a hit or a miss, and every reading is that has looked. -/
theorem Reachable.looks_of_reads {s : State} (h : s.Reachable) {c : Call} (hc : c ∈ s.calls) :
    c.phase.counts.count .hits + c.phase.counts.count .misses =
      (c.kind.reads && c.phase.hasLooked).toNat := by
  obtain ⟨i, hi⟩ := List.mem_iff_getElem?.mp hc
  refine h.forall_calls (P := fun _ c => c.phase.counts.count .hits + c.phase.counts.count .misses =
      (c.kind.reads && c.phase.hasLooked).toNat) ?_ (fun _ _ _ hlooks => hlooks) ?_ hi
  · intro now kind
    simp [Phase.counts, Phase.hasLooked]
  · intro s s' i c p hm hlooks
    cases hm <;> simp_all [Phase.counts, Phase.hasLooked, CallKind.reads]

theorem Phase.misses_eq (p : Phase) : p.counts.count .misses =
    p.counts.count .refreshes + p.counts.count .failures + p.hasJoined.toNat + p.pends.toNat := by
  rcases p with _ | _ | _ | _ | _ | ⟨⟨_ | _ | _⟩ | _ | _ | _⟩ <;> rfl

theorem Phase.fetches_eq (p : Phase) : p.counts.count .fetches =
    p.counts.count .refreshes + p.counts.count .failures + p.refreshes.toNat := by
  rcases p with _ | _ | _ | _ | _ | ⟨⟨_ | _ | _⟩ | _ | _ | _⟩ <;> rfl

section balance

variable (s : State)

theorem stand_misses : s.stand .misses = s.stand .refreshes + s.stand .failures +
    s.calls.countP (fun c => c.phase.hasJoined) + s.calls.countP (fun c => c.phase.pends) := by
  unfold stand
  rw [countP_eq_sum, countP_eq_sum, ← List.sum_map_add, ← List.sum_map_add, ← List.sum_map_add]
  congr 2
  funext c
  exact Phase.misses_eq c.phase

theorem stand_fetches : s.stand .fetches = s.stand .refreshes + s.stand .failures +
    s.calls.countP (fun c => c.phase.refreshes) := by
  unfold stand
  rw [countP_eq_sum, ← List.sum_map_add, ← List.sum_map_add]
  congr 2
  funext c
  exact Phase.fetches_eq c.phase

end balance

theorem Reachable.stand_looked {s : State} (h : s.Reachable) :
    s.stand .hits + s.stand .misses =
      s.calls.countP fun c => c.kind.reads && c.phase.hasLooked := by
  unfold stand
  rw [countP_eq_sum, ← List.sum_map_add]
  congr 1
  exact List.map_congr_left fun c hc => h.looks_of_reads hc

/-- What at most one member meets is met as often as it is met at all. -/
theorem countP_eq_any {α : Type} {l : List α} {P : α → Bool}
    (h : ∀ (i j : Nat) a b, l[i]? = some a → l[j]? = some b → P a = true → P b = true → i = j) :
    l.countP P = if l.any P then 1 else 0 := by
  induction l with
  | nil => rfl
  | cons a rest ih =>
    have hrest := ih fun i j b c hb hc hPb hPc => by
      have hij := h (i + 1) (j + 1) b c (by simpa using hb) (by simpa using hc) hPb hPc
      omega
    rw [List.countP_cons, hrest, List.any_cons]
    cases ha : P a with
    | false => simp
    | true =>
      have hnone : rest.any P = false := by
        rw [List.any_eq_false]
        intro b hb hPb
        obtain ⟨i, hi⟩ := List.mem_iff_getElem?.mp hb
        have hij := h 0 (i + 1) a b rfl (by simpa using hi) ha hPb
        omega
      simp [hnone]

/-! ## The law -/

/-- Every reading that has looked is a hit or a miss. A miss has led to a refresh, to a failure, or
to the entry of another call, or it is still pending. Every fetch that the store has seen beyond
those before the start has led to a refresh or to a failure, but for the one under way. -/
theorem the_counts_balance {store : Store} {ttl : Nat} {actions : List Action} {s : State}
    (reached : (start store ttl).run actions = some s) :
    s.counters.hits + s.counters.misses =
      s.calls.countP (fun c => c.kind.reads && c.phase.hasLooked) ∧
    s.counters.misses = s.counters.refreshes + s.counters.failures +
      s.calls.countP (fun c => c.phase.hasJoined) + s.calls.countP (fun c => c.phase.pends) ∧
    s.store.fetches = store.fetches + s.counters.refreshes + s.counters.failures +
      (if s.calls.any fun c => c.phase.refreshes then 1 else 0) ∧
    ((∀ c ∈ s.calls, c.phase.hasFinished = true) →
      s.store.fetches = store.fetches + s.counters.refreshes + s.counters.failures) := by
  have reachable : s.Reachable := ⟨store, ttl, actions, reached⟩
  have hhits : s.counters.hits = 0 + s.stand .hits := count_run reached .hits
  have hmisses : s.counters.misses = 0 + s.stand .misses := count_run reached .misses
  have hrefreshes : s.counters.refreshes = 0 + s.stand .refreshes := count_run reached .refreshes
  have hfailures : s.counters.failures = 0 + s.stand .failures := count_run reached .failures
  have hfetches : s.store.fetches = store.fetches + s.stand .fetches := count_run reached .fetches
  have hone : s.calls.countP (fun c => c.phase.refreshes) =
      if s.calls.any fun c => c.phase.refreshes then 1 else 0 :=
    countP_eq_any fun i j c d hc hd hcr hdr => reachable.sound.one_holder hc hd
      (Phase.holds_of_refreshes hcr) (Phase.holds_of_refreshes hdr)
  have hlooked := reachable.stand_looked
  have hmissed := s.stand_misses
  have hfetched := s.stand_fetches
  refine ⟨by omega, by omega, by omega, fun finished => ?_⟩
  have hidle : s.calls.countP (fun c => c.phase.refreshes) = 0 := by
    rw [List.countP_eq_zero]
    intro c hc
    have hfinished := finished c hc
    cases hp : c.phase <;> simp_all [Phase.hasFinished, Phase.refreshes]
  omega

/-- One fetch has succeeded and served a hit; after its entry has expired one fails, and one is
under way while another call waits for it. -/
theorem four_misses_and_a_hit_balance : ∃ (actions : List Action) (s : State),
    (start (.inMemory []) 100).run actions = some s ∧
    s.counters.hits + s.counters.misses = 5 ∧
    s.counters.misses = s.counters.refreshes + s.counters.failures + 0 + 2 ∧
    s.store.fetches = 0 + s.counters.refreshes + s.counters.failures + 1 := by
  let first : List Action := [.begin .warm, .resume 0, .resume 0, .resume 0, .resume 0, .resume 0,
    .begin (.search .all), .resume 1, .begin .status, .resume 2]
  let expired : List Action := [.elapse 100, .changeStore (.setFault (some Store.toldToFail)),
    .begin .dataset, .begin .dataset, .begin .dataset, .resume 3, .resume 4, .resume 5, .resume 3,
    .resume 3, .resume 3, .resume 4, .resume 4]
  have law := @the_counts_balance (.inMemory []) 100 (first ++ expired) _ rfl
  exact ⟨first ++ expired, _, rfl, law.1, law.2.1, law.2.2.1⟩

end State

end CompanySearch.Cache
