-- Starting the service. Only the settings decide whether it starts, and if they are unfit the store
-- is not used. A failed warm-up keeps nobody from starting and leaves nothing behind, so the first
-- search after it fetches on its own account.
import CompanySearch.Proofs.Cache.Alone
import CompanySearch.Proofs.Search.Rows
import CompanySearch.Service.Start
import CompanySearch.Service.Task

namespace CompanySearch

open Cache

/-! ## One call of the service -/

namespace Service

@[simp]
theorem logAll_cache (s : Service) (events : List Log.Event) :
    (s.logAll events).cache = s.cache := by
  induction events generalizing s with
  | nil => rfl
  | cons event rest ih => exact ih (s.log event)

@[simp]
theorem reporting_cache (s : Service) (known : Nat) (span : Option Log.Span) :
    (s.reporting known span).cache = s.cache :=
  s.logAll_cache _

@[simp]
theorem proceed_cache (s : Service) (call : Nat) (span : Option Log.Span) :
    (s.proceed call span).cache = State.proceed call State.phases s.cache :=
  reporting_cache _ _ span

theorem outcome?_eq {s : Service} {call : Nat} {kind : CallKind} {startedAt time : Nat}
    {o : Outcome} (hc : s.cache.calls[call]? = some ⟨kind, startedAt, .finished o time⟩) :
    s.outcome? call = some o := by
  unfold outcome?
  rw [hc]

theorem outcome?_eq_none {s : Service} {call : Nat} {c : Call}
    (hc : s.cache.calls[call]? = some c) (unfinished : ∀ o time, c.phase ≠ .finished o time) :
    s.outcome? call = none := by
  unfold outcome?
  rw [hc]
  split
  · rename_i heq
    cases heq
    exact absurd rfl (unfinished _ _)
  · rfl

namespace Board

theorem settle_step {fuel : Nat} {b next : Board} (h : b.step = some next) :
    settle (fuel + 1) b = settle fuel next := by
  rw [settle, h]

theorem settle_stop {fuel : Nat} {b : Board} (h : b.step = none) : settle fuel b = b := by
  cases fuel with
  | zero => rfl
  | succ fuel => rw [settle, h]

theorem handOver_of_nobody_waits {b : Board} (h : b.waiting = []) : b.handOver = b := by
  unfold handOver
  rw [h]
  cases b.service.cache.refreshLock <;> rfl

/-- A service whose only task makes one call. -/
def lone (s : Service) (kind : CallKind) (stage : Stage) : Board :=
  ⟨s, [⟨.call kind, stage⟩], [], []⟩

section lone

variable {s : Service} {kind : CallKind} {since call : Nat}

theorem lone_of_finished {o : Outcome} (h : (s.proceed call none).outcome? call = some o) :
    proceed 0 since (.call kind) callsPerTask call (lone s kind (.calling since call)) =
      lone (s.proceed call none) kind
        (.ended (.called call) (s.proceed call none).now) := by
  unfold callsPerTask proceed lone
  simp only [spanOf, h]
  rfl

theorem lone_of_due {due : Nat} (h : (s.proceed call none).cache.dueTime call = some due) :
    proceed 0 since (.call kind) callsPerTask call (lone s kind (.calling since call)) =
      lone (s.proceed call none) kind (.calling since call) := by
  obtain ⟨c, fetch, startedAt, hc, hp⟩ := State.exists_of_dueTime h
  obtain ⟨kind', startedAt', phase⟩ := c
  cases hp
  unfold callsPerTask proceed
  simp only [spanOf, outcome?, lone, hc]

/-- The only task ends with its call. -/
theorem settle_of_finished {fuel : Nat} {o : Outcome}
    (h : (s.proceed call none).outcome? call = some o) :
    settle fuel (proceed 0 since (.call kind) callsPerTask call
      (lone s kind (.calling since call))).handOver =
      lone (s.proceed call none) kind (.ended (.called call) (s.proceed call none).now) := by
  rw [lone_of_finished h, handOver_of_nobody_waits rfl, settle_stop rfl]

/-- The only task waits with its call for the store, and goes on when the fetch is due. -/
theorem settle_of_due {fuel due : Nat}
    (h : (s.proceed call none).cache.dueTime call = some due) :
    settle (fuel + 2) (proceed 0 since (.call kind) callsPerTask call
      (lone s kind (.calling since call))).handOver =
      settle fuel (proceed 0 since (.call kind) callsPerTask call
        (lone ((s.proceed call none).elapse (due - (s.proceed call none).now)) kind
          (.calling since call))).handOver := by
  rw [lone_of_due h, handOver_of_nobody_waits rfl]
  have hnext : (lone (s.proceed call none) kind (.calling since call)).nextWake? =
      some (due, 0) := by
    unfold nextWake? lone
    simp only [List.zipIdx_cons, List.zipIdx_nil, List.foldl_cons, List.foldl_nil, wakeTime?, h]
  have hwake : (lone (s.proceed call none) kind (.calling since call)).step = some
      { lone ((s.proceed call none).elapse (due - (s.proceed call none).now)) kind
        (.calling since call) with ready := [0] } := by
    unfold step
    rw [hnext]
    rfl
  rw [settle_step hwake, settle_step rfl]
  rfl

end lone

end Board

theorem run_of_settle {s t : Service} {kind : CallKind} {result : Result}
    (h : ∀ fuel, ∃ time, Board.settle (fuel + 2) (Board.proceed 0 s.now (.call kind)
      Board.callsPerTask s.cache.calls.length (.lone { s with cache := s.cache.begin kind } kind
        (.calling s.now s.cache.calls.length))).handOver = .lone t kind (.ended result time)) :
    s.run (.call kind) = (t, result) := by
  obtain ⟨time, hend⟩ := h 21
  have hsettle : Board.settle 24 ⟨s, [⟨.call kind, .asleep s.now⟩], [0], []⟩ =
      .lone t kind (.ended result time) := (Board.settle_step rfl).trans hend
  have hall : s.runAll [(0, .call kind)] = (t, [.ended result time]) := by
    have hboard : s.runAll [(0, .call kind)] =
        let board := Board.settle 24 ⟨s, [⟨.call kind, .asleep s.now⟩], [0], []⟩
        (board.service, board.tasks.map Task.stage) := rfl
    rw [hboard, hsettle]
    rfl
  unfold run
  rw [hall]

/-- With nothing else under way, a call of the service is one of the cache. -/
theorem run_call (s : Service) {kind : CallKind}
    (alone : s.cache.FetchesAlone kind (s.cache.perform kind)) :
    ∃ t : Service, s.run (.call kind) = (t, .called s.cache.calls.length) ∧
      t.cache = s.cache.perform kind := by
  let call := s.cache.calls.length
  let begun : Service := { s with cache := s.cache.begin kind }
  let first := begun.proceed call none
  have hfirst : State.proceed call State.phases (s.cache.begin kind) = first.cache :=
    (begun.proceed_cache call none).symm
  have hend := State.getElem?_last alone.calls
  cases hdue : first.cache.dueTime call with
  | none =>
    rw [State.perform_of_not_due hfirst hdue] at hend ⊢
    have hended : first.outcome? call = some _ := outcome?_eq hend
    exact ⟨first, run_of_settle fun fuel => ⟨first.now, Board.settle_of_finished hended⟩, rfl⟩
  | some due =>
    let last := (first.elapse (due - first.now)).proceed call none
    have hlast : s.cache.perform kind = last.cache :=
      (State.perform_of_due hfirst hdue).trans
        ((first.elapse (due - first.now)).proceed_cache call none).symm
    rw [hlast] at hend ⊢
    have hended : last.outcome? call = some _ := outcome?_eq hend
    refine ⟨last, run_of_settle fun fuel => ⟨last.now, ?_⟩, rfl⟩
    rw [Board.settle_of_due hdue]
    exact Board.settle_of_finished hended

/-! ## Starting -/

theorem warmUp_cache (s : Service) : s.warmUp.cache = s.cache.perform .warm := by
  unfold warmUp
  simp only
  split <;> simp [log]

section start

variable (settings : Settings) (store : Store) (events : List Log.Event) (timeText : Nat → String)

theorem startOver_of_unfit {fault : Fault} (unfit : settings.validate = .error fault) :
    (startOver settings events timeText).run store = .error fault store := by
  unfold startOver
  rw [unfit]
  rfl

/-- The cache of a service that has just been started. -/
def startedCache : State :=
  if settings.cache.warmOnStartup then (State.start store settings.cache.ttl).perform .warm
  else .start store settings.cache.ttl

theorem startOver_of_fit (fit : settings.validate = .ok ()) :
    ∃ s, (startOver settings events timeText).run store = .ok s s.cache.store ∧
      s.cache = startedCache settings store := by
  unfold startOver startedCache
  rw [fit]
  refine ⟨_, rfl, ?_⟩
  split
  · rw [warmUp_cache]
    rfl
  · rfl

theorem startOver_error_iff {fault : Fault} {store' : Store} :
    (startOver settings events timeText).run store = .error fault store' ↔
      settings.validate = .error fault ∧ store' = store := by
  constructor
  · intro h
    cases hvalid : settings.validate with
    | error problem =>
      rw [startOver_of_unfit settings _ events timeText hvalid] at h
      cases h
      exact ⟨rfl, rfl⟩
    | ok _ =>
      obtain ⟨s, hrun, -⟩ := startOver_of_fit settings store events timeText hvalid
      rw [hrun] at h
      contradiction
  · rintro ⟨unfit, rfl⟩
    exact startOver_of_unfit settings _ events timeText unfit

theorem startOver_ok_cases {s : Service} {store' : Store}
    (h : (startOver settings events timeText).run store = .ok s store') :
    settings.validate = .ok () ∧ store' = s.cache.store ∧
      s.cache = startedCache settings store := by
  cases hvalid : settings.validate with
  | error problem =>
    rw [startOver_of_unfit settings _ events timeText hvalid] at h
    contradiction
  | ok _ =>
    obtain ⟨s', hrun, hcache⟩ := startOver_of_fit settings store events timeText hvalid
    rw [hrun] at h
    cases h
    exact ⟨rfl, rfl, hcache⟩

end start

/-- What a service that has been started has done so far: it has used the store only to warm up, and
keeps what the store has answered then. -/
structure Started (settings : Settings) (store : Store) (s : Service) : Prop where
  unwarmed : settings.cache.warmOnStartup = false → s.cache.store = store ∧ s.cache.entry = none
  warmed : settings.cache.warmOnStartup = true →
    s.cache.store = { store with fetches := store.fetches + 1 } ∧
      ∀ e, s.cache.entry = some e ↔
        ∃ records, store.answer = .ok records ∧ e = ⟨⟨store.fetches + 1, records⟩, store.delay⟩

/-- A search, alone, fetches once and returns what filtering and sorting finds in what the store
answers. -/
structure SearchFetches (s : Service) (request : Search.Request) (call : Nat) (t : Service) :
    Prop where
  ran : s.run (.call (.search request)) = (t, .called call)
  fetches : t.cache.store.fetches = s.cache.store.fetches + 1
  works : ∀ records, s.cache.store.answer = .ok records →
    (∃ e, t.outcome? call = some (.read .fetched e) ∧ e.snapshot.records = records) ∧
      t.rows call = Search.run request records ∧ Search.Finds request records (t.rows call)
  fails : ∀ fault, s.cache.store.answer = .error fault →
    t.outcome? call = some (.failed (.dataUnavailable fault.message))

theorem searchFetches_of_cold {s : Service} (cold : s.cache.Cold) (request : Search.Request) :
    ∃ t, s.SearchFetches request s.cache.calls.length t := by
  have alone := cold.performs (.search request) rfl
  obtain ⟨t, hrun, hcache⟩ := s.run_call alone
  have hend := State.getElem?_last alone.calls
  rw [← hcache] at hend
  refine ⟨t, hrun, ?_, fun records ha => ?_, fun fault ha => ?_⟩
  · rw [hcache, alone.store]
  · simp only [Store.outcome, ha] at hend
    have hrows : t.rows s.cache.calls.length = Search.run request records := by
      simp [rows, hend, Call.rows?]
    exact ⟨⟨_, outcome?_eq hend, rfl⟩, hrows, Search.finds_iff.mpr hrows.symm⟩
  · simp only [Store.outcome, ha] at hend
    exact outcome?_eq hend

theorem started_unwarmed {settings : Settings} {store : Store} {s : Service}
    (hwarm : settings.cache.warmOnStartup = false)
    (hcache : s.cache = .start store settings.cache.ttl) : Started settings store s := by
  refine ⟨fun _ => ?_, fun h => by simp [hwarm] at h⟩
  rw [hcache]
  exact ⟨rfl, rfl⟩

theorem started_warmed {settings : Settings} {store : Store} {s : Service}
    (hwarm : settings.cache.warmOnStartup = true)
    (alone : (State.start store settings.cache.ttl).FetchesAlone .warm s.cache) :
    Started settings store s := by
  refine ⟨fun h => by simp [hwarm] at h, fun _ => ⟨alone.store, fun e => ?_⟩⟩
  have hentry : s.cache.entry =
      store.replaced (store.fetches + 1) (0 + store.delay) none := alone.entry
  rw [hentry, Nat.zero_add]
  unfold Store.replaced
  cases store.answer with
  | error fault => simp
  | ok records => simp [eq_comm]

/-! ## The law -/

/-- A service starts exactly if its settings are fit, whatever the store does, and if they are not,
the store has not been used. If it is not to warm up, nothing has been fetched. If it is, one fetch
has been made, and its snapshot is kept exactly if the store has answered with it. If the store has
failed then, the service has started all the same, and the first search later on, whatever else has
happened, fetches once more: it finds what there is to be found if the store works by then. -/
theorem only_unfit_settings_keep_the_service_from_starting (settings : Settings) (store : Store)
    (events : List Log.Event) (timeText : Nat → String) :
    (∀ fault store', (startOver settings events timeText).run store = .error fault store' ↔
      settings.validate = .error fault ∧ store' = store) ∧
    (∀ s store', (startOver settings events timeText).run store = .ok s store' →
      settings.validate = .ok () ∧ store' = s.cache.store ∧ Started settings store s ∧
      (settings.cache.warmOnStartup = true → ∀ fault, store.answer = .error fault →
        ∀ actions (later : Service), s.cache.run actions = some later.cache →
          (∀ kind, .begin kind ∈ actions → kind.reads = false) →
          later.cache.store.fetches = s.cache.store.fetches ∧
          ∀ request, ∃ t, later.SearchFetches request later.cache.calls.length t)) := by
  refine ⟨fun fault store' => startOver_error_iff settings store events timeText, ?_⟩
  intro s store' h
  obtain ⟨fit, hstore, hcache⟩ := startOver_ok_cases settings store events timeText h
  unfold startedCache at hcache
  have cold := State.start_cold store settings.cache.ttl
  cases hwarm : settings.cache.warmOnStartup with
  | false =>
    rw [hwarm] at hcache
    exact ⟨fit, hstore, started_unwarmed hwarm hcache, nofun⟩
  | true =>
    have alone := cold.performs .warm rfl
    rw [hwarm, if_pos rfl] at hcache
    rw [← hcache] at alone
    refine ⟨fit, hstore, started_warmed hwarm alone, ?_⟩
    intro _ fault answer actions later hlater noReading
    obtain ⟨cold', hfetches⟩ := (alone.cold cold answer).run hlater noReading
    exact ⟨hfetches, searchFetches_of_cold cold'⟩

/-- The store fails just when the service starts. Once it works again, a search finds the steel
companies in it, the largest first and one of unknown size before them. -/
theorem a_search_recovers_after_a_failed_warm_up :
    let request : Search.Request := ⟨"industry:steel", some "size", some "desc", some "quicksort"⟩
    ∃ (store : Store) (s later t : Service) (call : Nat),
      (startOver .default [] fun _ => "").run store = .ok s s.cache.store ∧
      store.answer = .error Store.toldToFail ∧ s.cache.entry = none ∧
      s.cache.run [.changeStore (.setFault none)] = some later.cache ∧
      later.SearchFetches request call t ∧ t.cache.store.fetches = store.fetches + 2 ∧
      (t.rows call).map (fun r => r.value? "id") =
        [some (.integer 3), some (.integer 4), some (.integer 1), some (.integer 5)] := by
  intro request
  let store : Store := ⟨"memory", Query.companies, some Store.toldToFail, some 50, 0⟩
  obtain ⟨s, hstart, -⟩ := startOver_of_fit .default store [] (fun _ => "") rfl
  have law := only_unfit_settings_keep_the_service_from_starting .default store [] fun _ => ""
  obtain ⟨-, -, started, recovers⟩ := law.2 s _ hstart
  obtain ⟨hstore, hentry⟩ := started.warmed rfl
  let later : Service := s.changeStore (.setFault none)
  have answer : later.cache.store.answer = .ok Query.companies := by
    change Store.answer { s.cache.store with fault := none } = _
    rw [hstore]
    rfl
  obtain ⟨hfetches, hsearch⟩ := recovers rfl _ rfl [.changeStore (.setFault none)] later rfl
    (by simp)
  obtain ⟨t, ht⟩ := hsearch request
  obtain ⟨-, hrows, -⟩ := ht.works _ answer
  refine ⟨store, s, later, t, _, hstart, rfl, ?_, rfl, ht, ?_, ?_⟩
  · rw [Option.eq_none_iff_forall_ne_some]
    intro e he
    obtain ⟨records, hanswer, -⟩ := (hentry e).mp he
    contradiction
  · rw [ht.fetches, hfetches, hstore]
  · rw [hrows]
    decide +kernel

end Service

end CompanySearch
