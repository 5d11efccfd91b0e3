-- The labels under which requests are counted. Paths and statuses have a fixed few, whatever
-- clients send, but every method has its own, so there is a bound on the labels exactly where there
-- is one on the methods.
import CompanySearch.Proofs.Service.Startup
import CompanySearch.Web.MediaType
import Mathlib.Data.Finite.Prod

namespace CompanySearch

open Cache

/-! ## Paths and statuses -/

namespace Web

/-- The names under which paths are counted. -/
def countedNames : List String := "other" :: countedPaths

theorem countedPath_mem (path : String) : countedPath path ∈ countedNames := by
  unfold countedPath
  split
  · decide
  · split
    · rename_i hcounted
      exact List.mem_cons_of_mem _ (List.contains_iff_mem.mp hcounted)
    · exact List.mem_cons_self

/-- The statuses of replies. -/
def statuses : List Nat := [200, 400, 404, 405, 413, 415, 422, 500, 503]

theorem Refusal.status_mem (r : Refusal) : r.status ∈ statuses := by
  cases r with
  | query => decide
  | mediaType => decide
  | tooLarge => decide
  | body fault => cases fault <;> decide

/-- A reply that is known at once has one of the statuses. -/
theorem status_mem_of_demand {limit : Nat} {request : Request} {r : Reply}
    (h : demand limit request = .reply r) : r.status ∈ statuses := by
  have hsearch {search : Except Refusal Search.Request} (h : ofSearch search = .reply r) :
      r.status ∈ statuses := by
    cases search with
    | ok search => contradiction
    | error refusal =>
      cases h
      exact refusal.status_mem
  unfold demand at h
  split at h
  · cases h
    decide
  · rename_i e _
    split at h
    · cases e with
      | health =>
        cases h
        decide
      | metrics => contradiction
      | companies => exact hsearch h
      | companySearch => exact hsearch h
      | cacheStatus => contradiction
      | cacheInvalidation => contradiction
    · cases h
      exact (by decide : 405 ∈ statuses)

end Web

theorem Fault.status_mem (f : Fault) : f.status ∈ Web.statuses := by
  cases f <;> simp [status, Web.statuses]

/-! ## What is counted -/

/-- An exchange by one of the methods has been counted. -/
structure Metrics.Exchange.CountedBy (methods : Set String) (e : Metrics.Exchange) : Prop where
  method : e.method ∈ methods
  path : e.path ∈ Web.countedNames
  status : e.status ∈ Web.statuses

namespace Service

variable {methods : Set String}

@[simp]
theorem logAll_exchanges (s : Service) (events : List Log.Event) :
    (s.logAll events).exchanges = s.exchanges := by
  induction events generalizing s with
  | nil => rfl
  | cons event rest ih => exact ih (s.log event)

@[simp]
theorem proceed_exchanges (s : Service) (call : Nat) (span : Option Log.Span) :
    (s.proceed call span).exchanges = s.exchanges :=
  logAll_exchanges _ _

/-- A task whose request, if it is for one, is made by one of the methods. -/
def Work.Uses (methods : Set String) : Work → Prop
  | .exchange request _ => request.method ∈ methods
  | _ => True

namespace Board

/-- So far only requests by the methods have been counted, and only such are under way. -/
structure Counts (methods : Set String) (b : Board) : Prop where
  counted : ∀ e ∈ b.service.exchanges, e.CountedBy methods
  uses : ∀ w ∈ b.tasks.map Task.work, w.Uses methods

/-- Nothing else of a board matters for what is counted. -/
theorem Counts.congr {b b' : Board} (h : b.Counts methods)
    (hexchanges : b'.service.exchanges = b.service.exchanges)
    (hworks : b'.tasks.map Task.work = b.tasks.map Task.work) : b'.Counts methods := by
  constructor
  · rw [hexchanges]
    exact h.counted
  · rw [hworks]
    exact h.uses

theorem Counts.withService {b : Board} (h : b.Counts methods) (s : Service)
    (hs : s.exchanges = b.service.exchanges) : Counts methods { b with service := s } :=
  h.congr hs rfl

@[simp]
theorem setStage_works (b : Board) (i : Nat) (stage : Stage) :
    (b.setStage i stage).tasks.map Task.work = b.tasks.map Task.work := by
  apply List.ext_getElem?
  intro j
  unfold setStage
  simp only [List.getElem?_map, List.getElem?_modify]
  cases b.tasks[j]? with
  | none => rfl
  | some t =>
    simp only [Option.map_some]
    split
    · rfl
    · rfl

theorem Counts.setStage {b : Board} (h : b.Counts methods) (i : Nat) (stage : Stage) :
    (b.setStage i stage).Counts methods :=
  h.congr rfl (b.setStage_works i stage)

section exchanges

variable {b : Board} (h : b.Counts methods) (i : Nat) {request : Web.Request}
  (hmethod : request.method ∈ methods) (id : String) (since : Nat)
include h

theorem Counts.begin (kind : CallKind) : (b.begin i since kind).Counts methods :=
  h.congr rfl (setStage_works _ i _)

include hmethod

theorem Counts.reply {r : Web.Reply} (hstatus : r.status ∈ Web.statuses) :
    (b.reply i request id since r).Counts methods := by
  refine ⟨fun e he => ?_, fun w hw => h.uses w ?_⟩
  · rcases List.mem_cons.mp he with rfl | he
    · exact ⟨hmethod, Web.countedPath_mem _, hstatus⟩
    · exact h.counted e he
  · rwa [← setStage_works _ i]

theorem Counts.concludeExchange (call : Nat) (o : Outcome) :
    (b.concludeExchange i request id since call o).Counts methods := by
  cases o with
  | read source entry => exact h.reply i hmethod id since (by decide : 200 ∈ Web.statuses)
  | failed fault =>
    exact (h.withService _ (logAll_exchanges _ _)).reply i hmethod id since fault.status_mem
  | invalidated => exact h.begin i since .status
  | described status =>
    apply h.reply i hmethod id since
    split
    · exact (by decide : 200 ∈ Web.statuses)
    · exact (by decide : 200 ∈ Web.statuses)

end exchanges

theorem Counts.proceed {b : Board} (h : b.Counts methods) {work : Work} (hwork : work.Uses methods)
    (i since calls call : Nat) : (proceed i since work calls call b).Counts methods := by
  induction calls generalizing b call with
  | zero => exact h
  | succ calls ih =>
    have hproceed : Counts methods { b with service := b.service.proceed call (spanOf work) } :=
      h.withService _ (proceed_exchanges _ _ _)
    unfold Board.proceed
    simp only
    split
    · split
      · rename_i outcome _ request id _
        have hconcluded := hproceed.concludeExchange i hwork id since call outcome
        split
        · exact ih hconcluded _
        · exact hconcluded
      · exact hproceed.setStage i _
    · split
      · exact hproceed.congr rfl rfl
      · exact hproceed

theorem Counts.call {b : Board} (h : b.Counts methods) {work : Work} (hwork : work.Uses methods)
    (i : Nat) (kind : CallKind) : (b.call i work kind).Counts methods :=
  (h.begin i _ kind).proceed hwork i _ _ _

theorem Counts.exchange {b : Board} (h : b.Counts methods) {request : Web.Request} {id : String}
    (hmethod : request.method ∈ methods) (i : Nat) : (b.exchange i request id).Counts methods := by
  have hlogged (event : Log.Event) : Counts methods { b with service := b.service.log event } :=
    h.withService (b.service.log event) rfl
  have hwork : (Work.exchange request id).Uses methods := hmethod
  unfold Board.exchange
  split
  · exact h.setStage i _
  · simp only
    split
    · rename_i hdemand
      exact (hlogged _).reply i hmethod id _ (Web.status_mem_of_demand hdemand)
    · exact (hlogged _).reply i hmethod id _ (by decide : 200 ∈ Web.statuses)
    · rename_i search _
      exact ((hlogged (incomingEvent request (requestSpan request id))).withService
        ((b.service.log _).log (searchEvent search (requestSpan request id))) rfl).call hwork i _
    · exact (hlogged _).call hwork i _
    · exact (hlogged _).call hwork i _

theorem Counts.resume {b : Board} (h : b.Counts methods) (i : Nat) :
    (b.resume i).Counts methods := by
  unfold Board.resume
  split
  · rename_i work _ htask
    have hwork : work.Uses methods :=
      h.uses work (List.mem_map.mpr ⟨_, List.mem_of_getElem? htask, rfl⟩)
    split
    · exact h.call hwork i _
    · exact h.exchange hwork i
    · exact (h.withService (b.service.changeStore _) rfl).setStage i _
    · exact (h.withService (b.service.elapse _) rfl).setStage i _
  · rename_i work _ _ htask
    have hwork : work.Uses methods :=
      h.uses work (List.mem_map.mpr ⟨_, List.mem_of_getElem? htask, rfl⟩)
    exact h.proceed hwork i _ _ _
  · exact h

theorem Counts.handOver {b : Board} (h : b.Counts methods) : b.handOver.Counts methods := by
  unfold Board.handOver
  split
  · split
    · exact h.congr rfl rfl
    · exact h.congr rfl rfl
  · exact h

/-- One step counts requests by these methods only. -/
theorem Counts.step {b next : Board} (h : b.Counts methods) (hstep : b.step = some next) :
    next.Counts methods := by
  unfold Board.step at hstep
  split at hstep
  · rename_i i rest _
    cases hstep
    have hready : Counts methods { b with ready := rest } := h.congr rfl rfl
    exact (hready.resume i).handOver
  · obtain ⟨⟨time, i⟩, -, rfl⟩ := Option.map_eq_some_iff.mp hstep
    exact h.congr rfl rfl

theorem Counts.settle {b : Board} (h : b.Counts methods) (fuel : Nat) :
    (settle fuel b).Counts methods := by
  induction fuel generalizing b with
  | zero => exact h
  | succ fuel ih =>
    unfold Board.settle
    split
    · exact ih (h.step ‹_›)
    · exact h

end Board

/-! ## Batches of tasks -/

/-- Runs batches of tasks one after another; the tasks of a batch are under way at once. -/
def serve (s : Service) (batches : List (List (Nat × Work))) : Service :=
  batches.foldl (fun s works => (s.runAll works).1) s

/-- Whatever it has done before the first request, and whatever else it has been asked to do, the
service has only had requests by these methods. -/
def ServedBy (methods : Set String) (s : Service) : Prop :=
  ∃ (first : Service) (batches : List (List (Nat × Work))), first.exchanges = [] ∧
    (∀ works ∈ batches, ∀ p ∈ works, p.2.Uses methods) ∧ s = first.serve batches

theorem runAll_counted {s : Service} (h : ∀ e ∈ s.exchanges, e.CountedBy methods)
    {works : List (Nat × Work)} (hworks : ∀ p ∈ works, p.2.Uses methods) :
    ∀ e ∈ (s.runAll works).1.exchanges, e.CountedBy methods := by
  unfold runAll
  apply Board.Counts.counted
  apply Board.Counts.settle
  refine ⟨h, fun w hw => ?_⟩
  obtain ⟨t, ht, rfl⟩ := List.mem_map.mp hw
  obtain ⟨p, hp, rfl⟩ := List.mem_map.mp ht
  exact hworks p hp

theorem ServedBy.counted {s : Service} (h : s.ServedBy methods) :
    ∀ e ∈ s.exchanges, e.CountedBy methods := by
  obtain ⟨first, batches, hfirst, hbatches, rfl⟩ := h
  have hstart : ∀ e ∈ first.exchanges, e.CountedBy methods := by simp [hfirst]
  clear hfirst
  unfold serve
  induction batches generalizing first with
  | nil => exact hstart
  | cons works batches ih =>
    rw [List.foldl_cons]
    exact ih _ (fun ws hws => hbatches ws (List.mem_cons_of_mem works hws))
      (runAll_counted hstart (hbatches works List.mem_cons_self))

/-! ## Every method counts -/

/-- A request that nothing is found for is counted under its method all the same. -/
theorem run_unknown (s : Service) (request : Web.Request) (id : String)
    (hmethod : request.method ≠ "OPTIONS") (hpath : Web.Endpoint.ofPath? request.path = none) :
    (s.runAll [(0, .exchange request id)]).1.exchanges =
      ⟨request.method, Web.countedPath request.path, 404, 0⟩ :: s.exchanges := by
  have hdemand (limit : Nat) : Web.demand limit request = .reply (.empty 404) := by
    unfold Web.demand
    rw [hpath]
  let replied : Board := Board.reply
    ⟨s.log (incomingEvent request (requestSpan request id)),
      [⟨.exchange request id, .asleep s.now⟩], [], []⟩ 0 request id s.now (.empty 404)
  have hfirst : Board.step ⟨s, [⟨.exchange request id, .asleep s.now⟩], [0], []⟩ =
      some replied := by
    have hexchange : Board.exchange ⟨s, [⟨.exchange request id, .asleep s.now⟩], [], []⟩ 0 request
        id = replied := by
      unfold Board.exchange
      rw [if_neg hmethod]
      simp only [hdemand]
      rfl
    have hresume : Board.resume ⟨s, [⟨.exchange request id, .asleep s.now⟩], [], []⟩ 0 = replied :=
      hexchange
    unfold Board.step
    simp only [hresume]
    rw [Board.handOver_of_nobody_waits rfl]
  have hlast : replied.step = none := rfl
  have hsettle : Board.settle 24 ⟨s, [⟨.exchange request id, .asleep s.now⟩], [0], []⟩ = replied :=
    (Board.settle_step hfirst).trans (Board.settle_stop hlast)
  have hall : (s.runAll [(0, .exchange request id)]).1 =
      (Board.settle 24 ⟨s, [⟨.exchange request id, .asleep s.now⟩], [0], []⟩).service := rfl
  rw [hall, hsettle, ← Nat.sub_self s.now]
  rfl

/-! ## Labels -/

/-- The families of series about requests. -/
def requestFamilies : List String :=
  ["tally_http_requests_total", "tally_http_request_duration_seconds"]

/-- The labels of all series about requests on the page of metrics. -/
def requestLabels (s : Service) : List Metrics.Labels :=
  ((Metrics.families s.cache.counters s.cache.gauge s.exchanges).filter fun f =>
    requestFamilies.contains f.name).flatMap fun f => f.series.map Prod.fst

end Service

theorem Metrics.mem_grouped {α : Type} {names : List String} {labelsOf : α → List String}
    {series : List α → Metrics.Series} {counted : List α} {labels : Metrics.Labels} :
    labels ∈ (Metrics.grouped names labelsOf series counted).map Prod.fst ↔
      ∃ a ∈ counted, labels = names.zip (labelsOf a) := by
  unfold Metrics.grouped Metrics.distinct
  simp only [List.map_map, List.mem_map, List.mem_mergeSort, List.mem_eraseDups]
  constructor
  · rintro ⟨values, ⟨a, ha, rfl⟩, rfl⟩
    exact ⟨a, ha, rfl⟩
  · rintro ⟨a, ha, rfl⟩
    exact ⟨_, ⟨a, ha, rfl⟩, rfl⟩

namespace Service

/-- The labels of the duration of an exchange. -/
def durationLabels (method path : String) : Metrics.Labels := [("method", method), ("path", path)]

/-- The labels of the count of an exchange. -/
def countLabels (method path : String) (status : Nat) : Metrics.Labels :=
  [("method", method), ("path", path), ("status", toString status)]

theorem mem_requestLabels {s : Service} {labels : Metrics.Labels} :
    labels ∈ s.requestLabels ↔ ∃ e ∈ s.exchanges,
      labels = durationLabels e.method e.path ∨ labels = countLabels e.method e.path e.status := by
  have hlabels : s.requestLabels =
      (Metrics.grouped ["method", "path"] (fun e => [e.method, e.path])
        (fun es => .histogram (es.map Metrics.Exchange.took)) s.exchanges).map Prod.fst ++
      ((Metrics.grouped ["method", "path", "status"]
        (fun e => [e.method, e.path, toString e.status])
        (fun es => .value es.length) s.exchanges).map Prod.fst ++ []) := rfl
  rw [hlabels, List.append_nil, List.mem_append, Metrics.mem_grouped, Metrics.mem_grouped]
  constructor
  · rintro (⟨e, he, rfl⟩ | ⟨e, he, rfl⟩)
    · exact ⟨e, he, .inl rfl⟩
    · exact ⟨e, he, .inr rfl⟩
  · rintro ⟨e, he, rfl | rfl⟩
    · exact .inl ⟨e, he, rfl⟩
    · exact .inr ⟨e, he, rfl⟩

/-! ## The law -/

/-- The labels that requests by the methods may have. -/
def labelsOf (methods : Set String) : Set Metrics.Labels :=
  {labels | ∃ method ∈ methods, ∃ path ∈ Web.countedNames, ∃ status ∈ Web.statuses,
    labels = durationLabels method path ∨ labels = countLabels method path status}

theorem ServedBy.labels {s : Service} (h : s.ServedBy methods) :
    ∀ labels ∈ s.requestLabels, labels ∈ labelsOf methods := by
  intro labels hlabels
  obtain ⟨e, he, heq⟩ := mem_requestLabels.mp hlabels
  have hcounted := h.counted e he
  exact ⟨_, hcounted.method, _, hcounted.path, _, hcounted.status, heq⟩

theorem labelsOf_finite (h : methods.Finite) : (labelsOf methods).Finite := by
  have hpaths : {path | path ∈ Web.countedNames}.Finite := List.finite_toSet _
  have hstatuses : {status | status ∈ Web.statuses}.Finite := List.finite_toSet _
  have hdurations := h.image2 durationLabels hpaths
  have hcounts := (h.prod hpaths).image2 (fun p => countLabels p.1 p.2) hstatuses
  refine (hdurations.union hcounts).subset ?_
  rintro labels ⟨method, hmethod, path, hpath, status, hstatus, rfl | rfl⟩
  · exact .inl ⟨_, hmethod, _, hpath, rfl⟩
  · exact .inr ⟨(method, path), ⟨hmethod, hpath⟩, _, hstatus, rfl⟩

/-- Some finite set holds the labels of whatever the service is asked by the methods. -/
def Bounded (methods : Set String) : Prop :=
  ∃ allowed : Set Metrics.Labels, allowed.Finite ∧
    ∀ s : Service, s.ServedBy methods → ∀ labels ∈ s.requestLabels, labels ∈ allowed

/-- A service that has not had a request yet. -/
def unserved : Service := .ofStore (.inMemory []) 300000 fun _ => ""

/-- The service after one request by the method for something unknown. -/
def askedBy (method : String) : Service :=
  unserved.serve [[(0, .exchange ⟨method, "/", "", [], []⟩ "")]]

theorem askedBy_served {method : String} (h : method ∈ methods) :
    (askedBy method).ServedBy methods := by
  refine ⟨unserved, _, rfl, ?_, rfl⟩
  intro works hworks p hp
  rw [List.mem_singleton.mp hworks, List.mem_singleton] at hp
  subst hp
  exact h

theorem mem_labels_askedBy {method : String} (h : method ≠ "OPTIONS") :
    durationLabels method "/" ∈ (askedBy method).requestLabels := by
  have hexchanges : (askedBy method).exchanges = [⟨method, "/", 404, 0⟩] :=
    unserved.run_unknown ⟨method, "/", "", [], []⟩ "" h rfl
  rw [mem_requestLabels, hexchanges]
  exact ⟨_, List.mem_singleton_self _, .inl rfl⟩

/-- Where there is a bound on the labels, there is one on the methods. -/
theorem Bounded.finite (h : Bounded methods) : methods.Finite := by
  obtain ⟨allowed, hfinite, hallowed⟩ := h
  let methodIn (labels : Metrics.Labels) : String := (labels.head?.map Prod.snd).getD ""
  refine ((hfinite.image methodIn).insert "OPTIONS").subset ?_
  intro method hmethod
  by_cases hoptions : method = "OPTIONS"
  · exact .inl hoptions
  · exact .inr ⟨_, hallowed _ (askedBy_served hmethod) _ (mem_labels_askedBy hoptions), rfl⟩

/-- Whatever the service is asked, a label names a method by which it has been asked, one of a few
paths and one of a few statuses. So one finite set holds all labels, whatever is asked by some
methods, exactly if these are finitely many. -/
theorem labels_are_bounded_exactly_if_methods_are (methods : Set String) :
    (∀ s : Service, s.ServedBy methods → ∀ labels ∈ s.requestLabels,
      ∃ method ∈ methods, ∃ path ∈ Web.countedNames, ∃ status ∈ Web.statuses,
        labels = durationLabels method path ∨ labels = countLabels method path status) ∧
    (Bounded methods ↔ methods.Finite) :=
  ⟨fun _ h => h.labels, Bounded.finite,
    fun h => ⟨_, labelsOf_finite h, fun _ hs => hs.labels⟩⟩

/-- What may stand for a method in a request. -/
def IsMethod (method : String) : Prop :=
  method.toList ≠ [] ∧ ∀ c ∈ method.toList, Web.isTokenChar c = true

/-- Clients may use any method, so no finite set holds the labels of all that they can ask. -/
theorem labels_of_any_method_are_not_bounded : ¬ Bounded {method | IsMethod method} := by
  intro h
  have hlong : Set.range (fun n => String.ofList (List.replicate (n + 1) 'X')) ⊆
      {method | IsMethod method} := by
    rintro _ ⟨n, rfl⟩
    refine ⟨by simp, fun c hc => ?_⟩
    rw [String.toList_ofList] at hc
    rw [List.eq_of_mem_replicate hc]
    decide
  have hinjective : Function.Injective fun n => String.ofList (List.replicate (n + 1) 'X') := by
    intro n m heq
    simpa using congrArg (fun s : String => s.toList.length) heq
  exact Set.infinite_range_of_injective hinjective (h.finite.subset hlong)

end Service

end CompanySearch
