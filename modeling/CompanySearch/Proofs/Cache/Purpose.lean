-- What a reading is for makes no difference to the cache. A run in which all warming calls and all
-- searches are plain readings of the dataset goes through the same entries, locks and fetches.
import CompanySearch.Proofs.Cache.Reachable

namespace CompanySearch.Cache

/-! ## Leaving out what readings are for -/

/-- The kind of a call, without what a reading is for. -/
def CallKind.plain : CallKind → CallKind
  | .warm | .search _ => .dataset
  | kind => kind

def Call.plain (c : Call) : Call := { c with kind := c.kind.plain }

/-- Whether a call reports this whatever its reading is for. -/
def Notice.isShared : Notice → Bool
  | .warmed _ | .searched _ => false
  | _ => true

namespace State

/-- The state as if every reading were for the dataset alone: nobody has warmed the cache or
searched, and so nobody has reported or counted it. -/
def plain (s : State) : State :=
  { s with
    calls := s.calls.map Call.plain
    counters := { s.counters with searches := [] }
    journal := s.journal.filter fun p => p.2.isShared }

/-- The action, without what a new reading is for. -/
def Action.plain : Action → Action
  | .begin kind => .begin kind.plain
  | a => a

/-! ## The parts of a step -/

section plain

variable (s : State) (i : Nat)

theorem plain_setPhase (phase : Phase) : (s.setPhase i phase).plain = s.plain.setPhase i phase := by
  have hcalls : (s.calls.modify i fun c => { c with phase := phase }).map Call.plain =
      (s.calls.map Call.plain).modify i fun c => { c with phase := phase } := by
    apply List.ext_getElem?
    intro k
    rw [List.getElem?_map, List.getElem?_modify, List.getElem?_modify, List.getElem?_map]
    cases s.calls[k]? with
    | none => rfl
    | some c =>
      by_cases hk : i = k
      · simp [hk, Call.plain]
      · simp [hk]
  simp only [setPhase, plain, hcalls]

theorem plain_finish (outcome : Outcome) : (s.finish i outcome).plain = s.plain.finish i outcome :=
  plain_setPhase s i _

theorem plain_note {notice : Notice} (h : notice.isShared = true) :
    (s.note i notice).plain = s.plain.note i notice := by
  simp [note, plain, h]

theorem plain_note_of_not_shared {notice : Notice} (h : notice.isShared = false) :
    (s.note i notice).plain = s.plain := by
  simp [note, plain, h]

theorem plain_conclude (kind : CallKind) (source : Source) (e : Entry) :
    (s.conclude i kind source e).plain = s.plain.conclude i kind.plain source e := by
  cases kind with
  | warm => exact (plain_note_of_not_shared _ i rfl).trans (plain_finish s i _)
  | search request => exact (plain_note_of_not_shared _ i rfl).trans (plain_finish s i _)
  | dataset => exact plain_finish s i _
  | invalidate => exact plain_finish s i _
  | status => exact plain_finish s i _

theorem plain_look : s.plain.look = s.look.map fun seen => (seen.1, seen.2.plain) := by
  unfold look
  cases hl : s.entryLock <;> simp [plain, hl, EntryLock.enterReader, validEntry] <;> rfl

/-- A change under the writer's guard is the same on the plain state if the change itself is. -/
theorem plain_write (change : State → State) (h : ∀ s, (change s).plain = change s.plain) :
    s.plain.write change = (s.write change).map plain := by
  unfold write
  have hlock : s.plain.entryLock = s.entryLock := rfl
  rw [hlock]
  cases s.entryLock.enterWriter with
  | none => rfl
  | some lock =>
    have hchange := h { s with entryLock := lock }
    change some { change { s with entryLock := lock }.plain with
      entryLock := (change { s with entryLock := lock }.plain).entryLock.leaveWriter } = _
    rw [← hchange]
    rfl

/-! ## The steps of a call -/

theorem plain_firstLook (kind : CallKind) :
    s.plain.firstLook i kind.plain = (s.firstLook i kind).map plain := by
  unfold firstLook
  rw [plain_look]
  cases s.look with
  | none => rfl
  | some looked =>
    obtain ⟨seen, m⟩ := looked
    cases seen with
    | some e => exact congrArg some (plain_conclude m.countHit i kind .hit e).symm
    | none => exact congrArg some (plain_setPhase m.countMiss i .queued).symm

theorem plain_lockRefresh : s.plain.lockRefresh i = (s.lockRefresh i).map plain := by
  unfold lockRefresh
  have hlock : s.plain.refreshLock = s.refreshLock := rfl
  rw [hlock]
  cases s.refreshLock with
  | none => exact congrArg some (plain_setPhase { s with refreshLock := some i } i _).symm
  | some j => rfl

theorem plain_secondLook (kind : CallKind) :
    s.plain.secondLook i kind.plain = (s.secondLook i kind).map plain := by
  unfold secondLook
  rw [plain_look]
  cases s.look with
  | none => rfl
  | some looked =>
    obtain ⟨seen, m⟩ := looked
    cases seen with
    | some e =>
      have h := plain_conclude (m.note i .joined) i kind .joined e
      rw [plain_note m i rfl] at h
      exact congrArg (fun m => some (release m)) h.symm
    | none => exact congrArg some (plain_setPhase { m with store := _ } i _).symm

theorem plain_endFetch (fetch startedAt due : Nat) :
    s.plain.endFetch i fetch startedAt due = (s.endFetch i fetch startedAt due).map plain := by
  unfold endFetch
  have hnow : s.plain.now = s.now := rfl
  have hstore : s.plain.store = s.store := rfl
  rw [hnow]
  split
  · rfl
  · simp only [countFetchTime, hstore]
    cases s.store.answer with
    | error fault =>
      let m := s.countFetchTime (s.now - startedAt)
      let notice := Notice.refreshFailed s.store.backend fault.message
      have h := plain_finish (m.countFailure.note i notice) i
        (.failed (.dataUnavailable fault.message))
      rw [plain_note m.countFailure i rfl] at h
      exact congrArg (fun m => some (release m)) h.symm
    | ok records =>
      exact congrArg some (plain_setPhase (s.countFetchTime (s.now - startedAt)) i _).symm

theorem plain_putInPlace (kind : CallKind) (e : Entry) (took : Nat) :
    s.plain.putInPlace i kind.plain e took = (s.putInPlace i kind e took).map plain := by
  unfold putInPlace
  have hwrite := plain_write s (fun s => s.install e) fun _ => rfl
  rw [hwrite]
  cases s.write fun s => s.install e with
  | none => rfl
  | some m =>
    let notice := Notice.refreshed m.store.backend e.snapshot.records.length took
    have h := plain_conclude (m.note i notice) i kind .fetched e
    rw [plain_note m i rfl] at h
    exact congrArg (fun m => some (release m)) h.symm

theorem plain_drop : s.plain.drop i = (s.drop i).map plain := by
  unfold drop
  have hwrite := plain_write s (fun s => { s with entry := none, gauge := 0 }) fun _ => rfl
  rw [hwrite]
  cases s.write fun s => { s with entry := none, gauge := 0 } with
  | none => rfl
  | some m =>
    have h := plain_finish (m.note i (.invalidated s.entry.isSome)) i .invalidated
    rw [plain_note m i rfl] at h
    exact congrArg some h.symm

theorem plain_describe : s.plain.describe i = (s.describe i).map plain := by
  unfold describe
  rw [plain_look]
  cases s.look with
  | none => rfl
  | some looked => exact congrArg some (plain_finish looked.2 i _).symm

/-- A call without its purpose takes the same step. -/
theorem plain_resume : s.plain.resume i = (s.resume i).map plain := by
  have hcall : s.plain.calls[i]? = (s.calls[i]?).map Call.plain := List.getElem?_map
  unfold resume
  rw [hcall]
  cases s.calls[i]? with
  | none => rfl
  | some c =>
    obtain ⟨kind, startedAt, phase⟩ := c
    cases phase with
    | starting =>
      cases kind with
      | dataset => exact plain_firstLook s i .dataset
      | warm => exact plain_firstLook s i .warm
      | search request => exact plain_firstLook s i (.search request)
      | invalidate => exact plain_drop s i
      | status => exact plain_describe s i
    | queued => exact plain_lockRefresh s i
    | rechecking => exact plain_secondLook s i kind
    | fetching fetch startedAt due => exact plain_endFetch s i fetch startedAt due
    | installing e took => exact plain_putInPlace s i kind e took
    | finished o time => rfl

/-! ## Runs -/

theorem plain_act (a : Action) : s.plain.act a.plain = (s.act a).map plain := by
  cases a with
  | begin kind => simp [Action.plain, act, begin, plain, Call.plain]
  | resume i => exact plain_resume s i
  | elapse time => rfl
  | changeStore change => rfl

/-- A run in which every reading is for the dataset alone goes through the same states, but for what
warming calls and searches have reported and counted. -/
theorem plain_run (actions : List Action) :
    s.plain.run (actions.map Action.plain) = (s.run actions).map plain := by
  induction actions generalizing s with
  | nil => rfl
  | cons a rest ih =>
    rw [List.map_cons, run_cons, run_cons, plain_act]
    cases s.act a with
    | none => rfl
    | some m => exact ih m

end plain

end State

end CompanySearch.Cache
