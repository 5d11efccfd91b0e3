-- In what order snapshots are read. One fetch follows another, and what it brings is in place
-- before its call returns, so no reading goes back behind one that has ended before it begins.
import CompanySearch.Proofs.Cache.Freshness
import CompanySearch.Proofs.Cache.Invalidation
import CompanySearch.Proofs.Cache.Purpose
import CompanySearch.Proofs.Search.Rows

namespace CompanySearch.Cache

namespace State

/-! ## Which fetches succeed -/

/-- The fetch that succeeds by an action, if one does. -/
def delivery? (s : State) (a : Action) : Option Nat :=
  match a, s.act a with
  | .resume i, some s' =>
    match s'.calls[i]? with
    | some ⟨_, _, .installing e _⟩ => some e.snapshot.fetch
    | _ => none
  | _, _ => none

/-- The fetches that succeed along a run, in the order in which they do. -/
def deliveries (s : State) : List Action → List Nat
  | [] => []
  | a :: rest =>
    match s.act a with
    | some s' => (s.delivery? a).toList ++ s'.deliveries rest
    | none => []

theorem deliveries_cons {s s' : State} {a : Action} (h : s.act a = some s') (rest : List Action) :
    s.deliveries (a :: rest) = (s.delivery? a).toList ++ s'.deliveries rest := by
  rw [deliveries, h]

/-- A step by which a fetch succeeds ends the one that is under way. -/
theorem Sound.of_delivery {s s' : State} {a : Action} {n : Nat} (sound : s.Sound)
    (h : s.act a = some s') (hn : s.delivery? a = some n) :
    (∃ i, s.Fetching i) ∧ n = s.store.fetches ∧ s'.store.fetches = n ∧ ∀ i, ¬ s'.Fetching i := by
  unfold delivery? at hn
  rw [h] at hn
  cases a with
  | resume i =>
    obtain ⟨c, p, hc, hm⟩ := exists_move sound.guard_free h
    simp only [hm.self hc] at hn
    have hfit := sound.phases_fit i c hc
    cases hm with
    | deliver fetch startedAt due records phase isDue answer =>
      obtain rfl : fetch = n := by simpa using hn
      rw [phase] at hfit
      refine ⟨⟨i, c, fetch, startedAt, due, hc, phase⟩, hfit.2, hfit.2.symm, ?_⟩
      -- No other call was fetching beside this one, and this one no longer is.
      rintro j ⟨d, fetch', startedAt', due', hd, hdp⟩
      have hm := Move.deliver (s := s) (i := i) (c := c) fetch startedAt due records phase isDue
        answer
      rcases hm.calls_cases hc hd with ⟨rfl, rfl⟩ | ⟨hj, hold⟩
      · contradiction
      · exact hj (sound.one_fetch ⟨d, fetch', startedAt', due', hold, hdp⟩
          ⟨c, fetch, startedAt, due, hc, phase⟩)
    | hit => simp at hn
    | miss => simp at hn
    | lock => simp at hn
    | join => simp at hn
    | fetch => simp at hn
    | fail => simp at hn
    | install => simp at hn
    | drop => simp at hn
    | describe => simp at hn
  | begin kind => simp at hn
  | elapse time => simp at hn
  | changeStore change => simp at hn

/-- A fetch that succeeds from now on has a number above `n`. -/
structure Past (n : Nat) (s : State) : Prop where
  sound : s.Sound
  fetches : n ≤ s.store.fetches
  fetching : ∀ i, s.Fetching i → n < s.store.fetches

theorem Past.act {n : Nat} {s s' : State} {a : Action} (past : Past n s)
    (h : s.act a = some s') : Past n s' := by
  have fetches' := Nat.le_trans past.fetches (past.sound.precedes h).fetches
  refine ⟨past.sound.act h, fetches', ?_⟩
  rcases past.sound.fetch_cases h with ⟨hsame, hbefore⟩ | ⟨hnext, -⟩
  · intro i hi
    rw [hsame]
    exact past.fetching i (hbefore i hi)
  · intro i _
    rw [hnext]
    exact Nat.lt_succ_of_le past.fetches

theorem Past.lt_of_mem_deliveries {n m : Nat} {s t : State} {actions : List Action}
    (past : Past n s) (h : s.run actions = some t) (hm : m ∈ s.deliveries actions) : n < m := by
  induction actions generalizing s with
  | nil => simp [deliveries] at hm
  | cons a rest ih =>
    rw [run_cons] at h
    obtain ⟨s', hs', hrest⟩ := Option.bind_eq_some_iff.mp h
    rw [deliveries_cons hs', List.mem_append, Option.mem_toList] at hm
    rcases hm with hnow | hlater
    · obtain ⟨⟨i, hi⟩, rfl, -⟩ := past.sound.of_delivery hs' hnow
      exact past.fetching i hi
    · exact ih (past.act hs') hrest hlater

/-- Fetches succeed in the order in which they start. -/
theorem Sound.deliveries_sorted {s t : State} {actions : List Action} (sound : s.Sound)
    (h : s.run actions = some t) : (s.deliveries actions).Pairwise (· < ·) := by
  induction actions generalizing s with
  | nil => exact .nil
  | cons a rest ih =>
    rw [run_cons] at h
    obtain ⟨s', hs', hrest⟩ := Option.bind_eq_some_iff.mp h
    rw [deliveries_cons hs']
    have sound' := sound.act hs'
    cases hd : s.delivery? a with
    | none => exact ih sound' hrest
    | some n =>
      obtain ⟨-, -, hfetches, hnone⟩ := sound.of_delivery hs' hd
      have past : Past n s' :=
        ⟨sound', Nat.le_of_eq hfetches.symm, fun i hi => absurd hi (hnone i)⟩
      exact List.pairwise_cons.mpr ⟨fun m => past.lt_of_mem_deliveries hrest, ih sound' hrest⟩

theorem mem_deliveries_of_takes {s m m' : State} {actions : List Action} {a : Action} {n : Nat}
    (h : s.Takes actions m a m') (hn : m.delivery? a = some n) : n ∈ s.deliveries actions := by
  obtain ⟨before, after, rfl, hm, hact⟩ := h
  induction before generalizing s with
  | nil =>
    cases hm
    rw [List.nil_append, deliveries_cons hact, hn]
    exact List.mem_append_left _ List.mem_cons_self
  | cons b rest ih =>
    rw [run_cons] at hm
    obtain ⟨s', hs', hrest⟩ := Option.bind_eq_some_iff.mp hm
    rw [List.cons_append, deliveries_cons hs']
    exact List.mem_append_right _ (ih hrest)

/-- What a call has delivered, its fetch has brought along. -/
theorem Delivers.mem_deliveries {s : State} {actions : List Action} {k : Nat} {e : Entry}
    (h : s.Delivers actions k e) (sound : s.Sound) : e.snapshot.fetch ∈ s.deliveries actions := by
  obtain ⟨m, m', c, startedAt, due, takes, hc, phase, isDue, answer, -⟩ := h
  refine mem_deliveries_of_takes takes ?_
  obtain ⟨before, after, -, hm, hact⟩ := takes
  have hmove := Move.deliver (s := m) (i := k) _ _ _ _ phase isDue answer
  have hresume := hmove.resume (sound.run hm).1.guard_free hc
  unfold delivery?
  rw [show m.act (.resume k) = _ from hresume]
  simp only [hmove.self hc]

/-! ## What follows a reading -/

/-- Once a reading has ended, nothing older is left that a later call could return. -/
theorem Refreshing.renewed_of_read {s s' : State} {i : Nat} {c : Call} {source : Source}
    {e : Entry} {time : Nat} (r : s.Refreshing) (hc : s.calls[i]? = some c)
    (h : Move s i c (.finished (.read source e) time) s') {n : Nat} (hn : n < e.snapshot.fetch) :
    Renewed n s'.calls.length s' := by
  have r' := r.move h hc
  have hentry := h.entry_of_read
  refine ⟨r'.sound, ?_, Nat.le_refl _, ?_, ?_, ?_⟩
  · have hknown := (r'.sound.entry_known e hentry).1
    omega
  · intro e' he'
    rw [(validEntry_eq_some.mp he').1] at hentry
    cases hentry
    exact hn
  · intro j d hd hlingers
    cases hp : d.phase with
    | fetching fetch startedAt due =>
      have hnewer := r'.newer j d fetch e hd (by rw [hp]; rfl) hentry
      exact ⟨fetch, rfl, by omega⟩
    | installing e' took =>
      have hnewer := r'.newer j d e'.snapshot.fetch e hd (by rw [hp]; rfl) hentry
      exact ⟨e'.snapshot.fetch, rfl, by omega⟩
    | starting => simp [hp, Lingers] at hlingers
    | queued => simp [hp, Lingers] at hlingers
    | rechecking => simp [hp, Lingers] at hlingers
    | finished o time => simp [hp, Lingers] at hlingers
  · intro j d m hl hd
    rw [List.getElem?_eq_none hl] at hd
    contradiction

/-- A call that begins after a reading has ended returns nothing older. -/
theorem fetch_le_of_begun_after {store : Store} {ttl : Nat} {before after : List Action}
    {s t : State} (reached : (start store ttl).run before = some s) (later : s.run after = some t)
    {i j : Nat} {source source' : Source} {e e' : Entry} (first : s.Returned i (.read source e))
    (begun : s.calls.length ≤ j) (second : t.Returned j (.read source' e')) :
    e.snapshot.fetch ≤ e'.snapshot.fetch := by
  by_contra hlt
  obtain ⟨c, time, hc, hp⟩ := first
  obtain ⟨b, r, m, m', d, p, -, hm, -, hr, hd, hmove, -, rfl⟩ :=
    exists_move_to (start_sound store ttl) reached (P := (· = .finished (.read source e) time))
      (by simp) (by simp [start]) hc hp
  have reachable : m.Reachable := ⟨store, ttl, b, hm⟩
  have renewed := reachable.refreshing.renewed_of_read hd hmove (Nat.lt_of_not_le hlt)
  have atEnd := run_keeps (P := Renewed _ _) Renewed.act renewed hr
  -- The second call is none of those that are there when the first one has ended.
  have fresh : Renewed e'.snapshot.fetch s.calls.length s :=
    { atEnd with
      length := Nat.le_refl _
      later := fun k d m hl hd => by
        rw [List.getElem?_eq_none hl] at hd
        contradiction }
  obtain ⟨d', time', hd', hp'⟩ := second
  have atLast := run_keeps (P := Renewed _ _) Renewed.act fresh later
  exact Nat.lt_irrefl _ (atLast.later j d' _ begun hd' (by rw [hp']; rfl))

/-- Two numbers of a list that increases stand in it in their order. -/
theorem exists_positions {l : List Nat} (h : l.Pairwise (· < ·)) {a b : Nat} (ha : a ∈ l)
    (hb : b ∈ l) (hab : a ≤ b) : ∃ n m : Nat, n ≤ m ∧ l[n]? = some a ∧ l[m]? = some b := by
  obtain ⟨n, hn, rfl⟩ := List.getElem_of_mem ha
  obtain ⟨m, hm, rfl⟩ := List.getElem_of_mem hb
  refine ⟨n, m, ?_, List.getElem?_eq_getElem hn, List.getElem?_eq_getElem hm⟩
  by_contra hlt
  have hless := List.pairwise_iff_getElem.mp h m n hm hn (by omega)
  omega

/-! ## The law -/

/-- Number the fetches that succeed in the order in which they start. If a reading has ended before
another call begins, that call returns the snapshot of the same fetch or of a later one. A search
has one snapshot that a fetch has delivered, and its rows are just what filtering and sorting finds
in that one; they stay, whatever happens after. Were all readings for the dataset alone, every entry
would be the same. -/
theorem readings_never_go_back {store : Store} {ttl : Nat} {actions : List Action} {t : State}
    (reached : (start store ttl).run actions = some t) :
    ((start store ttl).deliveries actions).Pairwise (· < ·) ∧
    (∀ before after s i j source source' e e', actions = before ++ after →
      (start store ttl).run before = some s → s.Returned i (.read source e) →
      s.calls.length ≤ j → t.Returned j (.read source' e') →
      ∃ n m : Nat, n ≤ m ∧
        ((start store ttl).deliveries actions)[n]? = some e.snapshot.fetch ∧
        ((start store ttl).deliveries actions)[m]? = some e'.snapshot.fetch) ∧
    (∀ (i : Nat) (c : Call) request source e time, t.calls[i]? = some c →
      c.kind = .search request → c.phase = .finished (.read source e) time →
      (∃ k, (start store ttl).Delivers actions k e) ∧
      c.rows? = some (Search.run request e.snapshot.records) ∧
      (∀ rows, c.rows? = some rows ↔ Search.Finds request e.snapshot.records rows) ∧
      ∀ after u, t.run after = some u → u.calls[i]? = some c) ∧
    ∃ u, (start store ttl).run (actions.map Action.plain) = some u ∧ u.entry = t.entry ∧
      u.store = t.store ∧ u.calls.map Call.phase = t.calls.map Call.phase := by
  have sound := start_sound store ttl
  have sorted := sound.deliveries_sorted reached
  refine ⟨sorted, ?_, ?_, ?_⟩
  · rintro before after s i j source source' e e' rfl hs first begun second
    have later := run_rest hs reached
    have hle := fetch_le_of_begun_after hs later first begun second
    obtain ⟨c, time, hc, hp⟩ := first
    obtain ⟨d, time', hd, hdp⟩ := second
    obtain ⟨k, hk, -⟩ := exists_delivers_of_returned hs hc hp
    obtain ⟨k', hk', -⟩ := exists_delivers_of_returned reached hd hdp
    exact exists_positions sorted ((hk.append after).mem_deliveries sound)
      (hk'.mem_deliveries sound) hle
  · intro i c request source e time hc hkind hp
    obtain ⟨k, hk, -⟩ := exists_delivers_of_returned reached hc hp
    have hrows : c.rows? = some (Search.run request e.snapshot.records) := by
      unfold Call.rows?
      simp only [hp, hkind]
    refine ⟨⟨k, hk⟩, hrows, fun rows => ?_, ?_⟩
    · rw [hrows, Option.some_inj, Search.finds_iff]
    · intro after u hu
      exact ((sound.run reached).1.run hu).2.finished hc hp
  · have hplain : (start store ttl).plain = start store ttl := rfl
    refine ⟨t.plain, ?_, rfl, rfl, ?_⟩
    · rw [← hplain, plain_run, reached]
      rfl
    · simp [plain, Call.plain]

/-- A search that begins after an invalidation reads the new records, and the reading before it has
read the old ones. It finds the steel companies, the largest first and one of unknown size before
them. -/
theorem a_search_after_an_invalidation_reads_on :
    ∃ (before after : List Action) (s t : State) (c : Call),
      (start (.inMemory []) 300000).run before = some s ∧ s.run after = some t ∧
      s.Returned 0 (.read .fetched ⟨⟨1, []⟩, 0⟩) ∧ t.calls[2]? = some c ∧
      c.phase = .finished (.read .fetched ⟨⟨2, Query.companies⟩, 0⟩) 0 ∧
      (∃ n m : Nat, n ≤ m ∧
        ((start (.inMemory []) 300000).deliveries (before ++ after))[n]? = some 1 ∧
        ((start (.inMemory []) 300000).deliveries (before ++ after))[m]? = some 2) ∧
      c.rows?.map (fun rows => rows.map fun r => r.value? "id") =
        some [some (.integer 3), some (.integer 4), some (.integer 1), some (.integer 5)] := by
  let request : Search.Request := ⟨"industry:steel", some "size", some "desc", some "quicksort"⟩
  let before : List Action := [.begin .dataset, .resume 0, .resume 0, .resume 0, .resume 0,
    .resume 0, .begin .invalidate, .resume 1]
  let after : List Action := [.changeStore (.replace Query.companies), .begin (.search request),
    .resume 2, .resume 2, .resume 2, .resume 2, .resume 2]
  have earlier : (start (.inMemory []) 300000).run before = some _ := rfl
  have reached := @run_trans _ _ _ before after earlier rfl
  have law := readings_never_go_back reached
  have ordered := law.2.1 before after _ 0 2 .fetched .fetched ⟨⟨1, []⟩, 0⟩
    ⟨⟨2, Query.companies⟩, 0⟩ rfl earlier ⟨_, _, rfl, rfl⟩ (by decide) ⟨_, _, rfl, rfl⟩
  obtain ⟨-, hrows, -⟩ := law.2.2.1 2 _ request .fetched ⟨⟨2, Query.companies⟩, 0⟩ 0 rfl rfl rfl
  refine ⟨before, after, _, _, _, earlier, run_rest earlier reached, ⟨_, _, rfl, rfl⟩, rfl, rfl,
    ordered, (congrArg _ hrows).trans ?_⟩
  decide +kernel

end State

end CompanySearch.Cache
