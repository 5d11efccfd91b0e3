-- The laws of the selection. An `or` keeps a clause in the group of the clause before it, so the
-- clauses form groups. A record is selected when it satisfies some clause of every group.
import CompanySearch.Query.Selection
import Mathlib.Data.List.SplitBy

namespace CompanySearch.Query

/-! ## Groups of clauses -/

/-- The clauses cut into groups. A group goes on after a clause that an `or` joins to the next
one, and is as long as it can be. -/
def groups (clauses : List Clause) : List (List Clause) :=
  clauses.splitBy (fun c _ => c.connector == some .or)

/-- An `or` binds tighter than an `and`, and the last connector joins nothing. -/
example (a b c : List Predicate) : groups [⟨a, some .and⟩, ⟨b, some .or⟩, ⟨c, some .or⟩] =
    [[⟨a, some .and⟩], [⟨b, some .or⟩, ⟨c, some .or⟩]] := rfl

/-- Whether a record meets a list of clauses: of every group it satisfies some clause, that is
all conditions of the clause. -/
def Meets (r : Record) (clauses : List Clause) : Prop :=
  ∀ g ∈ groups clauses, ∃ c ∈ g, ∀ p ∈ c.predicates, satisfies r p = true

/-- A clause joined to the next one by an `or`. -/
def GoesOn (c _next : Clause) : Prop := (c.connector == some .or) = true

/-- What a group chooses from its candidates: first what its first clause holds of, then of the
rest what the other clauses choose. -/
def gather (records : List Record) : List Clause → List Nat → List Nat
  | [], _ => []
  | c :: rest, candidates =>
    choose records candidates c ++
      gather records rest (candidates.filter fun i => !satisfiesAt records c i)

variable (records : List Record)

theorem mem_choose (candidates : List Nat) (c : Clause) (i : Nat) :
    i ∈ choose records candidates c ↔ i ∈ candidates ∧ satisfiesAt records c i = true := by
  unfold choose
  rw [List.mem_filter]

theorem mem_gather (g : List Clause) (candidates : List Nat) (i : Nat) :
    i ∈ gather records g candidates ↔
      i ∈ candidates ∧ ∃ c ∈ g, satisfiesAt records c i = true := by
  induction g generalizing candidates with
  | nil => simp [gather]
  | cons c rest ih =>
    unfold gather
    rw [List.mem_append, mem_choose, ih, List.mem_filter, List.exists_mem_cons_iff]
    by_cases hc : satisfiesAt records c i = true
    · simp [hc]
    · simp [hc]

theorem gather_nodup (g : List Clause) {candidates : List Nat} (h : candidates.Nodup) :
    (gather records g candidates).Nodup := by
  induction g generalizing candidates with
  | nil => exact List.nodup_nil
  | cons c rest ih =>
    unfold gather
    rw [List.nodup_append]
    refine ⟨h.filter _, ih (h.filter _), ?_⟩
    intro i hi j hj hij
    subst hij
    rw [mem_choose] at hi
    rw [mem_gather, List.mem_filter] at hj
    simp [hi.2] at hj

/-! ## One group -/

/-- An `or` adds what the clause chooses of the candidates that are not chosen yet. -/
theorem advance_or (candidates chosen : List Nat) (c : Clause) :
    advance records ⟨candidates, chosen, some .or⟩ c =
      ⟨candidates,
        chosen ++ choose records (candidates.filter fun i => !chosen.contains i) c,
        c.connector⟩ := by
  unfold advance choose
  simp only [List.filter_filter, Bool.and_comm]

/-- Any other connector makes the chosen the candidates. -/
theorem advance_of_ne_or (p : Progress) (c : Clause) (h : p.connector ≠ some .or) :
    advance records p c = ⟨p.chosen, choose records p.chosen c, c.connector⟩ := by
  unfold advance
  split
  · contradiction
  · rfl

/-- What is left of the candidates after a clause: those neither chosen before nor by it. -/
theorem filter_not_chosen (candidates chosen : List Nat) (c : Clause) :
    (candidates.filter fun i =>
      !(chosen ++ choose records (candidates.filter fun i => !chosen.contains i) c).contains i) =
      (candidates.filter fun i => !chosen.contains i).filter
        fun i => !satisfiesAt records c i := by
  rw [List.filter_filter]
  apply List.filter_congr
  intro i hi
  rw [Bool.eq_iff_iff]
  simp only [Bool.not_eq_true', List.contains_eq_mem, decide_eq_false_iff_not, List.mem_append,
    mem_choose, List.mem_filter, Bool.and_eq_true, not_or, not_and, Bool.not_eq_true]
  constructor
  · rintro ⟨h1, h2⟩
    exact ⟨h2 ⟨hi, h1⟩, h1⟩
  · rintro ⟨h1, h2⟩
    exact ⟨h2, fun _ => h1⟩

/-- The clauses of a group behind its first one add to what has been chosen. -/
theorem foldl_or (rest : List Clause) (c : Clause) (candidates chosen : List Nat)
    (h : (c :: rest).IsChain GoesOn) :
    (rest.foldl (advance records) ⟨candidates, chosen, c.connector⟩).chosen =
      chosen ++ gather records rest (candidates.filter fun i => !chosen.contains i) := by
  induction rest generalizing c chosen with
  | nil => simp [gather]
  | cons d rest ih =>
    rw [List.isChain_cons_cons] at h
    have hc : c.connector = some .or := by simpa [GoesOn] using h.1
    rw [List.foldl_cons, hc, advance_or, ih d _ h.2, filter_not_chosen, List.append_assoc]
    rfl

theorem connector_advance (p : Progress) (c : Clause) :
    (advance records p c).connector = c.connector := by
  unfold advance
  split
  · rfl
  · rfl

theorem connector_foldl (g : List Clause) (hg : g ≠ []) (p : Progress) :
    (g.foldl (advance records) p).connector = (g.getLast hg).connector := by
  obtain ⟨front, c, rfl⟩ := List.eq_nil_or_concat g |>.resolve_left hg
  simp [List.foldl_append, connector_advance]

/-- A group that no `or` joins to what came before chooses from what has been chosen. -/
theorem foldl_group (g : List Clause) (hg : g ≠ []) (p : Progress)
    (hp : p.connector ≠ some .or) (h : g.IsChain GoesOn) :
    (g.foldl (advance records) p).chosen = gather records g p.chosen := by
  obtain ⟨c, rest, rfl⟩ := List.exists_cons_of_ne_nil hg
  have hleft : (p.chosen.filter fun i => !(choose records p.chosen c).contains i) =
      p.chosen.filter fun i => !satisfiesAt records c i := by
    apply List.filter_congr
    intro i hi
    rw [Bool.eq_iff_iff]
    simp [mem_choose, hi]
  rw [List.foldl_cons, advance_of_ne_or records p c hp, foldl_or records rest c _ _ h, hleft]
  rfl

/-! ## All groups -/

/-- Groups that no `or` joins to each other choose in turn, each from what the one before it has
chosen. -/
theorem foldl_groups (gs : List (List Clause)) (p : Progress)
    (hp : gs ≠ [] → p.connector ≠ some .or) (hne : [] ∉ gs)
    (hin : ∀ g ∈ gs, g.IsChain GoesOn)
    (hcut : gs.IsChain fun a b => ∃ (ha : a ≠ []) (_ : b ≠ []),
      ((a.getLast ha).connector == some .or) = false) :
    (gs.flatten.foldl (advance records) p).chosen =
      gs.foldl (fun chosen g => gather records g chosen) p.chosen := by
  induction gs generalizing p with
  | nil => rfl
  | cons g gs ih =>
    have hg : g ≠ [] := fun h => hne (h ▸ List.mem_cons_self)
    rw [List.flatten_cons, List.foldl_append, List.foldl_cons,
      ← foldl_group records g hg p (hp (List.cons_ne_nil g gs)) (hin g List.mem_cons_self)]
    apply ih
    · intro hgs
      obtain ⟨b, gs, rfl⟩ := List.exists_cons_of_ne_nil hgs
      obtain ⟨_, _, hcon⟩ := (List.isChain_cons_cons.mp hcut).1
      rw [connector_foldl records g hg]
      simpa using hcon
    · exact fun h => hne (List.mem_cons_of_mem g h)
    · exact fun b hb => hin b (List.mem_cons_of_mem g hb)
    · exact hcut.tail

/-- The selection as the groups see it: each chooses from what the one before it has chosen. -/
theorem selectedPositions_eq (clauses : List Clause) :
    selectedPositions records clauses =
      (groups clauses).foldl (fun chosen g => gather records g chosen)
        (List.range records.length) := by
  have hstart : selectedPositions records clauses =
      (clauses.foldl (advance records) ⟨[], List.range records.length, none⟩).chosen := by
    cases clauses with
    | nil => rfl
    | cons c rest => rfl
  rw [hstart]
  conv_lhs => rw [← List.flatten_splitBy (fun c _ => c.connector == some .or) clauses]
  apply foldl_groups
  · intro _
    simp
  · exact List.nil_notMem_splitBy _ _
  · intro g hg
    exact List.isChain_of_mem_splitBy hg
  · refine (List.isChain_getLast_head_splitBy _ clauses).imp ?_
    rintro a b ⟨ha, hb, hcon⟩
    exact ⟨ha, hb, hcon⟩

theorem mem_foldl_gather (gs : List (List Clause)) (candidates : List Nat) (i : Nat) :
    i ∈ gs.foldl (fun chosen g => gather records g chosen) candidates ↔
      i ∈ candidates ∧ ∀ g ∈ gs, ∃ c ∈ g, satisfiesAt records c i = true := by
  induction gs generalizing candidates with
  | nil => simp
  | cons g gs ih =>
    rw [List.foldl_cons, ih, mem_gather, List.forall_mem_cons, and_assoc]

theorem foldl_gather_nodup (gs : List (List Clause)) {candidates : List Nat}
    (h : candidates.Nodup) :
    (gs.foldl (fun chosen g => gather records g chosen) candidates).Nodup := by
  induction gs generalizing candidates with
  | nil => exact h
  | cons g gs ih => exact ih (gather_nodup records g h)

/-! ## The laws -/

theorem satisfiesAt_iff (c : Clause) {i : Nat} (h : i < records.length) :
    satisfiesAt records c i = true ↔ ∀ p ∈ c.predicates, satisfies records[i] p = true := by
  unfold satisfiesAt satisfiesClause
  rw [List.getElem?_eq_getElem h, List.all_eq_true]

theorem mem_selectedPositions (clauses : List Clause) (i : Nat) :
    i ∈ selectedPositions records clauses ↔
      ∃ h : i < records.length, Meets records[i] clauses := by
  rw [selectedPositions_eq, mem_foldl_gather, List.mem_range]
  constructor
  · rintro ⟨hi, h⟩
    refine ⟨hi, fun g hg => ?_⟩
    obtain ⟨c, hc, hs⟩ := h g hg
    exact ⟨c, hc, (satisfiesAt_iff records c hi).mp hs⟩
  · rintro ⟨hi, h⟩
    refine ⟨hi, fun g hg => ?_⟩
    obtain ⟨c, hc, hs⟩ := h g hg
    exact ⟨c, hc, (satisfiesAt_iff records c hi).mpr hs⟩

theorem mem_select (clauses : List Clause) (r : Record) :
    r ∈ select records clauses ↔ r ∈ records ∧ Meets r clauses := by
  unfold select
  rw [List.mem_filterMap]
  constructor
  · rintro ⟨i, hi, hr⟩
    obtain ⟨hlt, hmeets⟩ := (mem_selectedPositions records clauses i).mp hi
    obtain ⟨_, rfl⟩ := List.getElem?_eq_some_iff.mp hr
    exact ⟨List.getElem_mem hlt, hmeets⟩
  · rintro ⟨hr, hmeets⟩
    obtain ⟨i, hlt, rfl⟩ := List.getElem_of_mem hr
    exact ⟨i, (mem_selectedPositions records clauses i).mpr ⟨hlt, hmeets⟩,
      List.getElem?_eq_getElem hlt⟩

/-- The clauses select the positions of the records that meet them, each position once. So a
record stays or goes by what it says itself, wherever it stands and whatever stands beside it. -/
theorem the_selection_is_what_meets_every_group (clauses : List Clause) :
    (∀ i, i ∈ selectedPositions records clauses ↔
      ∃ h : i < records.length, Meets records[i] clauses) ∧
    (selectedPositions records clauses).Nodup ∧
    (∀ i ∈ selectedPositions records clauses, i < records.length) ∧
    ∀ (others : List Record) (i j : Nat) (hi : i < records.length) (hj : j < others.length),
      records[i] = others[j] →
        (i ∈ selectedPositions records clauses ↔ j ∈ selectedPositions others clauses) := by
  refine ⟨mem_selectedPositions records clauses, ?_, ?_, ?_⟩
  · rw [selectedPositions_eq]
    exact foldl_gather_nodup records _ List.nodup_range
  · intro i hi
    exact ((mem_selectedPositions records clauses i).mp hi).1
  · intro others i j hi hj hij
    rw [mem_selectedPositions records, mem_selectedPositions others]
    simp [hi, hj, hij]

end CompanySearch.Query
