-- In what order the selection lists its positions. What the last group of clauses says of a record
-- counts most, then what the group before it says, and so on; the position itself counts last.
import CompanySearch.Proofs.Selection

namespace CompanySearch.Query

variable (records : List Record)

/-! ## Where a position stands -/

/-- The place in a group of the first clause that the record at a position satisfies. -/
def firstMet (g : List Clause) (i : Nat) : Nat := g.findIdx fun c => satisfiesAt records c i

/-- What a position is listed by: the first clause met in each group, the last group in front, and
the position itself behind them. -/
def standing (clauses : List Clause) (i : Nat) : List Nat :=
  (groups clauses).reverse.map (fun g => firstMet records g i) ++ [i]

theorem firstMet_of_met {c : Clause} {i : Nat} (h : satisfiesAt records c i = true)
    (rest : List Clause) : firstMet records (c :: rest) i = 0 := by
  simp [firstMet, List.findIdx_cons, h]

theorem firstMet_of_not_met {c : Clause} {i : Nat} (h : satisfiesAt records c i = false)
    (rest : List Clause) : firstMet records (c :: rest) i = firstMet records rest i + 1 := by
  simp [firstMet, List.findIdx_cons, h]

/-! ## The order that the groups make -/

/-- A group puts the clause that it meets in front of the order that the candidates had. -/
theorem gather_in_order (g : List Clause) {place : Nat → List Nat} {candidates : List Nat}
    (h : candidates.Pairwise fun i j => (place i).Lex (· < ·) (place j)) :
    (gather records g candidates).Pairwise fun i j =>
      (firstMet records g i :: place i).Lex (· < ·) (firstMet records g j :: place j) := by
  induction g generalizing candidates with
  | nil => exact List.Pairwise.nil
  | cons c rest ih =>
    have hchosen {i : Nat} (hi : i ∈ choose records candidates c) :
        firstMet records (c :: rest) i = 0 :=
      firstMet_of_met records ((mem_choose records candidates c i).mp hi).2 rest
    have hleft {i : Nat}
        (hi : i ∈ gather records rest (candidates.filter fun i => !satisfiesAt records c i)) :
        firstMet records (c :: rest) i = firstMet records rest i + 1 := by
      rw [mem_gather, List.mem_filter] at hi
      exact firstMet_of_not_met records (by simpa using hi.1.2) rest
    unfold gather
    refine List.pairwise_append.mpr ⟨?_, ?_, ?_⟩
    · apply (h.filter _).imp_of_mem
      intro i j hi hj hij
      rw [hchosen hi, hchosen hj]
      exact .cons hij
    · apply (ih (h.filter _)).imp_of_mem
      intro i j hi hj hij
      rw [hleft hi, hleft hj]
      rw [List.cons_lex_cons_iff] at hij ⊢
      simpa using hij
    · intro i hi j hj
      rw [hchosen hi, hleft hj]
      exact .rel (Nat.succ_pos _)

theorem foldl_gather_in_order (gs : List (List Clause)) {place : Nat → List Nat}
    {candidates : List Nat}
    (h : candidates.Pairwise fun i j => (place i).Lex (· < ·) (place j)) :
    (gs.foldl (fun chosen g => gather records g chosen) candidates).Pairwise fun i j =>
      (gs.reverse.map (fun g => firstMet records g i) ++ place i).Lex (· < ·)
        (gs.reverse.map (fun g => firstMet records g j) ++ place j) := by
  induction gs generalizing place candidates with
  | nil => simpa using h
  | cons g gs ih =>
    have hrest := ih (gather_in_order records g h)
    simpa using hrest

/-! ## Clauses that no `or` joins -/

/-- A group of two clauses has an `or` behind its first one, which is not the last of all. -/
theorem groups_short {clauses : List Clause}
    (h : ∀ c ∈ clauses.dropLast, c.connector ≠ some .or) {g : List Clause}
    (hg : g ∈ groups clauses) : g.length ≤ 1 := by
  match g, hg with
  | [], _ => simp
  | [c], _ => simp
  | c :: d :: rest, hg =>
    exfalso
    obtain ⟨front, back, hcut⟩ := List.infix_of_mem_flatten hg
    have hclauses : clauses = (front ++ [c]) ++ (d :: rest ++ back) := by
      rw [← List.flatten_splitBy (fun c _ => c.connector == some .or) clauses]
      unfold groups at hcut
      simp [← hcut]
    have hc : c ∈ clauses.dropLast := by
      rw [hclauses, List.dropLast_append_of_ne_nil (by simp)]
      simp
    have hgoesOn : GoesOn c d := (List.isChain_cons_cons.mp (List.isChain_of_mem_splitBy hg)).1
    exact h c hc (by simpa [GoesOn] using hgoesOn)

theorem gather_sublist {g : List Clause} (h : g.length ≤ 1) (candidates : List Nat) :
    (gather records g candidates).Sublist candidates := by
  match g, h with
  | [], _ => exact List.nil_sublist _
  | [c], _ =>
    simp only [gather, List.append_nil]
    exact List.filter_sublist

theorem foldl_gather_sublist {gs : List (List Clause)} (h : ∀ g ∈ gs, g.length ≤ 1)
    (candidates : List Nat) :
    (gs.foldl (fun chosen g => gather records g chosen) candidates).Sublist candidates := by
  induction gs generalizing candidates with
  | nil => exact List.Sublist.refl _
  | cons g gs ih =>
    rw [List.foldl_cons]
    exact (ih (fun g hg => h g (List.mem_cons_of_mem _ hg)) _).trans
      (gather_sublist records (h g List.mem_cons_self) candidates)

/-! ## The law -/

/-- The selection lists the positions of the records that meet the clauses by the first clause met
in each group, the last group counting most, and by themselves where that is the same. Without an
`or` they keep the order of the records. -/
theorem the_selection_is_in_the_order_of_first_clauses (clauses : List Clause) :
    (∀ i, i ∈ selectedPositions records clauses ↔
      ∃ h : i < records.length, Meets records[i] clauses) ∧
    (selectedPositions records clauses).Pairwise (fun i j =>
      (standing records clauses i).Lex (· < ·) (standing records clauses j)) ∧
    ((∀ c ∈ clauses.dropLast, c.connector ≠ some .or) →
      (selectedPositions records clauses).Pairwise (· < ·)) := by
  have hrange := List.pairwise_lt_range (n := records.length)
  refine ⟨mem_selectedPositions records clauses, ?_, ?_⟩
  · rw [selectedPositions_eq]
    apply foldl_gather_in_order
    exact hrange.imp fun hij => .rel hij
  · intro h
    rw [selectedPositions_eq]
    exact hrange.sublist
      (foldl_gather_sublist records (fun g hg => groups_short h hg) _)

/-- What the first clause of a group holds of is listed first, wherever it stands. -/
example : selectedPositions [⟨[("k", .text "b")]⟩, ⟨[("k", .text "a")]⟩]
    [⟨[⟨"k", .colon, "a"⟩], some .or⟩, ⟨[⟨"k", .colon, "b"⟩], none⟩] = [1, 0] := by
  decide +kernel

end CompanySearch.Query
