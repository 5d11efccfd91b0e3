-- What is under way while a call refreshes. There is no valid entry then, and the fetch that is
-- under way is newer than any entry, expired or not, that is still in place.
import CompanySearch.Proofs.Cache.SingleFlight

namespace CompanySearch.Cache

/-- The number of the fetch that is under way while a call is in this phase. -/
def Phase.underWay? : Phase → Option Nat
  | .fetching fetch _ _ => some fetch
  | .installing e _ => some e.snapshot.fetch
  | .starting | .queued | .rechecking | .finished _ _ => none

theorem Phase.refreshes_of_underWay {p : Phase} {n : Nat} (h : p.underWay? = some n) :
    p.refreshes = true := by
  cases p <;> simp_all [underWay?, refreshes]

namespace State

structure Refreshing (s : State) : Prop where
  sound : s.Sound
  invalid : ∀ (i : Nat) (c : Call), s.calls[i]? = some c → c.phase.refreshes = true →
    s.validEntry = none
  newer : ∀ (i : Nat) (c : Call) n e, s.calls[i]? = some c → c.phase.underWay? = some n →
    s.entry = some e → e.snapshot.fetch < n

section move

variable {s s' : State} {i : Nat} {c : Call} {p : Phase} (h : Move s i c p s')
include h

/-- A call that goes on refreshing leaves the entry alone, and has done so without a valid one. -/
theorem Move.refreshes_cases (hp : p.refreshes = true) :
    s'.entry = s.entry ∧ (c.phase.refreshes = true ∨ s.validEntry = none) := by
  cases h <;> simp_all [Phase.refreshes]

/-- What is under way after a move has been so before, or is the next fetch. -/
theorem Move.underWay_cases {n : Nat} (hp : p.underWay? = some n) :
    s'.entry = s.entry ∧ (c.phase.underWay? = some n ∨ n = s.store.fetches + 1) := by
  cases h <;> simp_all [Phase.underWay?]

/-- A move of a call that does not refresh puts nothing in place. -/
theorem Move.entry_of_not_refreshes (hc : c.phase.refreshes = false) {e : Entry}
    (he : s'.entry = some e) : s.entry = some e := by
  rcases h.entry_cases he with hold | ⟨took, hphase⟩
  · exact hold
  · simp [hphase, Phase.refreshes] at hc

/-- Without a valid entry there is none after a move that puts nothing in place. -/
theorem Move.validEntry_none (hc : s.calls[i]? = some c) (hnone : s.validEntry = none)
    (hentry : ∀ e, s'.entry = some e → s.entry = some e) : s'.validEntry = none := by
  rw [Option.eq_none_iff_forall_not_mem] at hnone ⊢
  intro e he
  obtain ⟨hin, hvalid⟩ := validEntry_eq_some.mp he
  exact hnone e (validEntry_eq_some.mpr ⟨hentry e hin, (h.precedes hc).isValid hvalid⟩)

theorem Refreshing.move (r : s.Refreshing) (hc : s.calls[i]? = some c) : s'.Refreshing := by
  -- While another call refreshes, the one that moves does not hold the lock.
  have hother {j : Nat} {d : Call} (hj : j ≠ i) (hd : s.calls[j]? = some d)
      (hdr : d.phase.refreshes = true) : c.phase.refreshes = false := by
    by_contra hcr
    exact hj (r.sound.one_holder hd hc (Phase.holds_of_refreshes hdr)
      (Phase.holds_of_refreshes (by simpa using hcr)))
  refine ⟨r.sound.move h hc, ?_, ?_⟩
  · intro j d hd hdr
    rcases h.calls_cases hc hd with ⟨rfl, rfl⟩ | ⟨hj, hold⟩
    · obtain ⟨hentry, hcases⟩ := h.refreshes_cases hdr
      refine h.validEntry_none hc ?_ (fun e he => hentry ▸ he)
      exact hcases.elim (r.invalid j c hc) id
    · exact h.validEntry_none hc (r.invalid j d hold hdr)
        (fun e => h.entry_of_not_refreshes (hother hj hold hdr))
  · intro j d n e hd hn he
    rcases h.calls_cases hc hd with ⟨rfl, rfl⟩ | ⟨hj, hold⟩
    · obtain ⟨hentry, hbefore | rfl⟩ := h.underWay_cases hn
      · exact r.newer j c n e hc hbefore (hentry ▸ he)
      · exact Nat.lt_succ_of_le (r.sound.entry_known e (hentry ▸ he)).1
    · exact r.newer j d n e hold hn
        (h.entry_of_not_refreshes (hother hj hold (Phase.refreshes_of_underWay hn)) he)

end move

theorem Refreshing.act {s s' : State} {a : Action} (r : s.Refreshing) (h : s.act a = some s') :
    s'.Refreshing := by
  have sound' := r.sound.act h
  have hpre := r.sound.precedes h
  cases a with
  | resume i =>
    obtain ⟨c, p, hc, hm⟩ := exists_move r.sound.guard_free h
    exact r.move hm hc
  | begin kind =>
    cases h
    refine ⟨sound', ?_, ?_⟩
    · intro j d hd hdr
      rcases begin_calls hd with hold | ⟨-, rfl⟩
      · exact r.invalid j d hold hdr
      · contradiction
    · intro j d n e hd hn he
      rcases begin_calls hd with hold | ⟨-, rfl⟩
      · exact r.newer j d n e hold hn he
      · contradiction
  | elapse time =>
    cases h
    refine ⟨sound', ?_, r.newer⟩
    intro j d hd hdr
    have hnone := r.invalid j d hd hdr
    rw [Option.eq_none_iff_forall_not_mem] at hnone ⊢
    exact fun e he => hnone e (hpre.validEntry rfl he)
  | changeStore change =>
    cases h
    exact ⟨sound', r.invalid, r.newer⟩

theorem Reachable.refreshing {s : State} (h : s.Reachable) : s.Refreshing := by
  obtain ⟨store, ttl, actions, hrun⟩ := h
  refine run_keeps Refreshing.act ⟨start_sound store ttl, ?_, ?_⟩ hrun
  · simp [start]
  · simp [start]

end State

end CompanySearch.Cache
