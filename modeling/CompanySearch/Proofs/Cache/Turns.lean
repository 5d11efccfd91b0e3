-- Turns of calls. In one turn a call takes all the steps that it can take on end, until it has
-- finished or has to wait. The others stay as they are meanwhile.
import CompanySearch.Proofs.Cache.Progress

namespace CompanySearch.Cache.State

section move

variable {s s' : State} {i : Nat} {c : Call} {p : Phase} (h : Move s i c p s')
include h

theorem Move.ne_starting : p ≠ .starting := by
  cases h <;> simp

theorem Move.of_invalidated {time : Nat} (hp : p = .finished .invalidated time) :
    c.phase = .starting ∧ c.kind = .invalidate := by
  cases h <;> simp_all

end move

/-- The moves that a call makes on end, with the phase and the state that they lead to. -/
inductive Turn (i : Nat) : State → Call → Phase → State → Prop
  | stop (s : State) (c : Call) : Turn i s c c.phase s
  | go {s m t : State} {c : Call} {p q : Phase} (move : Move s i c p m)
      (rest : Turn i m { c with phase := p } q t) : Turn i s c q t

section turn

variable {s t : State} {i : Nat} {c : Call} {p : Phase} (h : Turn i s c p t)
include h

theorem Turn.now_eq : t.now = s.now := by
  induction h with
  | stop s c => rfl
  | go move rest ih => exact ih.trans move.now_eq

theorem Turn.length_eq : t.calls.length = s.calls.length := by
  induction h with
  | stop s c => rfl
  | go move rest ih => rw [ih, move.calls_eq, List.length_modify]

theorem Turn.other {j : Nat} (hj : j ≠ i) : t.calls[j]? = s.calls[j]? := by
  induction h with
  | stop s c => rfl
  | go move rest ih => exact ih.trans (move.other hj)

theorem Turn.self (hc : s.calls[i]? = some c) : t.calls[i]? = some { c with phase := p } := by
  induction h with
  | stop s c => exact hc
  | go move rest ih => exact ih (move.self hc)

theorem Turn.sound (sound : s.Sound) (hc : s.calls[i]? = some c) : t.Sound := by
  induction h with
  | stop s c => exact sound
  | go move rest ih => exact ih (sound.move move hc) (move.self hc)

theorem Turn.lock_of_ne {j : Nat} (hj : j ≠ i) (hl : t.refreshLock = some j) :
    s.refreshLock = some j := by
  induction h with
  | stop s c => exact hl
  | go move rest ih => exact move.lock_of_ne hj (ih hl)

theorem Turn.rank_le : p.rank ≤ c.phase.rank := by
  induction h with
  | stop s c => exact Nat.le_refl _
  | go move rest ih => exact Nat.le_trans ih (Nat.le_of_lt move.rank_lt)

/-- A turn in which something happens brings the call forward. -/
theorem Turn.rank_lt (canGoOn : s.CanGoOn i) (stuck : t.resume i = none) :
    p.rank < c.phase.rank := by
  cases h with
  | stop =>
    obtain ⟨m, hm⟩ := canGoOn
    rw [stuck] at hm
    contradiction
  | go move rest => exact Nat.lt_of_le_of_lt rest.rank_le move.rank_lt

/-- Only a call that is to drop the entry does so, and from its start. -/
theorem Turn.of_invalidated {time : Nat} (hp : p = .finished .invalidated time) :
    c.phase = .finished .invalidated time ∨ (c.phase = .starting ∧ c.kind = .invalidate) := by
  induction h with
  | stop s c => exact .inl hp
  | go move rest ih =>
    right
    rcases ih hp with hdropped | ⟨hstarting, -⟩
    · exact move.of_invalidated hdropped
    · exact absurd hstarting move.ne_starting

end turn

theorem rank_le_phases (p : Phase) : p.rank ≤ phases := by
  cases p <;> simp [Phase.rank, phases]

/-- A call that is left alone comes to the end of its turn in as many steps as its phase allows. -/
theorem Sound.proceed_turn {s : State} {i : Nat} {c : Call} {fuel : Nat} (sound : s.Sound)
    (hc : s.calls[i]? = some c) (enough : c.phase.rank ≤ fuel) :
    ∃ p, Turn i s c p (proceed i fuel s) ∧ (proceed i fuel s).resume i = none := by
  induction fuel generalizing s c with
  | zero =>
    refine ⟨_, .stop s c, ?_⟩
    by_contra hgoes
    obtain ⟨m, hm⟩ := Option.ne_none_iff_exists'.mp hgoes
    obtain ⟨d, p, hd, move⟩ := exists_move sound.guard_free hm
    rw [hc] at hd
    cases hd
    exact Nat.not_lt_zero _ (Nat.lt_of_lt_of_le move.rank_lt enough)
  | succ fuel ih =>
    unfold proceed
    split
    · rename_i m hm
      obtain ⟨d, p, hd, move⟩ := exists_move sound.guard_free hm
      rw [hc] at hd
      cases hd
      have hrank : p.rank ≤ fuel := Nat.le_of_lt_succ (Nat.lt_of_lt_of_le move.rank_lt enough)
      obtain ⟨q, turn, stuck⟩ := ih (sound.move move hc) (move.self hc) hrank
      exact ⟨q, .go move turn, stuck⟩
    · exact ⟨_, .stop s c, ‹_›⟩

/-- A call that can take no step has finished, or waits for the refresh lock or for the store. -/
theorem Sound.stuck_cases {s : State} {i : Nat} {c : Call} (sound : s.Sound)
    (hc : s.calls[i]? = some c) (stuck : s.resume i = none) :
    (∃ o time, c.phase = .finished o time) ∨ c.phase = .queued ∨
      ∃ fetch startedAt due, c.phase = .fetching fetch startedAt due := by
  have stays : ¬ s.CanGoOn i := by
    rintro ⟨m, hm⟩
    rw [stuck] at hm
    contradiction
  cases hp : c.phase with
  | starting => exact absurd (sound.starting_canGoOn hc hp) stays
  | queued => exact .inr (.inl rfl)
  | rechecking => exact absurd (sound.holder_canGoOn hc (by rw [hp]; rfl) (by simp [hp])) stays
  | fetching fetch startedAt due => exact .inr (.inr ⟨fetch, startedAt, due, rfl⟩)
  | installing e took => exact absurd (sound.canGoOn_of_move hc (.install e took hp)) stays
  | finished o time => exact .inl ⟨o, time, rfl⟩

end CompanySearch.Cache.State
