-- What laying a source over a tree of settings changes, and what it leaves as it is: two trees
-- that differ in one setting alone still do so after any source that leaves the setting alone.
import CompanySearch.Settings.Tree

namespace CompanySearch.Settings.Tree

/-! ## What stands under a name -/

/-- What stands under a name. -/
def named? (t : Tree) (name : String) : Option Tree := find? name t.entries

/-- What stands under a name, or a hollow place. -/
def child (t : Tree) (name : String) : Tree := (t.named? name).getD .hollow

/-- What stands under a name inside a section. -/
def inside? (t : Tree) (outer inner : String) : Option Tree := (t.child outer).named? inner

theorem find?_cons (n name : String) (value : Tree) (es : List (String × Tree)) :
    find? n ((name, value) :: es) = if name = n then some value else find? n es := by
  by_cases h : name = n <;> simp [find?, h]

theorem find?_setEntry (name n : String) (value : Tree) (es : List (String × Tree)) :
    find? n (setEntry name value es) = if n = name then some value else find? n es := by
  induction es with
  | nil => simp [setEntry, find?, eq_comm (a := n)]
  | cons e rest ih =>
    obtain ⟨m, w⟩ := e
    by_cases hm : m = name
    · subst hm
      by_cases hn : m = n
      · simp [setEntry, find?_cons, hn]
      · simp [setEntry, find?_cons, hn, show n ≠ m from fun h => hn h.symm]
    · rw [setEntry, if_neg hm, find?_cons, find?_cons, ih]
      by_cases hn : m = n
      · simp [hn, show n ≠ name from fun h => hm (hn.trans h)]
      · simp [hn]

@[simp] theorem named?_table_setEntry (name n : String) (value : Tree)
    (es : List (String × Tree)) :
    (table (setEntry name value es)).named? n = if n = name then some value else find? n es :=
  find?_setEntry name n value es

/-- Only a table has something under a name. -/
theorem exists_table_of_named? {t u : Tree} {name : String} (h : t.named? name = some u) :
    ∃ es, t = .table es := by
  cases t with
  | table es => exact ⟨es, rfl⟩
  | _ => simp [named?, entries, find?] at h

/-! ## One change -/

/-- The name that a path changes something under. The last name of a path is taken in small
letters. -/
def changed (name : String) (rest : List Step) : String :=
  if rest = [] then Text.lowercase name else name

/-- A value that is no table takes the place of what was there. -/
theorem overlay_of_ne_table {value : Tree} (hvalue : ∀ es, value ≠ .table es) (t : Tree)
    (name : String) :
    t.overlay name value = .table (setEntry (Text.lowercase name) value t.entries) := by
  cases value with
  | table es => exact absurd rfl (hvalue es)
  | text _ | integer _ | real _ | bool _ | list _ | hollow => simp only [overlay]

/-- Laying over a name puts there what depends on nothing but what was there. -/
theorem exists_overlay (name : String) (value : Tree) :
    ∃ put : Option Tree → Tree, ∀ t : Tree, t.overlay name value =
      .table (setEntry (Text.lowercase name) (put (t.named? (Text.lowercase name))) t.entries) := by
  by_cases hvalue : ∀ es, value ≠ .table es
  · exact ⟨fun _ => value, fun t => overlay_of_ne_table hvalue t name⟩
  · obtain ⟨incoming, rfl⟩ : ∃ es, value = .table es := by simpa using hvalue
    refine ⟨fun there => overlayAll (there.getD empty) incoming, fun t => ?_⟩
    simp [overlay, named?]

/-- Behind a name that is not the last one the change goes on in what stands there. -/
theorem setAt_name {rest : List Step} (hrest : rest ≠ []) (t value : Tree) (name : String) :
    t.setAt value (.name name :: rest) =
      .table (setEntry name ((t.child name).setAt value rest) t.entries) := by
  cases rest with
  | nil => exact absurd rfl hrest
  | cons step rest => simp [setAt, child, named?]

theorem exists_setAt (value : Tree) (name : String) (rest : List Step) :
    ∃ put : Option Tree → Tree, ∀ t : Tree, t.setAt value (.name name :: rest) =
      .table (setEntry (changed name rest) (put (t.named? (changed name rest))) t.entries) := by
  by_cases hrest : rest = []
  · obtain ⟨put, hput⟩ := exists_overlay name value
    exact ⟨put, fun t => by simpa [hrest, changed, setAt] using hput t⟩
  · refine ⟨fun there => (there.getD .hollow).setAt value rest, fun t => ?_⟩
    rw [setAt_name hrest, changed, if_neg hrest]
    rfl

/-- A change under one name leaves what stands under another. -/
theorem named?_setAt_of_ne {name : String} {rest : List Step} {n : String}
    (hne : n ≠ changed name rest) (t value : Tree) :
    (t.setAt value (.name name :: rest)).named? n = t.named? n := by
  obtain ⟨put, hput⟩ := exists_setAt value name rest
  rw [hput, named?_table_setEntry, if_neg hne]
  rfl

/-- A change makes of two trees that are alike off a name two trees that are alike off it,
where that name is not the one under which it changes something. -/
theorem named?_setAt_congr {t u : Tree} {off : String}
    (halike : ∀ n, n ≠ off → t.named? n = u.named? n) {name : String} {rest : List Step}
    (hoff : changed name rest ≠ off) (value : Tree) {n : String} (hn : n ≠ off) :
    (t.setAt value (.name name :: rest)).named? n =
      (u.setAt value (.name name :: rest)).named? n := by
  obtain ⟨put, hput⟩ := exists_setAt value name rest
  have hthere : find? n t.entries = find? n u.entries := halike n hn
  simp only [hput, named?_table_setEntry, halike _ hoff, hthere]

/-! ## Leaving a setting alone -/

/-- Whether a change at a path leaves alone the setting under two names: it is made beside the
setting's section, or in the section under another name. -/
def LeavesAlone (outer inner : String) : List Step → Prop
  | .name n :: .name m :: rest => n ≠ outer ∨ changed m rest ≠ inner
  | .name n :: rest => changed n rest ≠ outer
  | _ => False

/-- Two trees in which all settings but the one under two names are the same. -/
structure AlikeBut (outer inner : String) (t u : Tree) : Prop where
  beside : ∀ n, n ≠ outer → t.named? n = u.named? n
  within : ∀ n, n ≠ inner → t.inside? outer n = u.inside? outer n

variable {outer inner : String} {t u w : Tree}

theorem AlikeBut.symm (h : AlikeBut outer inner t u) : AlikeBut outer inner u t :=
  ⟨fun n hn => (h.beside n hn).symm, fun n hn => (h.within n hn).symm⟩

theorem AlikeBut.trans (h : AlikeBut outer inner t u) (h' : AlikeBut outer inner u w) :
    AlikeBut outer inner t w :=
  ⟨fun n hn => (h.beside n hn).trans (h'.beside n hn),
    fun n hn => (h.within n hn).trans (h'.within n hn)⟩

/-- A path that leaves a setting alone stays out of its section, or goes on in it under a name
that is not the setting's. -/
theorem LeavesAlone.cases {path : List Step} (h : LeavesAlone outer inner path) :
    (∃ n rest, path = .name n :: rest ∧ changed n rest ≠ outer) ∨
    (∃ m rest, path = .name outer :: .name m :: rest ∧ changed m rest ≠ inner) := by
  match path, h with
  | .name n :: .name m :: rest, h =>
    by_cases hn : n = outer
    · exact .inr ⟨m, rest, by rw [hn], h.resolve_left (absurd hn)⟩
    · exact .inl ⟨n, _, rfl, by simpa [changed] using hn⟩
  | [.name n], h => exact .inl ⟨n, _, rfl, h⟩
  | .name n :: .position i :: rest, h => exact .inl ⟨n, _, rfl, h⟩

theorem child_setAt_of_ne {name : String} {rest : List Step} (hne : changed name rest ≠ outer)
    (t value : Tree) : (t.setAt value (.name name :: rest)).child outer = t.child outer := by
  rw [child, named?_setAt_of_ne hne.symm, child]

theorem child_setAt_self {rest : List Step} (hrest : rest ≠ []) (t value : Tree) :
    (t.setAt value (.name outer :: rest)).child outer = (t.child outer).setAt value rest := by
  simp [setAt_name hrest, child]

/-- A change that leaves the setting alone keeps two trees alike in all other settings. -/
theorem AlikeBut.setAt (h : AlikeBut outer inner t u) {path : List Step}
    (hpath : LeavesAlone outer inner path) (value : Tree) :
    AlikeBut outer inner (t.setAt value path) (u.setAt value path) := by
  obtain ⟨n, rest, rfl, hne⟩ | ⟨m, rest, rfl, hne⟩ := hpath.cases
  · refine ⟨fun _ => named?_setAt_congr h.beside hne value, fun m hm => ?_⟩
    simpa only [inside?, child_setAt_of_ne hne] using h.within m hm
  · -- the change is made inside the section, and there it stays off the setting
    have houter : changed outer (.name m :: rest) = outer := by simp [changed]
    refine ⟨fun n hn => ?_, fun n hn => ?_⟩
    · rw [named?_setAt_of_ne (houter.symm ▸ hn), named?_setAt_of_ne (houter.symm ▸ hn),
        h.beside n hn]
    · simpa only [inside?, child_setAt_self (List.cons_ne_nil _ _)] using
        named?_setAt_congr h.within hne value hn

/-- A change that leaves the setting alone keeps its value. -/
theorem inside?_setAt {path : List Step} (hpath : LeavesAlone outer inner path)
    (t value : Tree) : (t.setAt value path).inside? outer inner = t.inside? outer inner := by
  obtain ⟨n, rest, rfl, hne⟩ | ⟨m, rest, rfl, hne⟩ := hpath.cases
  · rw [inside?, child_setAt_of_ne hne, inside?]
  · rw [inside?, child_setAt_self (List.cons_ne_nil _ _), named?_setAt_of_ne hne.symm, inside?]

/-! ## Setting a setting -/

/-- Setting one setting changes no other. -/
theorem alikeBut_setAt (hinner : Text.lowercase inner = inner) (t value : Tree) :
    AlikeBut outer inner t (t.setAt value [.name outer, .name inner]) := by
  have houter : changed outer [.name inner] = outer := by simp [changed]
  refine ⟨fun n hn => ?_, fun n hn => ?_⟩
  · rw [named?_setAt_of_ne (houter.symm ▸ hn)]
  · rw [inside?, inside?, child_setAt_self (List.cons_ne_nil _ _),
      named?_setAt_of_ne (by simpa [changed, hinner] using hn)]

/-- Afterwards the setting has the value that it was set to. -/
theorem inside?_setAt_self (hinner : Text.lowercase inner = inner) {value : Tree}
    (hvalue : ∀ es, value ≠ .table es) (t : Tree) :
    (t.setAt value [.name outer, .name inner]).inside? outer inner = some value := by
  rw [inside?, child_setAt_self (List.cons_ne_nil _ _)]
  simp [Tree.setAt, overlay_of_ne_table hvalue, hinner]

/-! ## Laying a source over a tree -/

theorem exists_pathOf (key : String) : ∃ n rest, pathOf key = .name n :: rest := by
  simp only [pathOf]
  split
  · exact ⟨_, _, rfl⟩
  · exact ⟨_, _, rfl⟩

theorem lay_append (t : Tree) (first second : List (String × Tree)) :
    t.lay (first ++ second) = (t.lay first).lay second :=
  List.foldl_append

theorem lay_cons (t value : Tree) (key : String) (source : List (String × Tree)) :
    t.lay ((key, value) :: source) = (t.setAt value (pathOf key)).lay source :=
  rfl

/-- Whatever is laid over a table, it stays one. -/
theorem exists_table_lay (es : List (String × Tree)) (source : List (String × Tree)) :
    ∃ es', (Tree.table es).lay source = .table es' := by
  induction source generalizing es with
  | nil => exact ⟨es, rfl⟩
  | cons p source ih =>
    obtain ⟨n, rest, hpath⟩ := exists_pathOf p.1
    obtain ⟨put, hput⟩ := exists_setAt p.2 n rest
    rw [lay_cons, hpath, hput]
    exact ih _

/-- Whether all settings of a source leave one alone. -/
def AllLeaveAlone (outer inner : String) (source : List (String × Tree)) : Prop :=
  ∀ p ∈ source, LeavesAlone outer inner (pathOf p.1)

/-- A source that leaves the setting alone keeps two trees alike in all others. -/
theorem AlikeBut.lay (h : AlikeBut outer inner t u) {source : List (String × Tree)}
    (hsource : AllLeaveAlone outer inner source) :
    AlikeBut outer inner (t.lay source) (u.lay source) := by
  induction source generalizing t u with
  | nil => exact h
  | cons p source ih =>
    obtain ⟨hp, hrest⟩ := List.forall_mem_cons.1 hsource
    exact ih (h.setAt hp p.2) hrest

/-- A source that leaves the setting alone keeps its value. -/
theorem inside?_lay {source : List (String × Tree)}
    (hsource : AllLeaveAlone outer inner source) (t : Tree) :
    (t.lay source).inside? outer inner = t.inside? outer inner := by
  induction source generalizing t with
  | nil => rfl
  | cons p source ih =>
    obtain ⟨hp, hrest⟩ := List.forall_mem_cons.1 hsource
    rw [lay_cons, ih hrest, inside?_setAt hp]

end CompanySearch.Settings.Tree
