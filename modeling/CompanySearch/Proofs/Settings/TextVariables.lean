-- Texts among the settings that a variable gives. A variable's value is first taken for a flag or
-- a number and then turned back into text, so a text is taken literally exactly if it is the
-- text of what it is taken for.
import CompanySearch.Proofs.Settings.TextSetting
import CompanySearch.Settings.Load

namespace CompanySearch.Settings

open CompanySearch.Number CompanySearch.Settings.Tree

/-! ## What a value becomes -/

/-- What the value of a text setting is taken for. -/
def taken (value : String) : Tree := variableValue "" value

/-- The text that a text setting has from a variable's value. -/
def shown (value : String) : String := ((taken value).text?).getD value

/-- A text that is no flag or number, or is the one that its flag or number is shown as: `true`
and `false` in small letters, an integer with no plus sign and no digits that could be left out,
a float in its shortest text. -/
structure IsItsOwnText (value : String) : Prop where
  flag : ∀ b : Bool, Text.lowercase value = toString b → value = toString b
  integer : ∀ n : Int, integerText? value = some n → value = toString n
  float : ∀ x : Binary64, integerText? value = none → readFloat value.toList = some x →
    value = x.plainText

theorem variableValue_of_ne {key : String} (hkey : key ≠ listKey) (value : String) :
    variableValue key value = taken value := by
  have hempty : "" ≠ listKey := by decide
  simp only [taken, variableValue, if_neg hkey, if_neg hempty]

/-- The ways in which a value can be taken: each is tried where those before it do not apply. -/
theorem taken_cases (value : String) :
    (∃ b : Bool, Text.lowercase value = toString b ∧ taken value = .bool b) ∨
    (∀ b : Bool, Text.lowercase value ≠ toString b) ∧
      ((∃ n, integerText? value = some n ∧ taken value = .integer n) ∨
      integerText? value = none ∧
        ((∃ x, readFloat value.toList = some x ∧ taken value = .real x) ∨
        readFloat value.toList = none ∧ taken value = .text value)) := by
  have hempty : "" ≠ listKey := by decide
  rw [taken, variableValue]
  by_cases htrue : Text.lowercase value = "true"
  · exact .inl ⟨true, htrue, if_pos htrue⟩
  by_cases hfalse : Text.lowercase value = "false"
  · exact .inl ⟨false, hfalse, by rw [if_neg htrue, if_pos hfalse]⟩
  refine .inr ⟨fun | true => htrue | false => hfalse, ?_⟩
  rw [if_neg htrue, if_neg hfalse]
  cases integerText? value with
  | some n => exact .inl ⟨n, rfl, rfl⟩
  | none =>
    cases readFloat value.toList with
    | some x => exact .inr ⟨rfl, .inl ⟨x, rfl, rfl⟩⟩
    | none => exact .inr ⟨rfl, .inr ⟨rfl, if_neg hempty⟩⟩

theorem taken_ne_table (value : String) (es : List (String × Tree)) :
    taken value ≠ .table es := by
  obtain ⟨b, -, h⟩ | ⟨-, ⟨n, -, h⟩ | ⟨-, ⟨x, -, h⟩ | ⟨-, h⟩⟩⟩ := taken_cases value <;> simp [h]

/-- Whatever a value is taken for, it has a text. -/
theorem text?_taken (value : String) : (taken value).text? = some (shown value) := by
  rw [shown]
  obtain ⟨b, -, h⟩ | ⟨-, ⟨n, -, h⟩ | ⟨-, ⟨x, -, h⟩ | ⟨-, h⟩⟩⟩ := taken_cases value <;>
    rw [h] <;> rfl

theorem shown_of_taken {value text : String} (h : (taken value).text? = some text) :
    shown value = text := by
  rw [shown, h, Option.getD_some]

theorem IsItsOwnText.of_bool (b : Bool) : IsItsOwnText (toString b) where
  flag c h := by cases b <;> cases c <;> revert h <;> decide
  integer n h := by cases b <;> cases h
  float x _ h := by cases b <;> cases h

/-- A text stays as it is exactly if it is the text of what it is taken for. -/
theorem shown_eq_self_iff (value : String) : shown value = value ↔ IsItsOwnText value := by
  -- of the three conditions, the one for the way in which the value is taken decides; those for
  -- the other ways are void
  obtain ⟨b, hb, h⟩ | ⟨hflag, ⟨n, hn, h⟩ | ⟨hn, ⟨x, hx, h⟩ | ⟨hx, h⟩⟩⟩ := taken_cases value
  · have hshown : shown value = toString b := shown_of_taken (by rw [h]; rfl)
    rw [hshown]
    exact ⟨fun hvalue => hvalue ▸ .of_bool b, fun hown => (hown.flag b hb).symm⟩
  · have hshown : shown value = toString n := shown_of_taken (by rw [h]; rfl)
    rw [hshown]
    refine ⟨fun hvalue => ⟨fun b hb => absurd hb (hflag b), fun m hm => ?_, fun x hnone => ?_⟩,
      fun hown => (hown.integer n hn).symm⟩
    · rw [← hvalue, Option.some.inj (hn.symm.trans hm)]
    · exact absurd (hn.symm.trans hnone) (Option.some_ne_none n)
  · have hshown : shown value = x.plainText := shown_of_taken (by rw [h]; rfl)
    rw [hshown]
    refine ⟨fun hvalue => ⟨fun b hb => absurd hb (hflag b), fun m hm => ?_, fun y _ hy => ?_⟩,
      fun hown => (hown.float x hn hx).symm⟩
    · exact absurd (hm.symm.trans hn) (Option.some_ne_none m)
    · rw [← hvalue, Option.some.inj (hx.symm.trans hy)]
  · have hshown : shown value = value := shown_of_taken (by rw [h]; rfl)
    refine iff_of_true hshown
      ⟨fun b hb => absurd hb (hflag b), fun m hm => ?_, fun y _ hy => ?_⟩
    · exact absurd (hm.symm.trans hn) (Option.some_ne_none m)
    · exact absurd (hy.symm.trans hx) (Option.some_ne_none y)

example : shown "+1.50e1" = "15" := by decide

/-! ## Variables -/

/-- The variable that gives a text setting. -/
def TextSetting.variableName : TextSetting → String
  | .host => "TALLY__SERVER__HOST"
  | .url => "TALLY__DATABASE__URL"
  | .level => "TALLY__LOGGING__LEVEL"
  | .fileDirectory => "TALLY__LOGGING__FILE_DIRECTORY"
  | .filePrefix => "TALLY__LOGGING__FILE_PREFIX"
  | .fileRotation => "TALLY__LOGGING__FILE_ROTATION"
  | .serviceName => "TALLY__LOGGING__SERVICE_NAME"
  | .deploymentEnvironment => "TALLY__LOGGING__DEPLOYMENT_ENVIRONMENT"

/-- The key of a text setting, with its section. -/
def TextSetting.key (k : TextSetting) : String := k.outer ++ "." ++ k.inner

theorem TextSetting.lowercase_inner (k : TextSetting) : Text.lowercase k.inner = k.inner := by
  cases k <;> decide +kernel

theorem TextSetting.pathOf_key (k : TextSetting) :
    pathOf k.key = [.name k.outer, .name k.inner] := by
  cases k <;> decide +kernel

theorem TextSetting.key_ne_listKey (k : TextSetting) : k.key ≠ listKey := by
  cases k <;> decide +kernel

theorem TextSetting.lowercase_variableName (k : TextSetting) :
    Text.lowercase k.variableName = "tally__" ++ k.outer ++ "__" ++ k.inner := by
  cases k <;> decide +kernel

theorem TextSetting.settingOf?_variableName (k : TextSetting) (value : String) :
    settingOf? k.variableName value = some (k.key, taken value) := by
  have hstart : variableStart.isPrefixOf
      ("tally__" ++ k.outer ++ "__" ++ k.inner).toList = true := by
    cases k <;> decide +kernel
  have hkey : String.ofList (pointed (("tally__" ++ k.outer ++ "__" ++ k.inner).toList.drop
      variableStart.length)) = k.key := by
    cases k <;> decide +kernel
  simp only [settingOf?, k.lowercase_variableName, if_pos hstart, hkey,
    variableValue_of_ne k.key_ne_listKey]

/-- An environment with a text setting's variable between others. -/
def TextSetting.among (k : TextSetting) (value : String) (before after : Variables) : Variables :=
  before ++ (k.variableName, value) :: after

/-- Whether variables leave a text setting and its section to others: none of them names the
setting or something inside it, and none gives the section as a whole. -/
def TextSetting.LeftBy (k : TextSetting) (vars : Variables) : Prop :=
  AllLeaveAlone k.outer k.inner vars.settings

theorem settings_append (before after : Variables) :
    Variables.settings (before ++ after) = before.settings ++ after.settings :=
  List.filterMap_append

theorem TextSetting.settings_among (k : TextSetting) (value : String)
    (before after : Variables) : (k.among value before after).settings =
      before.settings ++ (k.key, taken value) :: after.settings := by
  have hvariable := k.settingOf?_variableName value
  rw [among, settings_append]
  exact congrArg (before.settings ++ ·)
    (List.filterMap_cons_some (f := fun p : String × String => settingOf? p.1 p.2) hvariable)

/-! ## The tree that settings are read from -/

/-- The tree of the entries of a file and of an environment. -/
def treeOf (entries : List (String × Tree)) (vars : Variables) : Tree :=
  (Tree.empty.lay entries).lay vars.settings

theorem exists_table_treeOf (entries : List (String × Tree)) (vars : Variables) :
    ∃ es, treeOf entries vars = .table es := by
  obtain ⟨es, hes⟩ := exists_table_lay [] entries
  rw [treeOf, Tree.empty, hes]
  exact exists_table_lay es _

section

variable {k : TextSetting} {before after : Variables} {entries : List (String × Tree)}

theorem treeOf_among (value : String) : treeOf entries (k.among value before after) =
    ((treeOf entries before).setAt (taken value) [.name k.outer, .name k.inner]).lay
      after.settings := by
  rw [treeOf, k.settings_among, lay_append, lay_cons, k.pathOf_key, treeOf]

theorem treeOf_without : treeOf entries (before ++ after) =
    (treeOf entries before).lay after.settings := by
  rw [treeOf, settings_append, lay_append, treeOf]

theorem inside?_among (hafter : k.LeftBy after) (value : String) :
    (treeOf entries (k.among value before after)).inside? k.outer k.inner =
      some (taken value) := by
  rw [treeOf_among, inside?_lay hafter,
    inside?_setAt_self k.lowercase_inner (taken_ne_table value)]

/-- The tree with the variable differs from the one without it in the setting alone. -/
theorem textReplaced_without (hafter : k.LeftBy after) (value : String) :
    TextReplaced k (shown value) (treeOf entries (before ++ after))
      (treeOf entries (k.among value before after)) where
  table := exists_table_treeOf _ _
  alike := by
    rw [treeOf_among, treeOf_without]
    exact (alikeBut_setAt k.lowercase_inner _ _).lay hafter
  text := ⟨taken value, inside?_among hafter value, text?_taken value⟩

/-- Trees with two values of the variable differ in the setting alone. -/
theorem textReplaced_among (hafter : k.LeftBy after) (value other : String) :
    TextReplaced k (shown value) (treeOf entries (k.among other before after))
      (treeOf entries (k.among value before after)) where
  table := exists_table_treeOf _ _
  alike := (textReplaced_without hafter other).alike.symm.trans
    (textReplaced_without hafter value).alike
  text := (textReplaced_without hafter value).text

end

/-! ## Loading -/

theorem loadFrom_eq_ok_iff {files : Directory} {vars : Variables} {path : String}
    {s : Settings} : loadFrom files vars path = .ok s ↔
      ∃ entries, Toml.readFile? (files.settingsText path) = some entries ∧
        ofTree? (treeOf entries vars) = some s := by
  rw [loadFrom, fromText]
  cases Toml.readFile? (files.settingsText path) with
  | none => simp
  | some entries =>
    simp only [Option.some.injEq, exists_eq_left', treeOf]
    cases ofTree? ((Tree.empty.lay entries).lay vars.settings) <;> simp

theorem fault_of_loadFrom {files : Directory} {vars : Variables} {path : String}
    {fault : LoadFault} (h : loadFrom files vars path = .error fault) :
    fault = if (Toml.readFile? (files.settingsText path)).isNone then .malformed path
      else .wrongKind := by
  rw [loadFrom, fromText] at h
  cases hread : Toml.readFile? (files.settingsText path) with
  | none => simpa [hread, eq_comm] using h
  | some entries =>
    simp only [hread] at h
    split at h
    · cases h
    · exact (Except.error.inj h).symm

/-- The file and the environment give the section of a text as a list of its settings. -/
def TextSetting.IsListed (k : TextSetting) (files : Directory) (vars : Variables)
    (path : String) : Prop :=
  ∃ entries items, Toml.readFile? (files.settingsText path) = some entries ∧
    (treeOf entries vars).named? k.outer = some (.list items)

section

variable {k : TextSetting} {files : Directory} {path : String} {before after : Variables}
  {s : Settings}

/-- The variable changes no setting but its own. -/
theorem load_among (hafter : k.LeftBy after) (hlist : ¬ k.IsListed files (before ++ after) path)
    (h : loadFrom files (before ++ after) path = .ok s) (value : String) :
    loadFrom files (k.among value before after) path = .ok (k.set (shown value) s) := by
  obtain ⟨entries, hentries, hs⟩ := loadFrom_eq_ok_iff.1 h
  refine loadFrom_eq_ok_iff.2 ⟨entries, hentries, ?_⟩
  exact (textReplaced_without hafter value).read hs
    fun items hitems => hlist ⟨entries, items, hentries, hitems⟩

/-- Over a section that is a list, the variable sends the section's other settings back to their
defaults. -/
theorem load_among_listed (hafter : k.LeftBy after)
    (hlist : k.IsListed files (before ++ after) path)
    (h : loadFrom files (before ++ after) path = .ok s) (value : String) :
    loadFrom files (k.among value before after) path =
      .ok (k.set (shown value) (k.reset s)) := by
  obtain ⟨entries, hentries, hs⟩ := loadFrom_eq_ok_iff.1 h
  obtain ⟨entries', items, hentries', hitems⟩ := hlist
  obtain rfl : entries = entries' := Option.some.inj (hentries.symm.trans hentries')
  exact loadFrom_eq_ok_iff.2
    ⟨entries, hentries, (textReplaced_without hafter value).read_of_list hs hitems⟩

/-- One value of the variable instead of another changes no setting but its own. -/
theorem load_among_of_among (hafter : k.LeftBy after) {other : String}
    (h : loadFrom files (k.among other before after) path = .ok s) (value : String) :
    loadFrom files (k.among value before after) path = .ok (k.set (shown value) s) := by
  obtain ⟨entries, hentries, hs⟩ := loadFrom_eq_ok_iff.1 h
  refine loadFrom_eq_ok_iff.2 ⟨entries, hentries, ?_⟩
  refine (textReplaced_among hafter value other).read hs fun items hitems => ?_
  simp [named?_of_inside? (inside?_among hafter other)] at hitems

/-- Whether settings load, and why they do not, does not depend on the value either. -/
theorem load_among_eq_map (hafter : k.LeftBy after) (value other : String) :
    loadFrom files (k.among value before after) path =
      (loadFrom files (k.among other before after) path).map (k.set (shown value)) := by
  cases hother : loadFrom files (k.among other before after) path with
  | ok s => exact load_among_of_among hafter hother value
  | error fault =>
    cases hvalue : loadFrom files (k.among value before after) path with
    | ok s =>
      rw [load_among_of_among hafter hvalue other] at hother
      cases hother
    | error fault' =>
      rw [fault_of_loadFrom hother, fault_of_loadFrom hvalue]
      rfl

/-- With the variable, the setting is the text of what the value is taken for. -/
theorem get_of_load_among (hafter : k.LeftBy after) {value : String}
    (h : loadFrom files (k.among value before after) path = .ok s) : k.get s = shown value := by
  have hsame := h.symm.trans (load_among_of_among hafter h value)
  rw [Except.ok.inj hsame, k.get_set]

end

/-! ## Texts taken literally -/

/-- A text is taken literally for a setting, whatever the file and the other variables say. -/
structure TakenLiterally (k : TextSetting) (value : String) : Prop where
  /-- Wherever settings load, the setting is the text. -/
  given : ∀ files before after path s, k.LeftBy after →
    loadFrom files (k.among value before after) path = .ok s → k.get s = value
  /-- Nothing but the setting depends on the text. -/
  alone : ∀ files before after path other, k.LeftBy after →
    loadFrom files (k.among value before after) path =
      (loadFrom files (k.among other before after) path).map (k.set value)
  /-- Every other setting is as it would be without the variable, unless the section is a list. -/
  rest : ∀ files before after path s, k.LeftBy after →
    ¬ k.IsListed files (before ++ after) path →
    loadFrom files (before ++ after) path = .ok s →
    loadFrom files (k.among value before after) path = .ok (k.set value s)

theorem settingsText_nil (path : String) : Directory.settingsText [] path = "" := by
  simp [Directory.settingsText, Directory.text?, candidates]

theorem readFile?_empty : Toml.readFile? "" = some [] := by rfl

theorem load_nothing (path : String) : loadFrom [] [] path = .ok .default :=
  loadFrom_eq_ok_iff.2 ⟨[], by rw [settingsText_nil, readFile?_empty], by decide⟩

theorem not_isListed_nothing (k : TextSetting) (path : String) : ¬ k.IsListed [] [] path := by
  rintro ⟨entries, items, hentries, hitems⟩
  rw [settingsText_nil, readFile?_empty] at hentries
  cases hentries
  cases hitems

theorem leftBy_nil (k : TextSetting) : k.LeftBy [] := by
  intro p hp
  cases hp

/-- With no file and no other variable, the rest is at its defaults. -/
theorem load_among_nothing (k : TextSetting) (value path : String) :
    loadFrom [] (k.among value [] []) path = .ok (k.set (shown value) .default) :=
  load_among (leftBy_nil k) (not_isListed_nothing k path) (load_nothing path) value

/-- A text set by a variable is taken literally exactly if it is no flag or number, or is its
shortest text: then the setting is the text wherever settings load, and no other is touched. -/
theorem a_text_is_taken_literally_exactly_if_it_is_its_own_text (k : TextSetting)
    (value : String) : TakenLiterally k value ↔ IsItsOwnText value := by
  rw [← shown_eq_self_iff]
  constructor
  · -- where nothing else is set, the setting is what the value is shown as
    intro h
    have hgiven := h.given [] [] [] defaultPath _ (leftBy_nil k) (load_among_nothing k value _)
    rwa [k.get_set] at hgiven
  · intro h
    refine ⟨fun files before after path s hafter hload => ?_,
      fun files before after path other hafter => ?_,
      fun files before after path s hafter hlist hload => ?_⟩
    · rw [get_of_load_among hafter hload, h]
    · rw [load_among_eq_map hafter value other, h]
    · rw [load_among hafter hlist hload, h]

/-- A file prefix of digits loses the zeros in front. -/
theorem digits_of_a_prefix_are_not_taken_literally : ¬ TakenLiterally .filePrefix "007" := by
  intro h
  have hgiven := h.given [] [] [] defaultPath _ (leftBy_nil _) (load_among_nothing _ "007" _)
  have hshown : shown "007" = "7" := by decide
  rw [TextSetting.get_set, hshown] at hgiven
  exact absurd hgiven (by decide)

end CompanySearch.Settings
