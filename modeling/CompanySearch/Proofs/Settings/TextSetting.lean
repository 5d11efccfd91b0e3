-- The settings that are texts: where they stand in a tree, and how trees that differ in one of
-- them are read.
import CompanySearch.Proofs.Settings.Overlay
import CompanySearch.Settings.Decode

namespace CompanySearch.Settings

/-- A setting that is a text. -/
inductive TextSetting where
  | host
  | url
  | level
  | fileDirectory
  | filePrefix
  | fileRotation
  | serviceName
  | deploymentEnvironment
  deriving DecidableEq, Repr

namespace TextSetting

/-- The name of the section that a setting stands in. -/
def outer : TextSetting → String
  | .host => "server"
  | .url => "database"
  | .level | .fileDirectory | .filePrefix | .fileRotation | .serviceName
  | .deploymentEnvironment => "logging"

/-- The name of a setting in its section. -/
def inner : TextSetting → String
  | .host => "host"
  | .url => "url"
  | .level => "level"
  | .fileDirectory => "file_directory"
  | .filePrefix => "file_prefix"
  | .fileRotation => "file_rotation"
  | .serviceName => "service_name"
  | .deploymentEnvironment => "deployment_environment"

def get : TextSetting → Settings → String
  | .host, s => s.server.host
  | .url, s => s.database.url
  | .level, s => s.logging.level
  | .fileDirectory, s => s.logging.fileDirectory
  | .filePrefix, s => s.logging.filePrefix
  | .fileRotation, s => s.logging.fileRotation
  | .serviceName, s => s.logging.serviceName
  | .deploymentEnvironment, s => s.logging.deploymentEnvironment

/-- The settings with one text among them replaced. -/
def set (value : String) : TextSetting → Settings → Settings
  | .host, s => { s with server.host := value }
  | .url, s => { s with database.url := value }
  | .level, s => { s with logging.level := value }
  | .fileDirectory, s => { s with logging.fileDirectory := value }
  | .filePrefix, s => { s with logging.filePrefix := value }
  | .fileRotation, s => { s with logging.fileRotation := value }
  | .serviceName, s => { s with logging.serviceName := value }
  | .deploymentEnvironment, s => { s with logging.deploymentEnvironment := value }

/-- The settings with all of a text's section at its defaults. -/
def reset : TextSetting → Settings → Settings
  | .host, s => { s with server := .default }
  | .url, s => { s with database := .default }
  | .level, s | .fileDirectory, s | .filePrefix, s | .fileRotation, s | .serviceName, s
  | .deploymentEnvironment, s => { s with logging := .default }

@[simp] theorem get_set (k : TextSetting) (value : String) (s : Settings) :
    k.get (k.set value s) = value := by
  cases k <;> rfl

end TextSetting

/-! ## What is read from a table -/

open CompanySearch.Settings.Reader CompanySearch.Settings.Tree

theorem finder_table (count : Nat) (es : List (String × Tree)) :
    treeReader.finder count (.table es) = some fun _ name => Tree.find? name es :=
  rfl

/-- A section is read from a table or from a list. -/
theorem exists_of_finder_bind {count : Nat} {t : Tree}
    {read : (Nat → String → Option Tree) → Option β} {b : β}
    (h : (treeReader.finder count t).bind read = some b) :
    (∃ es, t = .table es) ∨ ∃ items, t = .list items := by
  cases t with
  | table es => exact .inl ⟨es, rfl⟩
  | list items => exact .inr ⟨items, rfl⟩
  | text _ | integer _ | real _ | bool _ | hollow => simp [finder, treeReader] at h

theorem server?_empty : treeReader.server? .empty = some .default := by decide

theorem database?_empty : treeReader.database? .empty = some .default := by decide

theorem logging?_empty : treeReader.logging? .empty = some .default := by decide

@[simp] theorem orDefault_some (default : β) (read : Tree → Option β) (t : Tree) :
    orDefault default read (some t) = read t :=
  rfl

theorem server?_table (es : List (String × Tree)) (s : ServerSettings) :
    treeReader.server? (.table es) = some s ↔
      let d := ServerSettings.default
      orDefault d.host treeReader.text? (Tree.find? "host" es) = some s.host ∧
      orDefault d.port treeReader.port? (Tree.find? "port" es) = some s.port ∧
      orDefault d.corsOrigins treeReader.texts? (Tree.find? "cors_origins" es) =
        some s.corsOrigins ∧
      orDefault d.maxBodySize treeReader.long? (Tree.find? "max_request_body_size" es) =
        some s.maxBodySize := by
  simp only [server?, finder_table, bind, pure, Option.bind_some, Option.bind_eq_some_iff,
    Option.some.injEq]
  constructor
  · rintro ⟨_, host, _, port, _, origins, _, size, rfl⟩
    exact ⟨host, port, origins, size⟩
  · rintro ⟨host, port, origins, size⟩
    exact ⟨_, host, _, port, _, origins, _, size, rfl⟩

theorem database?_table (es : List (String × Tree)) (s : DatabaseSettings) :
    treeReader.database? (.table es) = some s ↔
      let d := DatabaseSettings.default
      orDefault d.url treeReader.text? (Tree.find? "url" es) = some s.url ∧
      orDefault d.poolMaxSize treeReader.short? (Tree.find? "pool_max_size" es) =
        some s.poolMaxSize ∧
      orDefault d.poolMinSize treeReader.short? (Tree.find? "pool_min_size" es) =
        some s.poolMinSize ∧
      orDefault d.poolTimeoutSeconds treeReader.long? (Tree.find? "pool_timeout_seconds" es) =
        some s.poolTimeoutSeconds ∧
      orDefault d.runMigrations treeReader.flag? (Tree.find? "run_migrations" es) =
        some s.runMigrations := by
  simp only [database?, finder_table, bind, pure, Option.bind_some, Option.bind_eq_some_iff,
    Option.some.injEq]
  constructor
  · rintro ⟨_, url, _, most, _, least, _, timeout, _, migrations, rfl⟩
    exact ⟨url, most, least, timeout, migrations⟩
  · rintro ⟨url, most, least, timeout, migrations⟩
    exact ⟨_, url, _, most, _, least, _, timeout, _, migrations, rfl⟩

theorem logging?_table (es : List (String × Tree)) (s : LoggingSettings) :
    treeReader.logging? (.table es) = some s ↔
      let d := LoggingSettings.default
      orDefault d.level treeReader.text? (Tree.find? "level" es) = some s.level ∧
      orDefault d.json treeReader.flag? (Tree.find? "json" es) = some s.json ∧
      orDefault d.fileEnabled treeReader.flag? (Tree.find? "file_enabled" es) =
        some s.fileEnabled ∧
      orDefault d.fileDirectory treeReader.text? (Tree.find? "file_directory" es) =
        some s.fileDirectory ∧
      orDefault d.filePrefix treeReader.text? (Tree.find? "file_prefix" es) =
        some s.filePrefix ∧
      orDefault d.fileRotation treeReader.text? (Tree.find? "file_rotation" es) =
        some s.fileRotation ∧
      orDefault d.serviceName treeReader.text? (Tree.find? "service_name" es) =
        some s.serviceName ∧
      orDefault d.deploymentEnvironment treeReader.text?
        (Tree.find? "deployment_environment" es) = some s.deploymentEnvironment := by
  simp only [logging?, finder_table, bind, pure, Option.bind_some, Option.bind_eq_some_iff,
    Option.some.injEq]
  constructor
  · rintro ⟨_, level, _, json, _, enabled, _, directory, _, start, _, rotation, _, service, _,
      deployment, rfl⟩
    exact ⟨level, json, enabled, directory, start, rotation, service, deployment⟩
  · rintro ⟨level, json, enabled, directory, start, rotation, service, deployment⟩
    exact ⟨_, level, _, json, _, enabled, _, directory, _, start, _, rotation, _, service, _,
      deployment, rfl⟩

theorem settings?_table (es : List (String × Tree)) (s : Settings) :
    treeReader.settings? (.table es) = some s ↔
      let d := Settings.default
      orDefault d.server treeReader.server? (Tree.find? "server" es) = some s.server ∧
      orDefault d.database treeReader.database? (Tree.find? "database" es) = some s.database ∧
      orDefault d.cache treeReader.cache? (Tree.find? "cache" es) = some s.cache ∧
      orDefault d.logging treeReader.logging? (Tree.find? "logging" es) = some s.logging := by
  simp only [settings?, finder_table, bind, pure, Option.bind_some, Option.bind_eq_some_iff,
    Option.some.injEq]
  constructor
  · rintro ⟨_, server, _, database, _, cache, _, logging, rfl⟩
    exact ⟨server, database, cache, logging⟩
  · rintro ⟨server, database, cache, logging⟩
    exact ⟨_, server, _, database, _, cache, _, logging, rfl⟩

/-! ## The section of a text -/

/-- What stands for the section of a text, if anything does, is read as the settings have it. -/
structure SectionRead (k : TextSetting) (there : Option Tree) (s : Settings) : Prop where
  server : k.outer = "server" → orDefault .default treeReader.server? there = some s.server
  database : k.outer = "database" →
    orDefault .default treeReader.database? there = some s.database
  logging : k.outer = "logging" → orDefault .default treeReader.logging? there = some s.logging

/-- Settings that differ in the section of one text alone. -/
structure SameBut (k : TextSetting) (s s' : Settings) : Prop where
  server : k.outer ≠ "server" → s.server = s'.server
  database : k.outer ≠ "database" → s.database = s'.database
  cache : s.cache = s'.cache
  logging : k.outer ≠ "logging" → s.logging = s'.logging

variable {k : TextSetting} {shown : String} {es es' ts us : List (String × Tree)}
  {s s' : Settings}

theorem SameBut.set (k : TextSetting) (value : String) (s : Settings) :
    SameBut k s (k.set value s) := by
  cases k <;> constructor <;> simp [TextSetting.set, TextSetting.outer]

theorem SameBut.reset_set (k : TextSetting) (value : String) (s : Settings) :
    SameBut k s (k.set value (k.reset s)) := by
  cases k <;> constructor <;> simp [TextSetting.set, TextSetting.reset, TextSetting.outer]

theorem SectionRead.of_settings? (h : treeReader.settings? (.table ts) = some s) :
    SectionRead k (Tree.find? k.outer ts) s := by
  obtain ⟨server, database, -, logging⟩ := (settings?_table ts s).1 h
  exact ⟨fun hk => hk ▸ server, fun hk => hk ▸ database, fun hk => hk ▸ logging⟩

/-- Where only the section of a text is another, only this section has to be read anew. -/
theorem SectionRead.settings? (h : SectionRead k (Tree.find? k.outer us) s')
    (hsame : SameBut k s s') (hbeside : ∀ n, n ≠ k.outer → Tree.find? n ts = Tree.find? n us)
    (hs : treeReader.settings? (.table ts) = some s) :
    treeReader.settings? (.table us) = some s' := by
  rw [settings?_table] at hs ⊢
  obtain ⟨server, database, cache, logging⟩ := hs
  refine ⟨?_, ?_, ?_, ?_⟩
  · by_cases hk : k.outer = "server"
    · exact hk ▸ h.server hk
    · rw [← hbeside _ (Ne.symm hk), ← hsame.server hk]
      exact server
  · by_cases hk : k.outer = "database"
    · exact hk ▸ h.database hk
    · rw [← hbeside _ (Ne.symm hk), ← hsame.database hk]
      exact database
  · rw [← hbeside _ (by cases k <;> decide), ← hsame.cache]
    exact cache
  · by_cases hk : k.outer = "logging"
    · exact hk ▸ h.logging hk
    · rw [← hbeside _ (Ne.symm hk), ← hsame.logging hk]
      exact logging

/-- A section that is no list is read as the table of its entries. -/
theorem orDefault_entries {read : Tree → Option β} {default b : β} {there : Option Tree}
    (hempty : read .empty = some default)
    (hread : ∀ t b, read t = some b → (∃ es, t = .table es) ∨ ∃ items, t = .list items)
    (hlist : ∀ items, there ≠ some (.list items)) (h : orDefault default read there = some b) :
    read (.table (there.getD .hollow).entries) = some b := by
  cases there with
  | none => exact hempty.trans h
  | some t =>
    obtain ⟨es, rfl⟩ | ⟨items, rfl⟩ := hread t b h
    · exact h
    · exact absurd rfl (hlist items)

theorem SectionRead.entries {there : Option Tree} (h : SectionRead k there s)
    (hlist : ∀ items, there ≠ some (.list items)) :
    SectionRead k (some (.table (there.getD .hollow).entries)) s where
  server hk :=
    orDefault_entries server?_empty (fun _ _ => exists_of_finder_bind) hlist (h.server hk)
  database hk :=
    orDefault_entries database?_empty (fun _ _ => exists_of_finder_bind) hlist (h.database hk)
  logging hk :=
    orDefault_entries logging?_empty (fun _ _ => exists_of_finder_bind) hlist (h.logging hk)

/-- An empty table leaves the section at its defaults. -/
theorem SectionRead.reset (k : TextSetting) (s : Settings) :
    SectionRead k (some .empty) (k.reset s) := by
  constructor <;> intro hk <;>
    cases k <;> simp_all [TextSetting.outer, TextSetting.reset, server?_empty, database?_empty,
      logging?_empty]

/-! ## One text replaced -/

/-- The entries of a section with one text among them replaced. -/
structure Replaced (k : TextSetting) (shown : String) (es es' : List (String × Tree)) : Prop where
  others : ∀ n, n ≠ k.inner → Tree.find? n es = Tree.find? n es'
  text : ∃ value : Tree, Tree.find? k.inner es' = some value ∧ value.text? = some shown

theorem Replaced.read (h : Replaced k shown es es') (default : String) :
    orDefault default treeReader.text? (Tree.find? k.inner es') = some shown := by
  obtain ⟨value, hvalue, hshown⟩ := h.text
  rw [hvalue]
  exact hshown

theorem Replaced.server? (h : Replaced k shown es es') (hk : k.outer = "server")
    (hs : treeReader.server? (.table es) = some s.server) :
    treeReader.server? (.table es') = some (k.set shown s).server := by
  have hothers := h.others
  have hread := h.read
  rw [server?_table] at hs ⊢
  cases k <;> simp_all [TextSetting.inner, TextSetting.outer, TextSetting.set]

theorem Replaced.database? (h : Replaced k shown es es') (hk : k.outer = "database")
    (hs : treeReader.database? (.table es) = some s.database) :
    treeReader.database? (.table es') = some (k.set shown s).database := by
  have hothers := h.others
  have hread := h.read
  rw [database?_table] at hs ⊢
  cases k <;> simp_all [TextSetting.inner, TextSetting.outer, TextSetting.set]

theorem Replaced.logging? (h : Replaced k shown es es') (hk : k.outer = "logging")
    (hs : treeReader.logging? (.table es) = some s.logging) :
    treeReader.logging? (.table es') = some (k.set shown s).logging := by
  have hothers := h.others
  have hread := h.read
  rw [logging?_table] at hs ⊢
  cases k <;> simp_all [TextSetting.inner, TextSetting.outer, TextSetting.set]

theorem SectionRead.set (h : SectionRead k (some (.table es)) s)
    (hreplaced : Replaced k shown es es') :
    SectionRead k (some (.table es')) (k.set shown s) where
  server hk := hreplaced.server? hk (h.server hk)
  database hk := hreplaced.database? hk (h.database hk)
  logging hk := hreplaced.logging? hk (h.logging hk)

/-! ## Trees that differ in one text -/

/-- Only a table has something inside it. -/
theorem named?_of_inside? {t value : Tree} {outer inner : String}
    (h : t.inside? outer inner = some value) :
    t.named? outer = some (.table (t.child outer).entries) := by
  obtain ⟨es, hes⟩ := exists_table_of_named? h
  have hchild : (t.named? outer).getD .hollow = .table es := hes
  cases hthere : t.named? outer with
  | none => simp [hthere] at hchild
  | some there =>
    rw [hthere, Option.getD_some] at hchild
    rw [hes, hchild]
    rfl

/-- Two trees that differ in one text, the second of which has it. -/
structure TextReplaced (k : TextSetting) (shown : String) (t u : Tree) : Prop where
  table : ∃ es, t = .table es
  alike : AlikeBut k.outer k.inner t u
  text : ∃ value : Tree, u.inside? k.outer k.inner = some value ∧ value.text? = some shown

variable {t u : Tree}

theorem TextReplaced.read_of_section (h : TextReplaced k shown t u) (hs : ofTree? t = some s)
    (hsection : SectionRead k (some (.table (t.child k.outer).entries)) s')
    (hsame : SameBut k s (k.set shown s')) : ofTree? u = some (k.set shown s') := by
  obtain ⟨value, hvalue, -⟩ := h.text
  have hentry := named?_of_inside? hvalue
  obtain ⟨ts, rfl⟩ := h.table
  obtain ⟨us, rfl⟩ := exists_table_of_named? hentry
  have hread := hsection.set ⟨h.alike.within, h.text⟩
  rw [← hentry] at hread
  exact hread.settings? hsame h.alike.beside hs

/-- Trees that differ in one text are read as settings that differ in it. -/
theorem TextReplaced.read (h : TextReplaced k shown t u) (hs : ofTree? t = some s)
    (hlist : ∀ items, t.named? k.outer ≠ some (.list items)) :
    ofTree? u = some (k.set shown s) := by
  refine h.read_of_section hs ?_ (.set k shown s)
  obtain ⟨ts, rfl⟩ := h.table
  exact (SectionRead.of_settings? hs).entries hlist

/-- Where the section was a list, its other settings go back to their defaults. -/
theorem TextReplaced.read_of_list (h : TextReplaced k shown t u) (hs : ofTree? t = some s)
    {items : List Tree} (hlist : t.named? k.outer = some (.list items)) :
    ofTree? u = some (k.set shown (k.reset s)) := by
  refine h.read_of_section hs ?_ (.reset_set k shown s)
  rw [child, hlist]
  exact .reset k s

end CompanySearch.Settings
