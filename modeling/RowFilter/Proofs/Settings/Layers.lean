import RowFilter.Proofs.Settings.Load
import RowFilter.Settings.Limit

/-!
# Layers of variables

A reader of files gives each variable once, and one that it gives without a value counts as absent.
Settings that are loaded from a file and a process are loaded from one environment in which each
variable has the value of the upper layer, or else that of the lower one.
-/

namespace RowFilter

/-! ## Files -/

namespace FileReader

variable {reader : FileReader} {path key value : String}

/-- What is documented of a reader: it gives a mapping, so each variable only once. -/
def DistinctKeys (reader : FileReader) : Prop :=
  ∀ path, ((reader.values path).map Prod.fst).Nodup

def Assigns (reader : FileReader) (path key value : String) : Prop :=
  (key, some value) ∈ reader.values path

theorem lookup_filterMap_eq_some_iff {entries : List (String × Option String)}
    (h : (entries.map Prod.fst).Nodup) :
    (entries.filterMap fun (k, v) => v.map (k, ·)).lookup key = some value ↔
      (key, some value) ∈ entries := by
  induction entries with
  | nil => simp
  | cons entry entries ih =>
      obtain ⟨k, v⟩ := entry
      rw [List.map_cons, List.nodup_cons] at h
      have htail := ih h.2
      cases v with
      | none => simpa using htail
      | some w =>
          by_cases hk : key = k
          · subst hk
            have habsent : (key, some value) ∉ entries :=
              fun hmem => h.1 (List.mem_map.2 ⟨_, hmem, rfl⟩)
            simp [habsent, eq_comm]
          · simpa [hk, List.lookup_cons, beq_eq_false_iff_ne.2 hk] using htail

theorem get?_environment_eq_some_iff (hreader : reader.DistinctKeys) :
    (reader.environment path).get? key = some value ↔ reader.Assigns path key value :=
  lookup_filterMap_eq_some_iff (hreader path)

theorem get?_environment_eq_none_iff (hreader : reader.DistinctKeys) :
    (reader.environment path).get? key = none ↔ ∀ value, ¬reader.Assigns path key value := by
  simp only [Option.eq_none_iff_forall_ne_some, Ne, get?_environment_eq_some_iff hreader]

end FileReader

/-! ## Layers -/

theorem Environment.get?_layer_eq_some_iff {top bottom : Environment} {key value : String} :
    (top.layer bottom).get? key = some value ↔
      top.get? key = some value ∨ top.get? key = none ∧ bottom.get? key = some value := by
  rw [← Option.or_eq_some_iff]
  exact Eq.congr_left List.lookup_append

/-- Each variable has the value of the process, or else that of the file; if the file overrides the
process, the other way round. -/
def FileReader.Merges (reader : FileReader) (path : String) (process : Environment)
    (override : Bool) (merged : Environment) : Prop :=
  ∀ key value, merged.get? key = some value ↔
    if override = true then
      reader.Assigns path key value ∨
        (∀ other, ¬reader.Assigns path key other) ∧ process.get? key = some value
    else process.get? key = some value ∨ process.get? key = none ∧ reader.Assigns path key value

theorem FileReader.merges_merge {reader : FileReader} (hreader : reader.DistinctKeys)
    (path : String) (process : Environment) (override : Bool) :
    reader.Merges path process override ((reader.environment path).merge process override) := by
  intro key value
  cases override with
  | true =>
      rw [Environment.merge, if_pos rfl, if_pos rfl, Environment.get?_layer_eq_some_iff,
        get?_environment_eq_some_iff hreader, get?_environment_eq_none_iff hreader]
  | false =>
      rw [Environment.merge, if_neg Bool.false_ne_true, if_neg Bool.false_ne_true,
        Environment.get?_layer_eq_some_iff, get?_environment_eq_some_iff hreader]

/-- The fault names the variable, either as missing or as one with a bad value. -/
def Fault.Names (f : Fault) (key : String) : Prop :=
  f.family = .missingSetting ∧ f.message = "Required setting '" ++ key ++ "' is missing" ∨
    f.family = .config ∧ f.detail = [("setting", .text key)] ∧
      ∃ message, f.cause = some (.badValue message)

theorem Setting.Reads.names {s : Setting} {family : String} {get : String → Option String}
    {f : Fault} (h : s.Reads family get (.error f)) : f.Names (envKey family s.name) := by
  cases h with
  | unreadable _ hc =>
      obtain ⟨message, rfl⟩ := hc.exists_badValue
      exact .inr ⟨rfl, rfl, message, rfl⟩
  | missing => exact .inl ⟨rfl, rfl⟩

namespace SettingsSpec

variable {α : Type}

theorem load_congr (spec : SettingsSpec α) {env env' : Environment}
    (h : ∀ key, env.get? key = env'.get? key) : spec.load env = spec.load env' := by
  rw [load_eq_iff, funext h, ← load_eq_iff]

theorem loadFile_of_merges (spec : SettingsSpec α) {reader : FileReader}
    (hreader : reader.DistinctKeys) {path : String} {process merged : Environment} {override : Bool}
    (h : reader.Merges path process override merged) :
    spec.loadFile reader path process override = spec.load merged := by
  apply spec.load_congr
  intro key
  apply Option.ext
  intro value
  exact (FileReader.merges_merge hreader path process override key value).trans (h key value).symm

/-- Settings are read in order up to the first one that is unreadable or missing, whose fault names
its variable, and then built as a whole. From a file and a process they are loaded as from the one
environment in which the upper layer goes before the lower one. -/
theorem load_layers (spec : SettingsSpec α) {reader : FileReader}
    (hreader : reader.DistinctKeys) :
    (∀ env r, spec.load env = r ↔ spec.Loads env.get? r) ∧
    (∀ (s : Setting) get (f : Fault), s.Reads spec.family get (.error f) →
      f.Names (envKey spec.family s.name)) ∧
    (∀ c, (refused c).family = .config ∧ (refused c).cause = some c) ∧
    ∀ path process override, (∃ merged, reader.Merges path process override merged) ∧
      ∀ merged, reader.Merges path process override merged →
        spec.loadFile reader path process override = spec.load merged := by
  refine ⟨fun _ _ => load_eq_iff, fun _ _ _ => Setting.Reads.names, fun _ => ⟨rfl, rfl⟩, ?_⟩
  intro path process override
  exact ⟨⟨_, FileReader.merges_merge hreader path process override⟩,
    fun _ => spec.loadFile_of_merges hreader⟩

/-- Of a bad age and a missing name the fault is about the age, which is declared first. The process
mends both, unless the file overrides it. The file names the tags without a value, which leaves them
new, and the notes are a list that does not say of what. -/
theorem load_layers_people :
    let spec : SettingsSpec SettingValues := .limited "app"
      [⟨"age", .integer, none⟩, ⟨"tags", .list, some (.list ["new"])⟩, ⟨"langs", .tuple, none⟩,
        ⟨"cities", .list, none⟩, ⟨"notes", .bareList, none⟩, ⟨"active", .bool, none⟩,
        ⟨"name", .text, none⟩] none
    let reader : FileReader := ⟨fun path => if path = ".env" then
      [("APP_AGE", some "old"), ("APP_TAGS", none), ("APP_LANGS", some " fr ,, de"),
        ("APP_CITIES", some "Oslo, "), ("APP_NOTES", some "a, b"), ("APP_ACTIVE", some " Yes")]
      else []⟩
    let process : Environment := ⟨[("APP_NAME", "Ada"), ("APP_AGE", "36")]⟩
    let bad := unreadable "APP_AGE" "old" (.badValue "invalid literal for int() with base 10: 'old'")
    reader.DistinctKeys ∧ spec.load (reader.environment ".env") = .error bad ∧
      spec.loadFile reader ".env" process true = .error bad ∧
      spec.loadFile reader ".env" process false =
        .ok [("age", .integer 36), ("tags", .list ["new"]), ("langs", .tuple ["fr", "de"]),
          ("cities", .list ["Oslo"]), ("notes", .text "a, b"), ("active", .bool true),
          ("name", .text "Ada")] := by
  intro spec reader process bad
  have hreader : reader.DistinctKeys := by
    intro path
    by_cases hpath : path = ".env" <;> simp [reader, hpath]
  obtain ⟨hload, -, -, hfile⟩ := load_layers spec hreader
  have hage : envKey "app" "age" = "APP_AGE" := by decide +kernel
  have hbad : ∀ env : Environment, env.get? "APP_AGE" = some "old" → spec.load env = .error bad := by
    intro env henv
    have hfirst : spec.settings = [] ++ ⟨"age", .integer, none⟩ :: spec.settings.tail := rfl
    have hreads : Setting.Reads ⟨"age", .integer, none⟩ "app" env.get? (.error bad) := by
      rw [← hage] at henv
      rw [show bad = unreadable (envKey "app" "age") "old" _ by rw [hage]]
      exact .unreadable henv (SettingType.refuses_iff.2 (by decide +kernel))
    exact (hload env _).2 (.stopped hfirst (by simp) hreads)
  refine ⟨hreader, hbad _ (by decide +kernel), ?_, ?_⟩
  · rw [(hfile ".env" process true).2 _ (FileReader.merges_merge hreader _ _ _)]
    exact hbad _ (by decide +kernel)
  · rw [(hfile ".env" process false).2 _ (FileReader.merges_merge hreader _ _ _), hload]
    have hreads : ∀ (s : Setting) raw v,
        ((reader.environment ".env").merge process false).get? (envKey "app" s.name) = some raw →
        s.type.coerce raw = .ok v →
        s.Reads "app" ((reader.environment ".env").merge process false).get? (.ok v) :=
      fun _ _ _ hget hv => .coerced hget (SettingType.coerces_iff.2 hv)
    have htags : ((reader.environment ".env").merge process false).get? (envKey "app" "tags") =
        none := by decide +kernel
    refine .built ?_ rfl
    exact .cons ⟨rfl, hreads _ "36" _ (by decide +kernel) (by decide +kernel)⟩ <|
      .cons ⟨rfl, .fallback htags rfl⟩ <|
      .cons ⟨rfl, hreads _ " fr ,, de" _ (by decide +kernel) (by decide +kernel)⟩ <|
      .cons ⟨rfl, hreads _ "Oslo, " _ (by decide +kernel) (by decide +kernel)⟩ <|
      .cons ⟨rfl, .coerced (by decide +kernel) .bareList⟩ <|
      .cons ⟨rfl, hreads _ " Yes" _ (by decide +kernel) (by decide +kernel)⟩ <|
      .cons ⟨rfl, .coerced (by decide +kernel) .text⟩ .nil

end SettingsSpec

end RowFilter
