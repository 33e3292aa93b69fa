import Mathlib.Data.List.Forall2
import RowFilter.Proofs.Settings.Coerce

/-!
# Loading settings

`Setting.Reads` says what is read for one setting, `SettingsSpec.Loads` what is loaded for all of
them: the fault of the first setting that cannot be read, or else what is built from the values. Only
the value of each variable counts, so layers of variables are merged variable by variable.
-/

namespace RowFilter

/-! ## Scans that end with the first error -/

section Scan

variable {ε α β : Type} {f : α → Except ε β} {xs : List α} {ys : List β} {e : ε}

theorem mapM_cons_of_ok {x : α} {y : β} (h : f x = .ok y) :
    (x :: xs).mapM f = (xs.mapM f).map (y :: ·) := by
  rw [List.mapM_cons, h]
  rfl

theorem mapM_cons_of_error {x : α} (h : f x = .error e) : (x :: xs).mapM f = .error e := by
  rw [List.mapM_cons, h]
  rfl

theorem mapM_eq_ok_of_forall₂ (h : List.Forall₂ (fun x y => f x = .ok y) xs ys) :
    xs.mapM f = .ok ys := by
  induction h with
  | nil => rfl
  | cons hx _ ih =>
      rw [mapM_cons_of_ok hx, ih]
      rfl

theorem mapM_eq_error_of_first {front back : List α} {x : α}
    (hfront : ∀ y ∈ front, ∃ b, f y = .ok b) (hx : f x = .error e) :
    (front ++ x :: back).mapM f = .error e := by
  induction front with
  | nil => exact mapM_cons_of_error hx
  | cons y front ih =>
      obtain ⟨b, hb⟩ := hfront y (List.mem_cons_self ..)
      rw [List.cons_append, mapM_cons_of_ok hb, ih fun z hz => hfront z (List.mem_cons_of_mem _ hz)]
      rfl

end Scan

/-! ## One setting -/

/-- What is read for a setting where each variable has the given value or none. -/
inductive Setting.Reads (s : Setting) (family : String) (get : String → Option String) :
    Except Fault SettingValue → Prop
  | coerced {raw : String} {v : SettingValue} : get (envKey family s.name) = some raw →
      s.type.Coerces raw v → Reads s family get (.ok v)
  | unreadable {raw : String} {c : Cause} : get (envKey family s.name) = some raw →
      s.type.Refuses raw c →
      Reads s family get (.error (SettingsSpec.unreadable (envKey family s.name) raw c))
  | fallback {v : SettingValue} : get (envKey family s.name) = none → s.fallback = some v →
      Reads s family get (.ok v)
  | missing : get (envKey family s.name) = none → s.fallback = none →
      Reads s family get (.error (SettingsSpec.missing (envKey family s.name)))

theorem Setting.exists_reads (s : Setting) (family : String) (get : String → Option String) :
    ∃ r, s.Reads family get r := by
  cases hget : get (envKey family s.name) with
  | some raw =>
      rcases s.type.coerces_or_refuses raw with ⟨v, hv⟩ | ⟨c, hc⟩
      · exact ⟨_, .coerced hget hv⟩
      · exact ⟨_, .unreadable hget hc⟩
  | none =>
      cases hfallback : s.fallback with
      | some v => exact ⟨_, .fallback hget hfallback⟩
      | none => exact ⟨_, .missing hget hfallback⟩

namespace SettingsSpec

variable {α : Type} {spec : SettingsSpec α} {env : Environment} {s : Setting} {f : Fault}

theorem readSetting_of_reads {r : Except Fault SettingValue}
    (h : s.Reads spec.family env.get? r) : spec.readSetting env s = r.map (s.name, ·) := by
  unfold readSetting
  cases h with
  | coerced hget hv =>
      simp only [hget, SettingType.coerce_of_coerces hv]
      rfl
  | unreadable hget hc =>
      simp only [hget, SettingType.coerce_of_refuses hc]
      rfl
  | fallback hget hfallback =>
      simp only [hget, hfallback]
      rfl
  | missing hget hfallback =>
      simp only [hget, hfallback]
      rfl

theorem readSetting_eq_ok {p : String × SettingValue} (hname : p.1 = s.name)
    (h : s.Reads spec.family env.get? (.ok p.2)) : spec.readSetting env s = .ok p := by
  rw [readSetting_of_reads h, ← hname]
  rfl

/-! ## All settings -/

/-- The values are those that are read for the settings, in order and under their names. -/
def Holds (spec : SettingsSpec α) (get : String → Option String) (values : SettingValues) : Prop :=
  List.Forall₂ (fun s p => p.1 = s.name ∧ s.Reads spec.family get (.ok p.2)) spec.settings values

/-- What is loaded where each variable has the given value or none. -/
inductive Loads (spec : SettingsSpec α) (get : String → Option String) : Except Fault α → Prop
  /-- The first setting that cannot be read ends the loading. -/
  | stopped {front : List Setting} {s : Setting} {back : List Setting} {f : Fault} :
      spec.settings = front ++ s :: back →
      (∀ t ∈ front, ∃ v, t.Reads spec.family get (.ok v)) →
      s.Reads spec.family get (.error f) → Loads spec get (.error f)
  | built {values : SettingValues} {a : α} : spec.Holds get values → spec.build values = .ok a →
      Loads spec get (.ok a)
  /-- A fault found in the values as a whole is passed on as it is. -/
  | objected {values : SettingValues} {f : Fault} : spec.Holds get values →
      spec.build values = .error (.fault f) → Loads spec get (.error f)
  | failed {values : SettingValues} {c : Cause} : spec.Holds get values →
      spec.build values = .error (.failure c) → Loads spec get (.error (refused c))

theorem mapM_readSetting {values : SettingValues} (h : spec.Holds env.get? values) :
    spec.settings.mapM (spec.readSetting env) = .ok values :=
  mapM_eq_ok_of_forall₂ (h.imp fun _ _ hp => readSetting_eq_ok hp.1 hp.2)

theorem load_of_loads {r : Except Fault α} (h : spec.Loads env.get? r) : spec.load env = r := by
  unfold load
  cases h with
  | stopped hsettings hfront hs =>
      rw [hsettings, mapM_eq_error_of_first _ (readSetting_of_reads hs)]
      · rfl
      · intro t ht
        obtain ⟨v, hv⟩ := hfront t ht
        exact ⟨(t.name, v), readSetting_eq_ok rfl hv⟩
  | built hvalues hbuild => simp only [mapM_readSetting hvalues, bind, Except.bind, hbuild]
  | objected hvalues hbuild => simp only [mapM_readSetting hvalues, bind, Except.bind, hbuild]
  | failed hvalues hbuild => simp only [mapM_readSetting hvalues, bind, Except.bind, hbuild]

theorem exists_holds_or_stops (settings : List Setting) (family : String)
    (get : String → Option String) :
    (∃ values : SettingValues,
      List.Forall₂ (fun s p => p.1 = s.name ∧ s.Reads family get (.ok p.2)) settings values) ∨
    ∃ front s back f, settings = front ++ s :: back ∧
      (∀ t ∈ front, ∃ v, t.Reads family get (.ok v)) ∧ s.Reads family get (.error f) := by
  induction settings with
  | nil => exact .inl ⟨[], .nil⟩
  | cons s settings ih =>
      obtain ⟨f | v, hs⟩ := s.exists_reads family get
      · exact .inr ⟨[], s, settings, f, rfl, by simp, hs⟩
      · rcases ih with ⟨values, hvalues⟩ | ⟨front, t, back, g, rfl, hfront, ht⟩
        · exact .inl ⟨(s.name, v) :: values, .cons ⟨rfl, hs⟩ hvalues⟩
        · exact .inr ⟨s :: front, t, back, g, rfl, List.forall_mem_cons.2 ⟨⟨v, hs⟩, hfront⟩, ht⟩

theorem exists_loads (spec : SettingsSpec α) (get : String → Option String) :
    ∃ r, spec.Loads get r := by
  rcases exists_holds_or_stops spec.settings spec.family get with
    ⟨values, hvalues⟩ | ⟨front, s, back, f, hsettings, hfront, hs⟩
  · cases hbuild : spec.build values with
    | ok a => exact ⟨_, .built hvalues hbuild⟩
    | error o =>
        cases o with
        | fault f => exact ⟨_, .objected hvalues hbuild⟩
        | failure c => exact ⟨_, .failed hvalues hbuild⟩
  · exact ⟨_, .stopped hsettings hfront hs⟩

theorem load_eq_iff {r : Except Fault α} : spec.load env = r ↔ spec.Loads env.get? r := by
  constructor
  · rintro rfl
    obtain ⟨r, hr⟩ := spec.exists_loads env.get?
    rwa [load_of_loads hr]
  · exact load_of_loads

end SettingsSpec
end RowFilter
