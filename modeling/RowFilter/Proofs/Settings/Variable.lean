import RowFilter.Proofs.Settings.Load
import RowFilter.Proofs.Text.Upper
import RowFilter.Settings.Limit

/-!
# Variables of settings

Within a family that has a name, settings with different names are read from different variables.
Without one, the underscores at the front of a setting's name are lost as well, and settings whose
names differ in nothing else share a variable.
-/

namespace RowFilter

open RowFilter.Text

/-- A name without the underscores at its front. -/
def stem (name : String) : List Char := name.toList.dropWhile (· = '_')

/-! ## Keys -/

section Keys

variable {family a b : String}

/-- The underscores are dropped from the name only if the family has nothing else. -/
theorem envKey_eq (family name : String) : envKey family name = String.ofList (upper
    (if (stem family).isEmpty then stem name else stem family ++ '_' :: name.toList)) := by
  rw [envKey, dropWhile_upper, String.toList_append, String.toList_append, List.append_assoc,
    List.dropWhile_append]
  rfl

theorem forall_isNameChar_stem {name : String} (h : isIdentifier name.toList = true) :
    ∀ c ∈ stem name, isNameChar c = true :=
  fun c hc => forall_isNameChar h c ((List.dropWhile_sublist _).subset hc)

theorem envKey_eq_iff (ha : isIdentifier a.toList = true) (hb : isIdentifier b.toList = true) :
    envKey family a = envKey family b ↔ a = b ∨ stem family = [] ∧ stem a = stem b := by
  rw [envKey_eq, envKey_eq, String.ofList_inj]
  by_cases h : stem family = []
  · rw [h, List.isEmpty_nil, if_pos rfl, if_pos rfl,
      upper_inj (forall_isNameChar_stem ha) (forall_isNameChar_stem hb)]
    constructor
    · exact fun hstem => .inr ⟨rfl, hstem⟩
    · rintro (rfl | ⟨-, hstem⟩)
      · rfl
      · exact hstem
  · have hsep : ∀ name : String, upper (stem family ++ '_' :: name.toList) =
        upper (stem family ++ ['_']) ++ upper name.toList := by
      intro name
      rw [← upper_append, List.append_assoc]
      rfl
    rw [List.isEmpty_eq_false_iff.2 h, if_neg Bool.false_ne_true, if_neg Bool.false_ne_true, hsep,
      hsep, List.append_cancel_left_eq, upper_inj (forall_isNameChar ha) (forall_isNameChar hb),
      String.toList_inj]
    simp [h]

end Keys

/-! ## Settings that a variable supplies -/

/-- The environments differ at most in one variable. -/
def Environment.AgreesExcept (key : String) (env env' : Environment) : Prop :=
  ∀ k, k ≠ key → env.get? k = env'.get? k

theorem SettingType.exists_coerce_digits (t : SettingType) :
    ∃ v w, t.coerce "0" = .ok v ∧ t.coerce "1" = .ok w ∧ v ≠ w := by
  cases t with
  | text | bareList | bareTuple => exact ⟨.text "0", .text "1", rfl, rfl, by decide⟩
  | integer => exact ⟨.integer 0, .integer 1, by decide +kernel, by decide +kernel, by decide⟩
  | float =>
      exact ⟨.float (.finite false 0), .float (.finite false Number.Binary64.unitsPerOne),
        by decide +kernel, by decide +kernel, by decide +kernel⟩
  | bool => exact ⟨.bool false, .bool true, by decide +kernel, by decide +kernel, by decide⟩
  | list => exact ⟨.list ["0"], .list ["1"], by decide +kernel, by decide +kernel, by decide⟩
  | tuple => exact ⟨.tuple ["0"], .tuple ["1"], by decide +kernel, by decide +kernel, by decide⟩

namespace SettingsSpec

variable {α : Type} {spec : SettingsSpec α} {env env' : Environment} {s t : Setting} {key : String}

/-- What is read for the setting depends on the variable. -/
def Supplies (spec : SettingsSpec α) (key : String) (s : Setting) : Prop :=
  ∃ env env' : Environment, env.AgreesExcept key env' ∧
    spec.readSetting env s ≠ spec.readSetting env' s

theorem readSetting_congr
    (h : env.get? (envKey spec.family s.name) = env'.get? (envKey spec.family s.name)) :
    spec.readSetting env s = spec.readSetting env' s := by
  simp only [readSetting, h]

theorem supplies_iff : spec.Supplies key s ↔ key = envKey spec.family s.name := by
  constructor
  · rintro ⟨env, env', hagrees, hne⟩
    by_contra hkey
    exact hne (readSetting_congr (hagrees _ (Ne.symm hkey)))
  · rintro rfl
    obtain ⟨v, w, hv, hw, hne⟩ := s.type.exists_coerce_digits
    refine ⟨⟨[(envKey spec.family s.name, "0")]⟩, ⟨[(envKey spec.family s.name, "1")]⟩, ?_, ?_⟩
    · intro k hk
      simp [Environment.get?, List.lookup_cons, beq_eq_false_iff_ne.2 hk]
    · rw [← SettingType.coerces_iff] at hv hw
      rw [readSetting_of_reads (.coerced (List.lookup_cons_self ..) hv),
        readSetting_of_reads (.coerced (List.lookup_cons_self ..) hw)]
      intro h
      exact hne (Prod.mk.inj (Except.ok.inj h)).2

/-- Two settings of different names are read from one variable exactly if their family has no name
but underscores and their names differ in nothing but the underscores at the front. -/
theorem exists_supplies_both_iff (spec : SettingsSpec α) {s t : Setting}
    (hs : isIdentifier s.name.toList = true) (ht : isIdentifier t.name.toList = true)
    (hne : s.name ≠ t.name) :
    (envKey spec.family s.name = envKey spec.family t.name ↔
      stem spec.family = [] ∧ stem s.name = stem t.name) ∧
    ((∃ key, spec.Supplies key s ∧ spec.Supplies key t) ↔
      stem spec.family = [] ∧ stem s.name = stem t.name) := by
  have hkey : envKey spec.family s.name = envKey spec.family t.name ↔
      stem spec.family = [] ∧ stem s.name = stem t.name :=
    (envKey_eq_iff hs ht).trans (or_iff_right hne)
  refine ⟨hkey, Iff.trans ?_ hkey⟩
  simp only [supplies_iff]
  constructor
  · rintro ⟨key, rfl, h⟩
    exact h
  · intro h
    exact ⟨_, rfl, h⟩

/-- In a family with a name a second underscore makes another variable, also where the name ends in
one itself. -/
theorem exists_supplies_both_iff_app :
    let spec : SettingsSpec SettingValues := .limited "_app_"
      [⟨"port", .integer, none⟩, ⟨"_port", .integer, none⟩] none
    isIdentifier "port".toList = true ∧ isIdentifier "_port".toList = true ∧ "port" ≠ "_port" ∧
      envKey "_app_" "port" = "APP__PORT" ∧ envKey "_app_" "port" ≠ envKey "_app_" "_port" ∧
      ¬∃ key, spec.Supplies key ⟨"port", .integer, none⟩ ∧
        spec.Supplies key ⟨"_port", .integer, none⟩ := by
  intro spec
  have hport : isIdentifier "port".toList = true := by decide
  have hunderscore : isIdentifier "_port".toList = true := by decide
  have hne : "port" ≠ "_port" := by decide
  have hstem : ¬(stem spec.family = [] ∧ stem "port" = stem "_port") := by
    rintro ⟨h, -⟩
    exact absurd h (by decide)
  obtain ⟨hkeys, hsupplies⟩ := exists_supplies_both_iff spec (s := ⟨"port", .integer, none⟩)
    (t := ⟨"_port", .integer, none⟩) hport hunderscore hne
  exact ⟨hport, hunderscore, hne, by decide +kernel, fun h => hstem (hkeys.1 h),
    fun h => hstem (hsupplies.1 h)⟩

/-- Without a family both settings take the value of the one variable. -/
theorem load_underscore_twice :
    let spec : SettingsSpec SettingValues := .limited ""
      [⟨"x", .text, some (.text "a")⟩, ⟨"_x", .text, some (.text "b")⟩] none
    isIdentifier "x".toList = true ∧ isIdentifier "_x".toList = true ∧ "x" ≠ "_x" ∧
      envKey "" "x" = envKey "" "_x" ∧
      spec.load ⟨[]⟩ = .ok [("x", .text "a"), ("_x", .text "b")] ∧
      spec.load ⟨[("X", "1")]⟩ = .ok [("x", .text "1"), ("_x", .text "1")] := by
  intro spec
  refine ⟨by decide, by decide, by decide, by decide +kernel, rfl, ?_⟩
  have hx : Environment.get? ⟨[("X", "1")]⟩ (envKey "" "x") = some "1" := by decide +kernel
  have hunderscore : Environment.get? ⟨[("X", "1")]⟩ (envKey "" "_x") = some "1" := by
    decide +kernel
  exact load_of_loads (.built
    (.cons ⟨rfl, .coerced hx .text⟩ (.cons ⟨rfl, .coerced hunderscore .text⟩ .nil)) rfl)

end SettingsSpec

end RowFilter
