import ClientBuilder.Capability.Decode
import Mathlib.Logic.Basic

/-!
Models written out as mappings. A mapping that holds the fields of a model under their snake-case
names, where it may leave out a field with its default value and add the configuration flag as the
model has it, is read as that very model.
-/

namespace ClientBuilder

open Validation

namespace Value

theorem isText_iff {name : Text} {v : Value} : v.isText name = true ↔ v = .text name := by
  cases v with
  | text s => simp only [isText, beq_iff_eq, text.injEq]
  | _ => simp only [isText, Bool.false_eq_true, reduceCtorEq]

theorem mem_of_lookup {pairs : Pairs} {name : Text} {v : Value}
    (h : lookup pairs name = some v) : (.text name, v) ∈ pairs := by
  obtain ⟨p, hp, rfl⟩ := Option.map_eq_some_iff.mp h
  have hk := List.find?_some hp
  rw [← isText_iff.mp hk]
  exact List.mem_of_find?_eq_some hp

theorem lookup_eq_none_iff {pairs : Pairs} {name : Text} :
    lookup pairs name = none ↔ ∀ v, (.text name, v) ∉ pairs := by
  rw [lookup, Option.map_eq_none_iff, List.find?_eq_none]
  constructor
  · intro h v hv
    exact h _ hv (isText_iff.mpr rfl)
  · rintro h ⟨k, v⟩ hp hk
    obtain rfl := isText_iff.mp hk
    exact h v hp

end Value

theorem given?_eq_none_iff {pairs : Pairs} {spellings : List String} :
    given? pairs spellings = none ↔ ∀ s ∈ spellings, ∀ v, (.text (s : String), v) ∉ pairs := by
  rw [given?, List.findSome?_eq_none_iff]
  simp only [Option.map_eq_none_iff, Value.lookup_eq_none_iff]

theorem mem_of_given? {pairs : Pairs} {spellings : List String} {p : String × Value}
    (h : given? pairs spellings = some p) : p.1 ∈ spellings ∧ (.text p.1, p.2) ∈ pairs := by
  obtain ⟨s, hs, hl⟩ := List.exists_of_findSome?_eq_some h
  obtain ⟨v, hv, rfl⟩ := Option.map_eq_some_iff.mp hl
  exact ⟨hs, Value.mem_of_lookup hv⟩

theorem decode_param_toValue (p : ContextParam) : ContextParam.decode p.toValue = .ok p := rfl

/-- Written parameters are read back entry by entry. -/
theorem entries_of_params (params : List (Text × ContextParam)) :
    entries ContextParam.decode (params.map fun p => (.text p.1, p.2.toValue)) = .ok params := by
  induction params with
  | nil => rfl
  | cons p r ih =>
    rw [List.map_cons, entries, ih, entry, decode_param_toValue]
    rfl

/-- A group of parameters is read as it was written, in the same order. -/
theorem decode_group_toValue (g : ParamGroup) :
    mappingOf ContextParam.decode g.toValue = .ok g := by
  rw [ParamGroup.toValue, mappingOf, entries_of_params]
  exact congrArg Checked.ok g.ofList_pairs

namespace Capability

def levelFlagPairs (m : Capability) : Pairs :=
  levelFlagSpellings.map fun s => (.text (s : String), .bool m.hasServiceLevelConfig)

/-- Some pairs say what a model is: there is nothing in them but its fields and its configuration
flag, and a field that they leave out has its default value. -/
structure WrittenIn (m : Capability) (pairs : Pairs) : Prop where
  known : ∀ p ∈ pairs, (∃ f : Field, p = (.text f.name, m.fieldValue f)) ∨ p ∈ m.levelFlagPairs
  given : ∀ f : Field, (.text f.name, m.fieldValue f) ∈ pairs ∨
    m.fieldValue f = ({} : Capability).fieldValue f

/-- No spelling is that of two fields. -/
theorem eq_of_mem_spellings {f g : Field} {s : String} (hf : s ∈ f.spellings)
    (hg : s ∈ g.spellings) : f = g := by
  have hall : ∀ f ∈ Field.all, ∀ g ∈ Field.all, ∀ s ∈ f.spellings, s ∈ g.spellings → f = g := by
    decide
  exact hall f f.mem_all g g.mem_all s hf hg

theorem levelFlag_not_mem_spellings (f : Field) : ∀ s ∈ levelFlagSpellings, s ∉ f.spellings := by
  cases f <;> decide

theorem isTruthy_nameValue (m : Capability) :
    (nameValue m.serviceConfigType).isTruthy = m.hasServiceLevelConfig := by
  rw [hasServiceLevelConfig]
  cases m.serviceConfigType with
  | none => rfl
  | some s => cases s <;> rfl

theorem mem_withoutLevelFlag {pairs : Pairs} {p : Value × Value} :
    p ∈ withoutLevelFlag pairs ↔
      p ∈ pairs ∧ ∀ s ∈ levelFlagSpellings, p.1 ≠ .text (s : String) := by
  simp only [withoutLevelFlag, levelFlagSpellings, List.foldl_cons, List.foldl_nil, Value.erase,
    List.mem_filter, Bool.not_eq_true', Bool.eq_false_iff, ne_eq, Value.isText_iff,
    List.forall_mem_cons, List.not_mem_nil, false_imp_iff, implies_true, and_true, and_assoc]

namespace WrittenIn

variable {m : Capability} {pairs : Pairs}

/-- What stands under a text is the field of that name, or the configuration flag. -/
theorem of_mem (h : m.WrittenIn pairs) {s : String} {v : Value} (hv : (.text s, v) ∈ pairs) :
    (∃ f : Field, s = f.name ∧ v = m.fieldValue f) ∨
      (s ∈ levelFlagSpellings ∧ v = .bool m.hasServiceLevelConfig) := by
  have hkey {s' : String} {v' : Value}
      (he : ((.text s, v) : Value × Value) = (.text s', v')) : s = s' ∧ v = v' := by
    obtain ⟨hs, rfl⟩ := Prod.mk.inj he
    exact ⟨Text.ofString_inj (Value.text.inj hs), rfl⟩
  rcases h.known _ hv with ⟨f, he⟩ | hf
  · exact Or.inl ⟨f, hkey he⟩
  · obtain ⟨s', hs', he⟩ := List.mem_map.mp hf
    obtain ⟨rfl, rfl⟩ := hkey he.symm
    exact Or.inr ⟨hs', rfl⟩

/-- A field is found under its snake-case name, or not found and as it is by default. -/
theorem given?_field (h : m.WrittenIn pairs) (f : Field) :
    given? pairs f.spellings = some (f.name, m.fieldValue f) ∨
      (given? pairs f.spellings = none ∧ m.fieldValue f = ({} : Capability).fieldValue f) := by
  cases hg : given? pairs f.spellings with
  | none =>
    right
    refine ⟨rfl, (h.given f).resolve_left ?_⟩
    exact given?_eq_none_iff.mp hg _ f.name_mem_spellings _
  | some p =>
    left
    obtain ⟨s, v⟩ := p
    obtain ⟨hs, hv⟩ := mem_of_given? hg
    -- The field may have been found under any spelling, but only names of fields stand there.
    rcases h.of_mem hv with ⟨g, rfl, rfl⟩ | ⟨hf, -⟩
    · rw [eq_of_mem_spellings g.name_mem_spellings hs]
    · exact absurd hs (levelFlag_not_mem_spellings f s hf)

/-- A field is read as what was written, or as its default where that was left out. -/
theorem optional_field {α : Type} {d : Decoder α} {absent a : α} {f : Field}
    (h : m.WrittenIn pairs) (hd : d (m.fieldValue f) = .ok a)
    (ha : m.fieldValue f = ({} : Capability).fieldValue f → a = absent) :
    optional f.spellings absent d pairs = .ok a := by
  rcases h.given?_field f with hg | ⟨hg, hv⟩
  · simp only [Validation.optional, hg, hd, Checked.within]
  · simp only [Validation.optional, hg, ha hv]

theorem optional_text {f : Field} {s : Text} (h : m.WrittenIn pairs)
    (hm : m.fieldValue f = .text s) (hd : ({} : Capability).fieldValue f = .text []) :
    optional f.spellings [] Validation.text pairs = .ok s := by
  refine h.optional_field (by rw [hm]; rfl) fun he => ?_
  rw [hm, hd] at he
  exact Value.text.inj he

theorem optional_name {f : Field} {name : Option Text} (h : m.WrittenIn pairs)
    (hm : m.fieldValue f = nameValue name) (hd : ({} : Capability).fieldValue f = .null) :
    optional f.spellings none (nullable Validation.text) pairs = .ok name := by
  cases name with
  | none => exact h.optional_field (by rw [hm]; rfl) fun _ => rfl
  | some s =>
    refine h.optional_field (by rw [hm]; rfl) fun he => ?_
    rw [hm, hd] at he
    cases he

theorem optional_flag {f : Field} {b : Bool} (h : m.WrittenIn pairs)
    (hm : m.fieldValue f = .bool b) (hd : ({} : Capability).fieldValue f = .bool false) :
    optional f.spellings false Validation.flag pairs = .ok b := by
  refine h.optional_field (by rw [hm]; rfl) fun he => ?_
  rw [hm, hd] at he
  exact Value.bool.inj he

theorem optional_group {f : Field} {g : ParamGroup} (h : m.WrittenIn pairs)
    (hm : m.fieldValue f = g.toValue) (hd : ({} : Capability).fieldValue f = .mapping []) :
    optional f.spellings .empty (mappingOf ContextParam.decode) pairs = .ok g := by
  refine h.optional_field (by rw [hm]; exact decode_group_toValue g) fun he => ?_
  rw [hm, hd, ParamGroup.toValue, Value.mapping.injEq, List.map_eq_nil_iff] at he
  exact OrderedMap.ext he

/-- The fields are read one by one as the model has them. -/
theorem fields_eq (h : m.WrittenIn pairs) : fields pairs = .ok m := by
  rw [fields]
  simp only [h.optional_text (f := .serviceName) rfl rfl,
    h.optional_text (f := .descriptiveServiceName) rfl rfl,
    h.optional_text (f := .basePackage) rfl rfl,
    h.optional_name (f := .baseBuilderInterface) rfl rfl,
    h.optional_name (f := .syncBuilderInterface) rfl rfl,
    h.optional_name (f := .asyncBuilderInterface) rfl rfl,
    h.optional_flag (f := .hasEndpointDiscoveryOperation) rfl rfl,
    h.optional_flag (f := .endpointDiscoveryRequired) rfl rfl,
    h.optional_name (f := .serviceConfigType) rfl rfl,
    h.optional_name (f := .endpointProviderType) rfl rfl,
    h.optional_name (f := .authSchemeProviderType) rfl rfl,
    h.optional_group (f := .clientContextParams) rfl rfl,
    h.optional_group (f := .customClientContextParams) rfl rfl,
    h.optional_flag (f := .supportsAccountIdEndpointMode) rfl rfl,
    h.optional_flag (f := .usesBearerAuth) rfl rfl,
    h.optional_flag (f := .hasRequestChecksumCapability) rfl rfl,
    h.optional_flag (f := .hasResponseChecksumCapability) rfl rfl,
    h.optional_flag (f := .supportsSigv4aRegionSet) rfl rfl]
  rfl

theorem withoutLevelFlag (h : m.WrittenIn pairs) : m.WrittenIn (withoutLevelFlag pairs) where
  known p hp := h.known p (mem_withoutLevelFlag.mp hp).1
  given f := by
    refine (h.given f).imp_left fun hf => mem_withoutLevelFlag.mpr ⟨hf, fun s hs he => ?_⟩
    have hn : f.name = s := Text.ofString_inj (Value.text.inj he)
    exact levelFlag_not_mem_spellings f s hs (hn ▸ f.name_mem_spellings)

/-- Besides the configuration flag there are only fields. -/
theorem field_of_mem (h : m.WrittenIn pairs) {p : Value × Value}
    (hp : p ∈ Capability.withoutLevelFlag pairs) :
    ∃ f : Field, p = (.text f.name, m.fieldValue f) := by
  obtain ⟨hp, hn⟩ := mem_withoutLevelFlag.mp hp
  refine (h.known p hp).resolve_right fun hf => ?_
  obtain ⟨s, hs, rfl⟩ := List.mem_map.mp hf
  exact hn s hs rfl

/-- No key of a written model is at fault. -/
theorem keyIssues_eq_nil (h : m.WrittenIn pairs) :
    keyIssues (Capability.withoutLevelFlag pairs) = [] := by
  rw [keyIssues, List.filterMap_eq_nil_iff]
  intro p hp
  obtain ⟨f, rfl⟩ := h.field_of_mem hp
  -- A key counts as known if some field was found under it, and here its own field was.
  have hg : given? (Capability.withoutLevelFlag pairs) f.spellings =
      some (f.name, m.fieldValue f) := by
    refine (h.withoutLevelFlag.given?_field f).resolve_right fun hn => ?_
    exact given?_eq_none_iff.mp hn.1 _ f.name_mem_spellings _ hp
  have hu : Text.ofString f.name ∈ usedKeys (Capability.withoutLevelFlag pairs) := by
    refine List.mem_filterMap.mpr ⟨f, f.mem_all, ?_⟩
    rw [hg]
    rfl
  simp only [keyIssue?, Value.asText?, List.contains_iff_mem, hu, if_true]

theorem not_isBrokenKey (h : m.WrittenIn pairs) :
    ((Capability.withoutLevelFlag pairs).any fun p => isBrokenKey p.1) = false := by
  rw [List.any_eq_false]
  intro p hp
  obtain ⟨f, rfl⟩ := h.field_of_mem hp
  simp only [isBrokenKey, Text.isWhole_ofString, Bool.not_true, Bool.false_eq_true,
    not_false_eq_true]

theorem lookup_name (h : m.WrittenIn pairs) (f : Field) :
    Value.lookup pairs f.name = some (m.fieldValue f) ∨
      (Value.lookup pairs f.name = none ∧ m.fieldValue f = ({} : Capability).fieldValue f) := by
  cases hl : Value.lookup pairs f.name with
  | none => exact Or.inr ⟨rfl, (h.given f).resolve_left (Value.lookup_eq_none_iff.mp hl _)⟩
  | some v =>
    left
    rcases h.of_mem (Value.mem_of_lookup hl) with ⟨g, hg, rfl⟩ | ⟨hf, -⟩
    · have hm : g.name ∈ f.spellings := hg ▸ f.name_mem_spellings
      rw [eq_of_mem_spellings g.name_mem_spellings hm]
    · exact absurd f.name_mem_spellings (levelFlag_not_mem_spellings f _ hf)

/-- The configuration type counts as given exactly if the model has one. -/
theorem givesConfigType_eq (h : m.WrittenIn pairs) :
    givesConfigType pairs = m.hasServiceLevelConfig := by
  -- The type is looked for under both spellings, and stands under the snake-case one if at all.
  have hcamel : Value.lookup pairs (Text.ofString "serviceConfigType") = none := by
    rw [Value.lookup_eq_none_iff]
    intro v hv
    rcases h.of_mem hv with ⟨f, hf, -⟩ | ⟨hf, -⟩
    · revert hf
      cases f <;> decide
    · exact absurd hf (by decide)
  have hsnake := h.lookup_name .serviceConfigType
  rw [Field.name] at hsnake
  rw [← isTruthy_nameValue]
  rcases hsnake with hl | ⟨hl, hd⟩
  · simp only [givesConfigType, List.any_cons, List.any_nil, hl, hcamel, Bool.or_false]
    rfl
  · simp only [givesConfigType, List.any_cons, List.any_nil, hl, hcamel, Bool.or_false]
    exact (congrArg Value.isTruthy hd).symm

/-- The flag that is written with a model agrees with it. -/
theorem levelFlagAgrees_eq_true (h : m.WrittenIn pairs) : levelFlagAgrees pairs = true := by
  cases hg : given? pairs levelFlagSpellings.reverse with
  | none => rw [levelFlagAgrees, levelFlag?, hg]; rfl
  | some p =>
    obtain ⟨s, v⟩ := p
    obtain ⟨hs, hv⟩ := mem_of_given? hg
    -- Whichever spelling decides, the flag under it is the model's own.
    have hb : v = .bool m.hasServiceLevelConfig := by
      rcases h.of_mem hv with ⟨f, rfl, -⟩ | ⟨-, hb⟩
      · exact absurd f.name_mem_spellings
          (levelFlag_not_mem_spellings f _ (List.mem_reverse.mp hs))
      · exact hb
    rw [levelFlagAgrees, levelFlag?, hg, hb, h.givesConfigType_eq]
    exact beq_self_eq_true m.hasServiceLevelConfig

/-- A mapping that says what a model is, is read as that model. -/
theorem decode_eq (h : m.WrittenIn pairs) : decode (.mapping pairs) = .ok m := by
  simp only [decode, record, h.levelFlagAgrees_eq_true, h.not_isBrokenKey,
    h.withoutLevelFlag.fields_eq, h.keyIssues_eq_nil, if_true, Bool.false_eq_true, if_false,
    Checked.withIssues]

end WrittenIn

theorem mem_toPairs (m : Capability) (f : Field) : (.text f.name, m.fieldValue f) ∈ m.toPairs :=
  List.mem_map_of_mem f.mem_all

/-- All fields of a model, with or without the configuration flag and in any order, say what the
model is. -/
theorem writtenIn_of_perm {m : Capability} {flags pairs : Pairs}
    (hf : flags.Sublist m.levelFlagPairs) (hp : pairs.Perm (m.toPairs ++ flags)) :
    m.WrittenIn pairs where
  known p h := by
    rcases List.mem_append.mp (hp.mem_iff.mp h) with ht | hl
    · obtain ⟨f, -, rfl⟩ := List.mem_map.mp ht
      exact Or.inl ⟨f, rfl⟩
    · exact Or.inr (hf.subset hl)
  given f := Or.inl (hp.mem_iff.mpr (List.mem_append_left flags (m.mem_toPairs f)))

end Capability

end ClientBuilder
