import ClientBuilder.Proofs.Capability.LevelFlag
import ClientBuilder.Setter.Name
import Mathlib.Data.List.Nodup

/-!
The grammar of capability models. A mapping with texts as keys is read as a model exactly if its
configuration flag agrees with the configuration type, each other key is a spelling of a field, no
field is given twice and each value fits its field; the order of the keys and the choice of their
spellings make no difference.
-/

namespace ClientBuilder

open Validation

namespace OrderedMap

variable {α : Type}

theorem get?_eq_some_iff {m : OrderedMap α} {name : Text} {a : α} :
    m.get? name = some a ↔ (name, a) ∈ m.pairs := by
  rw [get?, List.lookup_eq_some_iff]
  constructor
  · rintro ⟨before, after, hm, -⟩
    rw [hm]
    exact List.mem_append_right before List.mem_cons_self
  · intro h
    obtain ⟨before, after, hm⟩ := List.append_of_mem h
    refine ⟨before, after, hm, fun p hp => ?_⟩
    -- The name stands behind these pairs, so it does not stand in them.
    have hd := m.nodup_keys
    rw [hm, List.map_append, List.nodup_append] at hd
    have hne := hd.2.2 p.1 (List.mem_map_of_mem hp) name List.mem_cons_self
    rw [bne_iff_ne]
    exact hne.symm

theorem mem_keys_iff {m : OrderedMap α} {name : Text} :
    name ∈ m.keys ↔ ∃ a, (name, a) ∈ m.pairs := by
  simp only [keys, List.mem_map, Prod.exists, exists_and_right, exists_eq_right]

def toPairs (raw : OrderedMap Value) : Pairs :=
  raw.pairs.map fun p => (.text p.1, p.2)

theorem mem_toPairs_iff {raw : OrderedMap Value} {p : Value × Value} :
    p ∈ raw.toPairs ↔ ∃ s v, (s, v) ∈ raw.pairs ∧ p = (.text s, v) := by
  simp only [toPairs, List.mem_map, Prod.exists, eq_comm]

/-- Among keys that are all texts, looking up is that of the mapping. -/
theorem lookup_toPairs (raw : OrderedMap Value) (name : Text) :
    Value.lookup raw.toPairs name = raw.get? name := by
  rw [toPairs, get?]
  induction raw.pairs with
  | nil => rfl
  | cons p r ih =>
    obtain ⟨k, v⟩ := p
    rw [Value.lookup] at ih ⊢
    have ht : (Value.text k).isText name = (k == name) := rfl
    by_cases hk : k = name
    · subst hk
      simp only [List.map_cons, List.find?_cons, ht, beq_self_eq_true, Option.map_some,
        List.lookup_cons_self]
    · have hb : (k == name) = false := beq_eq_false_iff_ne.mpr hk
      have hb' : (name == k) = false := beq_eq_false_iff_ne.mpr (Ne.symm hk)
      simp only [List.map_cons, List.find?_cons, ht, hb, List.lookup_cons, hb', ih]

end OrderedMap

namespace Capability

def camelCase : List Char → List Char
  | '_' :: c :: r => Setter.upper c :: camelCase r
  | c :: r => c :: camelCase r
  | [] => []

/-- A text is an accepted spelling of a field: in snake case, in camel case, or for one of the
fields with another capital in it. -/
def Field.Spells (f : Field) (s : Text) : Prop :=
  s = f.name ∨ s = .ofChars (camelCase f.name.toList) ∨
    f = .supportsSigv4aRegionSet ∧ s = "supportsSigV4aRegionSet"

theorem Field.spellings_eq (f : Field) :
    f.spellings = if f = .supportsSigv4aRegionSet
      then [f.name, "supportsSigV4aRegionSet", String.ofList (camelCase f.name.toList)]
      else [String.ofList (camelCase f.name.toList), f.name] := by
  have hall : ∀ f ∈ Field.all, f.spellings = if f = .supportsSigv4aRegionSet
      then [f.name, "supportsSigV4aRegionSet", String.ofList (camelCase f.name.toList)]
      else [String.ofList (camelCase f.name.toList), f.name] := by
    decide +kernel
  exact hall f f.mem_all

/-- The accepted spellings are those in the table of the fields. -/
theorem Field.spells_iff {f : Field} {s : Text} :
    f.Spells s ↔ ∃ t ∈ f.spellings, s = .ofString t := by
  have hcamel : Text.ofString (String.ofList (camelCase f.name.toList)) =
      .ofChars (camelCase f.name.toList) := by
    rw [Text.ofString, String.toList_ofList]
  rw [Spells, f.spellings_eq, ← hcamel]
  by_cases hf : f = .supportsSigv4aRegionSet
  · rw [if_pos hf]
    simp only [hf, List.mem_cons, List.not_mem_nil, or_false, exists_eq_or_imp, exists_eq_left,
      true_and]
    exact or_congr_right or_comm
  · rw [if_neg hf]
    simp only [hf, List.mem_cons, List.not_mem_nil, or_false, exists_eq_or_imp, exists_eq_left,
      false_and]
    exact or_comm

/-- No text spells two fields. -/
theorem Field.eq_of_spells {f g : Field} {s : Text} (hf : f.Spells s) (hg : g.Spells s) :
    f = g := by
  obtain ⟨t, ht, rfl⟩ := Field.spells_iff.mp hf
  obtain ⟨u, hu, he⟩ := Field.spells_iff.mp hg
  exact eq_of_mem_spellings ht (Text.ofString_inj he ▸ hu)

theorem Field.spells_name (f : Field) : f.Spells f.name :=
  Or.inl rfl

def IsLevelFlag (s : Text) : Prop :=
  s = "hasServiceLevelConfig" ∨ s = "has_service_level_config"

theorem isLevelFlag_iff {s : Text} :
    IsLevelFlag s ↔ ∃ t ∈ levelFlagSpellings, s = .ofString t := by
  simp only [IsLevelFlag, levelFlagSpellings, List.mem_cons, List.not_mem_nil, or_false,
    exists_eq_or_imp, exists_eq_left]

/-- The configuration flag is no field. -/
theorem Field.Spells.not_isLevelFlag {f : Field} {s : Text} (h : f.Spells s) :
    ¬IsLevelFlag s := by
  rw [isLevelFlag_iff]
  rintro ⟨t, ht, rfl⟩
  obtain ⟨u, hu, he⟩ := Field.spells_iff.mp h
  exact levelFlag_not_mem_spellings f t ht (Text.ofString_inj he ▸ hu)

def countingFlag (raw : OrderedMap Value) : Option Value :=
  (raw.get? "has_service_level_config").or (raw.get? "hasServiceLevelConfig")

def TypeGiven (raw : OrderedMap Value) : Prop :=
  ∃ s v, Field.serviceConfigType.Spells s ∧ (s, v) ∈ raw.pairs ∧ v.isTruthy = true

/-- A mapping follows the grammar of capability models. -/
structure Grammatical (raw : OrderedMap Value) : Prop where
  flag : ∀ v, countingFlag raw = some v → v ≠ .null → (v.isTruthy = true ↔ TypeGiven raw)
  known : ∀ s ∈ raw.keys, IsLevelFlag s ∨ ∃ f : Field, f.Spells s
  once : ∀ f : Field, ∀ s ∈ raw.keys, ∀ t ∈ raw.keys, f.Spells s → f.Spells t → s = t
  fits : ∀ (f : Field) (s : Text) (v : Value), f.Spells s → (s, v) ∈ raw.pairs →
    ∃ a, f.content.decoder v = .ok a

/-- A model holds what a mapping gives, and elsewhere what models hold by default. -/
structure HoldsGiven (m : Capability) (raw : OrderedMap Value) : Prop where
  given : ∀ (f : Field) (s : Text) (v : Value), f.Spells s → (s, v) ∈ raw.pairs →
    f.content.decoder v = .ok (m.held f)
  absent : ∀ f : Field, (∀ s, f.Spells s → s ∉ raw.keys) → m.held f = ({} : Capability).held f
  flag : ∀ v, countingFlag raw = some v → v ≠ .null → m.hasServiceLevelConfig = v.isTruthy

section Reading

variable {raw : OrderedMap Value} {m : Capability}

theorem mem_withoutLevelFlag_toPairs {p : Value × Value} :
    p ∈ withoutLevelFlag raw.toPairs ↔
      ∃ s v, (s, v) ∈ raw.pairs ∧ ¬IsLevelFlag s ∧ p = (.text s, v) := by
  rw [mem_withoutLevelFlag, OrderedMap.mem_toPairs_iff]
  constructor
  · rintro ⟨⟨s, v, hv, rfl⟩, hn⟩
    refine ⟨s, v, hv, fun hl => ?_, rfl⟩
    obtain ⟨t, ht, rfl⟩ := isLevelFlag_iff.mp hl
    exact hn t ht rfl
  · rintro ⟨s, v, hv, hn, rfl⟩
    refine ⟨⟨s, v, hv, rfl⟩, fun t ht he => hn ?_⟩
    exact isLevelFlag_iff.mpr ⟨t, ht, Value.text.inj he⟩

theorem lookup_rest_of_mem_spellings {f : Field} {s : String} (hs : s ∈ f.spellings) :
    Value.lookup (withoutLevelFlag raw.toPairs) s = raw.get? s := by
  have hl : s ∉ levelFlagSpellings := fun hl => levelFlag_not_mem_spellings f s hl hs
  rw [lookup_withoutLevelFlag hl, OrderedMap.lookup_toPairs]

/-- Where no key is at fault, a field is found under each of its spellings that the mapping has. -/
theorem given?_rest_eq_some_iff (hk : keyIssues (withoutLevelFlag raw.toPairs) = []) {f : Field}
    {s : String} {v : Value} :
    given? (withoutLevelFlag raw.toPairs) f.spellings = some (s, v) ↔
      s ∈ f.spellings ∧ (.ofString s, v) ∈ raw.pairs := by
  rw [given?_eq_some_iff hk]
  refine and_congr_right fun hs => ?_
  rw [lookup_rest_of_mem_spellings hs, OrderedMap.get?_eq_some_iff]

theorem known_of_keyIssues (hk : keyIssues (withoutLevelFlag raw.toPairs) = []) {s : Text}
    (hs : s ∈ raw.keys) : IsLevelFlag s ∨ ∃ f : Field, f.Spells s := by
  obtain ⟨v, hv⟩ := OrderedMap.mem_keys_iff.mp hs
  by_cases hl : IsLevelFlag s
  · exact Or.inl hl
  · have hmem := mem_withoutLevelFlag_toPairs.mpr ⟨s, v, hv, hl, rfl⟩
    obtain ⟨t, ht, hu⟩ := keyIssues_eq_nil_iff.mp hk _ hmem
    obtain rfl : s = t := Option.some.inj ht
    obtain ⟨f, p, hf, rfl⟩ := mem_usedKeys_iff.mp hu
    exact Or.inr ⟨f, Field.spells_iff.mpr ⟨p.1, (mem_of_given? hf).1, rfl⟩⟩

theorem eq_of_keyIssues (hk : keyIssues (withoutLevelFlag raw.toPairs) = []) {f : Field}
    {s t : Text} (hs : s ∈ raw.keys) (ht : t ∈ raw.keys) (hfs : f.Spells s) (hft : f.Spells t) :
    s = t := by
  have hfound {u : Text} (hu : u ∈ raw.keys) (hfu : f.Spells u) :
      ∃ w v, u = .ofString w ∧
        given? (withoutLevelFlag raw.toPairs) f.spellings = some (w, v) := by
    obtain ⟨w, hw, rfl⟩ := Field.spells_iff.mp hfu
    obtain ⟨v, hv⟩ := OrderedMap.mem_keys_iff.mp hu
    exact ⟨w, v, rfl, (given?_rest_eq_some_iff hk).mpr ⟨hw, hv⟩⟩
  -- The field is found under each of the two, and there is only one that it is found under.
  obtain ⟨w, v, rfl, hw⟩ := hfound hs hfs
  obtain ⟨w', v', rfl, hw'⟩ := hfound ht hft
  rw [hw, Option.some.injEq, Prod.mk.injEq] at hw'
  rw [hw'.1]

/-- No key is at fault if each one stands for something and no two for the same field. -/
theorem keyIssues_of_known (hknown : ∀ s ∈ raw.keys, IsLevelFlag s ∨ ∃ f : Field, f.Spells s)
    (honce : ∀ f : Field, ∀ s ∈ raw.keys, ∀ t ∈ raw.keys, f.Spells s → f.Spells t → s = t) :
    keyIssues (withoutLevelFlag raw.toPairs) = [] := by
  rw [keyIssues_eq_nil_iff]
  intro p hp
  obtain ⟨s, v, hv, hl, rfl⟩ := mem_withoutLevelFlag_toPairs.mp hp
  have hs : s ∈ raw.keys := OrderedMap.mem_keys_iff.mpr ⟨v, hv⟩
  obtain ⟨f, hf⟩ := (hknown s hs).resolve_left hl
  obtain ⟨t, ht, rfl⟩ := Field.spells_iff.mp hf
  cases hg : given? (withoutLevelFlag raw.toPairs) f.spellings with
  | none => exact absurd hp (given?_eq_none_iff.mp hg t ht v)
  | some q =>
    -- Under whichever spelling the field was found, it stands under one only.
    obtain ⟨hq, hm⟩ := mem_of_given? hg
    obtain ⟨u, w, hw, -, he⟩ := mem_withoutLevelFlag_toPairs.mp hm
    obtain rfl : .ofString q.1 = u := Value.text.inj (Prod.mk.inj he).1
    have hu := OrderedMap.mem_keys_iff.mpr ⟨w, hw⟩
    have heq := honce f _ hu _ hs (Field.spells_iff.mpr ⟨q.1, hq, rfl⟩) hf
    exact ⟨_, rfl, mem_usedKeys_iff.mpr ⟨f, q, hg, heq⟩⟩

/-- A field is read from its value, whatever spelling that stands under, and otherwise left as it is
by default. -/
theorem part_eq_ok_iff (hk : keyIssues (withoutLevelFlag raw.toPairs) = []) {f : Field}
    {a : f.content.Carrier} :
    part (withoutLevelFlag raw.toPairs) f = .ok a ↔
      (∀ s v, f.Spells s → (s, v) ∈ raw.pairs → f.content.decoder v = .ok a) ∧
        ((∀ s, f.Spells s → s ∉ raw.keys) → a = f.content.absent) := by
  have hgiven {s : String} {v : Value} :
      given? (withoutLevelFlag raw.toPairs) f.spellings = some (s, v) ↔
        s ∈ f.spellings ∧ (.ofString s, v) ∈ raw.pairs := given?_rest_eq_some_iff hk
  -- The field is either found under one of its spellings or stands under none of them.
  cases hg : given? (withoutLevelFlag raw.toPairs) f.spellings with
  | none =>
    have hno : ∀ s v, f.Spells s → (s, v) ∉ raw.pairs := by
      intro s v hs hv
      obtain ⟨t, ht, rfl⟩ := Field.spells_iff.mp hs
      rw [hgiven.mpr ⟨ht, hv⟩] at hg
      cases hg
    have hkeys : ∀ s, f.Spells s → s ∉ raw.keys := by
      intro s hs hm
      obtain ⟨v, hv⟩ := OrderedMap.mem_keys_iff.mp hm
      exact hno s v hs hv
    rw [part, Validation.optional, hg]
    simp only [Checked.ok.injEq]
    constructor
    · rintro rfl
      exact ⟨fun s v hs hv => absurd hv (hno s v hs), fun _ => rfl⟩
    · rintro ⟨-, h⟩
      exact (h hkeys).symm
  | some p =>
    obtain ⟨s, v⟩ := p
    obtain ⟨hs, hv⟩ := hgiven.mp hg
    have hspells : f.Spells s := Field.spells_iff.mpr ⟨s, hs, rfl⟩
    rw [part, Validation.optional, hg]
    simp only [Checked.within_eq_ok_iff]
    constructor
    · intro hd
      refine ⟨fun t w ht hw => ?_, fun hn => ?_⟩
      · obtain ⟨u, hu, rfl⟩ := Field.spells_iff.mp ht
        have he := hgiven.mpr ⟨hu, hw⟩
        rw [hg, Option.some.injEq, Prod.mk.injEq] at he
        rw [← he.2, hd]
      · exact absurd (OrderedMap.mem_keys_iff.mpr ⟨v, hv⟩) (hn s hspells)
    · rintro ⟨h, -⟩
      exact h s v hspells hv

/-- The flag that is compared is the one that counts. -/
theorem countingFlag_eq : levelFlag? raw.toPairs = countingFlag raw := by
  rw [levelFlag?_eq, OrderedMap.lookup_toPairs, OrderedMap.lookup_toPairs, countingFlag]

theorem typeGiven_iff : givesConfigType raw.toPairs = true ↔ TypeGiven raw := by
  rw [givesConfigType_iff, TypeGiven]
  simp only [OrderedMap.lookup_toPairs, OrderedMap.get?_eq_some_iff, Field.spells_iff]
  constructor
  · rintro ⟨s, hs, v, hv, ht⟩
    exact ⟨s, v, ⟨s, hs, rfl⟩, hv, ht⟩
  · rintro ⟨_, v, ⟨s, hs, rfl⟩, hv, ht⟩
    exact ⟨s, hs, v, hv, ht⟩

theorem levelFlagAgrees_toPairs_iff : levelFlagAgrees raw.toPairs = true ↔
    ∀ v, countingFlag raw = some v → v ≠ .null → (v.isTruthy = true ↔ TypeGiven raw) := by
  rw [levelFlagAgrees_iff, countingFlag_eq]
  refine forall₃_congr fun v _ _ => ?_
  rw [Bool.eq_iff_iff, typeGiven_iff]

/-- A mapping is read as a model iff it follows the grammar and the model holds what it gives. -/
theorem decode_toPairs_eq_ok_iff :
    decode (.mapping raw.toPairs) = .ok m ↔ Grammatical raw ∧ m.HoldsGiven raw := by
  constructor
  · intro h
    obtain ⟨ha, hf, hk⟩ := decode_eq_ok_iff.mp h
    have hpart (f : Field) := (part_eq_ok_iff hk).mp (hf f)
    constructor
    · exact ⟨levelFlagAgrees_toPairs_iff.mp ha, fun s => known_of_keyIssues hk,
        fun f s hs t ht => eq_of_keyIssues hk hs ht,
        fun f s v hs hv => ⟨m.held f, (hpart f).1 s v hs hv⟩⟩
    · refine ⟨fun f => (hpart f).1, fun f hn => ?_, fun v hv hn => ?_⟩
      · rw [held_default]
        exact (hpart f).2 hn
      · exact (isTruthy_levelFlag_of_decode h (countingFlag_eq.trans hv) hn).symm
  · rintro ⟨hg, hm⟩
    have hk := keyIssues_of_known hg.known hg.once
    refine decode_eq_ok_iff.mpr ⟨levelFlagAgrees_toPairs_iff.mpr hg.flag, fun f => ?_, hk⟩
    refine (part_eq_ok_iff hk).mpr ⟨hm.given f, fun hn => ?_⟩
    rw [hm.absent f hn, held_default]

/-- What follows the grammar is read. -/
theorem Grammatical.exists_decode (hg : Grammatical raw) :
    ∃ m, decode (.mapping raw.toPairs) = .ok m := by
  have hk := keyIssues_of_known hg.known hg.once
  -- Each field can be read by itself, and a model is put together from what was read.
  have hpart : ∀ f : Field, ∃ a, part (withoutLevelFlag raw.toPairs) f = .ok a := by
    intro f
    by_cases hf : ∃ s v, f.Spells s ∧ (s, v) ∈ raw.pairs
    · obtain ⟨s, v, hs, hv⟩ := hf
      have hsk : s ∈ raw.keys := OrderedMap.mem_keys_iff.mpr ⟨v, hv⟩
      obtain ⟨a, ha⟩ := hg.fits f s v hs hv
      refine ⟨a, (part_eq_ok_iff hk).mpr ⟨fun t w ht hw => ?_, fun hn => absurd hsk (hn s hs)⟩⟩
      -- The field is given once, so this is the value it was read from.
      obtain rfl := hg.once f t (OrderedMap.mem_keys_iff.mpr ⟨w, hw⟩) s hsk ht hs
      rw [← OrderedMap.get?_eq_some_iff] at hv hw
      rw [← Option.some.inj (hv.symm.trans hw), ha]
    · exact ⟨f.content.absent, (part_eq_ok_iff hk).mpr
        ⟨fun s v hs hv => absurd ⟨s, v, hs, hv⟩ hf, fun _ => rfl⟩⟩
  obtain ⟨a, ha⟩ := Classical.axiomOfChoice hpart
  refine ⟨ofHeld a, decode_eq_ok_iff.mpr ⟨levelFlagAgrees_toPairs_iff.mpr hg.flag, ?_, hk⟩⟩
  intro f
  rw [held_ofHeld]
  exact ha f

end Reading

section Respelling

/-- Two pairs have one value, under one key or under two spellings of a field. -/
def SameEntry (p q : Text × Value) : Prop :=
  (p.1 = q.1 ∨ ∃ f : Field, f.Spells p.1 ∧ f.Spells q.1) ∧ p.2 = q.2

/-- Two mappings have the same pairs, up to their order and to the spelling of keys that stand for
fields. -/
def Respelled (raw raw' : OrderedMap Value) : Prop :=
  ∃ rows, List.Forall₂ SameEntry raw.pairs rows ∧ rows.Perm raw'.pairs

instance (f : Field) (s : Text) : Decidable (f.Spells s) :=
  inferInstanceAs (Decidable (_ ∨ _ ∨ _ ∧ _))

def canonicalKey (s : Text) : Text :=
  match Field.all.find? fun f => f.Spells s with
  | some f => f.name
  | none => s

theorem canonicalKey_of_spells {f : Field} {s : Text} (h : f.Spells s) :
    canonicalKey s = f.name := by
  rw [canonicalKey]
  cases hs : Field.all.find? fun f => f.Spells s with
  | none =>
    have hn := List.find?_eq_none.mp hs f f.mem_all
    exact absurd (decide_eq_true h) hn
  | some g =>
    have hg : decide (g.Spells s) = true :=
      List.find?_some (p := fun f : Field => decide (f.Spells s)) hs
    rw [decide_eq_true_eq] at hg
    rw [Field.eq_of_spells hg h]

theorem canonicalKey_of_not_spells {s : Text} (h : ∀ f : Field, ¬f.Spells s) :
    canonicalKey s = s := by
  have hs : (Field.all.find? fun f => f.Spells s) = none := by
    rw [List.find?_eq_none]
    intro f _
    rw [decide_eq_true_eq]
    exact h f
  rw [canonicalKey, hs]

/-- Keys have one canonical form iff they are the same or stand for the same field. -/
theorem canonicalKey_eq_iff {s t : Text} :
    canonicalKey s = canonicalKey t ↔ s = t ∨ ∃ f : Field, f.Spells s ∧ f.Spells t := by
  constructor
  · intro h
    -- The canonical form of a spelling is a spelling itself, so either both keys stand for a field
    -- or neither does.
    by_cases hs : ∃ f : Field, f.Spells s
    · obtain ⟨f, hf⟩ := hs
      rw [canonicalKey_of_spells hf] at h
      by_cases ht : ∃ g : Field, g.Spells t
      · obtain ⟨g, hg⟩ := ht
        rw [canonicalKey_of_spells hg] at h
        have hfg : f = g := Field.eq_of_spells (h ▸ f.spells_name) g.spells_name
        exact Or.inr ⟨f, hf, hfg ▸ hg⟩
      · rw [canonicalKey_of_not_spells (not_exists.mp ht)] at h
        exact absurd ⟨f, h ▸ f.spells_name⟩ ht
    · rw [canonicalKey_of_not_spells (not_exists.mp hs)] at h
      by_cases ht : ∃ g : Field, g.Spells t
      · obtain ⟨g, hg⟩ := ht
        rw [canonicalKey_of_spells hg] at h
        exact absurd ⟨g, h ▸ g.spells_name⟩ hs
      · rw [canonicalKey_of_not_spells (not_exists.mp ht)] at h
        exact Or.inl h
  · rintro (rfl | ⟨f, hs, ht⟩)
    · rfl
    · rw [canonicalKey_of_spells hs, canonicalKey_of_spells ht]

def canonicalEntry (p : Text × Value) : Text × Value :=
  (canonicalKey p.1, p.2)

/-- Entries that are the same have one canonical form. -/
theorem map_canonicalEntry_of_sameEntry {rows rows' : List (Text × Value)}
    (h : List.Forall₂ SameEntry rows rows') :
    rows.map canonicalEntry = rows'.map canonicalEntry := by
  induction h with
  | nil => rfl
  | @cons p q r r' hpq _ ih =>
    have he : canonicalEntry p = canonicalEntry q :=
      Prod.ext (canonicalKey_eq_iff.mpr hpq.1) hpq.2
    rw [List.map_cons, List.map_cons, he, ih]

def spelledOut (raw : OrderedMap Value) : List (Text × Value) :=
  raw.pairs.map canonicalEntry

variable {raw raw' : OrderedMap Value} {m : Capability}

/-- A respelling permutes the canonical entries. -/
theorem Respelled.perm (h : Respelled raw raw') : (spelledOut raw).Perm (spelledOut raw') := by
  obtain ⟨rows, hrows, hperm⟩ := h
  rw [spelledOut, map_canonicalEntry_of_sameEntry hrows]
  exact hperm.map canonicalEntry

theorem exists_of_mem (h : (spelledOut raw).Perm (spelledOut raw')) {s : Text} {v : Value}
    (hv : (s, v) ∈ raw.pairs) :
    ∃ t, (t, v) ∈ raw'.pairs ∧ (t = s ∨ ∃ f : Field, f.Spells t ∧ f.Spells s) := by
  have hm : (canonicalKey s, v) ∈ spelledOut raw' :=
    h.mem_iff.mp (List.mem_map_of_mem (f := canonicalEntry) hv)
  obtain ⟨⟨t, w⟩, ht, he⟩ := List.mem_map.mp hm
  obtain ⟨hk, rfl⟩ := Prod.mk.inj he
  exact ⟨t, ht, canonicalKey_eq_iff.mp hk⟩

/-- What one mapping gives for a field, the other one gives as well. -/
theorem exists_spelling_of_mem (h : (spelledOut raw).Perm (spelledOut raw')) {f : Field} {s : Text}
    {v : Value} (hs : f.Spells s) (hv : (s, v) ∈ raw.pairs) :
    ∃ t, f.Spells t ∧ (t, v) ∈ raw'.pairs := by
  obtain ⟨t, ht, rfl | ⟨g, hgt, hgs⟩⟩ := exists_of_mem h hv
  · exact ⟨t, hs, ht⟩
  · exact ⟨t, Field.eq_of_spells hgs hs ▸ hgt, ht⟩

theorem mem_of_isLevelFlag (h : (spelledOut raw).Perm (spelledOut raw')) {s : Text} {v : Value}
    (hs : IsLevelFlag s) (hv : (s, v) ∈ raw.pairs) : (s, v) ∈ raw'.pairs := by
  obtain ⟨t, ht, rfl | ⟨f, -, hf⟩⟩ := exists_of_mem h hv
  · exact ht
  · exact absurd hs hf.not_isLevelFlag

/-- A respelling keeps the flag that counts. -/
theorem countingFlag_congr (h : (spelledOut raw).Perm (spelledOut raw')) :
    countingFlag raw = countingFlag raw' := by
  -- The flag is no field, so both of its keys stay as they are.
  have hget {s : Text} (hs : IsLevelFlag s) : raw.get? s = raw'.get? s := by
    ext v
    rw [OrderedMap.get?_eq_some_iff, OrderedMap.get?_eq_some_iff]
    exact ⟨mem_of_isLevelFlag h hs, mem_of_isLevelFlag h.symm hs⟩
  rw [countingFlag, countingFlag, hget (Or.inl rfl), hget (Or.inr rfl)]

theorem typeGiven_congr (h : (spelledOut raw).Perm (spelledOut raw')) :
    TypeGiven raw ↔ TypeGiven raw' := by
  have himp {r r' : OrderedMap Value} (h : (spelledOut r).Perm (spelledOut r')) :
      TypeGiven r → TypeGiven r' := by
    rintro ⟨s, v, hs, hv, ht⟩
    obtain ⟨t, ht', hv'⟩ := exists_spelling_of_mem h hs hv
    exact ⟨t, v, ht', hv', ht⟩
  exact ⟨himp h, himp h.symm⟩

theorem map_fst_spelledOut (raw : OrderedMap Value) :
    (spelledOut raw).map (·.1) = raw.keys.map canonicalKey := by
  rw [spelledOut, OrderedMap.keys, List.map_map, List.map_map]
  rfl

/-- No field is given twice iff no canonical key stands twice. -/
theorem nodup_spelledOut_iff :
    ((spelledOut raw).map (·.1)).Nodup ↔
      ∀ f : Field, ∀ s ∈ raw.keys, ∀ t ∈ raw.keys, f.Spells s → f.Spells t → s = t := by
  rw [map_fst_spelledOut]
  constructor
  · intro hn f s hs t ht hfs hft
    exact List.inj_on_of_nodup_map hn hs ht (canonicalKey_eq_iff.mpr (Or.inr ⟨f, hfs, hft⟩))
  · intro honce
    refine List.Nodup.map_on (fun s hs t ht he => ?_) raw.nodup_keys
    rcases canonicalKey_eq_iff.mp he with heq | ⟨f, hfs, hft⟩
    · exact heq
    · exact honce f s hs t ht hfs hft

/-- The grammar sees canonical entries only, and not their order. -/
theorem Grammatical.of_perm (hg : Grammatical raw) (h : (spelledOut raw).Perm (spelledOut raw')) :
    Grammatical raw' where
  flag v hv hn := by
    rw [← countingFlag_congr h] at hv
    rw [hg.flag v hv hn, typeGiven_congr h]
  known s hs := by
    obtain ⟨v, hv⟩ := OrderedMap.mem_keys_iff.mp hs
    obtain ⟨t, ht, rfl | ⟨f, -, hf⟩⟩ := exists_of_mem h.symm hv
    · exact hg.known t (OrderedMap.mem_keys_iff.mpr ⟨v, ht⟩)
    · exact Or.inr ⟨f, hf⟩
  once := nodup_spelledOut_iff.mp ((h.map _).nodup_iff.mp (nodup_spelledOut_iff.mpr hg.once))
  fits f s v hs hv := by
    obtain ⟨t, ht, hv'⟩ := exists_spelling_of_mem h.symm hs hv
    exact hg.fits f t v ht hv'

/-- What a mapping gives lies in its canonical entries. -/
theorem HoldsGiven.of_perm (hm : m.HoldsGiven raw) (h : (spelledOut raw).Perm (spelledOut raw')) :
    m.HoldsGiven raw' where
  given f s v hs hv := by
    obtain ⟨t, ht, hv'⟩ := exists_spelling_of_mem h.symm hs hv
    exact hm.given f t v ht hv'
  absent f hn := by
    refine hm.absent f fun s hs hk => ?_
    obtain ⟨v, hv⟩ := OrderedMap.mem_keys_iff.mp hk
    obtain ⟨t, ht, hv'⟩ := exists_spelling_of_mem h hs hv
    exact hn t ht (OrderedMap.mem_keys_iff.mpr ⟨v, hv'⟩)
  flag v hv hn := by
    rw [← countingFlag_congr h] at hv
    exact hm.flag v hv hn

end Respelling

/-- A mapping is read as some model iff it follows the grammar; the model then holds what the
mapping gives, and every mapping with the same pairs, in any order and with other spellings of the
fields, is read as the same model. -/
theorem decode_iff_grammatical (raw : OrderedMap Value) :
    ((∃ m, decode (.mapping raw.toPairs) = .ok m) ↔ Grammatical raw) ∧
      (∀ m, decode (.mapping raw.toPairs) = .ok m ↔ Grammatical raw ∧ m.HoldsGiven raw) ∧
        ∀ raw', Respelled raw raw' → ∀ m,
          decode (.mapping raw.toPairs) = .ok m ↔ decode (.mapping raw'.toPairs) = .ok m := by
  refine ⟨⟨?_, Grammatical.exists_decode⟩, fun m => decode_toPairs_eq_ok_iff, ?_⟩
  · rintro ⟨m, h⟩
    exact (decode_toPairs_eq_ok_iff.mp h).1
  · intro raw' h m
    rw [decode_toPairs_eq_ok_iff, decode_toPairs_eq_ok_iff]
    constructor
    · rintro ⟨hg, hm⟩
      exact ⟨hg.of_perm h.perm, hm.of_perm h.perm⟩
    · rintro ⟨hg, hm⟩
      exact ⟨hg.of_perm h.perm.symm, hm.of_perm h.perm.symm⟩

def snakeFields : OrderedMap Value where
  pairs := [("hasServiceLevelConfig", .text "yes"), ("service_config_type", .text "Queue"),
    ("supportsSigV4aRegionSet", .int 1)]
  nodup_keys := by decide

def camelFields : OrderedMap Value where
  pairs := [("supports_sigv4a_region_set", .int 1), ("hasServiceLevelConfig", .text "yes"),
    ("serviceConfigType", .text "Queue")]
  nodup_keys := by decide

theorem snakeFields_respelled :
    let m : Capability := { serviceConfigType := some "Queue", supportsSigv4aRegionSet := true }
    Respelled snakeFields camelFields ∧ Grammatical snakeFields ∧ m.HoldsGiven snakeFields ∧
      decode (.mapping camelFields.toPairs) = .ok m := by
  intro m
  have hd : decode (.mapping snakeFields.toPairs) = .ok m := by
    decide +kernel
  have hr : Respelled snakeFields camelFields := by
    let rows : List (Text × Value) := [("hasServiceLevelConfig", .text "yes"),
      ("serviceConfigType", .text "Queue")]
    let last : Text × Value := ("supports_sigv4a_region_set", .int 1)
    have htype : Field.serviceConfigType.Spells "serviceConfigType" :=
      Field.spells_iff.mpr ⟨"serviceConfigType", by decide, rfl⟩
    have hset : Field.supportsSigv4aRegionSet.Spells "supportsSigV4aRegionSet" :=
      Or.inr (Or.inr ⟨rfl, rfl⟩)
    refine ⟨rows ++ [last], ?_, List.perm_append_singleton last rows⟩
    exact .cons ⟨Or.inl rfl, rfl⟩ (.cons ⟨Or.inr ⟨_, Field.spells_name _, htype⟩, rfl⟩
      (.cons ⟨Or.inr ⟨_, hset, Field.spells_name _⟩, rfl⟩ .nil))
  obtain ⟨hg, hh, hother⟩ := decode_iff_grammatical snakeFields
  exact ⟨hr, hg.mp ⟨m, hd⟩, ((hh m).mp hd).2, (hother _ hr m).mp hd⟩

end Capability

end ClientBuilder
