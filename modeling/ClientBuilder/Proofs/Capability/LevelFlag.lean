import ClientBuilder.Proofs.Capability.Fields

namespace ClientBuilder

open Validation

theorem Value.lookup_erase_of_ne {pairs : Pairs} {name other : Text} (h : name ≠ other) :
    lookup (erase pairs other) name = lookup pairs name := by
  have hp (p : Value × Value) :
      decide ((!p.1.isText other) = true ∧ p.1.isText name = true) = p.1.isText name := by
    cases hn : p.1.isText name with
    | false => simp only [Bool.false_eq_true, and_false, decide_false]
    | true =>
      -- A key that is one text is not another one.
      have ho : p.1.isText other = false := by
        rw [isText_iff.mp hn, ← Bool.not_eq_true, isText_iff, text.injEq]
        exact h
      simp only [ho, Bool.not_false, and_self, decide_true]
  simp only [lookup, erase, List.find?_filter, hp]

/-- Only the empty row of bytes is an empty text. -/
theorem Text.isEmpty_ofUtf8? {content : List UInt8} {s : String} (h : ofUtf8? content = some s) :
    (ofString s).isEmpty = content.isEmpty := by
  rw [ofUtf8?, String.fromUTF8?] at h
  split at h
  · obtain rfl := Option.some.inj h
    have he : ofString (String.fromUTF8 ⟨content.toArray⟩ ‹_›) = [] ↔ content = [] := by
      rw [ofString, ofChars, List.map_eq_nil_iff, String.toList_eq_nil_iff,
        ← String.toByteArray_inj, String.toByteArray_empty]
      simp only [String.fromUTF8, ByteArray.ext_iff, ByteArray.data_empty, List.toArray_eq_iff]
    rw [Bool.eq_iff_iff, List.isEmpty_iff, List.isEmpty_iff, he]
  · cases h

namespace Capability

variable {pairs : Pairs} {m : Capability}

/-- A value that is read as a name counts as given iff the name is there and not empty. -/
theorem isTruthy_of_nullable {v : Value} {name : Option Text}
    (h : nullable Validation.text v = .ok name) : v.isTruthy = (nameValue name).isTruthy := by
  cases v with
  | null =>
    cases h
    rfl
  | text s =>
    cases h
    rfl
  | bytes content =>
    obtain ⟨s, hs, rfl⟩ := Checked.map_eq_ok_iff.mp h
    cases hu : Text.ofUtf8? content with
    | none =>
      simp only [Validation.text, Value.asText?, hu, Option.map_none, Checked.fail,
        reduceCtorEq] at hs
    | some t =>
      simp only [Validation.text, Value.asText?, hu, Option.map_some, Checked.ok.injEq] at hs
      -- Bytes are read as the text that they encode, so one is empty if the other is.
      rw [nameValue, Value.isTruthy, Value.isTruthy, ← hs, Text.isEmpty_ofUtf8? hu]
  | _ => cases h

theorem lookup_withoutLevelFlag {s : String} (hs : s ∉ levelFlagSpellings) :
    Value.lookup (withoutLevelFlag pairs) s = Value.lookup pairs s := by
  have hne {t : String} (ht : t ∈ levelFlagSpellings) : Text.ofString s ≠ Text.ofString t :=
    fun he => hs (Text.ofString_inj he ▸ ht)
  simp only [withoutLevelFlag, levelFlagSpellings, List.foldl_cons, List.foldl_nil]
  rw [Value.lookup_erase_of_ne (hne (by decide)), Value.lookup_erase_of_ne (hne (by decide))]

theorem givesConfigType_iff :
    givesConfigType pairs = true ↔ ∃ s ∈ Field.serviceConfigType.spellings, ∃ v,
      Value.lookup pairs (s : String) = some v ∧ v.isTruthy = true := by
  have hswap : List.Perm ["service_config_type", "serviceConfigType"]
      Field.serviceConfigType.spellings := List.Perm.swap _ _ _
  rw [givesConfigType, List.any_eq_true]
  constructor
  · rintro ⟨s, hs, ht⟩
    cases hv : Value.lookup pairs s with
    | none => simp only [hv, Bool.false_eq_true] at ht
    | some v =>
      simp only [hv] at ht
      exact ⟨s, hswap.mem_iff.mp hs, v, hv, ht⟩
  · rintro ⟨s, hs, v, hv, ht⟩
    refine ⟨s, hswap.mem_iff.mpr hs, ?_⟩
    simp only [hv, ht]

/-- A configuration type counts as given in a mapping iff it does in the model that is read. -/
theorem givesConfigType_of_decode (h : decode (.mapping pairs) = .ok m) :
    givesConfigType pairs = m.hasServiceLevelConfig := by
  obtain ⟨-, hf, hk⟩ := decode_eq_ok_iff.mp h
  have hpart := hf .serviceConfigType
  have hgiven : givesConfigType pairs = true ↔
      ∃ s v, given? (withoutLevelFlag pairs) Field.serviceConfigType.spellings = some (s, v) ∧
        v.isTruthy = true := by
    rw [givesConfigType_iff]
    constructor
    · rintro ⟨s, hs, v, hv, ht⟩
      have hl : s ∉ levelFlagSpellings := fun hl => levelFlag_not_mem_spellings _ s hl hs
      exact ⟨s, v, (given?_eq_some_iff hk).mpr ⟨hs, (lookup_withoutLevelFlag hl).trans hv⟩, ht⟩
    · rintro ⟨s, v, hg, ht⟩
      obtain ⟨hs, hv⟩ := (given?_eq_some_iff hk).mp hg
      have hl : s ∉ levelFlagSpellings := fun hl => levelFlag_not_mem_spellings _ s hl hs
      exact ⟨s, hs, v, (lookup_withoutLevelFlag hl).symm.trans hv, ht⟩
  rw [← isTruthy_nameValue, Bool.eq_iff_iff, hgiven]
  cases hg : given? (withoutLevelFlag pairs) Field.serviceConfigType.spellings with
  | none =>
    have hn : m.serviceConfigType = none := by
      simp only [part, Validation.optional, hg] at hpart
      exact (Checked.ok.inj hpart).symm
    simp only [hn, reduceCtorEq, false_and, exists_false, nameValue, Value.isTruthy,
      Bool.false_eq_true]
  | some p =>
    obtain ⟨s, v⟩ := p
    have ht : v.isTruthy = (nameValue m.serviceConfigType).isTruthy := by
      simp only [part, Validation.optional, hg] at hpart
      exact isTruthy_of_nullable (Checked.within_eq_ok_iff.mp hpart)
    rw [← ht]
    constructor
    · rintro ⟨t, w, he, hw⟩
      cases he
      exact hw
    · intro hv
      exact ⟨s, v, rfl, hv⟩

/-- The flag in snake case counts, and the other one only where that is not given. -/
theorem levelFlag?_eq (pairs : Pairs) :
    levelFlag? pairs = (Value.lookup pairs "has_service_level_config").or
      (Value.lookup pairs "hasServiceLevelConfig") := by
  have hr : levelFlagSpellings.reverse = ["has_service_level_config", "hasServiceLevelConfig"] :=
    rfl
  rw [levelFlag?, hr, given?, List.findSome?_cons, List.findSome?_cons, List.findSome?_nil]
  cases Value.lookup pairs "has_service_level_config" with
  | some v => rfl
  | none => cases Value.lookup pairs "hasServiceLevelConfig" <;> rfl

/-- What it means for the flag to agree with the type. -/
theorem levelFlagAgrees_iff : levelFlagAgrees pairs = true ↔
    ∀ v, levelFlag? pairs = some v → v ≠ .null → v.isTruthy = givesConfigType pairs := by
  rw [levelFlagAgrees]
  cases levelFlag? pairs with
  | none => simp only [reduceCtorEq, false_imp_iff, implies_true]
  | some v =>
    simp only [Option.some.injEq, forall_eq']
    cases v with
    | null => simp only [ne_eq, not_true_eq_false, false_imp_iff]
    | _ => simp only [ne_eq, reduceCtorEq, not_false_eq_true, true_imp_iff, beq_iff_eq]

theorem isTruthy_levelFlag_of_decode (h : decode (.mapping pairs) = .ok m) {v : Value}
    (hv : levelFlag? pairs = some v) (hn : v ≠ .null) : v.isTruthy = m.hasServiceLevelConfig := by
  have ha := levelFlagAgrees_iff.mp (decode_eq_ok_iff.mp h).1 v hv hn
  rw [ha, givesConfigType_of_decode h]

/-- Where the flag in snake case is given, nothing depends on the other one. -/
theorem decode_of_erase_eq {pairs' : Pairs} {v : Value}
    (hv : Value.lookup pairs "has_service_level_config" = some v)
    (he : Value.erase pairs' "hasServiceLevelConfig" =
      Value.erase pairs "hasServiceLevelConfig") :
    decode (.mapping pairs') = decode (.mapping pairs) := by
  have hlookup {s : String} (hs : s ≠ "hasServiceLevelConfig") :
      Value.lookup pairs' s = Value.lookup pairs s := by
    have hne : Text.ofString s ≠ Text.ofString "hasServiceLevelConfig" :=
      fun h => hs (Text.ofString_inj h)
    rw [← Value.lookup_erase_of_ne hne, he, Value.lookup_erase_of_ne hne]
  have hflag : levelFlag? pairs' = levelFlag? pairs := by
    rw [levelFlag?_eq, levelFlag?_eq, hlookup (by decide), hv, Option.some_or, Option.some_or]
  have htype : givesConfigType pairs' = givesConfigType pairs := by
    simp only [givesConfigType, List.any_cons, List.any_nil,
      hlookup (s := "service_config_type") (by decide),
      hlookup (s := "serviceConfigType") (by decide)]
  have hrest : withoutLevelFlag pairs' = withoutLevelFlag pairs := by
    simp only [withoutLevelFlag, levelFlagSpellings, List.foldl_cons, List.foldl_nil, he]
  have hagrees : levelFlagAgrees pairs' = levelFlagAgrees pairs := by
    rw [levelFlagAgrees, levelFlagAgrees, hflag, htype]
  simp only [decode, record, hagrees, hrest]

/-- In a mapping that is read as a model, a flag that is given and not null says whether the model
has a configuration type, unless it stands in camel case beside the one in snake case; there any
other value, or none, makes the same model. -/
theorem levelFlag_of_decode {pairs : Pairs} {m : Capability}
    (h : decode (.mapping pairs) = .ok m) :
    (∀ v, Value.lookup pairs "has_service_level_config" = some v → v ≠ .null →
      v.isTruthy = m.hasServiceLevelConfig) ∧
    (∀ v, Value.lookup pairs "hasServiceLevelConfig" = some v → v ≠ .null →
      Value.lookup pairs "has_service_level_config" = none →
        v.isTruthy = m.hasServiceLevelConfig) ∧
    (∀ v, Value.lookup pairs "has_service_level_config" = some v →
      ∀ pairs', Value.erase pairs' "hasServiceLevelConfig" =
          Value.erase pairs "hasServiceLevelConfig" →
        decode (.mapping pairs') = .ok m) := by
  refine ⟨fun v hv hn => ?_, fun v hv hn hs => ?_, fun v hv pairs' he => ?_⟩
  · exact isTruthy_levelFlag_of_decode h (by rw [levelFlag?_eq, hv, Option.some_or]) hn
  · exact isTruthy_levelFlag_of_decode h (by rw [levelFlag?_eq, hs, hv, Option.none_or]) hn
  · exact (decode_of_erase_eq hv he).trans h

def flaggedPairs (camel snake : Value) : Pairs :=
  [(.text "hasServiceLevelConfig", camel), (.text "serviceConfigType", .text "QueueConfiguration"),
    (.text "has_service_level_config", snake)]

/-- A flag in camel case beside the one in snake case says what it likes. -/
theorem flaggedPairs_same_model :
    let m : Capability := { serviceConfigType := some "QueueConfiguration" }
    decode (.mapping (flaggedPairs .null (.int 1))) = .ok m ∧
      (Value.int 1).isTruthy = m.hasServiceLevelConfig ∧
        decode (.mapping (flaggedPairs (.bool false) (.int 1))) = .ok m := by
  intro m
  have h : decode (.mapping (flaggedPairs .null (.int 1))) = .ok m := by
    decide +kernel
  have hv : Value.lookup (flaggedPairs .null (.int 1)) "has_service_level_config" =
      some (.int 1) := rfl
  obtain ⟨hsnake, -, hother⟩ := levelFlag_of_decode h
  exact ⟨h, hsnake _ hv (by simp only [ne_eq, reduceCtorEq, not_false_eq_true]), hother _ hv _ rfl⟩

/-- A flag in camel case can say the opposite of what the model has. -/
theorem levelFlag_passed_over :
    let pairs : Pairs := [(.text "hasServiceLevelConfig", .bool true),
      (.text "has_service_level_config", .bool false)]
    decode (.mapping pairs) = .ok {} ∧
      Value.lookup pairs "hasServiceLevelConfig" = some (.bool true) ∧
        (Value.bool true).isTruthy ≠ ({} : Capability).hasServiceLevelConfig := by
  refine ⟨rfl, rfl, ?_⟩
  decide

end Capability

end ClientBuilder
