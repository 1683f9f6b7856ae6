import ClientBuilder.Contract.Decode
import ClientBuilder.ModelFile.Synthesize
import ClientBuilder.Proofs.Contract.Texts
import ClientBuilder.Proofs.Json.RoundTrip
import ClientBuilder.Value.OfJson

/-!
The hand-over of contracts. A contract that is written as JSON and read back is the same contract,
but for the halves of characters: where two of them stand next to each other in a text, the text
comes back with the character. Nothing else is lost, so contracts that differ in anything else never
have the same JSON.
-/

namespace ClientBuilder

open Validation

/-! ### Contracts as JSON -/

theorem Parameter.paired_toJson (p : Parameter) :
    p.toJson.paired = (p.mapTexts Text.paired).toJson := by
  simp only [toJson, Json.paired, Json.pairedFields, Text.paired_ofString, mapTexts]

theorem Json.paired_ofText? (t : Option Text) :
    (Json.ofText? t).paired = Json.ofText? (t.map Text.paired) := by
  cases t <;> rfl

theorem Json.paired_ofTexts (texts : List Text) :
    (Json.ofTexts texts).paired = Json.ofTexts (texts.map Text.paired) := by
  simp only [ofTexts, paired, pairedItems_eq_map, List.map_map, Function.comp_def]

/-- Pairing the strings of a JSON method is pairing the texts of the method. -/
theorem Method.paired_toJson (m : Method) :
    m.toJson.paired = (m.mapTexts Text.paired).toJson := by
  simp only [toJson, Json.paired, Json.pairedFields, Text.paired_ofString, mapTexts,
    Json.pairedItems_eq_map, List.map_map, Function.comp_def, Parameter.paired_toJson,
    Json.paired_ofText?]

theorem Contract.paired_toFields (c : Contract) :
    Json.pairedFields c.toFields = c.paired.toFields := by
  simp only [toFields, Json.paired, Json.pairedFields, Text.paired_ofString, paired, mapTexts,
    Json.pairedItems_eq_map, List.map_map, Function.comp_def, Method.paired_toJson,
    Json.paired_ofTexts]

/-! ### Contracts read from JSON -/

theorem required_of_lookup {α : Type} {d : Decoder α} {pairs : Pairs} {s : String} {v : Value}
    {a : α} (hv : Value.lookup pairs s = some v) (ha : d v = .ok a) :
    required [s] d pairs = .ok a := by
  simp only [required, given?, List.findSome?_cons, hv, Option.map_some, ha, Checked.within]

theorem optional_of_lookup {α : Type} {d : Decoder α} {pairs : Pairs} {s : String} {v : Value}
    {absent a : α} (hv : Value.lookup pairs s = some v) (ha : d v = .ok a) :
    optional [s] absent d pairs = .ok a := by
  simp only [Validation.optional, given?, List.findSome?_cons, hv, Option.map_some, ha,
    Checked.within]

/-- A list is read back if each item is. -/
theorem list_ofJson {α : Type} {d : Decoder α} {f : α → Json}
    (h : ∀ a, d (Value.ofJson (f a)) = .ok a) (as : List α) :
    list d (Value.ofJson (.array (as.map f))) = .ok as := by
  have hitems (index : Nat) : items d index (Value.ofJsonItems (as.map f)) = .ok as := by
    induction as generalizing index with
    | nil => rfl
    | cons a r ih =>
      rw [List.map_cons, Value.ofJsonItems, items, h, ih]
      rfl
  exact hitems 0

theorem nullable_ofJson (t : Option Text) :
    nullable text (Value.ofJson (Json.ofText? t)) = .ok t := by
  cases t <;> rfl

theorem OverridePolicy.decode_text (p : OverridePolicy) :
    OverridePolicy.decode (.text p.text) = .ok p := by
  rw [decode, ofText?_text]

theorem Parameter.decode_toJson (p : Parameter) :
    Parameter.decode (Value.ofJson p.toJson) = .ok p := rfl

/-- A method is read back from its JSON. -/
theorem Method.decode_toJson (m : Method) : Method.decode (Value.ofJson m.toJson) = .ok m := by
  rw [toJson, Value.ofJson, decode, record]
  rw [required_of_lookup rfl (rfl : text (.text m.name) = .ok m.name),
    optional_of_lookup rfl (list_ofJson Parameter.decode_toJson m.parameters),
    required_of_lookup rfl m.overridePolicy.decode_text,
    optional_of_lookup rfl (rfl : text (.text m.documentation) = .ok m.documentation),
    optional_of_lookup rfl (rfl : flag (.bool m.returnsBuilderSelfType) = .ok _),
    optional_of_lookup rfl (nullable_ofJson m.body),
    optional_of_lookup rfl (nullable_ofJson m.replacedBy)]
  rfl

/-- A contract is read back from the fields that it is written as, whatever fields come after. -/
theorem Contract.decode_toFields (c : Contract) (more : List (Text × Json)) :
    Contract.decode (Value.ofJson (.object (c.toFields ++ more))) = .ok c := by
  have htexts (texts : List Text) : list text (Value.ofJson (Json.ofTexts texts)) = .ok texts :=
    list_ofJson (fun _ => rfl) texts
  rw [Value.ofJson, decode, record]
  rw [required_of_lookup rfl (rfl : text (.text c.interfaceName) = .ok c.interfaceName),
    optional_of_lookup rfl (rfl : text (.text c.package) = .ok c.package),
    optional_of_lookup rfl (htexts c.typeVariables),
    optional_of_lookup rfl (rfl : text (.text c.superInterface) = .ok c.superInterface),
    optional_of_lookup rfl (htexts c.annotations),
    optional_of_lookup rfl (rfl : text (.text c.documentation) = .ok c.documentation),
    optional_of_lookup rfl (list_ofJson Method.decode_toJson c.methods)]
  rfl

namespace ModelFile.SynthesisReport

/-- What the report on a contract is read back as is the report on the paired contract. -/
theorem paired_toJson_ok (c : Contract) (path : Option Path) :
    (toJson ⟨.ok c, path⟩).paired = toJson ⟨.ok c.paired, path⟩ := by
  have hlength : c.paired.methods.length = c.methods.length := List.length_map _
  simp only [toJson, Json.paired, Json.pairedFields_eq_map, List.concat_eq_append, List.map_append,
    List.map_cons, List.map_nil, Text.paired_ofString, hlength]
  rw [← Json.pairedFields_eq_map, Contract.paired_toFields]

/-- A contract that is handed over is read back as it was. -/
theorem decode_toJson_ok (c : Contract) (path : Option Path) :
    Contract.decode (Value.ofJson (toJson ⟨.ok c, path⟩)) = .ok c := by
  rw [toJson]
  simp only [List.concat_eq_append]
  exact c.decode_toFields _

/-- Two contracts with one JSON value are the same. -/
theorem toJson_ok_inj {c c' : Contract} {path path' : Option Path}
    (h : toJson ⟨.ok c, path⟩ = toJson ⟨.ok c', path'⟩) : c = c' := by
  have hdecode := decode_toJson_ok c path
  rw [h, decode_toJson_ok] at hdecode
  exact (Checked.ok.inj hdecode).symm

end ModelFile.SynthesisReport

/-! ### The hand-over -/

namespace ModelFile.SynthesisReport

/-- The contract of a model is handed over as JSON that holds the number of its methods and is read
back as the contract, with the halves of characters paired in its texts. That is the contract itself
exactly if none of its texts has a pair, as for every model whose own texts have none; and two
models have one JSON exactly if their contracts are equal once they are paired. -/
theorem readBack_synthesizeContract (m : Capability) (path : Option Path) (layout : Json.Layout) :
    let c := synthesizeContract m
    (∃ j, Json.ofText (Json.render layout (toJson ⟨.ok c, path⟩)) = some j ∧
      j.field? "method_count" = some (.int c.methods.length) ∧
      Contract.decode (Value.ofJson j) = .ok c.paired) ∧
    (c.paired = c ↔ ∀ t ∈ c.texts, t.HasNoPair) ∧
    ((∀ t ∈ m.texts, t.HasNoPair) → c.paired = c) ∧
    ∀ m' path', Json.render layout (toJson ⟨.ok c, path⟩) =
        Json.render layout (toJson ⟨.ok (synthesizeContract m'), path'⟩) ↔
      c.paired = (synthesizeContract m').paired := by
  intro c
  refine ⟨⟨toJson ⟨.ok c.paired, path⟩, ?_, ?_, decode_toJson_ok c.paired path⟩,
    c.paired_eq_self_iff, fun h => ?_, fun m' path' => ?_⟩
  · rw [Json.ofText_render, paired_toJson_ok]
  · have hlength : c.paired.methods.length = c.methods.length := List.length_map _
    rw [← hlength]
    rfl
  · exact c.paired_eq_self_iff.mpr (hasNoPair_texts_synthesizeContract h)
  · rw [Json.render_eq_iff, paired_toJson_ok, paired_toJson_ok]
    exact ⟨toJson_ok_inj, fun h => congrArg (fun c => toJson ⟨.ok c, none⟩) h⟩

theorem readBack_fullCapability :
    (∀ t ∈ fullCapability.texts, t.HasNoPair) ∧
    (synthesizeContract fullCapability).paired = synthesizeContract fullCapability := by
  have h : ∀ t ∈ fullCapability.texts, t.HasNoPair :=
    fun t ht => Text.hasNoPair_of_isWhole
      ((by decide : ∀ t ∈ fullCapability.texts, t.isWhole = true) t ht)
  exact ⟨h, (readBack_synthesizeContract fullCapability none .compact).2.2.1 h⟩

def splitPackage : Capability :=
  { serviceName := "A", basePackage := [.surrogate 0x3D, .surrogate 0x600] }

def joinedPackage : Capability :=
  { serviceName := "A", basePackage := [.char (Char.ofNat 0x1F600)] }

/-- The halves are not handed over: the JSON is that of the character, and is read back as it. -/
theorem readBack_splitPackage :
    synthesizeContract splitPackage ≠ synthesizeContract joinedPackage ∧
    Json.render (.indented 2) (toJson ⟨.ok (synthesizeContract splitPackage), none⟩) =
      Json.render (.indented 2) (toJson ⟨.ok (synthesizeContract joinedPackage), none⟩) ∧
    ¬ ∃ j, Json.ofText (Json.render (.indented 2)
        (toJson ⟨.ok (synthesizeContract splitPackage), none⟩)) = some j ∧
      Contract.decode (Value.ofJson j) = .ok (synthesizeContract splitPackage) := by
  have hne : synthesizeContract splitPackage ≠ synthesizeContract joinedPackage :=
    fun h => absurd (congrArg Contract.package h) (by decide)
  have hjoined : (synthesizeContract joinedPackage).paired = synthesizeContract joinedPackage :=
    Contract.paired_eq_self_iff.mpr (hasNoPair_texts_synthesizeContract fun t ht =>
      Text.hasNoPair_of_isWhole
        ((by decide : ∀ t ∈ joinedPackage.texts, t.isWhole = true) t ht))
  -- Only the package tells the two contracts apart.
  have hsplit : (synthesizeContract splitPackage).paired = synthesizeContract joinedPackage := by
    have hpackage : synthesizeContract splitPackage =
        { synthesizeContract joinedPackage with package := splitPackage.basePackage } := rfl
    have hpair : splitPackage.basePackage.paired = joinedPackage.basePackage.paired := by decide
    rw [hpackage, Contract.paired, Contract.mapTexts]
    dsimp only
    rw [hpair]
    exact hjoined
  refine ⟨hne, ?_, ?_⟩
  · rw [Json.render_eq_iff, paired_toJson_ok, paired_toJson_ok, hsplit, hjoined]
  · rintro ⟨j, hj, hdecode⟩
    rw [Json.ofText_render, paired_toJson_ok, hsplit, Option.some.injEq] at hj
    rw [← hj, decode_toJson_ok] at hdecode
    exact hne (Checked.ok.inj hdecode).symm

end ModelFile.SynthesisReport

end ClientBuilder
