import ClientBuilder.Capability.Decode
import ClientBuilder.ModelFile.Failure
import ClientBuilder.Service.Decode
import ClientBuilder.Service.Derive

namespace ClientBuilder.ModelDocument

def occursIn (part : Text) : Text → Bool
  | [] => part.isEmpty
  | c :: r => part.isPrefixOf (c :: r) || occursIn part r

def capabilitiesKey : Text :=
  "capabilities"

/-- What a document gives as its capabilities, if it gives any. A document that is no mapping has no
keys to look under; it is refused outright, unless it holds nothing that could be taken for the key.
-/
def capabilities? : Value → Except Failure (Option Value)
  | .mapping pairs => .ok (Value.lookup pairs capabilitiesKey)
  | .list items => amongItems items
  | .tuple items => amongItems items
  | .set items => amongItems items
  | .text s =>
    if occursIn capabilitiesKey s then .error (.fault .wrongKind) else .ok none
  | _ => .error (.fault .wrongKind)
where
  amongItems (items : List Value) : Except Failure (Option Value) :=
    if items.any (Value.isText capabilitiesKey) then .error (.fault .wrongKind) else .ok none

def checked {α : Type} (shape : Validation.Shape) (x : Validation.Checked α) : Logged Failure α :=
  match x.toExcept shape with
  | .ok a => .pure a
  | .error report => .fail (.reported (.invalidModel report))

def toCapability (document : Value) : Logged Failure Capability := do
  -- Capabilities that are given empty stand for none.
  match ← Logged.ofExcept (capabilities? document) with
  | some given =>
    checked .capability (Capability.decode (if given.isTruthy then given else .mapping []))
  | none =>
    let service ← checked .service (Service.decode document)
    Logged.log service.derivationRecord
    return service.toCapability

end ClientBuilder.ModelDocument
