import ClientBuilder.Draft.Synthesis
import ClientBuilder.Service.Decode
import ClientBuilder.Service.Derive

namespace ClientBuilder

structure Session where
  draft : Draft := .ofCapability {}
  methods : List Method := []

namespace Session

inductive Refusal where
  | invalid (report : Validation.Report)
  | assignment (e : Draft.AssignError)
  | noSuchMethod
  deriving Repr, DecidableEq

inductive Command where
  | replace (model : Value)
  | derive (service : Value)
  | assign (field : Text) (value : Value)
  | putParam (group : Group) (name : Text) (param : Value)
  | deleteParam (group : Group) (name : Text)
  | synthesize (supplies : Supplies)
  | drop (count : Int)
  | rename (index : Int) (name : Text)
  | contract
  | issues
  | slots

inductive Answer where
  | draft (d : Draft)
  | params (g : ParamGroup)
  -- Whether the parameter was there, and what is left.
  | removed (found : Bool) (g : ParamGroup)
  | methods (ms : List Method)
  | signatures (texts : List Text)
  | contract (c : Contract)
  | issues (errors : List ModelError) (warnings : List ModelWarning)
  | slots (ss : List Slot)

def withDraft (s : Session) (d : Draft) : Session × Answer :=
  ({ s with draft := d }, .draft d)

def withParams (s : Session) (group : Group) (params : ParamGroup) : Session :=
  { s with draft := s.draft.withParams group params }

def place? (length : Nat) (index : Int) : Option Nat :=
  -- A negative index counts from the end.
  let i := if index < 0 then index + length else index
  if 0 ≤ i ∧ i < length then some i.toNat else none

def dropCount (length : Nat) (count : Int) : Nat :=
  -- A negative count tells how many to leave.
  (if count < 0 then count + length else count).toNat

def signatures (s : Session) : Answer :=
  .signatures (s.methods.map Method.signature)

def step (s : Session) : Command → Except Refusal (Session × Answer)
  | .replace model => do
    let m ← ((Capability.decode model).toExcept .capability).mapError .invalid
    return s.withDraft (.ofCapability m)
  | .derive service => do
    let d ← ((Service.decode service).toExcept .service).mapError .invalid
    return s.withDraft (.ofCapability d.toCapability)
  | .assign field value => do
    return s.withDraft (← (s.draft.assign field value).mapError .assignment)
  | .putParam group name param => do
    let p ← ((ContextParam.decode param).toExcept .contextParam).mapError .invalid
    let params := (s.draft.params group).insert name p
    return (s.withParams group params, .params params)
  | .deleteParam group name =>
    let params := s.draft.params group
    let left := params.erase name
    return (s.withParams group left, .removed (params.contains name) left)
  | .synthesize supplies => do
    let ms ← (s.draft.synthesize supplies).mapError .invalid
    return ({ s with methods := ms }, .methods ms)
  | .drop count =>
    let s := { s with methods := s.methods.drop (dropCount s.methods.length count) }
    return (s, s.signatures)
  | .rename index name =>
    match place? s.methods.length index with
    | some i =>
      let s := { s with methods := s.methods.modify i fun m => { m with name := name } }
      return (s, s.signatures)
    | none => .error .noSuchMethod
  | .contract => do
    return (s, .contract (← s.draft.contract.mapError .invalid))
  | .issues => return (s, .issues s.draft.toCapability.errors s.draft.warnings)
  | .slots => return (s, .slots (Slot.all.filter fun slot => slot.applies s.draft.toCapability))

def run (s : Session) : List Command → List (Except Refusal Answer)
  | [] => []
  | c :: r =>
    match s.step c with
    | .ok (s', a) => .ok a :: run s' r
    | .error e => .error e :: run s r

end Session

end ClientBuilder
