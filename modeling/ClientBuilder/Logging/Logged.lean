import ClientBuilder.Logging.Record

namespace ClientBuilder

/-- What a step comes to, a value or a failure, and what it logs on the way. -/
structure Logged (ε α : Type) where
  records : List Logging.Record
  outcome : Except ε α

namespace Logged

variable {ε α β : Type}

def pure (a : α) : Logged ε α :=
  ⟨[], .ok a⟩

def bind (x : Logged ε α) (f : α → Logged ε β) : Logged ε β :=
  -- A failure ends both the steps and the log.
  match x.outcome with
  | .ok a => ⟨x.records ++ (f a).records, (f a).outcome⟩
  | .error e => ⟨x.records, .error e⟩

instance : Monad (Logged ε) where
  pure := Logged.pure
  bind := Logged.bind

def log (r : Logging.Record) : Logged ε Unit :=
  ⟨[r], .ok ()⟩

def logAll (rs : List Logging.Record) : Logged ε Unit :=
  ⟨rs, .ok ()⟩

def fail (e : ε) : Logged ε α :=
  ⟨[], .error e⟩

def ofExcept (x : Except ε α) : Logged ε α :=
  ⟨[], x⟩

theorem ext {x y : Logged ε α} (hr : x.records = y.records) (ho : x.outcome = y.outcome) :
    x = y := by
  cases x
  cases y
  simp only at hr ho
  rw [hr, ho]

/-- Behind a value the log goes on. -/
theorem bind_ok {x : Logged ε α} {a : α} (h : x.outcome = .ok a) (f : α → Logged ε β) :
    x >>= f = ⟨x.records ++ (f a).records, (f a).outcome⟩ := by
  simp only [Bind.bind, bind, h]

/-- Behind a failure nothing more is logged. -/
theorem bind_error {x : Logged ε α} {e : ε} (h : x.outcome = .error e) (f : α → Logged ε β) :
    x >>= f = ⟨x.records, .error e⟩ := by
  simp only [Bind.bind, bind, h]

/-- A row of steps comes to what the last one comes to, unless one before it fails. -/
theorem outcome_bind (x : Logged ε α) (f : α → Logged ε β) :
    (x >>= f).outcome = x.outcome.bind fun a => (f a).outcome := by
  cases h : x.outcome with
  | ok a => rw [bind_ok h]; rfl
  | error e => rw [bind_error h]; rfl

@[simp]
theorem outcome_pure (a : α) : (Pure.pure a : Logged ε α).outcome = .ok a := rfl

@[simp]
theorem records_pure (a : α) : (Pure.pure a : Logged ε α).records = [] := rfl

theorem pure_bind (a : α) (f : α → Logged ε β) : Pure.pure a >>= f = f a := by
  rw [bind_ok (outcome_pure a)]
  rfl

/-- How steps are put together does not matter for what is logged. -/
theorem bind_assoc {γ : Type} (x : Logged ε α) (f : α → Logged ε β) (g : β → Logged ε γ) :
    x >>= f >>= g = x >>= fun a => f a >>= g := by
  cases h : x.outcome with
  | error e =>
    rw [bind_error h (fun a => f a >>= g), bind_error (e := e) (by rw [bind_error h]), bind_error h]
  | ok a =>
    rw [bind_ok h (fun a => f a >>= g)]
    cases k : (f a).outcome with
    | error e =>
      rw [bind_error k g, bind_error (e := e) (by rw [bind_ok h, k]), bind_ok h]
    | ok b =>
      rw [bind_ok k g, bind_ok (a := b) (by rw [bind_ok h, k]), bind_ok h, List.append_assoc]

instance : LawfulMonad (Logged ε) :=
  LawfulMonad.mk' (Logged ε)
    (fun x => by
      cases h : x.outcome with
      | ok a =>
        apply ext <;>
          simp only [Functor.map, bind, h, pure, Function.comp_apply, id_eq, List.append_nil]
      | error e => apply ext <;> simp only [Functor.map, bind, h])
    pure_bind bind_assoc

end Logged

end ClientBuilder
