/-!
# Log records

What the library has to say while it works is a value, a list of records in the order in which they
arose, and is returned beside the result. Whoever calls chooses the levels to be shown.
-/

set_option autoImplicit false

namespace Acceptance

/-- How severe a record is, from the most severe to the least. -/
inductive LogLevel where
  | error
  | warn
  | info
  | debug
  | trace
  deriving DecidableEq, Repr, Inhabited

namespace LogLevel

/-- The rank of a level. More detail has a higher rank. -/
def rank : LogLevel → Nat
  | error => 0
  | warn => 1
  | info => 2
  | debug => 3
  | trace => 4

/-- The level in small letters. -/
def name : LogLevel → String
  | error => "error"
  | warn => "warn"
  | info => "info"
  | debug => "debug"
  | trace => "trace"

/-- The level as it is shown beside a record. -/
def label : LogLevel → String
  | error => "ERROR"
  | warn => "WARN"
  | info => "INFO"
  | debug => "DEBUG"
  | trace => "TRACE"

end LogLevel

/-- One record of the log. -/
structure LogRecord where
  level : LogLevel
  text : String
  deriving DecidableEq, Repr

/-- Records in the order in which they arose. -/
abbrev Log : Type := List LogRecord

namespace Log

/-- The records that are as severe as `level` or more severe. -/
def upTo (log : Log) (level : LogLevel) : Log :=
  log.filter (fun r => r.level.rank ≤ level.rank)

/-- Filtering by level goes record by record. -/
theorem upTo_append (first second : Log) (level : LogLevel) :
    upTo (first ++ second) level = first.upTo level ++ second.upTo level :=
  List.filter_append ..

end Log

/-- What a computation has logged, and its result or the reason why it has none. What was logged before
a failure is kept. -/
structure Logged (ε α : Type) where
  log : Log
  result : Except ε α

namespace Logged

variable {ε α β : Type}

/-- A result with nothing to log. -/
def pure (a : α) : Logged ε α :=
  ⟨[], .ok a⟩

/-- A failure with nothing to log. -/
def fail (reason : ε) : Logged ε α :=
  ⟨[], .error reason⟩

/-- A result that may be missing. -/
def ofExcept (result : Except ε α) : Logged ε α :=
  ⟨[], result⟩

/-- Go on with the result, if there is one. -/
def bind (x : Logged ε α) (f : α → Logged ε β) : Logged ε β :=
  match x.result with
  | .ok a => ⟨x.log ++ (f a).log, (f a).result⟩
  | .error reason => ⟨x.log, .error reason⟩

instance : Monad (Logged ε) where
  pure := Logged.pure
  bind := Logged.bind

/-- A result comes of a result before it. -/
theorem bind_result_eq_ok {x : Logged ε α} {f : α → Logged ε β} {b : β} :
    (x.bind f).result = .ok b ↔ ∃ a, x.result = .ok a ∧ (f a).result = .ok b := by
  cases h : x.result <;> simp [bind, h]

/-- What is told about a result is told about one that there is. -/
theorem exists_ok_of_map {γ : Type} {x : Logged ε α} {f : α → γ} {c : γ}
    (h : x.result.toOption.map f = some c) : ∃ a, x.result = .ok a ∧ f a = c := by
  cases hresult : x.result with
  | error reason =>
    rw [hresult] at h
    cases h
  | ok a =>
    rw [hresult] at h
    exact ⟨a, rfl, Option.some.inj h⟩

/-- Give the reason of a failure another type. -/
def mapError {ε' : Type} (f : ε → ε') (x : Logged ε α) : Logged ε' α :=
  ⟨x.log, x.result.mapError f⟩

/-- The results for all members of a list, in order, up to the first failure. -/
def traverse (f : α → Logged ε β) : List α → Logged ε (List β)
  | [] => pure []
  | a :: as => bind (f a) fun b => bind (traverse f as) fun bs => pure (b :: bs)

/-- There is nothing to compute for no members. -/
@[simp] theorem traverse_nil (f : α → Logged ε β) : traverse f [] = pure [] :=
  rfl

/-- The first member is computed before the others, and a failure of it ends the computation. -/
@[simp] theorem traverse_cons (f : α → Logged ε β) (a : α) (as : List α) :
    traverse f (a :: as) = (f a).bind fun b => (traverse f as).bind fun bs => pure (b :: bs) :=
  rfl

end Logged

end Acceptance
