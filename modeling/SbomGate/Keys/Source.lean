import SbomGate.Keys.KeySet
/-!
# SbomGate.Keys.Source

A **source of key sets** whose answers are laid down: what is published where,
how long an answer takes, and whether it is a failure. It counts how often it
is asked.
-/

namespace SbomGate.Keys

open Token

/-- An answer under way: what it will be and how long it takes. -/
structure Attempt where
  /-- How long the answer takes. -/
  delay : Duration
  result : Except Fault (List Jwk)

/-- A source of key sets. -/
structure Source where
  /-- The keys that are published, by place. -/
  published : List (String × List Jwk)
  /-- How often the source was asked. -/
  count : Nat
  /-- How long an answer takes. -/
  delay : Duration
  /-- The failure that every answer is, if it is one. -/
  failure : Option Fault

namespace Source

/-- A source with no keys that answers at once. -/
def empty : Source := ⟨[], 0, .zero, none⟩

/-- Publishes keys in place of those published there before. -/
def publish (s : Source) (url : String) (keys : List Jwk) : Source :=
  { s with published := (url, keys) :: s.published.filter (·.1 ≠ url) }

/-- Withdraws what is published at a place. -/
def withdraw (s : Source) (url : String) : Source :=
  { s with published := s.published.filter (·.1 ≠ url) }

/-- The keys published at a place. -/
def lookup? (s : Source) (url : String) : Option (List Jwk) :=
  (s.published.find? (·.1 = url)).map (·.2)

/-- What the source answers at the moment. -/
def answer (s : Source) (url : String) : Except Fault (List Jwk) :=
  match s.failure with
  | some f => .error f
  | none =>
    match s.lookup? url with
    | some keys => .ok keys
    | none => .error (.httpStatus url 404)

/-- Asks for the keys of a place. The question counts, whatever the answer is
and however long it takes. -/
def ask (s : Source) (url : String) : Source × Attempt :=
  ({ s with count := s.count + 1 }, ⟨s.delay, s.answer url⟩)

end Source

/-- The answer within a limit of time; one that takes exactly as long is in
time. -/
def Attempt.within (a : Attempt) (limit : Duration) (url : String) :
    Except Fault (List Jwk) :=
  if limit.toNanos < a.delay.toNanos then .error (.timeout url limit) else a.result

end SbomGate.Keys
