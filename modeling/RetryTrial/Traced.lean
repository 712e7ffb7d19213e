import RetryTrial.Log
import RetryTrial.Query

/-!
# Traced values

A `Traced` value comes with the events that led to it, in the order in which they happened: log
entries and questions to the database. Bound one after the other, traced values join their events.
-/

namespace RetryTrial

inductive Event
  | logged (entry : LogEntry)
  | asked (query : Query)
deriving DecidableEq

namespace Event

def entry? : Event → Option LogEntry
  | logged entry => some entry
  | asked _ => none

def query? : Event → Option Query
  | logged _ => none
  | asked query => some query

end Event

structure Traced (α : Type) where
  value : α
  events : List Event

namespace Traced

instance : Monad Traced where
  pure a := ⟨a, []⟩
  bind t f := ⟨(f t.value).value, t.events ++ (f t.value).events⟩

def log (entry : LogEntry) : Traced Unit := ⟨(), [.logged entry]⟩

def ask (query : Query) : Traced Unit := ⟨(), [.asked query]⟩

variable {α β : Type}

def entries (t : Traced α) : List LogEntry := t.events.filterMap Event.entry?

def queries (t : Traced α) : List Query := t.events.filterMap Event.query?

@[ext] theorem ext {t u : Traced α} (hv : t.value = u.value) (he : t.events = u.events) :
    t = u := by
  cases t; cases u; congr

@[simp] theorem value_pure (a : α) : (pure a : Traced α).value = a := rfl

@[simp] theorem events_pure (a : α) : (pure a : Traced α).events = [] := rfl

@[simp] theorem value_bind (t : Traced α) (f : α → Traced β) :
    (t >>= f).value = (f t.value).value := rfl

@[simp] theorem events_bind (t : Traced α) (f : α → Traced β) :
    (t >>= f).events = t.events ++ (f t.value).events := rfl

instance : LawfulMonad Traced := LawfulMonad.mk' Traced
  (fun t => by ext <;> simp [Functor.map])
  (fun a f => by ext <;> simp)
  (fun t f g => by ext <;> simp)

@[simp] theorem value_map (f : α → β) (t : Traced α) : (f <$> t).value = f t.value := rfl

@[simp] theorem events_map (f : α → β) (t : Traced α) : (f <$> t).events = t.events := by
  simp [Functor.map]

@[simp] theorem value_log (entry : LogEntry) : (log entry).value = () := rfl

@[simp] theorem events_log (entry : LogEntry) : (log entry).events = [.logged entry] := rfl

@[simp] theorem value_ask (query : Query) : (ask query).value = () := rfl

@[simp] theorem events_ask (query : Query) : (ask query).events = [.asked query] := rfl

@[simp] theorem entries_pure (a : α) : (pure a : Traced α).entries = [] := rfl

@[simp] theorem entries_bind (t : Traced α) (f : α → Traced β) :
    (t >>= f).entries = t.entries ++ (f t.value).entries := by simp [entries]

@[simp] theorem entries_map (f : α → β) (t : Traced α) : (f <$> t).entries = t.entries := by
  simp [entries]

@[simp] theorem entries_log (entry : LogEntry) : (log entry).entries = [entry] := rfl

@[simp] theorem entries_ask (query : Query) : (ask query).entries = [] := rfl

@[simp] theorem queries_pure (a : α) : (pure a : Traced α).queries = [] := rfl

@[simp] theorem queries_bind (t : Traced α) (f : α → Traced β) :
    (t >>= f).queries = t.queries ++ (f t.value).queries := by simp [queries]

@[simp] theorem queries_map (f : α → β) (t : Traced α) : (f <$> t).queries = t.queries := by
  simp [queries]

@[simp] theorem queries_log (entry : LogEntry) : (log entry).queries = [] := rfl

@[simp] theorem queries_ask (query : Query) : (ask query).queries = [query] := rfl

end Traced

end RetryTrial
