import Gazetteer.Event.Basic

/-!
# Following the events

Readers follow the events from the moment they subscribe. The feed keeps a fixed number of the
newest events; a reader that falls further behind is told how many it lost and goes on with the
oldest one that is still kept.

* `Feed`: how many events are kept, and how many of all events each reader has passed.
* `subscribe`, `unsubscribe`: readers come and the newest one goes.
* `drain`: what a reader has not seen yet.
-/

set_option autoImplicit false

namespace Gazetteer

/-- The readers of the events. -/
structure Feed where
  kept : Nat
  readers : List Nat

/-- What a reader finds: how many events it lost, and the ones it gets. -/
structure Backlog where
  lost : Nat
  events : List Event

namespace Feed

/-- A feed that keeps at least so many events, and at least one: the next power of two. -/
def ofCapacity (capacity : Nat) : Feed := ⟨Nat.nextPowerOfTwo (max capacity 1), []⟩

/-- A new reader, which has passed every event so far. -/
def subscribe (f : Feed) (published : List Event) : Feed :=
  { f with readers := f.readers ++ [published.length] }

/-- The newest reader goes. -/
def unsubscribe (f : Feed) : Feed := { f with readers := f.readers.dropLast }

/-- What a reader has not seen, and the feed after it has seen it. -/
def drain (f : Feed) (published : List Event) (reader : Nat) : Option (Backlog × Feed) :=
  f.readers[reader]?.map fun passed =>
    let behind := published.length - passed
    let lost := behind - f.kept
    (⟨lost, published.drop (passed + lost)⟩,
      { f with readers := f.readers.set reader published.length })

end Feed

end Gazetteer
