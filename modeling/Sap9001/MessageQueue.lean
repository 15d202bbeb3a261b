import Mathlib.Data.List.Basic

/-! The thread-safe message queue (`infra/message_queue.h`). Every operation holds the
queue's mutex, so each is one step. -/
namespace Sap9001

structure MessageQueue (T : Type) where
  queue : List T := []
  closed : Bool := false

namespace MessageQueue

variable {T : Type}

def push (q : MessageQueue T) (item : T) : MessageQueue T := { q with queue := q.queue ++ [item] }

def tryPop (q : MessageQueue T) : Option T × MessageQueue T :=
  match q.queue with
  | [] => (none,q)
  | item::rest => (some item,{ q with queue := rest })

def popAll (q : MessageQueue T) : List T × MessageQueue T := (q.queue,{ q with queue := [] })

/-- `popAll` without the mutex, where no other thread interferes. -/
def drainUnsafe (q : MessageQueue T) : List T × MessageQueue T := (q.queue,{ q with queue := [] })

def clear (q : MessageQueue T) : MessageQueue T := { q with queue := [] }

def close (q : MessageQueue T) : MessageQueue T := { q with closed := true }

@[simp] theorem push_queue (q : MessageQueue T) (item : T) :
    (q.push item).queue = q.queue ++ [item] := rfl

theorem tryPop_some {q : MessageQueue T} {item : T} (h : q.tryPop.1 = some item) :
    q.queue = item::q.tryPop.2.queue := by
  cases hq : q.queue with
  | nil => simp [tryPop,hq] at h
  | cons item' rest =>
    simp only [tryPop,hq,Option.some.injEq] at h
    simp [tryPop,hq,h]

theorem tryPop_none {q : MessageQueue T} (h : q.tryPop.1 = none) : q.queue = [] := by
  cases hq : q.queue with
  | nil => rfl
  | cons item rest => simp [tryPop,hq] at h

end MessageQueue
end Sap9001
