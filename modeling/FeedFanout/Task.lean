import FeedFanout.Call
import FeedFanout.Notice

/-!
Tasks: what the service does, as a tree of calls to its collaborators. A task is done, tells something, or waits for
the reply to a call, perhaps for a limited time.
-/
namespace FeedFanout

inductive Task (α : Type) : Type
  | done (value : α)
  | tell (notice : Notice) (next : Task α)
  | ask (call : Call) (next : call.Reply → Task α)
  /-- The reply is absent if it did not come in time. -/
  | askWithin (limit : Span) (call : Call) (next : Option call.Reply → Task α)

namespace Task
variable {α β : Type}

def bind : Task α → (α → Task β) → Task β
  | done value, f => f value
  | tell notice next, f => tell notice (next.bind f)
  | ask call next, f => ask call fun reply => (next reply).bind f
  | askWithin limit call next, f => askWithin limit call fun reply => (next reply).bind f

instance : Monad Task where
  pure := done
  bind := bind

@[simp] theorem done_bind (value : α) (f : α → Task β) : (done value).bind f = f value := rfl

theorem bind_assoc {γ : Type} (t : Task α) (f : α → Task β) (g : β → Task γ) :
    (t.bind f).bind g = t.bind fun value => (f value).bind g := by
  induction t with
  | done => rfl
  | tell notice next ih => simp [bind, ih]
  | ask call next ih => simp [bind, ih]
  | askWithin limit call next ih => simp [bind, ih]

/-- Tells an event. -/
def event (e : Event) : Task Unit := tell (.event e) (done ())

/-- Writes to the log. -/
def remark (r : Remark) : Task Unit := tell (.remark r) (done ())

def call (c : Call) : Task c.Reply := ask c done

def callWithin (limit : Span) (c : Call) : Task (Option c.Reply) := askWithin limit c done

end Task

end FeedFanout
