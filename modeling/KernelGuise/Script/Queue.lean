/-!
# Queues of answers

Prepared answers are given one by one. A queue never runs dry: its last answer stays and is given again and again.
-/

namespace KernelGuise

/-- A queue of answers: the one that is next, and those after it. -/
structure Queue (α : Type) where
  next : α
  later : List α
  deriving DecidableEq, Repr

namespace Queue

variable {α : Type}

/-- A list of answers as a queue; an empty one gives the same answer all the time. -/
def ofList (default : α) : List α → Queue α
  | [] => ⟨default, []⟩
  | a :: rest => ⟨a, rest⟩

def advance (q : Queue α) : Queue α :=
  match q.later with
  | [] => q
  | a :: rest => ⟨a, rest⟩

end Queue

end KernelGuise
