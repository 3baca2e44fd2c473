import KernelGuise.Kernel
import KernelGuise.Script.Queue

/-!
# A kernel that follows a script

A kernel with prepared answers, for rehearsals: it starts no command and never leaves anything behind. It may adopt the label of
a request that it takes, and then reports that as its system name whatever the script says.
-/

namespace KernelGuise

/-- The prepared answers of a kernel, whether it adopts labels, and the label adopted last. -/
structure Script where
  query : Queue (Except IoError Identity)
  personality : Queue (Except IoError Unit)
  exec : Queue IoError
  adopts : Bool
  adopted : Option String

namespace Script

/-- An identity under the adopted label, if there is one. -/
def underLabel (s : Script) (i : Identity) : Identity :=
  match s.adopted with
  | some label => { i with sysname := Bytes.ofString label }
  | none => i

def answerQuery (s : Script) : Except IoError Identity × Script :=
  (s.query.next.map s.underLabel, { s with query := s.query.advance })

/-- The next answer to a request. If the request is taken, its label may be adopted. -/
def answerPersonality (r : Request) (s : Script) : Except IoError Unit × Script :=
  let rest := { s with personality := s.personality.advance }
  match s.personality.next with
  | .error cause => (.error cause, rest)
  | .ok () => (.ok (), if s.adopts then { rest with adopted := some r.label } else rest)

def answerExec (s : Script) : Except IoError Empty × Script :=
  (.error s.exec.next, { s with exec := s.exec.advance })

/-- The kernel that follows its script. -/
def kernel : Kernel Call Empty Script := .ofAnswers answerQuery answerPersonality fun _ => answerExec

end Script

end KernelGuise
