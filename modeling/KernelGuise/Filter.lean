import KernelGuise.Directive.Reader

/-!
# Filters

Which events are shown is chosen by directives, a list with commas between them. Of those that speak about an event one decides;
where none does, the event is not shown. A text that is no directive is refused, and the others hold without it. A list without
directives stands for the default.
-/

namespace KernelGuise

/-- Directives, in the order given. -/
abbrev Filter := List Directive

structure Refusal where
  text : String
  cause : DirectiveError
  deriving DecidableEq, Repr

/-- A refusal on a line of its own. -/
def Refusal.line (r : Refusal) : String := "ignoring `" ++ r.text ++ "`: " ++ r.cause.message ++ "\n"

namespace Filter

/-- The words of a list, cut at each comma; some may be empty. -/
def cells : List Char → List (List Char)
  | [] => [[]]
  | c :: cs => if c = ',' then [] :: cells cs else (c :: (cells cs).headD []) :: (cells cs).tail

/-- The texts that stand between commas; where nothing stands, there is none. -/
def texts (list : String) : List String := ((cells list.toList).filter (· ≠ [])).map String.ofList

/-- The directive that holds where no other is given: errors are shown, whoever speaks. -/
def default : Directive := ⟨"", .every, some .error⟩

def read (list : String) : Filter :=
  match (texts list).filterMap fun text => (Directive.read text).toOption with
  | [] => [default]
  | directives => directives

/-- What is refused in the text of a filter, in order. -/
def refusals (list : String) : List Refusal :=
  (texts list).filterMap fun text =>
    match Directive.read text with
    | .ok _ => none
    | .error cause => some ⟨text, cause⟩

/-- The directive that decides about an event: of those that speak about it the one that says most, and of equal ones the
last. -/
def deciding? (f : Filter) (e : Event) : Option Directive :=
  (f.filter (·.covers e)).foldl (fun best d => if best.all (·.yieldsTo d) then some d else best) none

/-- An event is shown when the directive that decides about it allows its level; where none decides, it is not. -/
def shows (f : Filter) (e : Event) : Bool :=
  ((f.deciding? e).bind (·.finest)).any fun finest => e.level.rank ≤ finest.rank

end Filter

end KernelGuise
