import KernelGuise.Program
import Mathlib.Data.List.Induction

/-!
# The directive that decides

Of the directives that cover an event one decides whether it is shown. Those given before it say no more about the event than it
does, and those given after it say less (`Filter.Decides`). Any two directives can be compared in this way, so one decides whenever
one covers the event, and it is the one that is found (`Filter.deciding?_eq_some_iff`). An event is shown when it is not finer than
what this directive asks for (`Filter.shows_iff`). Where nothing is asked for, errors are shown (`Filter.shows_read_empty_iff`),
and the program is the one with a listener who hears errors alone (`Program.reportUnder_empty`).
-/

namespace KernelGuise

/-- Of two scopes one is no wider than the other. -/
theorem Scope.le_total (a b : Scope) : a.le b = true ∨ b.le a = true := by
  cases a with
  | every => exact .inl rfl
  | having f =>
    cases b with
    | every => exact .inr rfl
    | having g => simpa [le] using String.le_total f g
    | inSpan => exact .inl rfl
  | inSpan => cases b <;> simp [le]

/-- A scope that is no wider than a narrower one is no wider than the first. -/
theorem Scope.le_trans {a b c : Scope} (hab : a.le b = true) (hbc : b.le c = true) : a.le c = true := by
  cases a with
  | every => rfl
  | having f =>
    cases b with
    | every => cases hab
    | having g =>
      cases c with
      | every => cases hbc
      | having h =>
        simp only [le, decide_eq_true_eq] at hab hbc ⊢
        exact String.le_trans hab hbc
      | inSpan => rfl
    | inSpan => cases c <;> simp_all [le]
  | inSpan =>
    cases b <;> cases c <;> simp_all [le]

namespace Directive

/-- The length of the targets is compared first, then the scopes. -/
theorem yieldsTo_iff (d d' : Directive) :
    d.yieldsTo d' = true ↔
      d.target.length < d'.target.length ∨ d.target.length = d'.target.length ∧ d.scope.le d'.scope = true := by
  simp [yieldsTo]

/-- Of two directives one says at least as much as the other. -/
theorem yieldsTo_total (d d' : Directive) : d.yieldsTo d' = true ∨ d'.yieldsTo d = true := by
  rw [yieldsTo_iff, yieldsTo_iff]
  rcases Nat.lt_trichotomy d.target.length d'.target.length with h | h | h
  · exact .inl (.inl h)
  · exact (d.scope.le_total d'.scope).imp (fun hs => .inr ⟨h, hs⟩) fun hs => .inr ⟨h.symm, hs⟩
  · exact .inr (.inl h)

/-- What says at least as much as a directive says at least as much as all to which that one says no less. -/
theorem yieldsTo_trans {a b c : Directive} (hab : a.yieldsTo b = true) (hbc : b.yieldsTo c = true) : a.yieldsTo c = true := by
  rw [yieldsTo_iff] at hab hbc ⊢
  rcases hab with hab | ⟨hab, hs⟩
  · rcases hbc with hbc | ⟨hbc, -⟩
    · exact .inl (Nat.lt_trans hab hbc)
    · exact .inl (hbc ▸ hab)
  · rcases hbc with hbc | ⟨hbc, hs'⟩
    · exact .inl (hab ▸ hbc)
    · exact .inr ⟨hab.trans hbc, Scope.le_trans hs hs'⟩

end Directive

namespace Filter

variable {f : Filter} {e : Event} {d d' : Directive}

/-- A directive of a filter decides about an event: of the others about the event, those before it say no more than it does and
those after it say less. -/
def Decides (f : Filter) (e : Event) (d : Directive) : Prop :=
  ∃ before after, f = before ++ d :: after ∧ d.covers e = true ∧
    (∀ d' ∈ before, d'.covers e = true → d'.yieldsTo d = true) ∧ ∀ d' ∈ after, d'.covers e = true → d.yieldsTo d' = false

/-- No directive about the event says more than the one that decides. -/
theorem Decides.yieldsTo (h : f.Decides e d) (hm : d' ∈ f) (hc : d'.covers e = true) : d'.yieldsTo d = true := by
  obtain ⟨before, after, rfl, -, hb, ha⟩ := h
  rcases List.mem_append.mp hm with hm | hm
  · exact hb d' hm hc
  · rcases List.mem_cons.mp hm with rfl | hm
    · exact (d'.yieldsTo_total d').elim id id
    · have hn := ha d' hm hc
      exact (d.yieldsTo_total d').resolve_left (by simp [hn])

/-- One directive decides at most. -/
theorem Decides.unique (h : f.Decides e d) (h' : f.Decides e d') : d = d' := by
  obtain ⟨before, after, hf, hc, hb, ha⟩ := h
  obtain ⟨before', after', hf', hc', hb', ha'⟩ := h'
  -- Where the two stand apart, the later one would say less than the earlier, and no less.
  rcases List.append_eq_append_iff.mp (hf.symm.trans hf') with ⟨mid, hm, he⟩ | ⟨mid, hm, he⟩
  · cases mid with
    | nil => exact (List.cons.inj he).1
    | cons x mid =>
      obtain ⟨rfl, rfl⟩ := List.cons.inj he
      exact absurd (hb' d (by simp [hm]) hc) (by simp [ha d' (by simp) hc'])
  · cases mid with
    | nil => exact (List.cons.inj he).1.symm
    | cons x mid =>
      obtain ⟨rfl, rfl⟩ := List.cons.inj he
      exact absurd (hb d' (by simp [hm]) hc') (by simp [ha' d (by simp) hc])

/-- One more directive decides when it is about the event and says at least as much as what decided before it. -/
theorem deciding?_concat (f : Filter) (d : Directive) (e : Event) :
    deciding? (f ++ [d]) e =
      if d.covers e = true ∧ (f.deciding? e).all (·.yieldsTo d) = true then some d else f.deciding? e := by
  by_cases hc : d.covers e = true <;> simp [deciding?, List.filter_append, hc]

/-- The directive that is found decides; where none is found, none is about the event. -/
theorem deciding?_spec (f : Filter) (e : Event) :
    (∀ d, f.deciding? e = some d → f.Decides e d) ∧ (f.deciding? e = none → ∀ d ∈ f, d.covers e = false) := by
  induction f using List.reverseRecOn with
  | nil => exact ⟨nofun, nofun⟩
  | append_singleton f x ih =>
    obtain ⟨hsome, hnone⟩ := ih
    rw [deciding?_concat]
    by_cases hx : x.covers e = true ∧ (deciding? f e).all (·.yieldsTo x) = true
    · rw [if_pos hx]
      refine ⟨?_, nofun⟩
      rintro d ⟨⟩
      refine ⟨f, [], rfl, hx.1, fun d' hm hc => ?_, nofun⟩
      cases hd : deciding? f e with
      | none => exact absurd hc (by simp [hnone hd d' hm])
      | some d =>
        have hdx : d.yieldsTo x = true := by simpa [hd] using hx.2
        exact Directive.yieldsTo_trans ((hsome d hd).yieldsTo hm hc) hdx
    · rw [if_neg hx]
      constructor
      · intro d hd
        obtain ⟨before, after, rfl, hc, hb, ha⟩ := hsome d hd
        refine ⟨before, after ++ [x], by simp, hc, hb, fun d' hm hc' => ?_⟩
        rcases List.mem_append.mp hm with hm | hm
        · exact ha d' hm hc'
        · obtain rfl := List.mem_singleton.mp hm
          simpa [hc', hd] using hx
      · intro hd d hm
        rcases List.mem_append.mp hm with hm | hm
        · exact hnone hd d hm
        · obtain rfl := List.mem_singleton.mp hm
          simpa [hd] using hx

/-- The directive that is found is the one that decides. -/
theorem deciding?_eq_some_iff : f.deciding? e = some d ↔ f.Decides e d := by
  obtain ⟨hsome, hnone⟩ := f.deciding?_spec e
  refine ⟨hsome d, fun h => ?_⟩
  cases hd : f.deciding? e with
  | none =>
    obtain ⟨before, after, hf, hc, -⟩ := h
    exact absurd hc (by simp [hnone hd d (by simp [hf])])
  | some d' => rw [(hsome d' hd).unique h]

/-- No directive decides exactly when none is about the event. -/
theorem deciding?_eq_none_iff : f.deciding? e = none ↔ ∀ d ∈ f, d.covers e = false := by
  refine ⟨(f.deciding?_spec e).2, fun h => ?_⟩
  cases hd : f.deciding? e with
  | none => rfl
  | some d =>
    obtain ⟨before, after, hf, hc, -⟩ := deciding?_eq_some_iff.mp hd
    exact absurd hc (by simp [h d (by simp [hf])])

/-- An event is shown when the directive that decides about it asks for events of its level. -/
theorem shows_iff (f : Filter) (e : Event) :
    f.shows e = true ↔ ∃ d finest, f.Decides e d ∧ d.finest = some finest ∧ e.level.rank ≤ finest.rank := by
  simp only [shows, Option.any_eq_true, Option.bind_eq_some_iff, deciding?_eq_some_iff, decide_eq_true_eq]
  constructor
  · rintro ⟨finest, ⟨d, hd, hf⟩, hr⟩
    exact ⟨d, finest, hd, hf, hr⟩
  · rintro ⟨d, finest, hd, hf, hr⟩
    exact ⟨finest, ⟨d, hd, hf⟩, hr⟩

/-- Where nothing is asked for, errors are shown and nothing else is. -/
theorem shows_read_empty_iff (e : Event) : (read "").shows e = true ↔ e.level = .error := by
  have hr : read "" = [default] := by decide
  have hd : Decides [default] e default := ⟨[], [], rfl, by simp [default, Directive.covers, Scope.admits], nofun, nofun⟩
  have hrank : e.level.rank ≤ Level.error.rank ↔ e.level = .error := by cases e.level <;> decide
  rw [hr, shows_iff, ← hrank]
  constructor
  · rintro ⟨d, finest, hd', hf, h⟩
    obtain rfl := hd.unique hd'
    obtain rfl : Level.error = finest := Option.some.inj hf
    exact h
  · exact fun h => ⟨default, .error, hd, rfl, h⟩

end Filter

/-- Without directives nothing is refused, and the listener hears errors alone. -/
theorem Program.reportUnder_empty {σ : Type} (c : Libc UInt8 σ) (commandLine : List Bytes) (s : σ) :
    ∃ l : Listener, (∀ e, l.hears e = true ↔ e.level = .error) ∧ reportUnder "" c commandLine s = report l c commandLine s := by
  have hr : Filter.refusals "" = [] := by decide
  refine ⟨.ofDirectives "", Filter.shows_read_empty_iff, ?_⟩
  simp only [reportUnder, hr, List.map_nil, String.join_nil, String.empty_append]

end KernelGuise
