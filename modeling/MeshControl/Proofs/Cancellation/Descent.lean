import Mathlib.Data.List.Induction
import Mathlib.Logic.Relation
import MeshControl.Cancellation

/-!
Who comes from whom among coordinators and tokens.

Ancestry is told by the history alone: a token is the child of another one because a step has made
it so, and coordinators are of one family because steps have cloned one from the other. The state
keeps numbers of families and sources of tokens instead. That these say the same is shown here by
going through a history from its end. The flags of the state play no part in it: no step looks at
them to decide what it makes.

Every step is about coordinators and tokens that are there already, and has no effect otherwise. So
each relation asks for what was there when the step was taken.

Main statements: `sameFamily_iff`, `source_family_iff` and `source_token_iff`.
-/

namespace MeshControl.Cancellation

/-! ## What happened in a history -/

/-- A step of a history was taken in a state in which something held. -/
def Did (steps : List Step) (step : Step) (there : Cancellation → Prop) : Prop :=
  ∃ earlier later, steps = earlier ++ step :: later ∧ there (initial.run earlier)

/-- One coordinator was made as a clone of the other. -/
def CloneOf (steps : List Step) (clone original : Nat) : Prop :=
  Did steps (.cloneCoordinator original) fun before =>
    original < before.coordinators.length ∧ clone = before.coordinators.length

/-- Both are one coordinator, or clones lead from one to the other. -/
def SameFamily (steps : List Step) : Nat → Nat → Prop :=
  Relation.EqvGen (CloneOf steps)

/-- A token was handed out by a coordinator. -/
def TokenOf (steps : List Step) (token coordinator : Nat) : Prop :=
  Did steps (.newToken coordinator) fun before =>
    coordinator < before.coordinators.length ∧ token = before.tokens.length

def ChildOf (steps : List Step) (child parent : Nat) : Prop :=
  Did steps (.childToken parent) fun before =>
    parent < before.tokens.length ∧ child = before.tokens.length

/-- A token comes from another one, or is that one. -/
def Descends (steps : List Step) : Nat → Nat → Prop :=
  Relation.ReflTransGen (ChildOf steps)

def WasClosed (steps : List Step) (coordinator : Nat) : Prop :=
  Did steps (.close coordinator) fun before => coordinator < before.coordinators.length

def WasCancelled (steps : List Step) (token : Nat) : Prop :=
  Did steps (.cancelToken token) fun before => token < before.tokens.length

theorem run_append (state : Cancellation) (first second : List Step) :
    state.run (first ++ second) = (state.run first).run second :=
  List.foldl_append

theorem run_concat (state : Cancellation) (steps : List Step) (next : Step) :
    state.run (steps ++ [next]) = (state.run steps).step next :=
  run_append state steps [next]

section Did

variable {steps : List Step} {step next : Step} {there : Cancellation → Prop}

theorem not_did_nil : ¬ Did [] step there := by
  rintro ⟨earlier, later, split, -⟩
  exact List.append_ne_nil_of_right_ne_nil earlier (List.cons_ne_nil step later) split.symm

theorem Did.mem (did : Did steps step there) : step ∈ steps := by
  rcases did with ⟨earlier, later, rfl, -⟩
  exact List.mem_append_right earlier List.mem_cons_self

/-- What happened in a history that goes on happened before, or at its end. -/
theorem did_concat :
    Did (steps ++ [next]) step there ↔
      Did steps step there ∨ next = step ∧ there (initial.run steps) := by
  constructor
  · rintro ⟨earlier, later, split, held⟩
    induction later using List.reverseRecOn with
    | nil =>
        rcases List.append_inj' split rfl with ⟨rfl, last⟩
        exact .inr ⟨(List.cons.inj last).1, held⟩
    | append_singleton later last _ =>
        rw [← List.cons_append, ← List.append_assoc] at split
        exact .inl ⟨earlier, later, (List.append_inj' split rfl).1, held⟩
  · rintro (⟨earlier, later, rfl, held⟩ | ⟨rfl, held⟩)
    · exact ⟨earlier, later ++ [next], by rw [List.append_assoc, List.cons_append], held⟩
    · exact ⟨steps, [], rfl, held⟩

theorem Did.append (did : Did steps step there) (later : List Step) :
    Did (steps ++ later) step there := by
  rcases did with ⟨earlier, rest, rfl, held⟩
  exact ⟨earlier, rest ++ later, by rw [List.append_assoc, List.cons_append], held⟩

end Did

theorem SameFamily.append {steps : List Step} {first second : Nat}
    (same : SameFamily steps first second) (later : List Step) :
    SameFamily (steps ++ later) first second :=
  same.mono fun _ _ clone => Did.append clone later

theorem Descends.append {steps : List Step} {token ancestor : Nat}
    (descends : Descends steps token ancestor) (later : List Step) :
    Descends (steps ++ later) token ancestor := by
  have kept : ChildOf steps ≤ ChildOf (steps ++ later) := fun _ _ made => Did.append made later
  exact Relation.ReflTransGen.mono kept token ancestor descends

/-! ## What the state keeps -/

/-- The family of the coordinator that a step makes, if it makes one. -/
def enrolled (state : Cancellation) : Step → Option Nat
  | .newCoordinator => some state.families.length
  | .cloneCoordinator coordinator => state.coordinators[coordinator]?
  | _ => none

/-- The source of the token that a step makes, if it makes one. -/
def born (state : Cancellation) : Step → Option TokenSource
  | .newToken coordinator => state.coordinators[coordinator]?.map .family
  | .childToken token => state.tokens[token]?.map fun _ => .token token
  | _ => none

def sources (state : Cancellation) : List TokenSource :=
  state.tokens.map CancelToken.source

@[simp]
theorem length_sources (state : Cancellation) : state.sources.length = state.tokens.length :=
  List.length_map _

theorem set_eq_self {α : Type} {list : List α} {place : Nat} {value : α}
    (found : list[place]? = some value) : list.set place value = list := by
  rcases List.getElem?_eq_some_iff.1 found with ⟨bound, rfl⟩
  exact List.set_getElem_self bound

theorem getElem?_append_toList {α : Type} {list : List α} {last : Option α} {place : Nat}
    {value : α} :
    (list ++ last.toList)[place]? = some value ↔
      list[place]? = some value ∨ place = list.length ∧ last = some value := by
  rw [List.getElem?_append]
  split <;> rename_i young
  · have bounded : place ≠ list.length := Nat.ne_of_lt young
    simp [bounded]
  · have absent : list[place]? = none := List.getElem?_eq_none (Nat.le_of_not_lt young)
    cases last <;> simp [absent, List.getElem?_singleton]; omega

theorem spread_concat (families : List Bool) (tokens : List CancelToken) (last : CancelToken) :
    spread families (tokens ++ [last]) =
      spread families tokens ++
        [{ last with fired := last.fired || reaches families (spread families tokens) last.source }] := by
  simp only [spread, List.foldl_append, List.foldl_cons, List.foldl_nil]

theorem map_source_spread (families : List Bool) (tokens : List CancelToken) :
    (spread families tokens).map CancelToken.source = tokens.map CancelToken.source := by
  induction tokens using List.reverseRecOn with
  | nil => rfl
  | append_singleton tokens last ih => rw [spread_concat, List.map_append, ih, List.map_append]; rfl

theorem step_coordinators (state : Cancellation) (next : Step) :
    (state.step next).coordinators = state.coordinators ++ (state.enrolled next).toList := by
  cases next with
  | newCoordinator => rfl
  | cloneCoordinator coordinator =>
      cases found : state.coordinators[coordinator]? <;> simp [step, enrolled, found]
  | newToken coordinator =>
      cases found : state.coordinators[coordinator]? <;> simp [step, enrolled, found, addToken]
  | childToken token =>
      cases found : state.tokens[token]? <;> simp [step, enrolled, found, addToken]
  | cancelToken token =>
      cases found : state.tokens[token]? <;> simp [step, enrolled, found, cancel]
  | close coordinator =>
      cases found : state.coordinators[coordinator]? <;> simp [step, enrolled, found, closeFamily]

theorem step_sources (state : Cancellation) (next : Step) :
    (state.step next).sources = state.sources ++ (state.born next).toList := by
  cases next with
  | newCoordinator => simp [step, born, sources]
  | cloneCoordinator coordinator =>
      cases found : state.coordinators[coordinator]? <;> simp [step, born, found, sources]
  | newToken coordinator =>
      cases found : state.coordinators[coordinator]? <;>
        simp [step, born, found, sources, addToken]
  | childToken token =>
      cases found : state.tokens[token]? <;> simp [step, born, found, sources, addToken]
  | cancelToken token =>
      cases found : state.tokens[token]? with
      | none => simp [step, born, found]
      | some fired =>
          -- Cancelling a token leaves its source as it is.
          have kept : (state.tokens.map CancelToken.source).set token fired.source =
              state.tokens.map CancelToken.source :=
            set_eq_self (by rw [List.getElem?_map, found, Option.map_some])
          simp [step, born, found, sources, cancel, map_source_spread, List.map_set, kept]
  | close coordinator =>
      cases found : state.coordinators[coordinator]? <;>
        simp [step, born, found, sources, closeFamily, map_source_spread]

theorem length_families_le (state : Cancellation) (next : Step) :
    state.families.length ≤ (state.step next).families.length := by
  cases next with
  | newCoordinator => simp [step]
  | cloneCoordinator | newToken | childToken | cancelToken | close =>
      simp only [step]
      split <;> simp [addToken, cancel, closeFamily]

theorem coordinators_concat {steps : List Step} {next : Step} {coordinator family : Nat} :
    (initial.run (steps ++ [next])).coordinators[coordinator]? = some family ↔
      (initial.run steps).coordinators[coordinator]? = some family ∨
        coordinator = (initial.run steps).coordinators.length ∧
          (initial.run steps).enrolled next = some family := by
  rw [run_concat, step_coordinators, getElem?_append_toList]

theorem sources_concat {steps : List Step} {next : Step} {token : Nat} {source : TokenSource} :
    (initial.run (steps ++ [next])).sources[token]? = some source ↔
      (initial.run steps).sources[token]? = some source ∨
        token = (initial.run steps).tokens.length ∧
          (initial.run steps).born next = some source := by
  rw [run_concat, step_sources, getElem?_append_toList, length_sources]

/-! ## Families -/

/-- Coordinators are numbered by families that are there. -/
theorem family_lt {steps : List Step} {coordinator family : Nat}
    (found : (initial.run steps).coordinators[coordinator]? = some family) :
    family < (initial.run steps).families.length := by
  induction steps using List.reverseRecOn generalizing coordinator with
  | nil =>
      have founder : family ∈ [0] := List.mem_of_getElem? found
      rw [List.mem_singleton.1 founder]
      exact Nat.zero_lt_one
  | append_singleton steps next ih =>
      have kept := length_families_le (initial.run steps) next
      rw [run_concat]
      rcases coordinators_concat.1 found with old | ⟨-, made⟩
      · exact Nat.lt_of_lt_of_le (ih old) kept
      · cases next with
        | newCoordinator =>
            rw [← Option.some.inj made]
            simp [step]
        | cloneCoordinator original => exact Nat.lt_of_lt_of_le (ih made) kept
        | newToken | childToken | cancelToken | close => cases made

/-- A clone shares the family of its original. -/
theorem CloneOf.family {steps : List Step} {clone original : Nat}
    (cloned : CloneOf steps clone original) :
    ∃ family, (initial.run steps).coordinators[clone]? = some family ∧
      (initial.run steps).coordinators[original]? = some family := by
  induction steps using List.reverseRecOn with
  | nil => exact (not_did_nil cloned).elim
  | append_singleton steps next ih =>
      rcases did_concat.1 cloned with before | ⟨rfl, bounded, rfl⟩
      · rcases ih before with ⟨family, ofClone, ofOriginal⟩
        exact ⟨family, coordinators_concat.2 (.inl ofClone),
          coordinators_concat.2 (.inl ofOriginal)⟩
      · have found := List.getElem?_eq_getElem bounded
        exact ⟨_, coordinators_concat.2 (.inr ⟨rfl, found⟩), coordinators_concat.2 (.inl found)⟩

/-- Coordinators that share a family number are joined by clones. -/
theorem sameFamily_of_family {steps : List Step} {first second family : Nat}
    (ofFirst : (initial.run steps).coordinators[first]? = some family)
    (ofSecond : (initial.run steps).coordinators[second]? = some family) :
    SameFamily steps first second := by
  induction steps using List.reverseRecOn generalizing first second with
  | nil =>
      have alone : first = second := by
        have firstBound := (List.getElem?_eq_some_iff.1 ofFirst).1
        have secondBound := (List.getElem?_eq_some_iff.1 ofSecond).1
        have one : (initial.run []).coordinators.length = 1 := rfl
        omega
      exact alone ▸ .refl first
  | append_singleton steps next ih =>
      -- The newest coordinator is joined to an older one of its family through its original.
      have joined : ∀ older, (initial.run steps).coordinators[older]? = some family →
          (initial.run steps).enrolled next = some family →
            SameFamily (steps ++ [next]) (initial.run steps).coordinators.length older := by
        intro older ofOlder made
        cases next with
        | newCoordinator =>
            have bounded := family_lt ofOlder
            rw [← Option.some.inj made] at bounded
            exact (Nat.lt_irrefl _ bounded).elim
        | cloneCoordinator original =>
            have bounded := (List.getElem?_eq_some_iff.1 made).1
            have cloned : CloneOf _ _ original := did_concat.2 (.inr ⟨rfl, bounded, rfl⟩)
            exact .trans _ original _ (.rel _ _ cloned) ((ih made ofOlder).append _)
        | newToken | childToken | cancelToken | close => cases made
      rcases coordinators_concat.1 ofFirst with oldFirst | ⟨rfl, made⟩ <;>
        rcases coordinators_concat.1 ofSecond with oldSecond | ⟨rfl, made'⟩
      · exact (ih oldFirst oldSecond).append _
      · exact .symm _ _ (joined first oldFirst made')
      · exact joined second oldSecond made
      · exact .refl _

/-- Coordinators are of one family exactly where the state says so. -/
theorem sameFamily_iff {steps : List Step} {first second : Nat} :
    SameFamily steps first second ↔ first = second ∨
      ∃ family, (initial.run steps).coordinators[first]? = some family ∧
        (initial.run steps).coordinators[second]? = some family := by
  constructor
  · intro same
    induction same with
    | rel clone original cloned => exact .inr (CloneOf.family cloned)
    | refl => exact .inl rfl
    | symm first second _ ih =>
        rcases ih with rfl | ⟨family, ofFirst, ofSecond⟩
        · exact .inl rfl
        · exact .inr ⟨family, ofSecond, ofFirst⟩
    | trans first second third _ _ ih ih' =>
        rcases ih with rfl | ⟨family, ofFirst, ofSecond⟩
        · exact ih'
        · rcases ih' with rfl | ⟨family', ofSecond', ofThird⟩
          · exact .inr ⟨family, ofFirst, ofSecond⟩
          · have agree : family' = family := Option.some.inj (ofSecond'.symm.trans ofSecond)
            exact .inr ⟨family, ofFirst, agree ▸ ofThird⟩
  · rintro (rfl | ⟨family, ofFirst, ofSecond⟩)
    · exact .refl first
    · exact sameFamily_of_family ofFirst ofSecond

/-! ## Sources -/

theorem tokenOf_family {steps : List Step} {token coordinator : Nat}
    (handed : TokenOf steps token coordinator) :
    ∃ family, (initial.run steps).coordinators[coordinator]? = some family ∧
      (initial.run steps).sources[token]? = some (.family family) := by
  induction steps using List.reverseRecOn with
  | nil => exact (not_did_nil handed).elim
  | append_singleton steps next ih =>
      rcases did_concat.1 handed with before | ⟨rfl, bounded, rfl⟩
      · rcases ih before with ⟨family, found, source⟩
        exact ⟨family, coordinators_concat.2 (.inl found), sources_concat.2 (.inl source)⟩
      · have found := List.getElem?_eq_getElem bounded
        exact ⟨_, coordinators_concat.2 (.inl found),
          sources_concat.2 (.inr ⟨rfl, by simp only [born, found, Option.map_some]⟩)⟩

/-- A token whose source is a family was handed out by a coordinator of it. -/
theorem source_family_iff {steps : List Step} {token family : Nat} :
    (initial.run steps).sources[token]? = some (.family family) ↔
      ∃ coordinator, TokenOf steps token coordinator ∧
        (initial.run steps).coordinators[coordinator]? = some family := by
  constructor
  · intro source
    induction steps using List.reverseRecOn with
    | nil => cases source
    | append_singleton steps next ih =>
        rcases sources_concat.1 source with old | ⟨rfl, made⟩
        · rcases ih old with ⟨coordinator, handed, found⟩
          exact ⟨coordinator, handed.append _, coordinators_concat.2 (.inl found)⟩
        · cases next with
          | newToken coordinator =>
              rcases Option.map_eq_some_iff.1 made with ⟨_, found, same⟩
              cases same
              have bounded := (List.getElem?_eq_some_iff.1 found).1
              exact ⟨coordinator, did_concat.2 (.inr ⟨rfl, bounded, rfl⟩),
                coordinators_concat.2 (.inl found)⟩
          | childToken parent =>
              rcases Option.map_eq_some_iff.1 made with ⟨_, -, different⟩
              cases different
          | newCoordinator | cloneCoordinator | cancelToken | close => cases made
  · rintro ⟨coordinator, handed, found⟩
    rcases tokenOf_family handed with ⟨family', found', source⟩
    rw [found] at found'
    exact Option.some.inj found' ▸ source

/-- A token has another one as its source exactly where it was made as its child. -/
theorem source_token_iff {steps : List Step} {child parent : Nat} :
    (initial.run steps).sources[child]? = some (.token parent) ↔ ChildOf steps child parent := by
  induction steps using List.reverseRecOn with
  | nil =>
      constructor
      · intro source
        cases source
      · intro made
        exact (not_did_nil made).elim
  | append_singleton steps next ih =>
      have unfolded : ChildOf (steps ++ [next]) child parent ↔ _ := did_concat
      rw [sources_concat, ih, unfolded]
      refine or_congr_right ⟨?_, ?_⟩
      · rintro ⟨rfl, made⟩
        cases next with
        | childToken token =>
            rcases Option.map_eq_some_iff.1 made with ⟨_, found, same⟩
            cases same
            exact ⟨rfl, (List.getElem?_eq_some_iff.1 found).1, rfl⟩
        | newToken coordinator =>
            rcases Option.map_eq_some_iff.1 made with ⟨_, -, different⟩
            cases different
        | newCoordinator | cloneCoordinator | cancelToken | close => cases made
      · rintro ⟨rfl, bounded, rfl⟩
        exact ⟨rfl, by simp only [born, List.getElem?_eq_getElem bounded, Option.map_some]⟩

/-! ## Descent -/

theorem ChildOf.lt {steps : List Step} {child parent : Nat} (made : ChildOf steps child parent) :
    parent < child := by
  rcases made with ⟨_, _, -, bounded, rfl⟩
  exact bounded

theorem Descends.le {steps : List Step} {token ancestor : Nat}
    (descends : Descends steps token ancestor) : ancestor ≤ token := by
  induction descends with
  | refl => exact Nat.le_refl token
  | tail _ made ih => exact Nat.le_trans (Nat.le_of_lt made.lt) ih

theorem ChildOf.parent_unique {steps : List Step} {child parent other : Nat}
    (made : ChildOf steps child parent) (made' : ChildOf steps child other) : parent = other := by
  have same := (source_token_iff.2 made).symm.trans (source_token_iff.2 made')
  cases same
  rfl

/-- What a coordinator has handed out is no child. -/
theorem TokenOf.not_childOf {steps : List Step} {token coordinator parent : Nat}
    (handed : TokenOf steps token coordinator) : ¬ ChildOf steps token parent := by
  intro made
  rcases tokenOf_family handed with ⟨family, -, source⟩
  cases source.symm.trans (source_token_iff.2 made)

end MeshControl.Cancellation
