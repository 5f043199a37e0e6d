import MeshControl.Proofs.Cancellation.Descent

/-!
Which coordinators are closed, and which tokens have fired.

The flags are set step by step, and one pass over the tokens carries a cancellation down. What they
amount to can be read off the history. A family is closed once one of its coordinators has been. A
token has fired once it has been cancelled itself or its source has told it to, in whatever order
these things and its own making have come. The invariant is this local law, which speaks of a token
and its source alone. Following the sources up to a coordinator turns it into the law about all
ancestors.

Main statement: `run_cancellation`.
-/

namespace MeshControl.Cancellation

/-! ## One pass over the tokens -/

/-- A source that was there before the token with this number. -/
def OlderThan (token : Nat) : TokenSource → Prop
  | .family _ => True
  | .token number => number < token

def Ordered (tokens : List CancelToken) : Prop :=
  ∀ token source, (tokens.map CancelToken.source)[token]? = some source → OlderThan token source

/-- The source of a token tells it to fire. -/
def Told (families : List Bool) (tokens : List CancelToken) (token : Nat) : Prop :=
  ∃ source, (tokens.map CancelToken.source)[token]? = some source ∧
    reaches families tokens source = true

section Pass

variable {families families' : List Bool} {tokens tokens' : List CancelToken}
  {last : CancelToken} {token : Nat} {source : TokenSource}

theorem source_concat :
    ((tokens ++ [last]).map CancelToken.source)[token]? = some source ↔
      (tokens.map CancelToken.source)[token]? = some source ∨
        token = tokens.length ∧ last.source = source := by
  have grown : (tokens.map CancelToken.source ++ (some last.source).toList)[token]? = some source ↔
      _ := getElem?_append_toList
  rw [List.length_map, Option.some.injEq] at grown
  rw [List.map_append]
  exact grown

theorem lt_of_source (found : (tokens.map CancelToken.source)[token]? = some source) :
    token < tokens.length := by
  have bounded := (List.getElem?_eq_some_iff.1 found).1
  rwa [List.length_map] at bounded

theorem lt_of_hasFiredIn (fired : hasFiredIn tokens token = true) : token < tokens.length := by
  rcases (Option.any_eq_true _ _).1 fired with ⟨found, at_, -⟩
  exact (List.getElem?_eq_some_iff.1 at_).1

theorem hasFiredIn_concat :
    hasFiredIn (tokens ++ [last]) token = true ↔
      hasFiredIn tokens token = true ∨ token = tokens.length ∧ last.fired = true := by
  have grown (value : CancelToken) :
      (tokens ++ (some last).toList)[token]? = some value ↔ _ := getElem?_append_toList
  simp only [Option.toList_some, Option.some.injEq] at grown
  simp only [hasFiredIn, Option.any_eq_true, grown, or_and_right, exists_or, and_assoc,
    exists_and_left, exists_eq_left']

/-- A token that is made later tells nothing to one whose source is older. -/
theorem reaches_concat (last : CancelToken) (older : OlderThan tokens.length source) :
    reaches families (tokens ++ [last]) source = reaches families tokens source := by
  cases source with
  | family => rfl
  | token number =>
      apply Bool.eq_iff_iff.2
      have young : number ≠ tokens.length := Nat.ne_of_lt older
      simp only [reaches, hasFiredIn_concat, young, false_and, or_false]

theorem reaches_mono
    (closed : ∀ family, families.getD family false = true → families'.getD family false = true)
    (fired : ∀ token, hasFiredIn tokens token = true → hasFiredIn tokens' token = true)
    (reached : reaches families tokens source = true) : reaches families' tokens' source = true := by
  cases source with
  | family number => exact closed number reached
  | token number => exact fired number reached

theorem OlderThan.mono {later : Nat} (older : OlderThan token source) (le : token ≤ later) :
    OlderThan later source := by
  cases source with
  | family => trivial
  | token number => exact Nat.lt_of_lt_of_le older le

theorem Ordered.of_concat (ordered : Ordered (tokens ++ [last])) :
    Ordered tokens ∧ OlderThan tokens.length last.source :=
  ⟨fun token source found => ordered token source (source_concat.2 (.inl found)),
    ordered tokens.length last.source (source_concat.2 (.inr ⟨rfl, rfl⟩))⟩

/-- What a further token adds to what the tokens are told. -/
theorem told_concat (ordered : Ordered (tokens ++ [last])) :
    Told families (tokens ++ [last]) token ↔
      Told families tokens token ∨
        token = tokens.length ∧ reaches families tokens last.source = true := by
  have older := ordered.of_concat
  constructor
  · rintro ⟨source, found, reached⟩
    rcases source_concat.1 found with before | ⟨rfl, rfl⟩
    · have lt := lt_of_source before
      rw [reaches_concat last ((older.1 token source before).mono (Nat.le_of_lt lt))] at reached
      exact .inl ⟨source, before, reached⟩
    · rw [reaches_concat last older.2] at reached
      exact .inr ⟨rfl, reached⟩
  · rintro (⟨source, found, reached⟩ | ⟨rfl, reached⟩)
    · have lt := lt_of_source found
      rw [← reaches_concat last ((older.1 token source found).mono (Nat.le_of_lt lt))] at reached
      exact ⟨source, source_concat.2 (.inl found), reached⟩
    · rw [← reaches_concat last older.2] at reached
      exact ⟨last.source, source_concat.2 (.inr ⟨rfl, rfl⟩), reached⟩

@[simp]
theorem length_spread : (spread families tokens).length = tokens.length := by
  have same := congrArg List.length (map_source_spread families tokens)
  simpa only [List.length_map] using same

theorem ordered_spread : Ordered (spread families tokens) ↔ Ordered tokens := by
  rw [Ordered, map_source_spread, Ordered]

/-- After the pass, a token has fired if it had before or is told to now. -/
theorem hasFiredIn_spread (ordered : Ordered tokens) :
    hasFiredIn (spread families tokens) token = true ↔
      hasFiredIn tokens token = true ∨ Told families (spread families tokens) token := by
  induction tokens using List.reverseRecOn with
  | nil =>
      have nothing : ¬ Told families [] token := by
        rintro ⟨source, found, -⟩
        cases found
      exact ⟨.inl, fun either => either.resolve_right nothing⟩
  | append_singleton tokens last ih =>
      have spreadOrdered := (ordered_spread : Ordered (spread families _) ↔ _).2 ordered
      rw [spread_concat] at spreadOrdered ⊢
      rw [told_concat spreadOrdered, hasFiredIn_concat, hasFiredIn_concat, ih ordered.of_concat.1,
        length_spread, Bool.or_eq_true]
      tauto

/-- Where all tokens do as they are told, the pass has nothing to do. -/
theorem spread_eq_self (ordered : Ordered tokens)
    (settled : ∀ token, Told families tokens token → hasFiredIn tokens token = true) :
    spread families tokens = tokens := by
  induction tokens using List.reverseRecOn with
  | nil => rfl
  | append_singleton tokens last ih =>
      have settledBefore : ∀ token, Told families tokens token → hasFiredIn tokens token = true := by
        intro token told
        have fired := settled token ((told_concat ordered).2 (.inl told))
        rcases told with ⟨source, found, -⟩
        have young := Nat.ne_of_lt (lt_of_source found)
        simpa only [hasFiredIn_concat, young, false_and, or_false] using fired
      have settledLast : reaches families tokens last.source = true → last.fired = true := by
        intro reached
        have fired := settled tokens.length ((told_concat ordered).2 (.inr ⟨rfl, reached⟩))
        rcases hasFiredIn_concat.1 fired with before | ⟨-, fired⟩
        · exact (Nat.lt_irrefl _ (lt_of_hasFiredIn before)).elim
        · exact fired
      rw [spread_concat, ih ordered.of_concat.1 settledBefore, Bool.or_eq_left_iff_imp.2 settledLast]

end Pass

/-! ## Closed families -/

theorem WasClosed.lt {steps : List Step} {coordinator : Nat} (closed : WasClosed steps coordinator) :
    coordinator < (initial.run steps).coordinators.length := by
  induction steps using List.reverseRecOn with
  | nil => exact (not_did_nil closed).elim
  | append_singleton steps next ih =>
      have grown : (initial.run steps).coordinators.length ≤
          (initial.run (steps ++ [next])).coordinators.length := by
        rw [run_concat, step_coordinators, List.length_append]
        exact Nat.le_add_right _ _
      rcases did_concat.1 closed with before | ⟨-, bounded⟩
      · exact Nat.lt_of_lt_of_le (ih before) grown
      · exact Nat.lt_of_lt_of_le bounded grown

theorem getD_set_true {families : List Bool} {closing : Nat} (family : Nat)
    (bounded : closing < families.length) :
    (families.set closing true).getD family false = true ↔
      families.getD family false = true ∨ closing = family := by
  by_cases same : closing = family
  · subst same
    simp [bounded]
  · simp [same, List.getD_eq_getElem?_getD, List.getElem?_set_ne same]

theorem getD_concat_false (families : List Bool) (family : Nat) :
    (families ++ [false]).getD family false = families.getD family false := by
  simp only [List.getD_eq_getElem?_getD, List.getElem?_append]
  split <;> rename_i young
  · rfl
  · rw [List.getElem?_eq_none (Nat.le_of_not_lt young)]
    rw [List.getElem?_singleton]
    split <;> rfl

/-- A family is closed by closing one of its coordinators, and is never opened again. -/
theorem isFamilyClosed_concat {steps : List Step} {next : Step} {family : Nat} :
    (initial.run (steps ++ [next])).isFamilyClosed family = true ↔
      (initial.run steps).isFamilyClosed family = true ∨
        ∃ coordinator, next = .close coordinator ∧
          (initial.run steps).coordinators[coordinator]? = some family := by
  rw [run_concat]
  cases next with
  | close coordinator =>
      cases found : (initial.run steps).coordinators[coordinator]? with
      | none => simp [step, found]
      | some closing =>
          have changed := getD_set_true family (family_lt found)
          simpa [step, found, closeFamily, isFamilyClosed] using changed
  | newCoordinator =>
      have kept := getD_concat_false (initial.run steps).families family
      simpa [step, isFamilyClosed] using kept
  | cloneCoordinator | newToken | childToken | cancelToken =>
      simp only [step]
      split <;> simp [isFamilyClosed, addToken, cancel]

theorem isFamilyClosed_iff {steps : List Step} {family : Nat} :
    (initial.run steps).isFamilyClosed family = true ↔
      ∃ coordinator, WasClosed steps coordinator ∧
        (initial.run steps).coordinators[coordinator]? = some family := by
  induction steps using List.reverseRecOn with
  | nil =>
      constructor
      · intro closed
        cases family <;> cases closed
      · rintro ⟨coordinator, closed, -⟩
        exact (not_did_nil closed).elim
  | append_singleton steps next ih =>
      rw [isFamilyClosed_concat, ih]
      constructor
      · rintro (⟨coordinator, closed, found⟩ | ⟨coordinator, rfl, found⟩)
        · exact ⟨coordinator, closed.append _, coordinators_concat.2 (.inl found)⟩
        · have bounded := (List.getElem?_eq_some_iff.1 found).1
          exact ⟨coordinator, did_concat.2 (.inr ⟨rfl, bounded⟩),
            coordinators_concat.2 (.inl found)⟩
      · rintro ⟨coordinator, closed, found⟩
        -- Only a coordinator that was there before can have been closed.
        have old : (initial.run steps).coordinators[coordinator]? = some family := by
          have bounded : coordinator < (initial.run steps).coordinators.length :=
            (did_concat.1 closed).elim WasClosed.lt And.right
          exact (coordinators_concat.1 found).resolve_right
            fun fresh => Nat.ne_of_lt bounded fresh.1
        rcases did_concat.1 closed with before | ⟨rfl, -⟩
        · exact .inl ⟨coordinator, before, old⟩
        · exact .inr ⟨coordinator, rfl, old⟩

theorem isClosed_iff {steps : List Step} {coordinator : Nat} :
    (initial.run steps).isClosed coordinator = true ↔
      ∃ other, SameFamily steps coordinator other ∧ WasClosed steps other := by
  simp only [isClosed, Option.any_eq_true, isFamilyClosed_iff]
  constructor
  · rintro ⟨family, found, other, closed, foundOther⟩
    exact ⟨other, sameFamily_iff.2 (.inr ⟨family, found, foundOther⟩), closed⟩
  · rintro ⟨other, same, closed⟩
    rcases sameFamily_iff.1 same with rfl | ⟨family, found, foundOther⟩
    · have found := List.getElem?_eq_getElem closed.lt
      exact ⟨_, found, coordinator, closed, found⟩
    · exact ⟨family, found, other, closed, foundOther⟩

/-! ## Fired tokens -/

theorem ordered_run (steps : List Step) : Ordered (initial.run steps).tokens := by
  intro token source found
  cases source with
  | family => trivial
  | token parent =>
      have made : ChildOf steps token parent := source_token_iff.1 found
      exact made.lt

theorem hasFiredIn_set {tokens : List CancelToken} {cancelled token : Nat} {found : CancelToken}
    (there : tokens[cancelled]? = some found) :
    hasFiredIn (tokens.set cancelled { found with fired := true }) token = true ↔
      hasFiredIn tokens token = true ∨ cancelled = token := by
  have bounded := (List.getElem?_eq_some_iff.1 there).1
  by_cases same : cancelled = token
  · subst same
    simp [hasFiredIn, bounded]
  · simp [hasFiredIn, List.getElem?_set_ne same, same]

/-- A token fires when it is cancelled or told to. -/
theorem isFired_step {state : Cancellation} {next : Step} {token : Nat}
    (ordered : Ordered (state.step next).tokens)
    (settled : ∀ token, Told state.families state.tokens token → state.isFired token = true) :
    (state.step next).isFired token = true ↔
      state.isFired token = true ∨ next = .cancelToken token ∧ token < state.tokens.length ∨
        Told (state.step next).families (state.step next).tokens token := by
  have still : state.isFired token = true ↔
      state.isFired token = true ∨ Told state.families state.tokens token :=
    ⟨.inl, fun either => either.elim id (settled token)⟩
  have added (source : TokenSource) (ordered : Ordered (state.addToken source).tokens) :
      (state.addToken source).isFired token = true ↔ state.isFired token = true ∨
        Told (state.addToken source).families (state.addToken source).tokens token := by
    simp only [addToken] at ordered ⊢
    have settled := settled token
    rw [told_concat ordered, isFired, hasFiredIn_concat, ← isFired]
    dsimp only
    tauto
  cases next with
  | newCoordinator =>
      have same : Told (state.families ++ [false]) state.tokens token ↔
          Told state.families state.tokens token := by
        refine exists_congr fun source => and_congr_right fun _ => ?_
        cases source with
        | family number => rw [reaches, getD_concat_false, ← reaches.eq_1 _ state.tokens]
        | token => rfl
      simp only [step, same, reduceCtorEq, false_and, false_or]
      exact still
  | cloneCoordinator original =>
      simp only [step, reduceCtorEq, false_and, false_or]
      split <;> exact still
  | newToken coordinator =>
      cases found : state.coordinators[coordinator]? <;>
        simp only [step, found, reduceCtorEq, false_and, false_or] at ordered ⊢
      · exact still
      · exact added _ ordered
  | childToken parent =>
      cases found : state.tokens[parent]? <;>
        simp only [step, found, reduceCtorEq, false_and, false_or] at ordered ⊢
      · exact still
      · exact added _ ordered
  | cancelToken cancelled =>
      rw [Step.cancelToken.injEq]
      cases found : state.tokens[cancelled]? with
      | none =>
          have nothing : ¬ (cancelled = token ∧ token < state.tokens.length) := by
            rintro ⟨rfl, bounded⟩
            exact Nat.not_le_of_lt bounded (List.getElem?_eq_none_iff.1 found)
          simp only [step, found, nothing, false_or]
          exact still
      | some there =>
          have bounded := (List.getElem?_eq_some_iff.1 found).1
          have hit : cancelled = token ∧ token < state.tokens.length ↔ cancelled = token :=
            and_iff_left_of_imp fun same => same ▸ bounded
          simp only [step, found, cancel] at ordered ⊢
          rw [isFired, hasFiredIn_spread (ordered_spread.1 ordered), hasFiredIn_set found, hit,
            ← isFired, or_assoc]
  | close coordinator =>
      cases found : state.coordinators[coordinator]? <;>
        simp only [step, found, reduceCtorEq, false_and, false_or] at ordered ⊢
      · exact still
      · exact hasFiredIn_spread (ordered_spread.1 ordered)

theorem told_concat_run {steps : List Step} {token : Nat} (next : Step)
    (settled : ∀ token, Told (initial.run steps).families (initial.run steps).tokens token →
      (initial.run steps).isFired token = true)
    (told : Told (initial.run steps).families (initial.run steps).tokens token) :
    Told (initial.run (steps ++ [next])).families (initial.run (steps ++ [next])).tokens token := by
  rcases told with ⟨source, found, reached⟩
  have kept : (initial.run (steps ++ [next])).sources[token]? = some source :=
    sources_concat.2 (.inl found)
  refine ⟨source, kept, reaches_mono ?_ ?_ reached⟩
  · intro family closed
    exact isFamilyClosed_concat.2 (.inl closed)
  · intro other fired
    have ordered := ordered_run (steps ++ [next])
    rw [run_concat] at ordered ⊢
    exact (isFired_step ordered settled).2 (.inl fired)

/-- The local law: a token has fired if it was cancelled or its source tells it to. -/
theorem isFired_iff_told {steps : List Step} {token : Nat} :
    (initial.run steps).isFired token = true ↔ WasCancelled steps token ∨
      Told (initial.run steps).families (initial.run steps).tokens token := by
  induction steps using List.reverseRecOn generalizing token with
  | nil =>
      constructor
      · intro fired
        cases fired
      · rintro (cancelled | ⟨source, found, -⟩)
        · exact (not_did_nil cancelled).elim
        · cases found
  | append_singleton steps next ih =>
      have settled : ∀ token, Told (initial.run steps).families (initial.run steps).tokens token →
          (initial.run steps).isFired token = true := fun token told => ih.2 (.inr told)
      have ordered := ordered_run (steps ++ [next])
      have kept : Told _ _ token → _ := told_concat_run next settled
      have cancelled : WasCancelled (steps ++ [next]) token ↔ _ := did_concat
      rw [run_concat] at ordered kept ⊢
      rw [isFired_step ordered settled, ih, cancelled]
      tauto

theorem told_iff {steps : List Step} {token : Nat} :
    Told (initial.run steps).families (initial.run steps).tokens token ↔
      (∃ coordinator, TokenOf steps token coordinator ∧
        (initial.run steps).isClosed coordinator = true) ∨
      ∃ parent, ChildOf steps token parent ∧ (initial.run steps).isFired parent = true := by
  constructor
  · rintro ⟨source, found, reached⟩
    cases source with
    | family family =>
        rcases source_family_iff.1 found with ⟨coordinator, handed, ofFamily⟩
        left
        refine ⟨coordinator, handed, ?_⟩
        rw [isClosed, ofFamily]
        exact reached
    | token parent => exact .inr ⟨parent, source_token_iff.1 found, reached⟩
  · rintro (⟨coordinator, handed, closed⟩ | ⟨parent, made, fired⟩)
    · rcases tokenOf_family handed with ⟨family, ofFamily, found⟩
      rw [isClosed, ofFamily] at closed
      exact ⟨.family family, found, closed⟩
    · exact ⟨.token parent, source_token_iff.2 made, fired⟩

/-- A token was struck itself: it was cancelled, or is of a coordinator whose family was closed. -/
def Struck (steps : List Step) (token : Nat) : Prop :=
  WasCancelled steps token ∨
    ∃ coordinator other, TokenOf steps token coordinator ∧
      SameFamily steps coordinator other ∧ WasClosed steps other

theorem isFired_iff_struck {steps : List Step} {token : Nat} :
    (initial.run steps).isFired token = true ↔ Struck steps token ∨
      ∃ parent, ChildOf steps token parent ∧ (initial.run steps).isFired parent = true := by
  rw [isFired_iff_told, told_iff]
  simp only [isClosed_iff, Struck, exists_and_left, or_assoc]

/-- The law about all ancestors: a token has fired if one of them was struck. -/
theorem isFired_iff {steps : List Step} {token : Nat} :
    (initial.run steps).isFired token = true ↔
      ∃ ancestor, Descends steps token ancestor ∧ Struck steps ancestor := by
  constructor
  · intro fired
    induction token using Nat.strongRecOn with
    | ind token ih =>
        rcases isFired_iff_struck.1 fired with struck | ⟨parent, made, fired⟩
        · exact ⟨token, .refl, struck⟩
        · rcases ih parent made.lt fired with ⟨ancestor, descends, struck⟩
          exact ⟨ancestor, .head made descends, struck⟩
  · rintro ⟨ancestor, descends, struck⟩
    induction descends using Relation.ReflTransGen.head_induction_on with
    | refl => exact isFired_iff_struck.2 (.inl struck)
    | head made _ fired => exact isFired_iff_struck.2 (.inr ⟨_, made, fired⟩)

/-! ## What stays as it is -/

theorem isClosed_append {steps : List Step} {coordinator : Nat} (later : List Step)
    (closed : (initial.run steps).isClosed coordinator = true) :
    (initial.run (steps ++ later)).isClosed coordinator = true := by
  rcases isClosed_iff.1 closed with ⟨other, same, was⟩
  exact isClosed_iff.2 ⟨other, same.append later, Did.append was later⟩

theorem isFired_append {steps : List Step} {token : Nat} (later : List Step)
    (fired : (initial.run steps).isFired token = true) :
    (initial.run (steps ++ later)).isFired token = true := by
  rcases isFired_iff.1 fired with ⟨ancestor, descends, struck⟩
  refine isFired_iff.2 ⟨ancestor, descends.append later, ?_⟩
  rcases struck with cancelled | ⟨coordinator, other, handed, same, closed⟩
  · exact .inl (Did.append cancelled later)
  · exact .inr ⟨coordinator, other, Did.append handed later, same.append later,
      Did.append closed later⟩

theorem spread_run (steps : List Step) :
    spread (initial.run steps).families (initial.run steps).tokens = (initial.run steps).tokens :=
  spread_eq_self (ordered_run steps) fun _ told => isFired_iff_told.2 (.inr told)

/-- Closing what is closed changes nothing. -/
theorem close_of_isClosed {steps : List Step} {coordinator : Nat}
    (closed : (initial.run steps).isClosed coordinator = true) :
    (initial.run steps).step (.close coordinator) = initial.run steps := by
  rcases (Option.any_eq_true _ _).1 closed with ⟨family, found, closed⟩
  have same : (initial.run steps).families.set family true = (initial.run steps).families := by
    apply set_eq_self
    have there := List.getElem?_eq_getElem (family_lt found)
    rw [isFamilyClosed, List.getD_eq_getElem?_getD, there, Option.getD_some] at closed
    rw [there, closed]
  simp only [step, found, closeFamily, same, spread_run]

/-- Cancelling what has fired changes nothing. -/
theorem cancel_of_isFired {steps : List Step} {token : Nat}
    (fired : (initial.run steps).isFired token = true) :
    (initial.run steps).step (.cancelToken token) = initial.run steps := by
  rcases (Option.any_eq_true _ _).1 fired with ⟨found, there, fired⟩
  have same : (initial.run steps).tokens.set token { found with fired := true } =
      (initial.run steps).tokens := by
    apply set_eq_self
    rw [there, ← fired]
  simp only [step, there, cancel, same, spread_run]

theorem close_close (steps : List Step) (coordinator : Nat) :
    initial.run (steps ++ [.close coordinator, .close coordinator]) =
      initial.run (steps ++ [.close coordinator]) := by
  rw [List.append_cons, run_concat]
  by_cases bounded : coordinator < (initial.run steps).coordinators.length
  · have closed : WasClosed (steps ++ [.close coordinator]) coordinator :=
      did_concat.2 (.inr ⟨rfl, bounded⟩)
    exact close_of_isClosed (isClosed_iff.2 ⟨coordinator, .refl _, closed⟩)
  · have absent := List.getElem?_eq_none (Nat.le_of_not_lt bounded)
    simp only [run_concat, step, absent]

theorem cancel_cancel (steps : List Step) (token : Nat) :
    initial.run (steps ++ [.cancelToken token, .cancelToken token]) =
      initial.run (steps ++ [.cancelToken token]) := by
  rw [List.append_cons, run_concat]
  by_cases bounded : token < (initial.run steps).tokens.length
  · have cancelled : WasCancelled (steps ++ [.cancelToken token]) token :=
      did_concat.2 (.inr ⟨rfl, bounded⟩)
    exact cancel_of_isFired (isFired_iff.2 ⟨token, .refl, .inl cancelled⟩)
  · have absent := List.getElem?_eq_none (Nat.le_of_not_lt bounded)
    simp only [run_concat, step, absent]

section Cancel

variable {steps : List Step} {cancelled token : Nat}

theorem isClosed_cancel (coordinator : Nat) :
    (initial.run (steps ++ [.cancelToken cancelled])).isClosed coordinator =
      (initial.run steps).isClosed coordinator := by
  rw [run_concat]
  simp only [step]
  split <;> rfl

/-- Cancelling a token makes those fire that come from it, and no other. -/
theorem isFired_cancel :
    (initial.run (steps ++ [.cancelToken cancelled])).isFired token = true ↔
      (initial.run steps).isFired token = true ∨
        Descends steps token cancelled ∧ cancelled < (initial.run steps).tokens.length := by
  have children : ChildOf (steps ++ [.cancelToken cancelled]) = ChildOf steps := by
    funext child parent
    simp [ChildOf, did_concat]
  have struck (ancestor : Nat) : Struck (steps ++ [.cancelToken cancelled]) ancestor ↔
      Struck steps ancestor ∨
        cancelled = ancestor ∧ ancestor < (initial.run steps).tokens.length := by
    have clones : CloneOf (steps ++ [.cancelToken cancelled]) = CloneOf steps := by
      funext clone original
      simp [CloneOf, did_concat]
    simp only [Struck, WasCancelled, TokenOf, SameFamily, clones, WasClosed, did_concat,
      Step.cancelToken.injEq, reduceCtorEq, false_and, or_false, or_right_comm]
  simp only [isFired_iff, Descends, children, struck, and_or_left, exists_or]
  refine or_congr_right ⟨?_, ?_⟩
  · rintro ⟨ancestor, descends, rfl, bounded⟩
    exact ⟨descends, bounded⟩
  · rintro ⟨descends, bounded⟩
    exact ⟨cancelled, descends, rfl, bounded⟩

theorem isFired_cancel_of_not_descends (unrelated : ¬ Descends steps token cancelled) :
    (initial.run (steps ++ [.cancelToken cancelled])).isFired token =
      (initial.run steps).isFired token := by
  apply Bool.eq_iff_iff.2
  rw [isFired_cancel]
  exact or_iff_left fun related => unrelated related.1

end Cancel

/-- Tokens that were made from one token, or handed out by one family. -/
def Siblings (steps : List Step) (first second : Nat) : Prop :=
  (∃ parent, ChildOf steps first parent ∧ ChildOf steps second parent) ∨
    ∃ coordinator other, TokenOf steps first coordinator ∧ TokenOf steps second other ∧
      SameFamily steps coordinator other

theorem ChildOf.not_descends {steps : List Step} {child parent : Nat}
    (made : ChildOf steps child parent) : ¬ Descends steps parent child :=
  fun descends => Nat.not_le_of_lt made.lt descends.le

theorem Siblings.not_descends {steps : List Step} {first second : Nat}
    (siblings : Siblings steps first second) (different : first ≠ second) :
    ¬ Descends steps first second := by
  intro descends
  rcases Relation.ReflTransGen.cases_head descends with same | ⟨between, made, descends⟩
  · exact different same
  · rcases siblings with ⟨parent, madeFirst, madeSecond⟩ | ⟨coordinator, other, handed, -, -⟩
    · rw [made.parent_unique madeFirst] at descends
      exact madeSecond.not_descends descends
    · exact handed.not_childOf made

/-- After every history, a coordinator is closed exactly if one of its family was closed, and a
token has fired exactly if one that it comes from was struck, which stays so. Closing and cancelling
twice is as good as once. Cancelling a token leaves alone all coordinators, and all tokens that do
not come from it: in particular its parent and its siblings. -/
theorem run_cancellation (steps : List Step) :
    (∀ coordinator, (initial.run steps).isClosed coordinator = true ↔
      ∃ other, SameFamily steps coordinator other ∧ WasClosed steps other) ∧
    (∀ token, (initial.run steps).isFired token = true ↔
      ∃ ancestor, Descends steps token ancestor ∧ Struck steps ancestor) ∧
    (∀ later coordinator, (initial.run steps).isClosed coordinator = true →
      (initial.run (steps ++ later)).isClosed coordinator = true) ∧
    (∀ later token, (initial.run steps).isFired token = true →
      (initial.run (steps ++ later)).isFired token = true) ∧
    (∀ coordinator, initial.run (steps ++ [.close coordinator, .close coordinator]) =
      initial.run (steps ++ [.close coordinator])) ∧
    (∀ token, initial.run (steps ++ [.cancelToken token, .cancelToken token]) =
      initial.run (steps ++ [.cancelToken token])) ∧
    (∀ cancelled coordinator,
      (initial.run (steps ++ [.cancelToken cancelled])).isClosed coordinator =
        (initial.run steps).isClosed coordinator) ∧
    (∀ cancelled token, ChildOf steps cancelled token ∨
        Siblings steps token cancelled ∧ token ≠ cancelled ∨ ¬ Descends steps token cancelled →
      (initial.run (steps ++ [.cancelToken cancelled])).isFired token =
        (initial.run steps).isFired token) := by
  refine ⟨fun _ => isClosed_iff, fun _ => isFired_iff, fun later _ => isClosed_append later,
    fun later _ => isFired_append later, close_close steps, cancel_cancel steps,
    fun _ => isClosed_cancel, ?_⟩
  intro cancelled token unrelated
  apply isFired_cancel_of_not_descends
  rcases unrelated with made | ⟨siblings, different⟩ | unrelated
  · exact made.not_descends
  · exact siblings.not_descends different
  · exact unrelated

-- A child of a token whose family is closed already has fired from its birth.
example : (initial.run [.newToken 0, .close 0, .childToken 0]).isFired 1 = true := by decide

end MeshControl.Cancellation
