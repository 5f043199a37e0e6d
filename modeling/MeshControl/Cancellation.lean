/-!
Cancellation: coordinators that announce a shutdown, and tokens that hear of it.

Clones of a coordinator form a family, which is closed as a whole. A token comes from a family or
from another token. It fires when it is cancelled or when what it comes from does, and a token
that is made too late is born fired. Nothing travels the other way: a cancelled token leaves its
source and its siblings as they are.
-/

namespace MeshControl

/-- What a token comes from. -/
inductive TokenSource where
  | family (number : Nat)
  | token (number : Nat)
deriving DecidableEq

/-- A token, and whether it has fired. -/
structure CancelToken where
  source : TokenSource
  fired : Bool
deriving DecidableEq

/-- All coordinators and tokens, each numbered in the order in which it was made. -/
structure Cancellation where
  /-- Whether each family is closed. -/
  families : List Bool
  /-- The family of each coordinator. -/
  coordinators : List Nat
  tokens : List CancelToken
deriving DecidableEq

namespace Cancellation

/-- One coordinator that is not closed, and no token. -/
def initial : Cancellation := ⟨[false], [0], []⟩

/-! ## What can be seen -/

def isFamilyClosed (state : Cancellation) (family : Nat) : Bool :=
  state.families.getD family false

def isClosed (state : Cancellation) (coordinator : Nat) : Bool :=
  (state.coordinators[coordinator]?).any state.isFamilyClosed

/-- Whether a token among the given ones has fired. -/
def hasFiredIn (tokens : List CancelToken) (token : Nat) : Bool :=
  (tokens[token]?).any CancelToken.fired

def isFired (state : Cancellation) (token : Nat) : Bool :=
  hasFiredIn state.tokens token

/-! ## Spreading -/

/-- Whether a token from this source has to fire, given the tokens made before it. -/
def reaches (families : List Bool) (earlier : List CancelToken) : TokenSource → Bool
  | .family number => families.getD number false
  | .token number => hasFiredIn earlier number

/-- Let every token fire that has to. A token is younger than its source, so one pass in the order
of their making is enough. -/
def spread (families : List Bool) (tokens : List CancelToken) : List CancelToken :=
  tokens.foldl (fun earlier token =>
    earlier ++ [{ token with fired := token.fired || reaches families earlier token.source }]) []

/-! ## Steps -/

/-- What can be done with coordinators and tokens. -/
inductive Step where
  | newCoordinator
  | cloneCoordinator (coordinator : Nat)
  | newToken (coordinator : Nat)
  | childToken (token : Nat)
  | cancelToken (token : Nat)
  | close (coordinator : Nat)
deriving DecidableEq

/-- A further token, which has fired already if its source has. -/
def addToken (state : Cancellation) (source : TokenSource) : Cancellation :=
  { state with
    tokens := state.tokens ++ [⟨source, reaches state.families state.tokens source⟩] }

/-- Close a family, and let its tokens fire. -/
def closeFamily (state : Cancellation) (family : Nat) : Cancellation :=
  let families := state.families.set family true
  { state with families := families, tokens := spread families state.tokens }

/-- Cancel a token, and let the tokens that come from it fire. -/
def cancel (state : Cancellation) (number : Nat) (token : CancelToken) : Cancellation :=
  { state with
    tokens := spread state.families (state.tokens.set number { token with fired := true }) }

/-- The state after a step. A step on something that was never made has no effect. -/
def step (state : Cancellation) : Step → Cancellation
  | .newCoordinator =>
    { state with
      families := state.families ++ [false]
      coordinators := state.coordinators ++ [state.families.length] }
  | .cloneCoordinator coordinator =>
    match state.coordinators[coordinator]? with
    | some family => { state with coordinators := state.coordinators ++ [family] }
    | none => state
  | .newToken coordinator =>
    match state.coordinators[coordinator]? with
    | some family => state.addToken (.family family)
    | none => state
  | .childToken token =>
    match state.tokens[token]? with
    | some _ => state.addToken (.token token)
    | none => state
  | .cancelToken token =>
    match state.tokens[token]? with
    | some found => state.cancel token found
    | none => state
  | .close coordinator =>
    match state.coordinators[coordinator]? with
    | some family => state.closeFamily family
    | none => state

def run (state : Cancellation) (steps : List Step) : Cancellation :=
  steps.foldl step state

end Cancellation

end MeshControl
