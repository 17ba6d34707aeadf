import RenderCore.Error
namespace RenderCore

inductive Fault where
  | fatal (e : Error)
  | assertion (text : String)
deriving Inhabited

def Fault.message : Fault → String
  | .fatal e => e.message
  | .assertion text => text

-- An action on a state `σ`: it finishes with a value or stops with a fault, and keeps the state it
-- reached either way.
abbrev Act (σ : Type) := EStateM Fault σ

namespace Act

variable {σ τ α : Type}

def fail (e : Error) : Act σ α := throw (.fatal e)

def orFail : Except Error α → Act σ α
  | .ok a => pure a
  | .error e => fail e

def focus (get : σ → τ) (set : σ → τ → σ) (x : Act τ α) : Act σ α := fun s =>
  match x (get s) with
  | .ok a t => .ok a (set s t)
  | .error e t => .error e (set s t)

-- Runs `cleanup` when `x` stops with a fault, then stops with that same fault: the work that
-- unwinding an interrupted action does.
def onFault (x : Act σ α) (cleanup : Act σ Unit) : Act σ α := fun s =>
  match x s with
  | .ok a s' => .ok a s'
  | .error e s' =>
    match cleanup s' with
    | .ok _ s'' => .error e s''
    | .error _ s'' => .error e s''

def attempt (x : Act σ α) : Act σ (Except Fault α) := fun s =>
  match x s with
  | .ok a s' => .ok (.ok a) s'
  | .error e s' => .ok (.error e) s'

end Act

end RenderCore
