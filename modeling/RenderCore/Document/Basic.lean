namespace RenderCore

inductive Document where
  | null
  | bool (b : Bool)
  | nat (n : Nat)
  | neg (n : Int)
  | float (f : Float)
  | str (s : String)
  | arr (items : List Document)
  | obj (fields : List (String × Document))
deriving Inhabited

namespace Document

def field? (d : Document) (name : String) : Option Document :=
  match d with
  | .obj fields => fields.lookup name
  | _ => none

end Document

end RenderCore
